import PhoneAccounts.Device.Replacement
import PhoneAccounts.StateFile.Reading
import PhoneAccounts.StateFile.Writing

/-!
Contract: keeping a catalog in a file.

Saving replaces the whole file at once, making the directories on its path that are
missing; when it fails, nothing has changed.  A catalog that cannot be written out is not
saved at all.  Loading says whether there was a file and whether it held a catalog, unless it
is stopped.

Owns: `LoadResult`, `Stop`, `load`, `SaveFault`, `save` and `save?`.

Does not own: what happens to a registry whose file cannot be read (see
`PhoneAccounts.Registry.Startup`).
-/

namespace PhoneAccounts.StateFile

/-- What a file was found to hold. -/
inductive LoadResult where
  | loaded (catalog : Catalog)
  | absent
  | corrupt
deriving DecidableEq, Repr

namespace LoadResult

/-- The word for the finding. -/
def status : LoadResult → String
  | .loaded _ => "loaded"
  | .absent => "absent"
  | .corrupt => "corrupt"

def catalog? : LoadResult → Option Catalog
  | .loaded catalog => some catalog
  | .absent => none
  | .corrupt => none

end LoadResult

/-- What stops the work on a state file for good: a fault of the markup that is none of the
grammar, or an integer that cannot be written, in the file or in a message. -/
inductive Stop where
  | markup (fault : Yaml.Fault)
  | longInteger
deriving DecidableEq, Repr

/-- What a decoded file means.  Faults of the grammar and of fields make a file corrupt; every
other fault stops the load. -/
def classify : Except DecodeFault (Option Catalog) → Except Stop LoadResult
  | .ok (some catalog) => .ok (.loaded catalog)
  | .ok none => .ok .corrupt
  | .error (.field _) => .ok .corrupt
  | .error (.markup .unparseable) => .ok .corrupt
  | .error (.markup fault) => .error (.markup fault)
  | .error .longInteger => .error .longInteger

/-- What a file is found to hold, as a parser reads it. -/
def loadWith (parser : Yaml.Parser) (reader : Reader) (path : FilePath) (files : Entry) :
    Except Stop LoadResult :=
  match files.read path.parts with
  | .error .absent => .ok .absent
  | .error .isDirectory => .ok .corrupt
  | .error .fileOnTheWay => .ok .corrupt
  | .ok bytes => classify (reader.decodeWith parser bytes)

def load (reader : Reader) (path : FilePath) (files : Entry) : Except Stop LoadResult :=
  loadWith Yaml.treeOfBytes? reader path files

/-- Why a catalog is not saved: it cannot be written out, or something is in the way of the
file. -/
inductive SaveFault where
  | longInteger
  | obstructed
deriving DecidableEq, Repr

/-- The files after saving a catalog, or after that has failed, and which of the two.  The
catalog is written out before the files are touched. -/
def save
    (names : TemporaryNames)
    (directory : ScopeDirectory)
    (path : FilePath)
    (catalog : Catalog)
    (files : Entry) :
    Entry × Except SaveFault Unit :=
  match encode? directory catalog with
  | none => (files, .error .longInteger)
  | some content =>
      let (files, succeeded) := files.replaceFile names content path.parts
      (files, if succeeded then .ok () else .error .obstructed)

/-- The files after saving a catalog; none if it cannot be saved. -/
def save?
    (directory : ScopeDirectory)
    (path : FilePath)
    (catalog : Catalog)
    (files : Entry) :
    Option Entry :=
  match save .byLength directory path catalog files with
  | (files, .ok _) => some files
  | (_, .error _) => none

def saveFailureMessage (path : FilePath) : String :=
  "Writing state to " ++ path.text

end PhoneAccounts.StateFile
