import PhoneAccounts.Device.FileTree

/-!
Contract: replacing a file as a whole.

The new content goes to a temporary file beside the old one, which is then moved over it.  The
directories that are missing on the path are made first, and a temporary file that could not be
moved is removed again.

Owns: `TemporaryNames`, the steps inside one directory, and `Entry.replaceFile`.

Does not own: what the file holds (see `PhoneAccounts.StateFile.Store`).
-/

namespace PhoneAccounts

/-- How temporary files are named: `middle` stands between a given front and a given back, and
makes a name that is not used. -/
structure TemporaryNames where
  middle : (front back : String) → (used : List String) → String
  unused : ∀ front back used, front ++ middle front back used ++ back ∉ used

namespace TemporaryNames

/-- Length of the longest of some names. -/
def longest : List String → Nat
  | [] => 0
  | name :: rest => max name.length (longest rest)

theorem length_le_longest {name : String} {names : List String} (member : name ∈ names) :
    name.length ≤ longest names := by
  induction names with
  | nil => exact absurd member List.not_mem_nil
  | cons first rest inductionHypothesis =>
      rw [longest]
      rcases List.mem_cons.mp member with rfl | later
      · omega
      · have := inductionHypothesis later
        omega

/-- Names that are longer than all that are used. -/
def byLength : TemporaryNames where
  middle _ _ used := String.ofList (List.replicate (longest used + 1) '_')
  unused front back used member := by
    have bound := length_le_longest member
    rw [String.length_append, String.length_append, String.length_ofList,
      List.length_replicate] at bound
    omega

end TemporaryNames

namespace Entry

/-! ## Inside one directory -/

/-- Makes a file under a name that is not used. -/
def createNamed? (name : String) (content : List UInt8) (entries : List (String × Entry)) :
    Option (List (String × Entry)) :=
  match named? name entries with
  | some _ => none
  | none => some (putNamed name (.file content) entries)

/-- Moves what stands under a name to another one, over a file that stands there.  A directory
is in the way. -/
def moveNamed? (source target : String) (entries : List (String × Entry)) :
    Option (List (String × Entry)) :=
  match named? source entries, named? target entries with
  | none, _ => none
  | some _, some (.directory _) => none
  | some moved, _ => some (putNamed target moved (dropNamed source entries))

/-- Removes a name if it is there. -/
def removeNamed? (name : String) (entries : List (String × Entry)) :
    Option (List (String × Entry)) :=
  some (dropNamed name entries)

/-! ## At a path -/

/-- The names in the directory at a path. -/
def namesAt : List String → Entry → List String
  | _, .file _ => []
  | [], .directory entries => entries.map Prod.fst
  | name :: rest, .directory entries =>
      match named? name entries with
      | none => []
      | some entry => entry.namesAt rest

/-- Changes the entries of the directory at a path; nothing if there is no directory or the
change is not possible. -/
def inDirectory? (change : List (String × Entry) → Option (List (String × Entry))) :
    List String → Entry → Option Entry
  | _, .file _ => none
  | [], .directory entries => (change entries).map .directory
  | name :: rest, .directory entries =>
      match named? name entries with
      | none => none
      | some entry =>
          (entry.inDirectory? change rest).map fun entry =>
            .directory (putNamed name entry entries)

/-- Name of the temporary file for a file in a directory with some names. -/
def temporaryName (names : TemporaryNames) (name : String) (used : List String) : String :=
  let front := name ++ "."
  front ++ names.middle front ".tmp" used ++ ".tmp"

/-- Moves a temporary file over the one with the name, both in the directory at a path; or
removes it.  Says whether it was moved. -/
def moveTemporary (temporary name : String) (parent : List String) (files : Entry) :
    Entry × Bool :=
  match files.inDirectory? (moveNamed? temporary name) parent with
  | some files => (files, true)
  | none => ((files.inDirectory? (removeNamed? temporary) parent).getD files, false)

/-- The files after a file was replaced, or after that has failed, and which of the two. -/
def replaceFile
    (names : TemporaryNames)
    (content : List UInt8)
    (path : List String)
    (files : Entry) :
    Entry × Bool :=
  let parent := path.dropLast
  match path.getLast?, files.makeDirectory? parent with
  | some name, some made =>
      let temporary := temporaryName names name (made.namesAt parent)
      match made.inDirectory? (createNamed? temporary content) parent with
      | some written => moveTemporary temporary name parent written
      | none => (made, false)
  | _, _ => (files, false)

end Entry

end PhoneAccounts
