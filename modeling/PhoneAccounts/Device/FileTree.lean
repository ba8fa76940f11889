import PhoneAccounts.Device.FilePath
import PhoneAccounts.Keyed

/-!
Contract: a directory with files and directories below it.

A path that ends at no file cannot be written when a file stands on the way or a
directory stands at its end; then nothing changes.  Otherwise the missing directories
on the way are made.

Owns: `Entry`, reading, writing, making and deleting entries, and the listing.

Does not own: what the files hold.
-/

namespace PhoneAccounts

/-- A file with its bytes, or a directory with named entries. -/
inductive Entry where
  | file (content : List UInt8)
  | directory (entries : List (String × Entry))
deriving Inhabited

/-- Why a path could not be read as a file. -/
inductive ReadFault where
  | absent
  | isDirectory
  | fileOnTheWay
deriving DecidableEq, Repr

namespace Entry

/-- A directory without entries. -/
def emptyDirectory : Entry := .directory []

def named? (name : String) : List (String × Entry) → Option Entry
  | [] => none
  | entry :: rest => if entry.1 = name then some entry.2 else named? name rest

/-- Puts an entry under a name, at the place of that name if it is there. -/
def putNamed (name : String) (value : Entry) :
    List (String × Entry) → List (String × Entry)
  | [] => [(name, value)]
  | entry :: rest =>
      if entry.1 = name then (name, value) :: rest else entry :: putNamed name value rest

def dropNamed (name : String) (entries : List (String × Entry)) : List (String × Entry) :=
  entries.filter fun entry => entry.1 ≠ name

def read : List String → Entry → Except ReadFault (List UInt8)
  | [], .file content => .ok content
  | [], .directory _ => .error .isDirectory
  | _ :: _, .file _ => .error .fileOnTheWay
  | name :: rest, .directory entries =>
      match named? name entries with
      | none => .error .absent
      | some entry => entry.read rest

def chain : List String → Entry → Entry
  | [], entry => entry
  | name :: rest, entry => .directory [(name, chain rest entry)]

/-- Writes a file, making the directories that its path lacks. -/
def write? (content : List UInt8) : List String → Entry → Option Entry
  | [], .file _ => some (.file content)
  | [], .directory _ => none
  | _ :: _, .file _ => none
  | name :: rest, .directory entries =>
      match named? name entries with
      | none => some (.directory (putNamed name (chain rest (.file content)) entries))
      | some entry =>
          (entry.write? content rest).map fun entry => .directory (putNamed name entry entries)

/-- Makes a directory, and the ones that its path lacks. -/
def makeDirectory? : List String → Entry → Option Entry
  | [], .directory entries => some (.directory entries)
  | _, .file _ => none
  | name :: rest, .directory entries =>
      match named? name entries with
      | none => some (.directory (putNamed name (chain rest emptyDirectory) entries))
      | some entry =>
          (entry.makeDirectory? rest).map fun entry => .directory (putNamed name entry entries)

/-- Deletes what stands at a path, a directory with all that is in it. -/
def delete : List String → Entry → Entry
  | [], entry => entry
  | _, .file content => .file content
  | [name], .directory entries => .directory (dropNamed name entries)
  | name :: next :: rest, .directory entries =>
      match named? name entries with
      | none => .directory entries
      | some entry => .directory (putNamed name (entry.delete (next :: rest)) entries)

def exists? : List String → Entry → Bool
  | [], _ => true
  | _ :: _, .file _ => false
  | name :: rest, .directory entries =>
      match named? name entries with
      | none => false
      | some entry => entry.exists? rest

def isDirectoryAt (path : List String) (entry : Entry) : Bool :=
  match entry.read path with
  | .error .isDirectory => true
  | _ => false

mutual

/-- Every path below, directories with a slash at the end, each behind `before`. -/
def pathsBelow (before : List Char) : Entry → List (List Char)
  | .file _ => []
  | .directory entries => pathsOf before entries

/-- Every path of some entries of one directory. -/
def pathsOf (before : List Char) : List (String × Entry) → List (List Char)
  | [] => []
  | (name, .file content) :: rest =>
      (before ++ name.toList) :: (pathsBelow [] (.file content) ++ pathsOf before rest)
  | (name, .directory entries) :: rest =>
      let path := before ++ name.toList ++ ['/']
      path :: (pathsBelow path (.directory entries) ++ pathsOf before rest)

end

/-- All paths below, in the order of their code points. -/
def listing (entry : Entry) : List String :=
  ((entry.pathsBelow []).map String.ofList).mergeSort fun left right => !(right < left : Bool)

end Entry

end PhoneAccounts
