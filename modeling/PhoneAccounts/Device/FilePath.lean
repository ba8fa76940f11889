/-!
Contract: paths of files, in the normal form that messages show.

Empty parts and single dots are left out; double dots stay.  A path begins at the top
with one slash or with exactly two, since more than two mean the same as one.

Owns: `FilePath`, `ofText`, `text`, and replacing a leading tilde.

Does not own: what stands at a path (see `PhoneAccounts.Device.FileTree`).
-/

namespace PhoneAccounts

/-- The slashes at the front, none to two of them, and the names on the way. -/
structure FilePath where
  slashes : Nat
  parts : List String
deriving DecidableEq, Repr, Inhabited

namespace FilePath

/-- The stretches between slashes. -/
def splitSlashes : List Char → List (List Char)
  | [] => [[]]
  | '/' :: rest => [] :: splitSlashes rest
  | char :: rest =>
      match splitSlashes rest with
      | [] => [[char]]
      | part :: parts => (char :: part) :: parts

def ofText (text : String) : FilePath :=
  let chars := text.toList
  let slashes := (chars.takeWhile (· = '/')).length
  ⟨if slashes ≤ 2 then slashes else 1,
    ((splitSlashes chars).filter fun part => part ≠ [] ∧ part ≠ ['.']).map String.ofList⟩

def joinSlashes : List String → List Char
  | [] => []
  | [part] => part.toList
  | part :: parts => part.toList ++ '/' :: joinSlashes parts

def text (path : FilePath) : String :=
  if path.slashes = 0 ∧ path.parts = [] then "."
  else String.ofList (List.replicate path.slashes '/' ++ joinSlashes path.parts)

/-- The last name of the path. -/
def name (path : FilePath) : String :=
  path.parts.getLastD ""

/-- The path continued by another one. -/
def append (path other : FilePath) : FilePath :=
  if other.slashes = 0 then ⟨path.slashes, path.parts ++ other.parts⟩ else other

/-- A leading tilde replaced by the home directory.  Another user's home is not known. -/
def expandHome? (path home : FilePath) : Option FilePath :=
  match path.slashes, path.parts with
  | 0, first :: rest =>
      if first = "~" then some (home.append ⟨0, rest⟩)
      else if first.toList.head? = some '~' then none
      else some path
  | _, _ => some path

end FilePath

end PhoneAccounts
