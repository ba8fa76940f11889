import PhoneAccounts.Tree.Basic
import PhoneAccounts.Yaml.Layout.Scalar

/-!
Contract: the written form of a document.

Every collection that is not empty takes a line for each of its entries.  A mapping inside
another is two columns deeper; a sequence inside a mapping is not.

Owns: `Outline`, the documents that are written, with its tree and its text, and whether it can
be written.

Does not own: which documents are written (see `PhoneAccounts.StateFile`).
-/

namespace PhoneAccounts.Yaml

/-- A document that can be written.  The keys of its mappings are words that need no
quotes. -/
inductive Outline where
  | text (value : String)
  | integer (value : Int)
  | flag (value : Bool)
  | sequence (items : List Outline)
  | mapping (entries : List (String × Outline))
deriving Inhabited

namespace Outline

mutual

/-- The tree that the document writes. -/
def tree : Outline → Tree
  | .text value => .text value
  | .integer value => .integer value
  | .flag value => .boolean value
  | .sequence items => .sequence (itemTrees items)
  | .mapping entries => .mapping (entryTrees entries)

def itemTrees : List Outline → List Tree
  | [] => []
  | item :: rest => item.tree :: itemTrees rest

def entryTrees : List (String × Outline) → List (Tree × Tree)
  | [] => []
  | (key, value) :: rest => (.text key, value.tree) :: entryTrees rest

end

/-- Columns that a mapping lies deeper than the one around it. -/
def step : Nat := 2

def spaces (indent : Nat) : List Char := List.replicate indent ' '

def flagText (value : Bool) : List Char :=
  if value then ['t', 'r', 'u', 'e'] else ['f', 'a', 'l', 's', 'e']

mutual

/-- What follows the colon of a key that stands at an indentation and ends at a column, up to
and with the end of the line. -/
def valueText (indent column : Nat) : Outline → List Char
  | .text value =>
      ' ' :: scalarText (indent + step) (column + 1) value.toList ++ ['\n']
  | .integer value => ' ' :: Text.integerText value ++ ['\n']
  | .flag value => ' ' :: flagText value ++ ['\n']
  | .sequence [] => [' ', '[', ']', '\n']
  | .sequence (item :: items) => '\n' :: itemsText indent false (item :: items)
  | .mapping [] => [' ', '\x7b', '\x7d', '\n']
  | .mapping (entry :: entries) => '\n' :: entriesText (indent + step) false (entry :: entries)

def itemText (indent : Nat) : Outline → List Char
  | .text value =>
      ' ' :: scalarText (indent + step) (indent + step) value.toList ++ ['\n']
  | .integer value => ' ' :: Text.integerText value ++ ['\n']
  | .flag value => ' ' :: flagText value ++ ['\n']
  | .sequence [] => [' ', '[', ']', '\n']
  | .sequence (item :: items) => ' ' :: itemsText (indent + step) true (item :: items)
  | .mapping [] => [' ', '\x7b', '\x7d', '\n']
  | .mapping (entry :: entries) => ' ' :: entriesText (indent + step) true (entry :: entries)

/-- The lines of a sequence; the first may continue a line that has begun. -/
def itemsText (indent : Nat) (continues : Bool) : List Outline → List Char
  | [] => []
  | item :: rest =>
      (if continues then [] else spaces indent) ++ '-' :: itemText indent item ++
        itemsText indent false rest

/-- The lines of a mapping; the first may continue a line that has begun. -/
def entriesText (indent : Nat) (continues : Bool) : List (String × Outline) → List Char
  | [] => []
  | (key, value) :: rest =>
      (if continues then [] else spaces indent) ++ key.toList ++
        ':' :: valueText indent (indent + key.length + 1) value ++
        entriesText indent false rest

end

mutual

/-- The integers in the document can be written. -/
def isWritable : Outline → Bool
  | .integer value => Text.isWritable value
  | .sequence items => areWritable items
  | .mapping entries => areWritableEntries entries
  | _ => true

def areWritable : List Outline → Bool
  | [] => true
  | item :: rest => item.isWritable && areWritable rest

def areWritableEntries : List (String × Outline) → Bool
  | [] => true
  | (_, value) :: rest => value.isWritable && areWritableEntries rest

end

/-- The text of a document whose root is a mapping with these entries. -/
def documentText (entries : List (String × Outline)) : List Char :=
  match entries with
  | [] => ['\x7b', '\x7d', '\n']
  | entries => entriesText 0 false entries

end Outline

end PhoneAccounts.Yaml
