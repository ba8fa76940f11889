import PhoneAccounts.Calendar
import PhoneAccounts.Number.Binary64

/-!
Contract: the value that a document holds once its markup has been read.

Owns: `Tree`, which trees count as empty, when two keys are one key, looking up and
inserting keys of a mapping, and the contents of collections.

Does not own: how a tree is shown in a message (see `PhoneAccounts.Tree.Display`), or how
it is written as markup (see `PhoneAccounts.Yaml.Layout.Outline`).
-/

namespace PhoneAccounts

/-- A document's value.

A mapping keeps its entries in the order in which their keys were first given.  `cycle`
stands for a collection that contains itself, at the place where it does. -/
inductive Tree where
  | null
  | boolean (value : Bool)
  | integer (value : Int)
  | real (value : Float)
  | text (value : String)
  | bytes (value : List UInt8)
  | date (value : Date)
  | timestamp (value : Timestamp)
  | sequence (items : List Tree)
  | mapping (entries : List (Tree × Tree))
  | members (keys : List Tree)
  | pair (first second : Tree)
  | cycle (isMapping : Bool)
deriving Inhabited

namespace Tree

/-- Null, false, zero, and everything without content count as empty. -/
def isEmpty : Tree → Bool
  | .null => true
  | .boolean value => !value
  | .integer value => value == 0
  | .real value => !Number.isNonzero value
  | .text value => value.toList.isEmpty
  | .bytes value => value.isEmpty
  | .date _ => false
  | .timestamp _ => false
  | .sequence items => items.isEmpty
  | .mapping entries => entries.isEmpty
  | .members keys => keys.isEmpty
  | .pair _ _ => false
  | .cycle _ => false

def isNull : Tree → Bool
  | .null => true
  | _ => false

/-- Collections cannot be keys; everything else can. -/
def canBeKey : Tree → Bool
  | .sequence _ => false
  | .mapping _ => false
  | .members _ => false
  | .pair _ _ => false
  | .cycle _ => false
  | _ => true

/-- The number that a key stands for: flags count as zero and one. -/
def keyInteger? : Tree → Option Int
  | .boolean value => some (if value then 1 else 0)
  | .integer value => some value
  | _ => none

/-- Two keys are one key when they are equal as values.  Numbers are compared across
their kinds, timestamps as instants, and the undefined number is one key. -/
def isSameKey (left right : Tree) : Bool :=
  match left, right with
  | .null, .null => true
  | .text left, .text right => left == right
  | .bytes left, .bytes right => left == right
  | .date left, .date right => left == right
  | .timestamp left, .timestamp right => left.isSameInstant right
  | .real left, .real right =>
      left == right || (Number.partsOf left == .notANumber && Number.partsOf right == .notANumber)
  | .real left, right => (right.keyInteger?.map (Number.equalsInteger left)).getD false
  | left, .real right => (left.keyInteger?.map (Number.equalsInteger right)).getD false
  | left, right =>
      match left.keyInteger?, right.keyInteger? with
      | some left, some right => left == right
      | _, _ => false

/-- The entries after giving a key a value: a key that is there already keeps its place
and its spelling. -/
def insertEntry (key value : Tree) : List (Tree × Tree) → List (Tree × Tree)
  | [] => [(key, value)]
  | entry :: rest =>
      if entry.1.isSameKey key then (entry.1, value) :: rest
      else entry :: insertEntry key value rest

/-- The entries that remain when each key keeps its last value. -/
def ofEntries (entries : List (Tree × Tree)) : List (Tree × Tree) :=
  entries.foldl (fun result entry => insertEntry entry.1 entry.2 result) []

def isTextKey (name : String) : Tree → Bool
  | .text value => value == name
  | _ => false

def find? (name : String) (entries : List (Tree × Tree)) : Option Tree :=
  (entries.find? fun entry => entry.1.isTextKey name).map Prod.snd

/-- Value of a key that is a text, null when it is missing. -/
def get (name : String) (entries : List (Tree × Tree)) : Tree :=
  (find? name entries).getD .null

/-- The entries of a mapping.  Inside itself a mapping shows none. -/
def entries? : Tree → Option (List (Tree × Tree))
  | .mapping entries => some entries
  | .cycle true => some []
  | _ => none

/-- The items of a sequence.  Inside itself a sequence shows none. -/
def items? : Tree → Option (List Tree)
  | .sequence items => some items
  | .cycle false => some []
  | _ => none

end Tree

end PhoneAccounts
