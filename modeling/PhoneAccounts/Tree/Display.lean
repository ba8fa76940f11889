import PhoneAccounts.Number.Shortest
import PhoneAccounts.Text.Quoted
import PhoneAccounts.Tree.Basic

/-!
Contract: how a tree is shown inside a message, and how it is taken as plain text.

Owns: `Tree.display`, `Tree.plainText`, which trees can be shown so, and `Tree.kindName`.

Does not own: the messages themselves.
-/

namespace PhoneAccounts

open PhoneAccounts.Text

def commaSeparated : List (List Char) → List Char
  | [] => []
  | [item] => item
  | item :: rest => item ++ ',' :: ' ' :: commaSeparated rest

def callText (name : String) (arguments : List (List Char)) : List Char :=
  name.toList ++ '(' :: commaSeparated arguments ++ [')']

def Date.display (date : Date) : List Char :=
  callText "datetime.date" ([date.year, date.month, date.day].map naturalText)

/-- A duration in a message: whole days, rounded down, and the seconds left. -/
def displayDuration (seconds : Int) : List Char :=
  let day : Int := 24 * 60 * 60
  let days := Int.fdiv seconds day
  let rest := Int.fmod seconds day
  let parts :=
    (if days = 0 then [] else ["days=".toList ++ integerText days]) ++
    (if rest = 0 then [] else ["seconds=".toList ++ integerText rest])
  callText "datetime.timedelta" (if parts.isEmpty then [['0']] else parts)

/-- A distance to universal time in a message. -/
def displayOffset (minutes : Int) : List Char :=
  if minutes = 0 then "datetime.timezone.utc".toList
  else callText "datetime.timezone" [displayDuration (minutes * 60)]

/-- A timestamp in a message: seconds and microseconds are left out from the end while they
are zero. -/
def Timestamp.display (timestamp : Timestamp) : List Char :=
  let fields :=
    [timestamp.date.year, timestamp.date.month, timestamp.date.day,
      timestamp.hour, timestamp.minute] ++
    (if timestamp.microsecond ≠ 0 then [timestamp.second, timestamp.microsecond]
      else if timestamp.second ≠ 0 then [timestamp.second]
      else [])
  callText "datetime.datetime"
    (fields.map naturalText ++
      match timestamp.offset with
      | none => []
      | some minutes => ["tzinfo=".toList ++ displayOffset minutes])

namespace Tree

mutual

/-- The tree as a message shows it: texts and bytes quoted, collections in brackets. -/
def display : Tree → List Char
  | .null => ['N', 'o', 'n', 'e']
  | .boolean true => ['T', 'r', 'u', 'e']
  | .boolean false => ['F', 'a', 'l', 's', 'e']
  | .integer value => integerText value
  | .real value => Number.realText value
  | .text value => quoteText value.toList
  | .bytes value => quoteBytes value
  | .date value => value.display
  | .timestamp value => value.display
  | .sequence items => '[' :: commaSeparated (displayAll items) ++ [']']
  | .mapping entries => '\x7b' :: commaSeparated (displayEntries entries) ++ ['\x7d']
  | .members [] => ['s', 'e', 't', '(', ')']
  | .members keys => '\x7b' :: commaSeparated (displayAll keys) ++ ['\x7d']
  | .pair first second => '(' :: display first ++ ',' :: ' ' :: display second ++ [')']
  | .cycle true => ['\x7b', '.', '.', '.', '\x7d']
  | .cycle false => ['[', '.', '.', '.', ']']

def displayAll : List Tree → List (List Char)
  | [] => []
  | item :: rest => display item :: displayAll rest

/-- Each entry of a mapping as a message shows it. -/
def displayEntries : List (Tree × Tree) → List (List Char)
  | [] => []
  | (key, value) :: rest =>
      (display key ++ ':' :: ' ' :: display value) :: displayEntries rest

end

mutual

/-- The tree can be shown: the integers in it can be written. -/
def isWritable : Tree → Bool
  | .integer value => Text.isWritable value
  | .sequence items => areWritable items
  | .mapping entries => areWritableEntries entries
  | .members keys => areWritable keys
  | .pair first second => first.isWritable && second.isWritable
  | _ => true

def areWritable : List Tree → Bool
  | [] => true
  | item :: rest => item.isWritable && areWritable rest

def areWritableEntries : List (Tree × Tree) → Bool
  | [] => true
  | (key, value) :: rest => key.isWritable && value.isWritable && areWritableEntries rest

end

/-- The tree where a text is wanted: texts as they are, dates and timestamps in their plain
spelling, all else as in a message. -/
def plainText : Tree → List Char
  | .text value => value.toList
  | .date value => value.plainText
  | .timestamp value => value.plainText
  | tree => tree.display

/-- Name of the kind of value, as messages give it. -/
def kindName : Tree → String
  | .null => "NoneType"
  | .boolean _ => "bool"
  | .integer _ => "int"
  | .real _ => "float"
  | .text _ => "str"
  | .bytes _ => "bytes"
  | .date _ => "date"
  | .timestamp _ => "datetime"
  | .sequence _ => "list"
  | .mapping _ => "dict"
  | .members _ => "set"
  | .pair _ _ => "tuple"
  | .cycle true => "dict"
  | .cycle false => "list"

end Tree

end PhoneAccounts
