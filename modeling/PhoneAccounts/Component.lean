/-!
Contract: the names of components and their two written forms.

A component is a class inside a package.  The flat form is the package, a slash and
the class; the short form leaves the package out of a class name that begins with it.
The reader takes both: a class that begins with a dot continues the package.

Owns: `Component`, `flatText`, `shortText`, `ofText?` and `describe`.

Does not own: which components are installed (see `PhoneAccounts.Device.Installs`).
-/

namespace PhoneAccounts

/-- A package and the class inside it that implements a connection service. -/
structure Component where
  package : String
  className : String
deriving DecidableEq, Repr, Inhabited

namespace Component

/-- The flat form: package, slash, class. -/
def flatText (component : Component) : String :=
  String.ofList (component.package.toList ++ '/' :: component.className.toList)

/-- The class name as the short form gives it: without the package if it begins with the
package and a dot. -/
def shortClass (component : Component) : List Char :=
  let name := component.className.toList
  let package := component.package.toList
  if (package ++ ['.']).isPrefixOf name then name.drop package.length else name

/-- The short form: package, slash, shortened class. -/
def shortText (component : Component) : String :=
  String.ofList (component.package.toList ++ '/' :: component.shortClass)

/-- The text before the first slash, and the text after it. -/
def splitSlash? : List Char → Option (List Char × List Char)
  | [] => none
  | '/' :: rest => some ([], rest)
  | char :: rest => (splitSlash? rest).map fun parts => (char :: parts.1, parts.2)

/-- Reads the flat or the short form: a slash with a class after it. -/
def ofText? (text : String) : Option Component :=
  match splitSlash? text.toList with
  | none => none
  | some (_, []) => none
  | some (package, '.' :: rest) =>
      some ⟨String.ofList package, String.ofList (package ++ '.' :: rest)⟩
  | some (package, name) => some ⟨String.ofList package, String.ofList name⟩

def describe (component : Component) : String :=
  String.ofList ("ComponentInfo\x7b".toList ++ component.shortText.toList ++ ['\x7d'])

end Component

end PhoneAccounts
