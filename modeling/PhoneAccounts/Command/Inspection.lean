import PhoneAccounts.Catalog
import PhoneAccounts.Console.Markup
import PhoneAccounts.Console.Panel
import PhoneAccounts.Console.Table

/-!
Contract: what a catalog looks like on a screen.

A panel tells the version and the defaults; a table has a row for each account.  Everything
that is told is a text with marks, whatever the catalog puts into it.

Owns: `overviewLines` and `accountLines`.

Does not own: the drawing of panels and tables (see `PhoneAccounts.Console`).
-/

namespace PhoneAccounts.Command

open PhoneAccounts.Console

def listing (texts : List String) : List Char :=
  (", ".intercalate texts).toList

/-! ## The overview -/

def defaultText (handle : Option Handle) : Except DisplayFault (List Char) :=
  match handle with
  | none => .ok "none".toList
  | some handle =>
      if handle.isWritable then .ok handle.describe.toList else .error .longInteger

def overviewText (catalog : Catalog) : Except DisplayFault (List Char) := do
  let version ← integerInMessage catalog.version
  let defaultOutgoing ← defaultText catalog.defaultOutgoing
  let simCallManager ← defaultText catalog.simCallManager
  .ok ("Schema version: ".toList ++ version ++
    "\nDefault outgoing: ".toList ++ defaultOutgoing ++
    "\nSim call manager: ".toList ++ simCallManager)

def overviewTitle (catalog : Catalog) : List Char :=
  "Registry state (".toList ++ Text.naturalText catalog.accounts.length ++ " accounts)".toList

def overviewLines (screen : Screen) (catalog : Catalog) :
    Except DisplayFault (List (List Char)) := do
  let text ← overviewText catalog
  let title ← screen.plain (overviewTitle catalog)
  let plain ← screen.plain text
  .ok (panel screen.width title plain)

/-! ## The accounts -/

def accountColumns : List Column :=
  [ ⟨"Component".toList, .left⟩, ⟨"Id".toList, .left⟩, ⟨"Scope".toList, .right⟩,
    ⟨"Label".toList, .left⟩, ⟨"Capabilities".toList, .left⟩, ⟨"Schemes".toList, .left⟩,
    ⟨"Enabled".toList, .middle⟩ ]

def scopeText (scope : Option Scope) : Except DisplayFault (List Char) :=
  match scope with
  | none => .ok ['-']
  | some scope => integerInMessage scope.id

def flagMarks (enabled : Bool) : List Char :=
  if enabled then "[green]Y[/]".toList else "[red]N[/]".toList

def accountRow (account : Account) : Except DisplayFault (List (List Char)) := do
  let scope ← scopeText account.handle.scope
  .ok [
    account.handle.component.shortText.toList,
    account.handle.id.toList,
    scope,
    (account.label.getD "").toList,
    listing (account.knownCapabilities.map Capability.name),
    listing account.schemes,
    flagMarks account.enabled]

/-- The rows are put together before the first of their marks is read. -/
def accountLines (screen : Screen) (catalog : Catalog) :
    Except DisplayFault (List (List Char)) := do
  if catalog.accounts = [] then screen.lines "[yellow]No accounts registered.[/]".toList
  else do
    let rows ← catalog.accounts.mapM accountRow
    let plainRows ← rows.mapM fun row => row.mapM screen.plain
    let table : Table := ⟨accountColumns, plainRows⟩
    .ok table.lines

end PhoneAccounts.Command
