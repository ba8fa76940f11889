import PhoneAccounts.Text.Numeral

/-!
Contract: scopes, the isolated ownership domains of a device.

A scope is a user of the device or one of a user's profiles.

Owns: `Scope`, the owner scope, and the text of a scope, as far as it has one.

Does not own: which scopes exist (see `PhoneAccounts.Device.ScopeDirectory`).
-/

namespace PhoneAccounts

/-- A user of the device, or a profile of one. -/
structure Scope where
  id : Int
deriving DecidableEq, Repr, Inhabited

namespace Scope

/-- The scope of the device's owner. -/
def owner : Scope := ⟨0⟩

def isOwner (scope : Scope) : Bool :=
  scope = owner

def describe (scope : Scope) : String :=
  String.ofList ("UserScope\x7b".toList ++ Text.integerText scope.id ++ ['\x7d'])

/-- The scope can be put into words. -/
def isWritable (scope : Scope) : Bool :=
  Text.isWritable scope.id

def describe? : Option Scope → String
  | none => "None"
  | some scope => scope.describe

end Scope

end PhoneAccounts
