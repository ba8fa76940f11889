import PhoneAccounts.Keyed
import PhoneAccounts.Scope

/-!
Contract: the scopes that a device knows, with their serial numbers and parents.

A serial number identifies a scope beyond the lifetime of its id.  An open directory
takes every number that it does not know for the id of a scope, and every scope that it
does not know for one with its own id as serial number; that is how a state file of
another device is read.

Owns: `ScopeDirectory`, adding and removing scopes, and the look-up in both directions.

Does not own: who may see what (see `PhoneAccounts.Visibility`).
-/

namespace PhoneAccounts

/-- The known scopes and, for profiles, the scope that each is nested under. -/
structure ScopeDirectory where
  isOpen : Bool
  serials : Keyed Scope Int
  parents : Keyed Scope Scope
deriving DecidableEq, Repr

namespace ScopeDirectory

/-- Serial number that stands for a scope that does not exist. -/
def unknownSerial : Int := -1

def initial (isOpen : Bool) : ScopeDirectory :=
  ⟨isOpen, [(Scope.owner, 0)], []⟩

/-- Adds a scope, or gives it another serial number; without a number it gets its own id.
A parent, once given, stays until the scope is removed. -/
def add
    (directory : ScopeDirectory)
    (scope : Scope)
    (serial : Option Int)
    (parent : Option Scope) :
    ScopeDirectory :=
  { directory with
    serials := directory.serials.put scope (serial.getD scope.id)
    parents := match parent with
      | none => directory.parents
      | some parent => directory.parents.put scope parent }

def remove (directory : ScopeDirectory) (scope : Scope) : ScopeDirectory :=
  { directory with
    serials := directory.serials.erase scope
    parents := directory.parents.erase scope }

/-- The scope has been added and not removed. -/
def isLive (directory : ScopeDirectory) (scope : Scope) : Bool :=
  (directory.serials.valueOf? scope).isSome

def serialOf (directory : ScopeDirectory) (scope : Scope) : Int :=
  match directory.serials.valueOf? scope with
  | some serial => serial
  | none => if directory.isOpen then scope.id else unknownSerial

/-- The first scope with a serial number. -/
def scopeOf? (directory : ScopeDirectory) (serial : Int) : Option Scope :=
  match directory.serials.find? fun entry => entry.2 = serial with
  | some entry => some entry.1
  | none => if directory.isOpen then some ⟨serial⟩ else none

/-- A known scope and the profiles nested directly under it. -/
def profilesOf (directory : ScopeDirectory) (scope : Scope) : List Scope :=
  if directory.isLive scope || directory.isOpen then
    scope :: (directory.parents.filter fun entry => entry.2 = scope).map Prod.fst
  else []

end ScopeDirectory

end PhoneAccounts
