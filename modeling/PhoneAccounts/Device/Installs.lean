import PhoneAccounts.Component
import PhoneAccounts.Keyed
import PhoneAccounts.Scope

/-!
Contract: which components are installed, and for which scopes.

A component installed without a scope is there for every scope.  Installing it again
under the same scope replaces the permission that binding to it requires.

Owns: `Installs`, `Service`, the two bind permissions, and resolution.

Does not own: what an account may do when its component does not resolve.
-/

namespace PhoneAccounts

/-- An installed component that answered a look-up, with the permission needed to bind to it. -/
structure Service where
  component : Component
  permission : Option String
deriving DecidableEq, Repr

namespace Service

/-- The permission that a connection service has to require. -/
def bindPermission : String :=
  "android.permission.BIND_TELECOM_CONNECTION_SERVICE"

def olderBindPermission : String :=
  "android.permission.BIND_CONNECTION_SERVICE"

def requiresBind (service : Service) : Bool :=
  service.permission = some bindPermission ∨ service.permission = some olderBindPermission

end Service

/-- Permissions of the installed components, each under a component and a scope. -/
structure Installs where
  entries : Keyed (Component × Option Scope) (Option String)
deriving DecidableEq, Repr

namespace Installs

/-- A device without connection services. -/
def none : Installs := ⟨[]⟩

def install
    (installs : Installs)
    (component : Component)
    (scope : Option Scope)
    (permission : Option String) :
    Installs :=
  ⟨installs.entries.put (component, scope) permission⟩

/-- Takes back what was installed for exactly this scope, or for all. -/
def uninstall
    (installs : Installs)
    (component : Component)
    (scope : Option Scope) :
    Installs :=
  ⟨installs.entries.erase (component, scope)⟩

/-- An install under `installed` answers a look-up for `asked`. -/
def answers (installed asked : Option Scope) : Bool :=
  installed.isNone || installed = asked

/-- Services for a component that a scope can use, oldest install first.  Without a scope,
only the ones that every scope can use. -/
def resolve
    (installs : Installs)
    (component : Component)
    (scope : Option Scope) :
    List Service :=
  (installs.entries.filter fun entry =>
      entry.1.1 = component ∧ answers entry.1.2 scope).map fun entry =>
    ⟨component, entry.2⟩

end Installs

end PhoneAccounts
