import PhoneAccounts.Listener.Event

/-!
Contract: the listeners of a registry, and delivering an event to them.

A listener is known by its name and may be there more than once.  An event goes to the
listeners that are there when it is fired, in order and once for each time that they were
added, whatever they do meanwhile.  A listener that fails ends its own reaction only.

Owns: `Bus`, `Script`, and the delivery.

Does not own: what the actions of a listener do; the delivery is told by a function.
-/

namespace PhoneAccounts

/-- The names of the listeners in the order in which they were added. -/
structure Bus where
  listeners : List String
deriving DecidableEq, Repr

namespace Bus

/-- A bus without listeners. -/
def empty : Bus := ⟨[]⟩

/-- Adds a listener at the end. -/
def add (bus : Bus) (name : String) : Bus :=
  ⟨bus.listeners ++ [name]⟩

/-- Adds a listener unless it is there. -/
def addMissing (bus : Bus) (name : String) : Bus :=
  if bus.listeners.contains name then bus else bus.add name

/-- Removes a listener once, from its first place. -/
def remove (bus : Bus) (name : String) : Bus :=
  ⟨bus.listeners.erase name⟩

def remove? (bus : Bus) : Option String → Bus
  | none => bus
  | some name => bus.remove name

end Bus

/-- How a listener reacts: not at all, or with actions for each event.  An event without
actions is heard too. -/
inductive Script (Action : Type) where
  | silent
  | reacts (actions : Event → List Action)

/-- The scripts of the listeners by name; a listener without a script is silent. -/
abbrev Scripts (Action : Type) := List (String × Script Action)

namespace Script

/-- The actions of a listener for an event; nothing if it does not hear it. -/
def actionsOf? {Action : Type} (scripts : Scripts Action) (name : String) (event : Event) :
    Option (List Action) :=
  match (scripts.find? fun script => script.1 = name).map Prod.snd with
  | some (.reacts actions) => some (actions event)
  | some .silent => none
  | none => none

end Script

namespace Delivery

variable {State Action : Type}

/-- Performs actions in order up to the first that fails.  `perform` tells what an action
leaves and whether it succeeded. -/
def runActions (perform : Action → State → State × Bool) : List Action → State → State
  | [], state => state
  | action :: rest, state =>
      let (state, succeeded) := perform action state
      if succeeded then runActions perform rest state else state

/-- A listener hears an event: it is noted, and then its actions run. -/
def react
    (scripts : Scripts Action)
    (note : String → Event → State → State)
    (perform : Action → State → State × Bool)
    (event : Event)
    (state : State)
    (name : String) :
    State :=
  match Script.actionsOf? scripts name event with
  | none => state
  | some actions => runActions perform actions (note name event state)

/-- Every listener of a list hears an event, in order. -/
def toAll
    (scripts : Scripts Action)
    (note : String → Event → State → State)
    (perform : Action → State → State × Bool)
    (event : Event)
    (listeners : List String)
    (state : State) :
    State :=
  listeners.foldl (react scripts note perform event) state

/-- How deep events may be fired from within reactions to events. -/
def deepestNesting : Nat := 250

end Delivery

end PhoneAccounts
