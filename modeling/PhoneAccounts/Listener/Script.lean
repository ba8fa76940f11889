import PhoneAccounts.Listener.Bus

/-!
Contract: a bus on its own, with listeners that act on the bus alone.

Owns: `BusAction`, `BusLog`, and performing an action.

Does not own: listeners that act on a registry (see `PhoneAccounts.Registry.Session`).
-/

namespace PhoneAccounts

/-- What can be done with a bus.  A failure is something that only a reaction holds. -/
inductive BusAction where
  | add (name : String)
  | addMissing (name : String)
  | remove (name : Option String)
  | fire (event : Event)
  | fail
deriving DecidableEq, Repr

/-- A bus, and a line for every event that a listener has heard. -/
structure BusLog where
  bus : Bus
  lines : List String
deriving DecidableEq, Repr

namespace BusLog

/-- A bus without listeners and an empty log. -/
def empty : BusLog := ⟨.empty, []⟩

def note (name : String) (event : Event) (log : BusLog) : BusLog :=
  { log with lines := log.lines ++ [name ++ ":" ++ event.name] }

/-- Performs an action, given how an event is fired. -/
def act (fire : Event → BusLog → BusLog) (action : BusAction) (log : BusLog) : BusLog × Bool :=
  match action with
  | .add name => ({ log with bus := log.bus.add name }, true)
  | .addMissing name => ({ log with bus := log.bus.addMissing name }, true)
  | .remove name => ({ log with bus := log.bus.remove? name }, true)
  | .fire event => (fire event log, true)
  | .fail => (log, false)

/-- Fires an event.  `depth` bounds how deep reactions may fire events themselves. -/
def fire (scripts : Scripts BusAction) : (depth : Nat) → Event → BusLog → BusLog
  | 0, _, log => log
  | depth + 1, event, log =>
      Delivery.toAll scripts note (act (fire scripts depth)) event log.bus.listeners log

/-- Performs an action that stands on its own. -/
def perform (scripts : Scripts BusAction) (action : BusAction) (log : BusLog) : BusLog :=
  (act (fire scripts Delivery.deepestNesting) action log).1

end BusLog

end PhoneAccounts
