import PhoneAccounts.Command.Arguments

/-!
Contract: what a command line asks for.

The switches before the name of a task are those of the whole command, the ones behind it
those of the task.  A task has exactly one operand, the state file.

Owns: `Task`, `Order`, `Request` and `Request.ofArguments`.

Does not own: the checks that need the files (see `PhoneAccounts.Command.Run`).
-/

namespace PhoneAccounts.Command

/-- The tasks that can be ordered. -/
inductive Task where
  | inspect
  | migrate
deriving DecidableEq, Repr

/-- Name of the task. -/
def Task.name : Task → String
  | .inspect => "inspect"
  | .migrate => "migrate"

def Task.all : List Task := [.inspect, .migrate]

/-- A task on a state file; the file of the settings is the empty text if none is given. -/
structure Order where
  task : Task
  stateFile : String
  settingsFile : String
deriving DecidableEq, Repr

/-- What a command line asks for. -/
inductive Request where
  | version
  | help
  | taskHelp (task : Task)
  | perform (order : Order)
  | misuse
deriving DecidableEq, Repr

/-- The switches of the whole command. -/
def wholeGrammar : Grammar := ⟨[.version, .verbose, .help], true⟩

def taskGrammar : Grammar := ⟨[.settings, .help], false⟩

namespace Request

/-- What is asked for by a switch that wants an answer at once. -/
def ofSwitch : Switch → Request
  | .version => .version
  | .help => .help
  | .verbose => .misuse
  | .settings => .misuse

/-- What the arguments behind the name of a task ask for. -/
def ofTaskArguments (task : Task) (arguments : List String) : Request :=
  match taskGrammar.scan arguments with
  | none => .misuse
  | some given =>
      if given.answeredAtOnce? = some .help then .taskHelp task
      else
        match given.operands with
        | [stateFile] => .perform ⟨task, stateFile, (given.last? .settings).getD ""⟩
        | _ => .misuse

/-- What a command line asks for whose first operand is no task.  Behind two dashes a switch
is not taken for one at first, but it is now. -/
def ofUnknownTask (operands : List String) : Request :=
  match wholeGrammar.scan operands with
  | none => .misuse
  | some given => (given.answeredAtOnce?.map ofSwitch).getD .misuse

def ofArguments (arguments : List String) : Request :=
  match wholeGrammar.scan arguments with
  | none => .misuse
  | some given =>
      match given.answeredAtOnce?, given.operands with
      | some switch, _ => ofSwitch switch
      | none, [] => .misuse
      | none, name :: rest =>
          match Task.all.find? fun task => task.name = name with
          | some task => ofTaskArguments task rest
          | none => ofUnknownTask (name :: rest)

end Request

end PhoneAccounts.Command
