/-!
Contract: telling the switches of a command line from its operands.

A switch is spelt with two dashes and a word, or with one dash and a letter; letters of
switches without a value may share a dash.  A value follows as the next argument whatever
that is, after an equals sign, or right behind the letter.  Two dashes alone end the
switches, and one dash alone is an operand.

Owns: `Switch`, `Grammar`, `Given` and `Grammar.scan`.

Does not own: what the switches and operands ask for (see
`PhoneAccounts.Command.Request`).
-/

namespace PhoneAccounts.Command

/-- The switches that a command line can hold. -/
inductive Switch where
  | version
  | help
  | verbose
  | settings
deriving DecidableEq, Repr

/-- The word of a switch. -/
def Switch.word : Switch → String
  | .version => "version"
  | .help => "help"
  | .verbose => "verbose"
  | .settings => "config"

def Switch.letter? : Switch → Option Char
  | .version => none
  | .help => none
  | .verbose => some 'v'
  | .settings => some 'c'

def Switch.takesValue : Switch → Bool
  | .settings => true
  | .version => false
  | .help => false
  | .verbose => false

/-- A switch that was given, with its value; the value is empty if the switch takes none. -/
abbrev Setting := Switch × String

/-- The switches that are known, and whether the first operand ends them. -/
structure Grammar where
  switches : List Switch
  endsAtOperand : Bool

/-- What was given: the switches and the operands, each in their order. -/
structure Given where
  settings : List Setting
  operands : List String
deriving DecidableEq, Repr

/-- What one argument is found to be: an operand, the end of the switches, some switches
of which the last may still lack its value, or nothing that is known. -/
inductive Finding where
  | operand
  | endOfSwitches
  | switches (settings : List Setting) (lacksValue : Option Switch)
  | unknown

namespace Grammar

/-- The switch with a word. -/
def ofWord? (grammar : Grammar) (word : List Char) : Option Switch :=
  grammar.switches.find? fun switch => switch.word.toList = word

def ofLetter? (grammar : Grammar) (letter : Char) : Option Switch :=
  grammar.switches.find? fun switch => switch.letter? = some letter

/-- An argument behind its two dashes: a word, and a value after an equals sign. -/
def findWord (grammar : Grammar) (chars : List Char) : Finding :=
  let word := chars.takeWhile (· ≠ '=')
  match grammar.ofWord? word, chars.drop word.length with
  | none, _ => .unknown
  | some switch, [] =>
      if switch.takesValue then .switches [] (some switch) else .switches [(switch, "")] none
  | some switch, _ :: value =>
      if switch.takesValue then .switches [(switch, String.ofList value)] none else .unknown

/-- An argument behind its one dash: letters, the last of which may have a value. -/
def findLetters (grammar : Grammar) : List Char → Finding
  | [] => .switches [] none
  | letter :: rest =>
      match grammar.ofLetter? letter with
      | none => .unknown
      | some switch =>
          if switch.takesValue then
            if rest = [] then .switches [] (some switch)
            else .switches [(switch, String.ofList rest)] none
          else
            match grammar.findLetters rest with
            | .switches settings lacksValue =>
                .switches ((switch, "") :: settings) lacksValue
            | finding => finding

/-- What an argument is, unless it is the value of the switch before it. -/
def find (grammar : Grammar) (argument : String) : Finding :=
  match argument.toList with
  | ['-', '-'] => .endOfSwitches
  | '-' :: '-' :: chars => grammar.findWord chars
  | '-' :: letter :: rest => grammar.findLetters (letter :: rest)
  | _ => .operand

/-- Reads the arguments; `lacksValue` is the switch whose value comes next.  There is no
result if an argument is not known or a value is missing. -/
def scanFrom (grammar : Grammar) : (lacksValue : Option Switch) → List String → Option Given
  | some _, [] => none
  | some switch, value :: rest =>
      (grammar.scanFrom none rest).map fun given =>
        { given with settings := (switch, value) :: given.settings }
  | none, [] => some ⟨[], []⟩
  | none, argument :: rest =>
      match grammar.find argument with
      | .unknown => none
      | .endOfSwitches => some ⟨[], rest⟩
      | .operand =>
          if grammar.endsAtOperand then some ⟨[], argument :: rest⟩
          else
            (grammar.scanFrom none rest).map fun given =>
              { given with operands := argument :: given.operands }
      | .switches settings lacksValue =>
          (grammar.scanFrom lacksValue rest).map fun given =>
            { given with settings := settings ++ given.settings }

def scan (grammar : Grammar) (arguments : List String) : Option Given :=
  grammar.scanFrom none arguments

end Grammar

namespace Given

/-- The value that a switch was given last. -/
def last? (given : Given) (switch : Switch) : Option String :=
  (given.settings.reverse.find? fun setting => setting.1 = switch).map Prod.snd

/-- The first of the switches that want an answer at once, whatever else was given. -/
def answeredAtOnce? (given : Given) : Option Switch :=
  (given.settings.map Prod.fst).find? fun switch => switch = .version ∨ switch = .help

end Given

end PhoneAccounts.Command
