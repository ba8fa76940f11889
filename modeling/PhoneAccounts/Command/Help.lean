import PhoneAccounts.Command.Request

/-!
Contract: the pages that explain the command.

Owns: the version line and the help pages.

Does not own: when they are shown (see `PhoneAccounts.Command.Request`).
-/

namespace PhoneAccounts.Command

def commandName : String := "main"

def versionNumber : String := "0.1.0"

def versionLine : String := commandName ++ ", version " ++ versionNumber

def Task.summary : Task → String
  | .inspect => "Decode STATE_FILE and show its accounts and defaults."
  | .migrate => "Upgrade STATE_FILE in place to the current schema version."

def helpLines : List String :=
  [ "Usage: " ++ commandName ++ " [OPTIONS] COMMAND [ARGS]...",
    "",
    "  phonereg: phone account registry tools.",
    "",
    "  Works directly on a registry state file. Scope serial numbers in the file",
    "  are taken as scope ids, since the device user manager is not available.",
    "",
    "Options:",
    "  --version      Show the version and exit.",
    "  -v, --verbose  Log registry decisions to stderr",
    "  --help         Show this message and exit.",
    "",
    "Commands:" ] ++
  Task.all.map fun task => "  " ++ task.name ++ "  " ++ task.summary

def taskHelpLines (task : Task) : List String :=
  [ "Usage: " ++ commandName ++ " " ++ task.name ++ " [OPTIONS] STATE_FILE",
    "",
    "  " ++ task.summary,
    "",
    "Options:",
    "  -c, --config TEXT  Registry config YAML",
    "  --help             Show this message and exit." ]

end PhoneAccounts.Command
