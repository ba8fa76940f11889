import PhoneAccounts.Command.Help
import PhoneAccounts.Command.Inspection
import PhoneAccounts.Registry.Startup

/-!
Contract: carrying out a command line on a directory of files.

Nothing is known about the scopes of the device, so every serial number in the state file
stands for the scope with that id.  Inspecting leaves the files alone.  Migrating starts a
registry on the state file, which writes the file in the current version.  A message that
cannot be shown stops the task where it stands.

Owns: `Tools`, `Response`, `Ending` with its exit code, and `run`.

Does not own: what the arguments mean (see `PhoneAccounts.Command.Request`), and the real
files and the real console (see `PhoneAccounts.Main`).
-/

namespace PhoneAccounts.Command

open PhoneAccounts.Console

/-- What a task works with: what reads state files, what reads settings, and what shows
messages. -/
structure Tools where
  parser : Yaml.Parser
  settingsParser : Settings.Parser
  screen : Screen

def Tools.ofWidth (width : Nat) : Tools :=
  ⟨Yaml.treeOfBytes?, Settings.treeOfText?, .ofWidth width⟩

/-- What stops a task. -/
inductive Failure where
  | settings (fault : SettingsFault)
  | stateFile (stop : StateFile.Stop)
  | display (fault : DisplayFault)

/-- How a command ends. -/
inductive Ending where
  | done
  | refused
  | misused
  | stopped (failure : Failure)

/-- The exit code that tells how a command ended. -/
def Ending.exitCode : Ending → Nat
  | .done => 0
  | .refused => 1
  | .misused => 2
  | .stopped _ => 1

/-- How a command ends, the lines that it shows, and the files that it leaves. -/
structure Response where
  ending : Ending
  lines : List (List Char)
  files : Entry

/-- What a task comes to unless it is stopped before it has shown anything. -/
abbrev Attempt := Except Failure Response

/-- Lines that are shown as they are. -/
def plainLines (texts : List String) : List (List Char) :=
  texts.map String.toList

/-- Ends a task with more lines, if they can be shown. -/
def Response.closing
    (ending : Ending)
    (before : List (List Char))
    (lines : Except DisplayFault (List (List Char)))
    (files : Entry) :
    Response :=
  match lines with
  | .ok lines => ⟨ending, before ++ lines, files⟩
  | .error fault => ⟨.stopped (.display fault), before, files⟩

/-! ## The device that a task works on -/

def settingsOf (tools : Tools) (home : FilePath) (order : Order) (files : Entry) :
    Except Failure Settings := do
  let settings ←
    if order.settingsFile = "" then .ok (Settings.usual home)
    else
      (Settings.loadWith tools.settingsParser home order.settingsFile files).mapError
        Failure.settings
  .ok { settings with stateFile := FilePath.ofText order.stateFile }

/-- A device about which only the settings are known. -/
def deviceOf (settings : Settings) (files : Entry) : Device :=
  ⟨ScopeDirectory.initial true, Installs.none, Subscriptions.none, settings, files⟩

def loadState (tools : Tools) (device : Device) : Except Failure StateFile.LoadResult :=
  let reader : StateFile.Reader :=
    ⟨device.directory, Scope.owner, Registry.upgradesOf device.settings⟩
  (StateFile.loadWith tools.parser reader device.settings.stateFile device.files).mapError
    Failure.stateFile

/-! ## Tasks -/

/-- The refusal of a task whose state file holds no catalog. -/
def refusal
    (screen : Screen)
    (order : Order)
    (result : StateFile.LoadResult)
    (files : Entry) :
    Response :=
  let notice := match order.task with
    | .inspect => ":[/] "
    | .migrate => "; not migrating:[/] "
  let text := "[red]State file is " ++ result.status ++ notice ++ order.stateFile
  .closing .refused [] (screen.lines text.toList) files

/-- Shows a catalog.  Of one whose accounts cannot be shown, the overview is. -/
def inspect (screen : Screen) (catalog : Catalog) (files : Entry) : Response :=
  match overviewLines screen catalog with
  | .error fault => ⟨.stopped (.display fault), [], files⟩
  | .ok overview => .closing .done overview (accountLines screen catalog) files

/-- The notice that a state file is of the current version or a later one. -/
def currentNotice (version : Int) : Except DisplayFault (List Char) := do
  let version ← integerInMessage version
  .ok ("[green]Already at version ".toList ++ version ++ ".[/]".toList)

/-- The notice that a state file was brought from one version to another. -/
def migratedNotice (stateFile : String) (before after : Int) (count : Nat) :
    Except DisplayFault (List Char) := do
  let before ← integerInMessage before
  let after ← integerInMessage after
  .ok ("  [green]v[/] Migrated ".toList ++ stateFile.toList ++
    " from version ".toList ++ before ++
    " to ".toList ++ after ++
    " (".toList ++ Text.naturalText count ++ " accounts)".toList)

/-- Brings the state file to the current version, unless it is there already. -/
def migrate (tools : Tools) (order : Order) (device : Device) (catalog : Catalog) : Attempt := do
  if currentVersion ≤ catalog.version then
    .ok (.closing .done []
      (currentNotice catalog.version >>= tools.screen.lines) device.files)
  else
    let (registry, device) ←
      (Registry.startWith tools.parser device Scope.owner).mapError Failure.stateFile
    let notice := migratedNotice order.stateFile catalog.version registry.catalog.version
      registry.catalog.accounts.length
    .ok (.closing .done [] (notice >>= tools.screen.lines) device.files)

def perform (tools : Tools) (home : FilePath) (order : Order) (files : Entry) : Attempt := do
  let settings ← settingsOf tools home order files
  let device := deviceOf settings files
  let result ← loadState tools device
  match result.catalog?, order.task with
  | none, _ => .ok (refusal tools.screen order result files)
  | some catalog, .inspect => .ok (inspect tools.screen catalog files)
  | some catalog, .migrate => migrate tools order device catalog

/-! ## The command -/

/-- Something stands at the path that a text says.  A text that ends in a slash says a
directory, and the empty text says nothing. -/
def standsAt (text : String) (files : Entry) : Bool :=
  let path := (FilePath.ofText text).parts
  if text = "" then false
  else if text.toList.getLast? = some '/' then files.isDirectoryAt path
  else files.exists? path

/-- The state file can be what it is said to be: it is no directory, and to be migrated it
has to be there. -/
def acceptsStateFile (order : Order) (files : Entry) : Bool :=
  let isThere := standsAt order.stateFile files
  let isDirectory := isThere && files.isDirectoryAt (FilePath.ofText order.stateFile).parts
  !isDirectory && (isThere || order.task = .inspect)

/-- Answers a request on a directory of files; `home` is the user's directory. -/
def answer (tools : Tools) (home : FilePath) (request : Request) (files : Entry) : Response :=
  match request with
  | .misuse => ⟨.misused, [], files⟩
  | .version => ⟨.done, plainLines [versionLine], files⟩
  | .help => ⟨.done, plainLines helpLines, files⟩
  | .taskHelp task => ⟨.done, plainLines (taskHelpLines task), files⟩
  | .perform order =>
      if acceptsStateFile order files then
        match perform tools home order files with
        | .ok response => response
        | .error failure => ⟨.stopped failure, [], files⟩
      else ⟨.misused, [], files⟩

def run (tools : Tools) (home : FilePath) (arguments : List String) (files : Entry) : Response :=
  answer tools home (Request.ofArguments arguments) files

end PhoneAccounts.Command
