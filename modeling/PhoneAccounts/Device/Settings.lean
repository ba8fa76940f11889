import PhoneAccounts.Component
import PhoneAccounts.Device.FileTree
import PhoneAccounts.Tree.Display
import PhoneAccounts.Yaml.Meaning

/-!
Contract: the settings of a device, and reading them from a file.

A setting that is missing or empty keeps its default.  The settings are read in a fixed
order, and the first one that cannot be used decides the fault.  A value that has to be taken
or shown as text can hold an integer that cannot be written.

Owns: `Settings`, `SettingsFault` with its wording, and `Settings.loadWith` any parser of the
markup.

Does not own: what the settings are used for.
-/

namespace PhoneAccounts

/-- What a device is set to: where the catalog is kept, the component that manages
connections unless another is chosen, which calls go over the internet, and the component
of the older call service over the internet. -/
structure Settings where
  stateFile : FilePath
  defaultManager : String
  sipOption : Option String
  legacySip : Component
deriving DecidableEq, Repr

namespace Settings

/-- Calls to internet addresses only. -/
def sipAddressOnly : String := "SIP_ADDRESS_ONLY"

def sipAlways : String := "SIP_ALWAYS"

def sipAskEachTime : String := "SIP_ASK_ME_EACH_TIME"

/-- The choices of which calls go over the internet. -/
def sipOptions : List String := [sipAddressOnly, sipAlways, sipAskEachTime]

/-- The call service over the internet from before accounts named their schemes. -/
def usualLegacySip : Component :=
  ⟨"com.android.phone", "com.android.services.telephony.sip.SipConnectionService"⟩

/-- Where the catalog is kept below the home directory. -/
def usualStateFile : FilePath :=
  ⟨0, [".phonereg", "phone-account-registrar-state.yaml"]⟩

/-- The settings of a device whose file says nothing. -/
def usual (home : FilePath) : Settings :=
  ⟨home.append usualStateFile, "", none, usualLegacySip⟩

def sipForAllCalls (settings : Settings) : Bool :=
  settings.sipOption = some sipAlways

end Settings

/-- Why the settings could not be read. -/
inductive SettingsFault where
  | unreadable (path : String)
  | badEncoding
  | markup (fault : Yaml.Fault)
  | noMapping (path : String)
  | stateFileIsNoText
  | unknownHome
  | optionIsCollection
  | unknownOption (value : Tree)
  | badLegacySip (value : Tree)
  | longInteger

/-- The fault in words.  The faults that are not about the settings themselves have none. -/
def SettingsFault.message? : SettingsFault → Option String
  | .unreadable path => some ("Cannot read config " ++ path)
  | .noMapping path => some ("Config " ++ path ++ " must be a mapping")
  | .unknownOption value => some ("Unknown sip_call_option: " ++ String.ofList value.display)
  | .badLegacySip value => some ("Invalid legacy_sip_component: " ++ String.ofList value.display)
  | .badEncoding => none
  | .markup _ => none
  | .stateFileIsNoText => none
  | .unknownHome => none
  | .optionIsCollection => none
  | .longInteger => none

namespace Settings

/-- The text with every line break as a line feed. -/
def unifyBreaks : List Char → List Char
  | [] => []
  | '\r' :: '\n' :: rest => '\n' :: unifyBreaks rest
  | '\r' :: rest => '\n' :: unifyBreaks rest
  | char :: rest => char :: unifyBreaks rest

def readStateFile (home : FilePath) (value : Tree) : Except SettingsFault FilePath :=
  if value.isEmpty then .ok (home.append usualStateFile)
  else
    match value with
    | .text text =>
        match (FilePath.ofText text).expandHome? home with
        | some path => .ok path
        | none => .error .unknownHome
    | _ => .error .stateFileIsNoText

/-- A value taken as text. -/
def readPlainText (value : Tree) : Except SettingsFault String :=
  if value.isWritable then .ok (String.ofList value.plainText) else .error .longInteger

/-- The default manager: any value, taken as text. -/
def readManager (value : Tree) : Except SettingsFault String :=
  if value.isEmpty then .ok "" else readPlainText value

/-- The choice of which calls go over the internet; null is no choice. -/
def readSipOption (value : Tree) : Except SettingsFault (Option String) :=
  match value with
  | .null => .ok none
  | .text text =>
      if sipOptions.contains text then .ok (some text) else .error (.unknownOption value)
  | .sequence _ | .mapping _ | .cycle _ => .error .optionIsCollection
  | value => .error (if value.isWritable then .unknownOption value else .longInteger)

/-- The older call service over the internet. -/
def readLegacySip (value : Tree) : Except SettingsFault Component :=
  if value.isEmpty then .ok usualLegacySip
  else do
    match Component.ofText? (← readPlainText value) with
    | some component => .ok component
    | none => .error (.badLegacySip value)

def ofEntries (home : FilePath) (entries : List (Tree × Tree)) :
    Except SettingsFault Settings := do
  let stateFile ← readStateFile home (Tree.get "state_file" entries)
  let defaultManager ← readManager (Tree.get "default_connection_manager" entries)
  let sipOption ← readSipOption (Tree.get "sip_call_option" entries)
  let legacySip ← readLegacySip (Tree.get "legacy_sip_component" entries)
  .ok ⟨stateFile, defaultManager, sipOption, legacySip⟩

/-- The settings that a tree gives; `path` is named in the fault. -/
def ofTree (home : FilePath) (path : String) (tree : Tree) : Except SettingsFault Settings :=
  match if tree.isEmpty then some [] else tree.entries? with
  | none => .error (.noMapping path)
  | some entries => ofEntries home entries

/-- Why a file gives no tree of settings: it is no text, or its markup cannot be read. -/
inductive TextFault where
  | badEncoding
  | markup (fault : Yaml.Fault)
deriving DecidableEq, Repr

/-- What makes a tree of the bytes of a file of settings, or says why they hold none. -/
abbrev Parser := List UInt8 → Except TextFault Tree

/-- The tree of a text, whatever its line breaks are. -/
def treeOfText? (bytes : List UInt8) : Except TextFault Tree :=
  match Text.Utf8.decode? bytes with
  | none => .error .badEncoding
  | some chars =>
      (Yaml.allowedChars? (unifyBreaks chars) >>= Yaml.treeOfChars?).mapError .markup

/-- What a file means for the settings that gives no tree; `path` is named in the fault. -/
def faultOf (path : String) : TextFault → SettingsFault
  | .badEncoding => .badEncoding
  | .markup .unparseable => .unreadable path
  | .markup fault => .markup fault

/-- Loads the settings from the file at a path, as a parser reads it.  A path that ends in a
slash is never that of a file. -/
def loadWith (parser : Parser) (home : FilePath) (path : String) (files : Entry) :
    Except SettingsFault Settings :=
  if path.toList.getLast? = some '/' then .error (.unreadable path)
  else
    match files.read (FilePath.ofText path).parts with
    | .error _ => .error (.unreadable path)
    | .ok bytes => do
        let tree ← (parser bytes).mapError (faultOf path)
        ofTree home path tree

def load (home : FilePath) (path : String) (files : Entry) : Except SettingsFault Settings :=
  loadWith treeOfText? home path files

end Settings

end PhoneAccounts
