import PhoneAccounts.Catalog
import PhoneAccounts.Device.ScopeDirectory
import PhoneAccounts.StateFile.Keys
import PhoneAccounts.StateFile.Upgrade
import PhoneAccounts.Text.Base64
import PhoneAccounts.Tree.Display
import PhoneAccounts.Yaml.Meaning

/-!
Contract: the catalog that a document stores.

A document without the root key is no state file.  One with it is read field by field;
the first field that cannot be read decides the fault.  Unknown keys mean nothing.  A fault is
put into words at once, and the words can show an integer that cannot be written.

Owns: `FieldFault` with its wording, `Reader`, `decodeTree`, `decodeDocument`, and `decodeWith`
any parser of the markup.

Does not own: the markup (see `PhoneAccounts.Yaml.Meaning`), and what a faulty file means
(see `PhoneAccounts.StateFile.Store`).
-/

namespace PhoneAccounts.StateFile

/-- What is wrong with a field. -/
inductive FieldFault where
  | bodyIsNoMapping
  | accountsAreNoList
  | accountIsNoMapping
  | handleIsNoMapping
  | malformedComponent (text : String)
  | noInteger (field : String) (value : Tree)
  | noText (field : String) (value : Tree)
  | noFlag (field : String) (value : Tree)
  | noPayload (field : String) (value : Tree)
  | brokenPayload (field : String)
  | noCountedList (field : String)
  | wrongLength (field : String) (length : Int)

namespace FieldFault

/-- A field's name, what was expected, and the value that was found. -/
def expected (field : String) (kind : String) (value : Tree) : String :=
  field ++ ": expected " ++ kind ++ ", got " ++ String.ofList value.display

def message : FieldFault → String
  | .bodyIsNoMapping => Key.root ++ " must be a mapping"
  | .accountsAreNoList => Key.accounts ++ " must be a list"
  | .accountIsNoMapping => "account must be a mapping"
  | .handleIsNoMapping => "account handle must be a mapping"
  | .malformedComponent text =>
      "Malformed component name: " ++ String.ofList (Text.quoteText text.toList)
  | .noInteger field value => expected field "integer" value
  | .noText field value => expected field "string" value
  | .noFlag field value => expected field "boolean" value
  | .noPayload field value => field ++ ": expected base64 text, got " ++ value.kindName
  | .brokenPayload field => field ++ ": invalid base64 payload"
  | .noCountedList field => field ++ ": expected a length-prefixed list"
  | .wrongLength field length =>
      field ++ ": declared length " ++ String.ofList (Text.integerText length) ++
        " does not match values"

/-- The value that the wording shows. -/
def shown? : FieldFault → Option Tree
  | .noInteger _ value => some value
  | .noText _ value => some value
  | .noFlag _ value => some value
  | .wrongLength _ length => some (.integer length)
  | _ => none

/-- The fault can be put into words. -/
def isWritable (fault : FieldFault) : Bool :=
  fault.shown?.all Tree.isWritable

end FieldFault

/-- Why a file gives no catalog: its markup cannot be read, a field cannot, or the fault of a
field cannot be put into words. -/
inductive DecodeFault where
  | markup (fault : Yaml.Fault)
  | field (fault : FieldFault)
  | longInteger

/-- What a file is read against: the scopes of the device, the scope of the process, and
the facts that upgrades need. -/
structure Reader where
  directory : ScopeDirectory
  processScope : Scope
  upgrades : UpgradeContext
deriving DecidableEq, Repr

/-! ## Single fields -/

/-- An integer, or a text that writes one.  A flag is none. -/
def readInteger (field : String) : Tree → Except FieldFault Int
  | .integer value => .ok value
  | .text value =>
      match Text.readInteger? value.toList with
      | some integer => .ok integer
      | none => .error (.noInteger field (.text value))
  | value => .error (.noInteger field value)

/-- An integer, or a default where the key is missing. -/
def readIntegerOr
    (default : Int)
    (field : String)
    (entries : List (Tree × Tree)) :
    Except FieldFault Int :=
  match Tree.find? field entries with
  | none => .ok default
  | some value => readInteger field value

def readText (field : String) : Tree → Except FieldFault (Option String)
  | .null => .ok none
  | .text value => .ok (some value)
  | value => .error (.noText field value)

def readTextField (field : String) (entries : List (Tree × Tree)) :
    Except FieldFault (Option String) :=
  readText field (Tree.get field entries)

/-- A flag, or one of the two words in any case. -/
def readFlag (field : String) : Tree → Except FieldFault Bool
  | .boolean value => .ok value
  | .text value =>
      let word := value.toList.map Char.toLower
      if word = ['t', 'r', 'u', 'e'] then .ok true
      else if word = ['f', 'a', 'l', 's', 'e'] then .ok false
      else .error (.noFlag field (.text value))
  | value => .error (.noFlag field value)

/-- A payload: bytes, or a text that writes them. -/
def readPayload (field : String) : Tree → Except FieldFault (Option (List UInt8))
  | .null => .ok none
  | .bytes value => .ok (some value)
  | .text value =>
      match Text.Base64.decodeStrict? value.toList with
      | some bytes => .ok (some bytes)
      | none => .error (.brokenPayload field)
  | value => .error (.noPayload field value)

/-- Texts, with nothing read as the empty text. -/
def readTexts (field : String) : List Tree → Except FieldFault (List String)
  | [] => .ok []
  | value :: rest => do
      let text ← readText field value
      let texts ← readTexts field rest
      .ok (text.getD "" :: texts)

def readCountedList (field : String) (value : Tree) : Except FieldFault (List String) := do
  match value.entries? with
  | none => .error (.noCountedList field)
  | some entries =>
      let length ← match Tree.find? Key.length entries with
        | none => .ok 0
        | some value => readInteger (field ++ "." ++ Key.length) value
      let values := Tree.get Key.values entries
      match if values.isEmpty then some [] else values.items? with
      | none => .error (.wrongLength field length)
      | some items =>
          if (items.length : Int) = length then readTexts field items
          else .error (.wrongLength field length)

/-! ## Handles -/

/-- The scope with a serial number, if the number is there and known. -/
def Reader.readScope (reader : Reader) (value : Tree) : Except FieldFault (Option Scope) :=
  if value.isNull then .ok none
  else do
    let serial ← readInteger Key.serialNumber value
    .ok (reader.directory.scopeOf? serial)

/-- A handle; none if it names no component, and then nothing else in it counts. -/
def Reader.readHandle (reader : Reader) (value : Tree) : Except FieldFault (Option Handle) := do
  match value.entries? with
  | none => .error .handleIsNoMapping
  | some entries =>
      match ← readTextField Key.componentName entries with
      | none => .ok none
      | some text =>
          match Component.ofText? text with
          | none => .error (.malformedComponent text)
          | some component => do
              let scope ← reader.readScope (Tree.get Key.serialNumber entries)
              let id ← readTextField Key.id entries
              .ok (some ⟨component, id.getD "", scope⟩)

def Reader.readHandleField
    (reader : Reader)
    (field : String)
    (entries : List (Tree × Tree)) :
    Except FieldFault (Option Handle) :=
  let value := Tree.get field entries
  if value.isNull then .ok none else reader.readHandle value

/-- Puts a manager that names no scope under the scope of the process; an explicit choice
of none stays without one. -/
def Reader.ownManager (reader : Reader) (handle : Handle) : Handle :=
  if handle.scope.isNone && !handle.isNoneSelected then
    handle.withScope (some reader.processScope)
  else handle

/-! ## Accounts -/

def readStoredAccount (handle : Handle) (entries : List (Tree × Tree)) :
    Except FieldFault StoredAccount := do
  let schemeTree := Tree.get Key.schemes entries
  let schemes ←
    if schemeTree.isNull then .ok none
    else (readCountedList Key.schemes schemeTree).map some
  let address ← readTextField Key.address entries
  let subscriptionAddress ← readTextField Key.subscriptionAddress entries
  let capabilities ← readIntegerOr 0 Key.capabilities entries
  let iconPayload ← readPayload Key.icon (Tree.get Key.icon entries)
  let iconBitmap ← readPayload Key.iconBitmap (Tree.get Key.iconBitmap entries)
  let iconPackage ← readTextField Key.iconPackage entries
  let iconResource ← readIntegerOr Icon.noResource Key.iconResource entries
  let iconTint ← readIntegerOr Icon.noTint Key.iconTint entries
  let highlightColor ← readIntegerOr Account.noHighlight Key.highlightColor entries
  let label ← readTextField Key.label entries
  let shortDescription ← readTextField Key.shortDescription entries
  let enabled ← match Tree.find? Key.enabled entries with
    | none => .ok false
    | some value => readFlag Key.enabled value
  .ok {
    handle := handle
    address := address
    subscriptionAddress := subscriptionAddress
    capabilities := capabilities
    iconPayload := iconPayload
    iconBitmap := iconBitmap
    iconPackage := iconPackage
    iconResource := iconResource
    iconTint := iconTint
    highlightColor := highlightColor
    label := label
    shortDescription := shortDescription
    schemes := schemes
    enabled := enabled }

/-- An account of a file of some version; none if it has no handle. -/
def Reader.readAccount (reader : Reader) (version : Int) (value : Tree) :
    Except FieldFault (Option Account) := do
  match value.entries? with
  | none => .error .accountIsNoMapping
  | some entries =>
      match ← reader.readHandleField Key.handle entries with
      | none => .ok none
      | some handle => do
          let stored ← readStoredAccount handle entries
          .ok (some (stored.upgrade reader.upgrades version).toAccount)

/-- The accounts of a file; those without a handle are left out. -/
def Reader.readAccounts (reader : Reader) (version : Int) :
    List Tree → Except FieldFault (List Account)
  | [] => .ok []
  | value :: rest => do
      let account ← reader.readAccount version value
      let accounts ← reader.readAccounts version rest
      .ok (account.toList ++ accounts)

/-! ## Catalogs -/

/-- Version of a file that does not say its version. -/
def firstVersion : Int := 1

def readVersion (value : Tree) : Except FieldFault Int :=
  if value.isNull || Tree.isTextKey "" value then .ok firstVersion
  else readInteger Key.version value

def Reader.readBody (reader : Reader) (entries : List (Tree × Tree)) :
    Except FieldFault Catalog := do
  let version ← readVersion (Tree.get Key.version entries)
  let defaultOutgoing ← reader.readHandleField Key.defaultOutgoing entries
  let simCallManager ← reader.readHandleField Key.simCallManager entries
  let accountsTree := Tree.get Key.accounts entries
  match if accountsTree.isEmpty then some [] else accountsTree.items? with
  | none => .error .accountsAreNoList
  | some items => do
      let accounts ← reader.readAccounts version items
      .ok {
        defaultOutgoing := defaultOutgoing
        simCallManager := simCallManager.map reader.ownManager
        accounts := accounts
        version := version }

/-- The catalog that a tree stores; none if the tree is no state file. -/
def Reader.decodeTree (reader : Reader) (tree : Tree) : Except FieldFault (Option Catalog) :=
  match tree with
  | .mapping entries =>
      match Tree.find? Key.root entries with
      | none => .ok none
      | some body =>
          match if body.isEmpty then some [] else body.entries? with
          | none => .error .bodyIsNoMapping
          | some entries => (reader.readBody entries).map some
  | _ => .ok none

/-- The catalog that a document stores, or the fault in it as far as there are words for it. -/
def Reader.decodeDocument (reader : Reader) (tree : Tree) :
    Except DecodeFault (Option Catalog) :=
  match reader.decodeTree tree with
  | .error fault => .error (if fault.isWritable then .field fault else .longInteger)
  | .ok catalog => .ok catalog

/-- The catalog that a file stores, as a parser reads it; none if the file is no state file. -/
def Reader.decodeWith (reader : Reader) (parser : Yaml.Parser) (bytes : List UInt8) :
    Except DecodeFault (Option Catalog) :=
  match parser bytes with
  | .error fault => .error (.markup fault)
  | .ok tree => reader.decodeDocument tree

def Reader.decode (reader : Reader) (bytes : List UInt8) :
    Except DecodeFault (Option Catalog) :=
  reader.decodeWith Yaml.treeOfBytes? bytes

end PhoneAccounts.StateFile
