import PhoneAccounts.Catalog
import PhoneAccounts.Device.ScopeDirectory
import PhoneAccounts.StateFile.Keys
import PhoneAccounts.Text.Base64
import PhoneAccounts.Text.Utf8
import PhoneAccounts.Yaml.Layout.Outline

/-!
Contract: the document that stores a catalog.

The current version is written whatever the version of the catalog.  Scopes are written
by their serial numbers, and fields without a value are left out.  A catalog with an integer
that cannot be written has no bytes.

Owns: `document`, `encode` and `encode?`.

Does not own: the look of the text (see `PhoneAccounts.Yaml.Layout.Outline`).
-/

namespace PhoneAccounts.StateFile

open PhoneAccounts.Yaml

/-- A field that is written only if there is a value. -/
def optionalText (key : String) : Option String → List (String × Outline)
  | none => []
  | some value => [(key, .text value)]

def handleOutline (directory : ScopeDirectory) (handle : Handle) : Outline :=
  .mapping ([
    (Key.componentName, .text handle.component.flatText),
    (Key.id, .text handle.id)] ++
    match handle.scope with
    | none => []
    | some scope => [(Key.serialNumber, .integer (directory.serialOf scope))])

def optionalHandle (directory : ScopeDirectory) (key : String) :
    Option Handle → List (String × Outline)
  | none => []
  | some handle => [(key, handleOutline directory handle)]

/-- The fields of an icon: the payload as text, or the three numbers and names of a
reference. -/
def iconFields : Option Icon → List (String × Outline)
  | none => []
  | some icon =>
      match icon.payload, icon.package with
      | some payload, _ => [(Key.icon, .text (String.ofList (Text.Base64.encode payload)))]
      | none, some package =>
          if package = "" then []
          else [
            (Key.iconPackage, .text package),
            (Key.iconResource, .integer icon.resourceId),
            (Key.iconTint, .integer icon.tint)]
      | none, none => []

/-- The schemes, with their number in front. -/
def schemesOutline (schemes : List String) : Outline :=
  .mapping [
    (Key.length, .integer schemes.length),
    (Key.values, .sequence (schemes.map .text))]

def accountOutline (directory : ScopeDirectory) (account : Account) : Outline :=
  .mapping (
    [(Key.handle, handleOutline directory account.handle)] ++
    optionalText Key.address account.address ++
    optionalText Key.subscriptionAddress account.subscriptionAddress ++
    [(Key.capabilities, .integer account.capabilities)] ++
    iconFields account.icon ++
    [(Key.highlightColor, .integer account.highlightColor)] ++
    optionalText Key.label account.label ++
    optionalText Key.shortDescription account.shortDescription ++
    [(Key.schemes, schemesOutline account.schemes),
      (Key.enabled, .flag account.enabled)])

def bodyFields (directory : ScopeDirectory) (catalog : Catalog) : List (String × Outline) :=
  [(Key.version, .integer currentVersion)] ++
  optionalHandle directory Key.defaultOutgoing catalog.defaultOutgoing ++
  optionalHandle directory Key.simCallManager catalog.simCallManager ++
  [(Key.accounts, .sequence (catalog.accounts.map (accountOutline directory)))]

/-- The entries of the root of the document that stores a catalog. -/
def document (directory : ScopeDirectory) (catalog : Catalog) : List (String × Outline) :=
  [(Key.root, .mapping (bodyFields directory catalog))]

def encodeText (directory : ScopeDirectory) (catalog : Catalog) : List Char :=
  Outline.documentText (document directory catalog)

/-- The bytes of the document, as far as its integers can be written. -/
def encode (directory : ScopeDirectory) (catalog : Catalog) : List UInt8 :=
  Text.Utf8.encode (encodeText directory catalog)

/-- The catalog can be written out. -/
def isWritable (directory : ScopeDirectory) (catalog : Catalog) : Bool :=
  (Outline.mapping (document directory catalog)).isWritable

/-- The bytes of the document that stores a catalog, if it can be written out. -/
def encode? (directory : ScopeDirectory) (catalog : Catalog) : Option (List UInt8) :=
  if isWritable directory catalog then some (encode directory catalog) else none

end PhoneAccounts.StateFile
