import PhoneAccounts.Proofs.StateFile.Fields
import PhoneAccounts.Proofs.StateFile.Reread

/-!
Contract: reading the document that stores a catalog.

A document is read if and only if every component in it is; then it gives the catalog that
`Catalog.rereadFrom` says, on every device and whatever scopes it was written with.  The first
component that cannot be read decides the fault.

Owns: `documentTree`, and reading it handle by handle, account by account, and as a whole.

Does not own: the text of the document, which is another layer.
-/

namespace PhoneAccounts.StateFile

open PhoneAccounts.Yaml

/-! ## Faults -/

/-- A value, unless one of some handles cannot be read; then the first of them is the fault. -/
def unlessUnreadable {Value : Type} (handles : List Handle) (value : Value) :
    Except FieldFault Value :=
  match handles.find? Handle.isUnreadable with
  | some handle => .error (.malformedComponent handle.component.flatText)
  | none => .ok value

/-- Reading goes on with further handles, if there are any. -/
theorem unlessUnreadable_bind
    {First Second : Type}
    {value : First}
    {next : First → Except FieldFault Second}
    {last : Second}
    (first second : List Handle)
    (follows : next value = unlessUnreadable second last) :
    (unlessUnreadable first value >>= next) = unlessUnreadable (first ++ second) last := by
  unfold unlessUnreadable at follows ⊢
  rw [List.find?_append]
  cases first.find? Handle.isUnreadable with
  | none => exact follows
  | some handle => rfl

/-- Reading ends with a value made of the one that was read. -/
theorem unlessUnreadable_bind_ok
    {First Second : Type}
    (handles : List Handle)
    (value : First)
    (next : First → Second) :
    (unlessUnreadable handles value >>= fun value => .ok (next value)) =
      unlessUnreadable handles (next value) := by
  unfold unlessUnreadable
  cases handles.find? Handle.isUnreadable <;> rfl

theorem unlessUnreadable_of_readable
    {Value : Type}
    {handles : List Handle}
    (value : Value)
    (readable : ∀ handle ∈ handles, handle.isUnreadable = false) :
    unlessUnreadable handles value = .ok value := by
  have absent : handles.find? Handle.isUnreadable = none := by
    rw [List.find?_eq_none]
    intro handle member
    rw [readable handle member]
    exact Bool.false_ne_true
  rw [unlessUnreadable, absent]

/-- An unreadable handle is told by the text of its component. -/
theorem unlessUnreadable_of_unreadable
    {Value : Type}
    {handles : List Handle}
    (value : Value)
    (unreadable : ∃ handle ∈ handles, handle.isUnreadable = true) :
    ∃ text, unlessUnreadable handles value = .error (.malformedComponent text) := by
  obtain ⟨handle, found⟩ := Option.isSome_iff_exists.mp (List.find?_isSome.mpr unreadable)
  exact ⟨handle.component.flatText, by rw [unlessUnreadable, found]⟩

theorem unlessUnreadable_eq_error_iff {Value : Type} (handles : List Handle) (value : Value) :
    (∃ fault, unlessUnreadable handles value = .error fault) ↔
      ∃ handle ∈ handles, handle.isUnreadable = true := by
  rw [← List.find?_isSome, unlessUnreadable]
  cases handles.find? Handle.isUnreadable <;> simp

/-! ## Handles -/

/-- The fields of a stored handle. -/
def handleFields (directory : ScopeDirectory) (handle : Handle) : List (String × Outline) :=
  [(Key.componentName, .text handle.component.flatText), (Key.id, .text handle.id)] ++
    match handle.scope with
    | none => []
    | some scope => [(Key.serialNumber, .integer (directory.serialOf scope))]

theorem readScope_handleFields
    (reader : Reader)
    (written : ScopeDirectory)
    (handle : Handle) :
    reader.readScope (Tree.get Key.serialNumber
        (Outline.entryTrees (handleFields written handle))) =
      .ok (written.rereadFrom reader.directory handle.scope) := by
  obtain ⟨component, id, scope⟩ := handle
  rw [get_entryTrees]
  cases scope <;> rfl

theorem readHandle_handleOutline
    (reader : Reader)
    (written : ScopeDirectory)
    (handle : Handle) :
    reader.readHandle (handleOutline written handle).tree =
      unlessUnreadable [handle] (some (handle.rereadFrom written reader.directory)) := by
  have component :
      readTextField Key.componentName (Outline.entryTrees (handleFields written handle)) =
        .ok (some handle.component.flatText) :=
    readTextField_entryTrees _ (by simp [handleFields])
  have id :
      readTextField Key.id (Outline.entryTrees (handleFields written handle)) =
        .ok (some handle.id) :=
    readTextField_entryTrees _ (by simp [handleFields, Key.componentName, Key.id])
  have entries : (handleOutline written handle).tree.entries? =
      some (Outline.entryTrees (handleFields written handle)) := rfl
  unfold Reader.readHandle
  simp only [entries, component, id, readScope_handleFields, Component.ofText?_flatText,
    bind, Except.bind]
  by_cases unreadable : handle.component.isUnreadable = true
  · simp [unlessUnreadable, Handle.isUnreadable, unreadable]
  · simp [unlessUnreadable, Handle.isUnreadable, Handle.rereadFrom, unreadable]

theorem readHandleField_entryTrees
    (reader : Reader)
    {written : ScopeDirectory}
    {name : String}
    {fields : List (String × Outline)}
    (handle : Option Handle)
    (field : field? name fields = handle.map (handleOutline written)) :
    reader.readHandleField name (Outline.entryTrees fields) =
      unlessUnreadable handle.toList
        (handle.map (Handle.rereadFrom written reader.directory)) := by
  rw [Reader.readHandleField, get_entryTrees, field]
  cases handle with
  | none => rfl
  | some handle => exact readHandle_handleOutline reader written handle

/-! ## Icons -/

/-- The payload of an icon. -/
def payloadOf (icon : Option Icon) : Option (List UInt8) :=
  icon.bind Icon.payload

/-- The icon, if it is a reference. -/
def referenceOf (icon : Option Icon) : Option Icon :=
  icon.bind fun icon => if icon.isResource then some icon else none

theorem field?_iconFields (name : String) (icon : Option Icon) :
    field? name (iconFields icon) =
      if Key.icon = name then
        (payloadOf icon).map fun payload => .text (String.ofList (Text.Base64.encode payload))
      else if Key.iconPackage = name then ((referenceOf icon).bind Icon.package).map .text
      else if Key.iconResource = name then ((referenceOf icon).map Icon.resourceId).map .integer
      else if Key.iconTint = name then ((referenceOf icon).map Icon.tint).map .integer
      else none := by
  cases icon with
  | none => simp [iconFields, payloadOf, referenceOf]
  | some icon =>
      obtain ⟨payload, package, resourceId, tint⟩ := icon
      -- A payload is written alone; a reference takes three fields, or none without a name.
      cases payload with
      | some payload => simp [iconFields, payloadOf, referenceOf, Icon.isResource]
      | none =>
          cases package with
          | none => simp [iconFields, payloadOf, referenceOf, Icon.isResource]
          | some package =>
              by_cases named : package = ""
              · simp [iconFields, payloadOf, referenceOf, Icon.isResource, named]
              · by_cases isIcon : Key.icon = name
                · subst isIcon
                  simp [iconFields, payloadOf, named, Key.icon, Key.iconPackage,
                    Key.iconResource, Key.iconTint]
                · simp [iconFields, referenceOf, Icon.isResource, named, isIcon]

/-! ## Accounts -/

/-- The fields of a stored account. -/
def accountFields (directory : ScopeDirectory) (account : Account) : List (String × Outline) :=
  [(Key.handle, handleOutline directory account.handle)] ++
    optionalText Key.address account.address ++
    optionalText Key.subscriptionAddress account.subscriptionAddress ++
    [(Key.capabilities, .integer account.capabilities)] ++
    iconFields account.icon ++
    [(Key.highlightColor, .integer account.highlightColor)] ++
    optionalText Key.label account.label ++
    optionalText Key.shortDescription account.shortDescription ++
    [(Key.schemes, schemesOutline account.schemes), (Key.enabled, .flag account.enabled)]

/-- Under each key stands what was written for it, and nothing under the key of older files. -/
theorem field?_accountFields (directory : ScopeDirectory) (account : Account) :
    field? Key.handle (accountFields directory account) =
        some (handleOutline directory account.handle) ∧
      field? Key.address (accountFields directory account) = account.address.map .text ∧
      field? Key.subscriptionAddress (accountFields directory account) =
        account.subscriptionAddress.map .text ∧
      field? Key.capabilities (accountFields directory account) =
        some (.integer account.capabilities) ∧
      field? Key.icon (accountFields directory account) =
        (payloadOf account.icon).map (fun payload =>
          .text (String.ofList (Text.Base64.encode payload))) ∧
      field? Key.iconBitmap (accountFields directory account) = none ∧
      field? Key.iconPackage (accountFields directory account) =
        ((referenceOf account.icon).bind Icon.package).map .text ∧
      field? Key.iconResource (accountFields directory account) =
        ((referenceOf account.icon).map Icon.resourceId).map .integer ∧
      field? Key.iconTint (accountFields directory account) =
        ((referenceOf account.icon).map Icon.tint).map .integer ∧
      field? Key.highlightColor (accountFields directory account) =
        some (.integer account.highlightColor) ∧
      field? Key.label (accountFields directory account) = account.label.map .text ∧
      field? Key.shortDescription (accountFields directory account) =
        account.shortDescription.map .text ∧
      field? Key.schemes (accountFields directory account) =
        some (schemesOutline account.schemes) ∧
      field? Key.enabled (accountFields directory account) = some (.flag account.enabled) := by
  simp [accountFields, field?_iconFields, Key.handle, Key.address, Key.subscriptionAddress,
    Key.capabilities, Key.icon, Key.iconBitmap, Key.iconPackage, Key.iconResource, Key.iconTint,
    Key.highlightColor, Key.label, Key.shortDescription, Key.schemes, Key.enabled]

/-- The stored account that is read from the fields of an account. -/
def storedOf (handle : Handle) (account : Account) : StoredAccount :=
  { handle := handle
    address := account.address
    subscriptionAddress := account.subscriptionAddress
    capabilities := account.capabilities
    iconPayload := payloadOf account.icon
    iconPackage := (referenceOf account.icon).bind Icon.package
    iconResource := ((referenceOf account.icon).map Icon.resourceId).getD Icon.noResource
    iconTint := ((referenceOf account.icon).map Icon.tint).getD Icon.noTint
    highlightColor := account.highlightColor
    label := account.label
    shortDescription := account.shortDescription
    schemes := some account.schemes
    enabled := account.enabled }

theorem readStoredAccount_accountFields
    (directory : ScopeDirectory)
    (handle : Handle)
    (account : Account) :
    readStoredAccount handle (Outline.entryTrees (accountFields directory account)) =
      .ok (storedOf handle account) := by
  obtain ⟨-, address, subscriptionAddress, capabilities, icon, bitmap, package, resource, tint,
    color, label, description, schemes, enabled⟩ := field?_accountFields directory account
  have schemesTree : Tree.get Key.schemes (Outline.entryTrees (accountFields directory account)) =
      (schemesOutline account.schemes).tree := by
    rw [get_entryTrees, schemes]
    rfl
  have enabledTree :
      Tree.find? Key.enabled (Outline.entryTrees (accountFields directory account)) =
        some (.boolean account.enabled) := by
    rw [find?_entryTrees, enabled]
    rfl
  unfold readStoredAccount
  simp only [schemesTree, readCountedList_schemesOutline,
    readTextField_entryTrees _ address, readTextField_entryTrees _ subscriptionAddress,
    readIntegerOr_entryTrees 0 (some account.capabilities) capabilities,
    readPayload_entryTrees _ icon, readPayload_entryTrees none bitmap,
    readTextField_entryTrees _ package, readIntegerOr_entryTrees Icon.noResource _ resource,
    readIntegerOr_entryTrees Icon.noTint _ tint,
    readIntegerOr_entryTrees Account.noHighlight (some account.highlightColor) color,
    readTextField_entryTrees _ label, readTextField_entryTrees _ description, enabledTree]
  rfl

theorem icon?_storedOf (handle : Handle) (account : Account) :
    (storedOf handle account).icon? = account.icon.bind Icon.reread? := by
  obtain ⟨_, _, _, _, _, icon, _, _, _, _⟩ := account
  cases icon with
  | none => rfl
  | some icon =>
      obtain ⟨payload, package, resourceId, tint⟩ := icon
      cases payload with
      | some payload => rfl
      | none =>
          cases package with
          | none => rfl
          | some package =>
              by_cases named : package = ""
              · simp [storedOf, StoredAccount.icon?, payloadOf, referenceOf, Icon.reread?,
                  Icon.isResource, named]
              · simp [storedOf, StoredAccount.icon?, payloadOf, referenceOf, Icon.reread?,
                  Icon.isResource, Icon.ofResource, named]

theorem toAccount_storedOf (written directory : ScopeDirectory) (account : Account) :
    (storedOf (account.handle.rereadFrom written directory) account).toAccount =
      account.rereadFrom written directory := by
  rw [StoredAccount.toAccount, icon?_storedOf]
  rfl

/-- What the current version wrote is not upgraded. -/
theorem upgrade_currentVersion (context : UpgradeContext) (stored : StoredAccount) :
    stored.upgrade context currentVersion = stored :=
  rfl

theorem readAccount_accountOutline
    (reader : Reader)
    (written : ScopeDirectory)
    (account : Account) :
    reader.readAccount currentVersion (accountOutline written account).tree =
      unlessUnreadable [account.handle]
        (some (account.rereadFrom written reader.directory)) := by
  have entries : (accountOutline written account).tree.entries? =
      some (Outline.entryTrees (accountFields written account)) := rfl
  have handleRead :
      reader.readHandleField Key.handle
          (Outline.entryTrees (accountFields written account)) =
        unlessUnreadable [account.handle]
          (some (account.handle.rereadFrom written reader.directory)) :=
    readHandleField_entryTrees reader (some account.handle)
      (field?_accountFields written account).1
  unfold Reader.readAccount
  simp only [entries, handleRead]
  apply unlessUnreadable_bind [account.handle] []
  simp only [readStoredAccount_accountFields, bind, Except.bind, upgrade_currentVersion,
    toAccount_storedOf]
  rfl

theorem readAccounts_accountOutlines
    (reader : Reader)
    (written : ScopeDirectory)
    (accounts : List Account) :
    reader.readAccounts currentVersion
        (Outline.itemTrees (accounts.map (accountOutline written))) =
      unlessUnreadable (accounts.map Account.handle)
        (accounts.map (Account.rereadFrom written reader.directory)) := by
  induction accounts with
  | nil => rfl
  | cons account rest inductionHypothesis =>
      simp only [List.map_cons, Outline.itemTrees, Reader.readAccounts]
      rw [readAccount_accountOutline, inductionHypothesis]
      apply unlessUnreadable_bind [account.handle]
      exact unlessUnreadable_bind_ok _ _ _

/-! ## Catalogs -/

theorem field?_bodyFields (directory : ScopeDirectory) (catalog : Catalog) :
    field? Key.version (bodyFields directory catalog) = some (.integer currentVersion) ∧
      field? Key.defaultOutgoing (bodyFields directory catalog) =
        catalog.defaultOutgoing.map (handleOutline directory) ∧
      field? Key.simCallManager (bodyFields directory catalog) =
        catalog.simCallManager.map (handleOutline directory) ∧
      field? Key.accounts (bodyFields directory catalog) =
        some (.sequence (catalog.accounts.map (accountOutline directory))) := by
  simp [bodyFields, Key.version, Key.defaultOutgoing, Key.simCallManager, Key.accounts]

theorem readBody_bodyFields
    (reader : Reader)
    (written : ScopeDirectory)
    (catalog : Catalog) :
    reader.readBody (Outline.entryTrees (bodyFields written catalog)) =
      unlessUnreadable catalog.storedHandles
        (catalog.rereadFrom written reader.directory reader.processScope) := by
  obtain ⟨version, defaultOutgoing, simCallManager, accounts⟩ :=
    field?_bodyFields written catalog
  have versionRead :
      readVersion (Tree.get Key.version
        (Outline.entryTrees (bodyFields written catalog))) = .ok currentVersion := by
    rw [get_entryTrees, version]
    rfl
  have accountsTree :
      Tree.get Key.accounts (Outline.entryTrees (bodyFields written catalog)) =
        .sequence (Outline.itemTrees (catalog.accounts.map (accountOutline written))) := by
    rw [get_entryTrees, accounts]
    rfl
  have manager :
      (catalog.simCallManager.map (Handle.rereadFrom written reader.directory)).map
          reader.ownManager =
        catalog.simCallManager.map fun handle =>
          (handle.rereadFrom written reader.directory).adopted reader.processScope := by
    rw [Option.map_map]
    congr 1
    funext handle
    exact reader.ownManager_eq_adopted _
  -- The handles are read in the order of `storedHandles`, each bind adding its own.
  unfold Reader.readBody Catalog.storedHandles
  simp only [versionRead, accountsTree, items?_sequence]
  show (reader.readHandleField _ _ >>= _) = _
  rw [readHandleField_entryTrees reader _ defaultOutgoing]
  apply unlessUnreadable_bind
  rw [readHandleField_entryTrees reader _ simCallManager]
  apply unlessUnreadable_bind
  rw [readAccounts_accountOutlines, unlessUnreadable_bind_ok, manager]
  rfl

/-- The tree of the document that stores a catalog. -/
def documentTree (directory : ScopeDirectory) (catalog : Catalog) : Tree :=
  (Outline.mapping (document directory catalog)).tree

/-- A catalog stored with any directory is read as `Catalog.rereadFrom` says, unless a
component cannot be read. -/
theorem decodeTree_documentTree
    (reader : Reader)
    (written : ScopeDirectory)
    (catalog : Catalog) :
    reader.decodeTree (documentTree written catalog) =
      unlessUnreadable catalog.storedHandles
        (some (catalog.rereadFrom written reader.directory reader.processScope)) := by
  have root :
      Tree.find? Key.root (Outline.entryTrees (document written catalog)) =
        some (.mapping (Outline.entryTrees (bodyFields written catalog))) := by
    rw [find?_entryTrees]
    rfl
  have body :
      (if (Tree.mapping (Outline.entryTrees (bodyFields written catalog))).isEmpty then
        some []
      else (Tree.mapping (Outline.entryTrees (bodyFields written catalog))).entries?) =
        some (Outline.entryTrees (bodyFields written catalog)) := rfl
  unfold documentTree Reader.decodeTree
  simp only [Outline.tree, root, body, readBody_bodyFields]
  exact unlessUnreadable_bind_ok _ _ some

/-- Storing a catalog and reading it again fails exactly when the flat form of one of its
components has nothing behind its only slash.  Otherwise it gives the catalog with its
handles, scopes and icons as they are read back, on every device and for every context of
upgrades, and no upgrade takes part. -/
theorem stored_catalog_reads_back (reader : Reader) (catalog : Catalog) :
    ((∃ fault, reader.decodeTree (documentTree reader.directory catalog) = .error fault) ↔
        ∃ handle ∈ catalog.storedHandles,
          handle.component.className = "" ∧ '/' ∉ handle.component.package.toList) ∧
      ((¬ ∃ handle ∈ catalog.storedHandles,
          handle.component.className = "" ∧ '/' ∉ handle.component.package.toList) →
        reader.decodeTree (documentTree reader.directory catalog) =
          .ok (some (catalog.reread reader.directory reader.processScope))) ∧
      ∀ stored : StoredAccount, stored.upgrade reader.upgrades currentVersion = stored := by
  have unreadable (handle : Handle) :
      (handle.component.className = "" ∧ '/' ∉ handle.component.package.toList) ↔
        handle.isUnreadable = true := by
    simp [Handle.isUnreadable, Component.isUnreadable]
  simp only [unreadable, decodeTree_documentTree, Catalog.rereadFrom_self]
  refine ⟨unlessUnreadable_eq_error_iff _ _, ?_, upgrade_currentVersion reader.upgrades⟩
  intro readable
  apply unlessUnreadable_of_readable
  intro handle member
  exact Bool.eq_false_iff.mpr fun isUnreadable => readable ⟨handle, member, isUnreadable⟩

end PhoneAccounts.StateFile
