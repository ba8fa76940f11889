import PhoneAccounts.Proofs.StateFile.RoundTrip
import PhoneAccounts.Proofs.Yaml.Outline
import PhoneAccounts.StateFile.Store

/-!
Contract: the catalogs that a file gives back as they are.

What is lost on the way is the form of a component, a scope without a serial number of its
own, and an icon that shows nothing.  A catalog without such parts is loaded as it was saved,
provided that the text of its document is read as the tree that was written.

Owns: `Storable` for handles, accounts and catalogs, `ReadsBack`, and loading such a catalog.

Does not own: when the text is read as the tree, which is a matter of the markup.
-/

namespace PhoneAccounts

/-! ## Parts that are read back as they are -/

/-- The component is what its flat form says, and the scope is the one that its serial number
stands for. -/
structure Handle.Storable (directory : ScopeDirectory) (handle : Handle) : Prop where
  component : Component.ofText? handle.component.flatText = some handle.component
  scope : ∃ scope,
    handle.scope = some scope ∧
      directory.serialOf scope ≠ ScopeDirectory.unknownSerial ∧
      directory.scopeOf? (directory.serialOf scope) = some scope

/-- The handle is storable, and the icon is no icon, a payload alone, or a reference to a
resource of a named package. -/
structure Account.Storable (directory : ScopeDirectory) (account : Account) : Prop where
  handle : account.handle.Storable directory
  icon : ∀ icon ∈ account.icon,
    (∃ payload, icon = Icon.ofPayload payload) ∨ icon.isResource = true

/-- Everything in the catalog is storable; its manager may be the explicit choice of none. -/
structure Catalog.Storable (directory : ScopeDirectory) (catalog : Catalog) : Prop where
  accounts : ∀ account ∈ catalog.accounts, account.Storable directory
  defaultOutgoing : ∀ handle ∈ catalog.defaultOutgoing, handle.Storable directory
  simCallManager : ∀ handle ∈ catalog.simCallManager,
    handle = Handle.noneSelected ∨ handle.Storable directory

theorem Component.isUnreadable_of_read
    {component other : Component}
    (read : ofText? component.flatText = some other) :
    component.isUnreadable = false := by
  apply Bool.eq_false_iff.mpr
  intro unreadable
  rw [(ofText?_flatText_eq_none_iff component).mpr unreadable] at read
  exact absurd read (by simp)

namespace Handle

variable {directory : ScopeDirectory} {handle : Handle}

theorem Storable.isReadable (storable : handle.Storable directory) :
    handle.isUnreadable = false :=
  Component.isUnreadable_of_read storable.component

theorem Storable.reread_eq (storable : handle.Storable directory) :
    handle.reread directory = handle := by
  obtain ⟨scope, named, -, found⟩ := storable.scope
  have component : handle.component.reread = handle.component := by
    rw [Component.reread, storable.component, Option.getD_some]
  have sameScope : directory.reread handle.scope = handle.scope := by
    rw [ScopeDirectory.reread, named, Option.bind_some, found]
  rw [Handle.reread, component, sameScope]

/-- A storable handle has a scope, so nothing puts it under another one. -/
theorem Storable.adopted_eq
    (storable : handle.Storable directory)
    (processScope : Scope) :
    handle.adopted processScope = handle := by
  obtain ⟨scope, named, -, -⟩ := storable.scope
  rw [adopted, named]

theorem noneSelected_isReadable : noneSelected.isUnreadable = false := by
  decide

theorem reread_noneSelected (directory : ScopeDirectory) :
    noneSelected.reread directory = noneSelected := by
  have component : noneSelected.component.reread = noneSelected.component := by decide
  rw [Handle.reread, component]
  rfl

theorem adopted_noneSelected (processScope : Scope) :
    noneSelected.adopted processScope = noneSelected :=
  rfl

end Handle

/-- An icon that shows something is read back as it is. -/
theorem Icon.bind_reread?_of_shown
    {stored : Option Icon}
    (shown : ∀ icon ∈ stored, (∃ payload, icon = ofPayload payload) ∨ icon.isResource = true) :
    stored.bind reread? = stored := by
  cases stored with
  | none => rfl
  | some icon =>
      rcases shown icon rfl with ⟨payload, rfl⟩ | resource
      · rfl
      · have noPayload : icon.payload = none := by
          simp only [isResource, Bool.and_eq_true, Option.isNone_iff_eq_none] at resource
          exact resource.1
        rw [Option.bind_some, reread?, noPayload]
        exact if_pos resource

theorem Account.Storable.reread_eq
    {directory : ScopeDirectory}
    {account : Account}
    (storable : account.Storable directory) :
    account.reread directory = account := by
  rw [Account.reread, storable.handle.reread_eq, Icon.bind_reread?_of_shown storable.icon]

namespace Catalog

variable {directory : ScopeDirectory} {catalog : Catalog}

theorem storable_empty (directory : ScopeDirectory) : Catalog.empty.Storable directory := by
  refine ⟨?_, ?_, ?_⟩
  · intro account member
    exact absurd member List.not_mem_nil
  · intro handle chosen
    exact absurd chosen (by simp [empty])
  · intro handle manages
    exact absurd manages (by simp [empty])

theorem Storable.isReadable
    (storable : catalog.Storable directory)
    {handle : Handle}
    (stored : handle ∈ catalog.storedHandles) :
    handle.isUnreadable = false := by
  rcases mem_storedHandles.mp stored with chosen | manages | ⟨account, listed, rfl⟩
  · exact (storable.defaultOutgoing handle chosen).isReadable
  · rcases storable.simCallManager handle manages with rfl | named
    · exact Handle.noneSelected_isReadable
    · exact named.isReadable
  · exact (storable.accounts account listed).handle.isReadable

/-- A storable catalog of the current version is read back as it is, in whatever scope. -/
theorem Storable.reread_eq
    (storable : catalog.Storable directory)
    (current : catalog.version = currentVersion)
    (processScope : Scope) :
    catalog.reread directory processScope = catalog := by
  have defaultOutgoing :
      catalog.defaultOutgoing.map (Handle.reread directory) = catalog.defaultOutgoing := by
    cases chosen : catalog.defaultOutgoing with
    | none => rfl
    | some handle => rw [Option.map_some, (storable.defaultOutgoing handle chosen).reread_eq]
  have simCallManager :
      (catalog.simCallManager.map fun handle =>
        (handle.reread directory).adopted processScope) = catalog.simCallManager := by
    cases manages : catalog.simCallManager with
    | none => rfl
    | some handle =>
        rw [Option.map_some]
        rcases storable.simCallManager handle manages with rfl | named
        · rw [Handle.reread_noneSelected, Handle.adopted_noneSelected]
        · rw [named.reread_eq, named.adopted_eq]
  have accounts : catalog.accounts.map (Account.reread directory) = catalog.accounts := by
    refine Eq.trans (List.map_congr_left ?_) (List.map_id catalog.accounts)
    intro account member
    rw [(storable.accounts account member).reread_eq, id]
  rw [Catalog.reread, defaultOutgoing, simCallManager, accounts, ← current]

end Catalog

namespace StateFile

/-! ## The text of the document -/

/-- A parser reads the text of the document that stores a catalog as the tree that was
written. -/
def ReadsBackWith
    (parser : Yaml.Parser)
    (directory : ScopeDirectory)
    (catalog : Catalog) :
    Prop :=
  parser (encode directory catalog) = .ok (documentTree directory catalog)

/-- The text of the document that stores a catalog is read as the tree that was written. -/
def ReadsBack (directory : ScopeDirectory) (catalog : Catalog) : Prop :=
  ReadsBackWith Yaml.treeOfBytes? directory catalog

instance (directory : ScopeDirectory) (catalog : Catalog) :
    Decidable (ReadsBack directory catalog) :=
  match read : Yaml.treeOfBytes? (encode directory catalog) with
  | .error _ => isFalse fun same => by
      rw [ReadsBack, ReadsBackWith, read] at same
      exact absurd same (by simp)
  | .ok tree =>
      decidable_of_iff
        ((Yaml.Outline.mapping (document directory catalog)).writes tree = true) (by
          rw [ReadsBack, ReadsBackWith, read, Except.ok.injEq, Yaml.Outline.writes_iff,
            documentTree, eq_comm])

/-- What a file holds that stores a catalog, whatever reader comes to it and whatever scopes the
catalog was written with: the catalog, or nothing if a component in it cannot be read. -/
def storedResult (reader : Reader) (written : ScopeDirectory) (stored : Catalog) : LoadResult :=
  if stored.storedHandles.any Handle.isUnreadable then .corrupt
  else .loaded (stored.rereadFrom written reader.directory reader.processScope)

theorem storedResult_eq_corrupt_iff
    (reader : Reader)
    (written : ScopeDirectory)
    (stored : Catalog) :
    storedResult reader written stored = .corrupt ↔
      ∃ handle ∈ stored.storedHandles, handle.isUnreadable = true := by
  unfold storedResult
  rw [← List.any_eq_true]
  by_cases unreadable : stored.storedHandles.any Handle.isUnreadable = true
  · simp only [unreadable, if_true]
  · simp only [unreadable, if_false, reduceCtorEq, Bool.false_eq_true]

theorem storedResult_of_readable
    {stored : Catalog}
    (readable : ∀ handle ∈ stored.storedHandles, handle.isUnreadable = false)
    (reader : Reader)
    (written : ScopeDirectory) :
    storedResult reader written stored =
      .loaded (stored.rereadFrom written reader.directory reader.processScope) := by
  apply if_neg
  intro unreadable
  obtain ⟨handle, member, fails⟩ := List.any_eq_true.mp unreadable
  rw [readable handle member] at fails
  exact Bool.false_ne_true fails

/-- The fault of a document that stores a catalog can be put into words. -/
theorem decodeDocument_documentTree
    (reader : Reader)
    (written : ScopeDirectory)
    (stored : Catalog) :
    reader.decodeDocument (documentTree written stored) =
      (reader.decodeTree (documentTree written stored)).mapError .field := by
  rw [Reader.decodeDocument, decodeTree_documentTree]
  by_cases unreadable : ∃ handle ∈ stored.storedHandles, handle.isUnreadable = true
  · obtain ⟨text, faulty⟩ := unlessUnreadable_of_unreadable
      (some (stored.rereadFrom written reader.directory reader.processScope)) unreadable
    rw [faulty]
    rfl
  · rw [unlessUnreadable_of_readable _ fun handle member =>
      Bool.eq_false_iff.mpr fun fails => unreadable ⟨handle, member, fails⟩]
    rfl

/-- A file that stores a catalog is loaded without a fault. -/
theorem loadWith_of_stored
    {parser : Yaml.Parser}
    {path : FilePath}
    {files : Entry}
    {written : ScopeDirectory}
    {stored : Catalog}
    (saved : files.read path.parts = .ok (encode written stored))
    (readsBack : ReadsBackWith parser written stored)
    (reader : Reader) :
    loadWith parser reader path files = .ok (storedResult reader written stored) := by
  unfold ReadsBackWith at readsBack
  rw [loadWith, saved]
  simp only [Reader.decodeWith, readsBack, decodeDocument_documentTree, decodeTree_documentTree]
  by_cases unreadable : ∃ handle ∈ stored.storedHandles, handle.isUnreadable = true
  · obtain ⟨text, faulty⟩ := unlessUnreadable_of_unreadable
      (some (stored.rereadFrom written reader.directory reader.processScope)) unreadable
    rw [faulty, (storedResult_eq_corrupt_iff reader written stored).mpr unreadable]
    rfl
  · have readable : ∀ handle ∈ stored.storedHandles, handle.isUnreadable = false :=
      fun handle member => Bool.eq_false_iff.mpr fun fails => unreadable ⟨handle, member, fails⟩
    rw [unlessUnreadable_of_readable _ readable, storedResult_of_readable readable]
    rfl

/-- A storable catalog is loaded from the file to which it was saved. -/
theorem loadWith_of_saved
    {parser : Yaml.Parser}
    {reader : Reader}
    {path : FilePath}
    {catalog : Catalog}
    {files : Entry}
    (saved : files.read path.parts = .ok (encode reader.directory catalog))
    (readsBack : ReadsBackWith parser reader.directory catalog)
    (storable : catalog.Storable reader.directory)
    (current : catalog.version = currentVersion) :
    loadWith parser reader path files = .ok (.loaded catalog) := by
  rw [loadWith_of_stored saved readsBack reader,
    storedResult_of_readable fun handle stored => storable.isReadable stored,
    Catalog.rereadFrom_self, storable.reread_eq current]

end StateFile

end PhoneAccounts
