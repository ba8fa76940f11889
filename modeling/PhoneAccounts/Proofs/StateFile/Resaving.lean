import PhoneAccounts.Proofs.Device.ScopeDirectory
import PhoneAccounts.Proofs.StateFile.Decoded

/-!
Contract: what stays of a document that is loaded and saved over and over.

The first time, the document is written anew: with the current version, full class names, and
the accounts brought up to date.  From then on it stays what it is.  The catalog that it gives
is the one that was saved, apart from one scope: where the serial number that is written for
the scope of the process leads to another scope, a manager under the former comes back under
the latter, and then stays there.

Owns: `homeScope`, `settled`, loading and saving a document again and again, and what that
leaves.

Does not own: the text of the document (see `PhoneAccounts.Proofs.StateFile.Text`).
-/

namespace PhoneAccounts

/-- The handle, with the scope of the process replaced by the one that its serial number leads
to. -/
def Handle.settled (processScope homeScope : Scope) (handle : Handle) : Handle :=
  if handle.scope = some processScope then handle.withScope (some homeScope) else handle

namespace StateFile

namespace Reader

/-- The scope that a manager under the scope of the process comes back under. -/
def homeScope (reader : Reader) : Scope :=
  (reader.directory.scopeOf? (reader.directory.serialOf reader.processScope)).getD
    reader.processScope

/-- No manager is under a scope of the process whose serial number leads elsewhere. -/
def KeepsManager (reader : Reader) (catalog : Catalog) : Prop :=
  ∀ handle ∈ catalog.simCallManager,
    handle.scope = some reader.processScope → reader.homeScope = reader.processScope

/-- The document that is saved after a document has been loaded. -/
def resave? (reader : Reader) (tree : Tree) : Option Tree :=
  match reader.decodeTree tree with
  | .ok (some catalog) => some (documentTree reader.directory catalog)
  | _ => none

/-- The document after it has been loaded and saved a number of times. -/
def resaves? (reader : Reader) : Nat → Tree → Option Tree
  | 0, tree => some tree
  | count + 1, tree => (reader.resave? tree).bind (reader.resaves? count)

end Reader

end StateFile

/-- The catalog that the document of a catalog gives that was read before. -/
def Catalog.settled (reader : StateFile.Reader) (catalog : Catalog) : Catalog :=
  { catalog with
    simCallManager :=
      catalog.simCallManager.map (Handle.settled reader.processScope reader.homeScope)
    version := currentVersion }

/-! ## Parts that were read -/

namespace Handle.IsRead

variable {directory : ScopeDirectory} {handle : Handle}

/-- The scope of a handle that was read is found again. -/
theorem reread_scope
    (read : handle.IsRead directory)
    (distinct : directory.HasDistinctSerials) :
    directory.reread handle.scope = handle.scope := by
  cases named : handle.scope with
  | none => rfl
  | some scope =>
      obtain ⟨serial, found⟩ := read.scope scope named
      exact distinct.scopeOf?_serialOf found

theorem reread_component
    (read : handle.IsRead directory)
    (clear : handle.component.isAmbiguous = false) :
    handle.component.reread = handle.component := by
  obtain ⟨text, component⟩ := read.component
  exact (Component.reread_eq_iff_of_read component).mpr clear

theorem reread_eq
    (read : handle.IsRead directory)
    (distinct : directory.HasDistinctSerials)
    (clear : handle.component.isAmbiguous = false) :
    handle.reread directory = handle := by
  rw [Handle.reread, read.reread_component clear, read.reread_scope distinct]

/-- A manager comes back under the scope that it had, or under that which the serial number of
the process leads to. -/
theorem adopted_reread_adopted
    (read : handle.IsRead directory)
    (distinct : directory.HasDistinctSerials)
    (clear : handle.component.isAmbiguous = false)
    (processScope : Scope) :
    ((handle.adopted processScope).reread directory).adopted processScope =
      (handle.adopted processScope).settled processScope
        ((directory.scopeOf? (directory.serialOf processScope)).getD processScope) := by
  have component := read.reread_component clear
  have again := read.reread_scope distinct
  obtain ⟨part, id, scope⟩ := handle
  cases scope with
  | some scope =>
      have same : (Handle.mk part id (some scope)).adopted processScope =
          ⟨part, id, some scope⟩ := rfl
      rw [same, read.reread_eq distinct clear, same, settled]
      by_cases process : scope = processScope
      · subst process
        have found : directory.scopeOf? (directory.serialOf scope) = some scope := again
        rw [if_pos rfl, found]
        rfl
      · rw [if_neg fun equal => process (Option.some.inj equal)]
  | none =>
      by_cases noChoice :
          part = noneSelected.component ∧ id = noneSelected.id
      · have same : (Handle.mk part id none).adopted processScope = ⟨part, id, none⟩ :=
          if_pos noChoice
        rw [same, read.reread_eq distinct clear, same]
        rfl
      · have own (scope : Option Scope) :
            (Handle.mk part id scope).adopted processScope =
              ⟨part, id, some (scope.getD processScope)⟩ := by
          cases scope with
          | some scope => rfl
          | none => exact if_neg noChoice
        have found : (Handle.mk part id (some processScope)).reread directory =
            ⟨part, id, directory.scopeOf? (directory.serialOf processScope)⟩ := by
          rw [Handle.reread, component]
          rfl
        rw [own none, Option.getD_none, found, own, settled, if_pos rfl]
        rfl

end Handle.IsRead

theorem Account.IsRead.reread_eq
    {directory : ScopeDirectory}
    {account : Account}
    (read : account.IsRead directory)
    (distinct : directory.HasDistinctSerials)
    (clear : account.handle.component.isAmbiguous = false) :
    account.reread directory = account := by
  rw [Account.reread, read.handle.reread_eq distinct clear, Icon.bind_reread?_of_shown read.icon]

/-! ## Catalogs that were read -/

namespace Catalog

variable {reader : StateFile.Reader} {catalog : Catalog}

theorem IsRead.reread_eq
    (read : catalog.IsRead reader.directory reader.processScope)
    (distinct : reader.directory.HasDistinctSerials)
    (clear : ∀ handle ∈ catalog.storedHandles, handle.component.isAmbiguous = false) :
    catalog.reread reader.directory reader.processScope = catalog.settled reader := by
  unfold storedHandles at clear
  simp only [List.forall_mem_append, Option.mem_toList, List.forall_mem_map] at clear
  obtain ⟨clearChoice, clearManager, clearAccounts⟩ := clear
  have defaultOutgoing :
      catalog.defaultOutgoing.map (Handle.reread reader.directory) = catalog.defaultOutgoing := by
    cases chosen : catalog.defaultOutgoing with
    | none => rfl
    | some handle =>
        rw [Option.map_some, (read.defaultOutgoing handle chosen).reread_eq distinct
          (clearChoice handle chosen)]
  have simCallManager :
      (catalog.simCallManager.map fun handle =>
        (handle.reread reader.directory).adopted reader.processScope) =
        catalog.simCallManager.map (Handle.settled reader.processScope reader.homeScope) := by
    cases manages : catalog.simCallManager with
    | none => rfl
    | some handle =>
        have clearHandle := clearManager handle manages
        obtain ⟨own, ownRead, rfl⟩ := read.simCallManager handle manages
        rw [Handle.component_adopted] at clearHandle
        rw [Option.map_some, Option.map_some,
          ownRead.adopted_reread_adopted distinct clearHandle reader.processScope]
        rfl
  have accounts :
      catalog.accounts.map (Account.reread reader.directory) = catalog.accounts := by
    refine Eq.trans (List.map_congr_left ?_) (List.map_id catalog.accounts)
    intro account member
    rw [(read.accounts account member).reread_eq distinct (clearAccounts account member), id]
  rw [Catalog.reread, defaultOutgoing, simCallManager, accounts]
  rfl

/-- Settling changes nothing but the version where the manager keeps its scope. -/
theorem settled_eq_iff :
    catalog.settled reader = { catalog with version := currentVersion } ↔
      reader.KeepsManager catalog := by
  unfold settled StateFile.Reader.KeepsManager
  rw [Catalog.mk.injEq]
  cases catalog.simCallManager with
  | none => simp
  | some handle =>
      obtain ⟨component, id, scope⟩ := handle
      by_cases process : scope = some reader.processScope
      · subst process
        simp [Handle.settled, Handle.withScope]
      · simp [Handle.settled, process]

end Catalog

namespace StateFile

variable {reader : Reader}

theorem serialOf_homeScope (once : reader.directory.ListsOnce) :
    reader.directory.serialOf reader.homeScope =
      reader.directory.serialOf reader.processScope := by
  unfold Reader.homeScope
  cases found : reader.directory.scopeOf? (reader.directory.serialOf reader.processScope) with
  | none => rfl
  | some other => exact once.serialOf_of_scopeOf?_serialOf found

/-- A scope that the device knows is the one that its serial number leads to. -/
theorem homeScope_of_isLive
    (distinct : reader.directory.HasDistinctSerials)
    (live : reader.directory.isLive reader.processScope = true) :
    reader.homeScope = reader.processScope := by
  rw [Reader.homeScope, distinct.scopeOf?_serialOf_of_isLive live, Option.getD_some]

/-- The two scopes have one serial number, so both catalogs have one document. -/
theorem documentTree_settled
    (once : reader.directory.ListsOnce)
    (catalog : Catalog) :
    documentTree reader.directory (catalog.settled reader) =
      documentTree reader.directory catalog := by
  have outline (handle : Handle) :
      handleOutline reader.directory
          (handle.settled reader.processScope reader.homeScope) =
        handleOutline reader.directory handle := by
    obtain ⟨component, id, scope⟩ := handle
    by_cases process : scope = some reader.processScope
    · subst process
      rw [Handle.settled, if_pos rfl]
      simp only [handleOutline, Handle.withScope, serialOf_homeScope once]
    · rw [Handle.settled, if_neg process]
  have manager :
      optionalHandle reader.directory Key.simCallManager
          (catalog.settled reader).simCallManager =
        optionalHandle reader.directory Key.simCallManager catalog.simCallManager := by
    show optionalHandle _ _ (catalog.simCallManager.map _) = _
    cases catalog.simCallManager with
    | none => rfl
    | some handle => rw [Option.map_some, optionalHandle, outline, optionalHandle]
  unfold documentTree document bodyFields
  rw [manager]
  rfl

/-- A document that gives itself when it is loaded and saved stays what it is. -/
theorem resaves?_of_resave?_eq_self
    {tree : Tree}
    (same : reader.resave? tree = some tree)
    (count : Nat) :
    reader.resaves? count tree = some tree := by
  induction count with
  | zero => rfl
  | succ count inductionHypothesis =>
      rw [Reader.resaves?, same, Option.bind_some]
      exact inductionHypothesis

/-- Take any document that gives a catalog, of whatever version and with whatever spelling,
and any device with distinct serial numbers.  If no component in the catalog could be taken for
another one, the document that is saved for it gives the catalog again, settled.  That is the
same catalog with the current version if and only if its manager keeps the scope, which it does
whenever the device knows the scope of the process.  After the first time, loading and saving
leaves the document as it is. -/
theorem resaving_settles
    (reader : Reader)
    (tree : Tree)
    (catalog : Catalog)
    (distinct : reader.directory.HasDistinctSerials)
    (decoded : reader.decodeTree tree = .ok (some catalog))
    (clear : ∀ handle ∈ catalog.storedHandles, handle.component.isAmbiguous = false) :
    reader.decodeTree (documentTree reader.directory catalog) =
        .ok (some (catalog.settled reader)) ∧
      (catalog.settled reader = { catalog with version := currentVersion } ↔
        reader.KeepsManager catalog) ∧
      (reader.directory.isLive reader.processScope = true → reader.KeepsManager catalog) ∧
      documentTree reader.directory (catalog.settled reader) =
        documentTree reader.directory catalog ∧
      ∀ count, reader.resaves? (count + 1) tree =
        some (documentTree reader.directory catalog) := by
  have read := isRead_of_decodeTree decoded
  have again : reader.decodeTree (documentTree reader.directory catalog) =
      .ok (some (catalog.settled reader)) := by
    rw [decodeTree_documentTree_of_isRead read, read.reread_eq distinct clear]
  have sameDocument := documentTree_settled distinct.once catalog
  refine ⟨again, Catalog.settled_eq_iff, ?_, sameDocument, ?_⟩
  · intro live handle _ _
    exact homeScope_of_isLive distinct live
  · intro count
    have first : reader.resave? tree = some (documentTree reader.directory catalog) := by
      rw [Reader.resave?, decoded]
    have stays : reader.resave? (documentTree reader.directory catalog) =
        some (documentTree reader.directory catalog) := by
      rw [Reader.resave?, again]
      exact congrArg some sameDocument
    rw [Reader.resaves?, first, Option.bind_some]
    exact resaves?_of_resave?_eq_self stays count

/-! ## Samples -/

/-- A document whose manager is a component of this short form, without a serial number. -/
def sampleDocument (component : String) (fields : List (Tree × Tree)) : Tree :=
  .mapping [(.text Key.root, .mapping ([
    (.text Key.simCallManager, .mapping [
      (.text Key.componentName, .text component),
      (.text Key.id, .text "m")])] ++ fields))]

/-- The fields of an account as old files have them: a number written as text, an icon without
its package, and no schemes. -/
def sampleOldAccounts : List (Tree × Tree) :=
  [(.text Key.accounts, .sequence [.mapping [
    (.text Key.handle, .mapping [
      (.text Key.componentName, .text "com.voip/.Service"),
      (.text Key.id, .text "1"),
      (.text Key.serialNumber, .text " 0 ")]),
    (.text Key.capabilities, .text "+2"),
    (.text Key.iconResource, .integer 17)]])]

/-- The catalog that the old document gives, with the upgrades of all versions. -/
def sampleOldCatalog : Catalog :=
  { simCallManager := some ⟨⟨"com.voip", "com.voip.Manager"⟩, "m", some Scope.owner⟩
    accounts := [{
      handle := ⟨⟨"com.voip", "com.voip.Service"⟩, "1", some Scope.owner⟩
      capabilities := 2
      icon := some (Icon.ofResource "com.voip" 17 0)
      schemes := ["tel", "voicemail"] }]
    version := 1 }

/-- A document of the first version is written anew once. -/
theorem resaving_settles_old :
    let tree := sampleDocument "com.voip/.Manager" sampleOldAccounts
    sampleReader.directory.HasDistinctSerials ∧
      sampleReader.decodeTree tree = .ok (some sampleOldCatalog) ∧
      (∀ handle ∈ sampleOldCatalog.storedHandles, handle.component.isAmbiguous = false) ∧
      sampleReader.KeepsManager sampleOldCatalog ∧
      sampleReader.resaves? 3 tree =
        some (documentTree sampleReader.directory sampleOldCatalog) := by
  have distinct : sampleReader.directory.HasDistinctSerials := by decide
  have decoded :
      sampleReader.decodeTree (sampleDocument "com.voip/.Manager" sampleOldAccounts) =
        .ok (some sampleOldCatalog) := rfl
  have clear : ∀ handle ∈ sampleOldCatalog.storedHandles,
      handle.component.isAmbiguous = false := by decide +kernel
  obtain ⟨-, -, keeps, -, stays⟩ :=
    resaving_settles sampleReader _ sampleOldCatalog distinct decoded clear
  exact ⟨distinct, decoded, clear, keeps rfl, stays 2⟩

/-- A device on which the scope of the process is unknown, while another scope has the serial
number that stands for unknown scopes. -/
def sampleForeignReader : Reader :=
  { sampleReader with
    directory := sampleReader.directory.add ⟨7⟩ (some ScopeDirectory.unknownSerial) none
    processScope := ⟨99⟩ }

/-- A manager without a serial number moves from the unknown scope of the process to the scope
with its number; and where package and class begin with a dot, the class is lengthened each
time. -/
theorem resaving_isNotStable :
    let catalog (name : String) (scope : Scope) : Catalog :=
      { simCallManager := some ⟨⟨".a", name⟩, "m", some scope⟩ }
    sampleForeignReader.directory.HasDistinctSerials ∧
      (sampleForeignReader.decodeTree (sampleDocument ".a/b" [])).toOption =
        some (some { catalog "b" ⟨99⟩ with version := 1 }) ∧
      (sampleForeignReader.decodeTree
          (documentTree sampleForeignReader.directory (catalog "b" ⟨99⟩))).toOption =
        some (some (catalog "b" ⟨7⟩)) ∧
      sampleReader.directory.HasDistinctSerials ∧
      (sampleReader.decodeTree (sampleDocument ".a/.b" [])).toOption =
        some (some { catalog ".a.b" Scope.owner with version := 1 }) ∧
      (sampleReader.decodeTree
          (documentTree sampleReader.directory (catalog ".a.b" Scope.owner))).toOption =
        some (some (catalog ".a.a.b" Scope.owner)) :=
  ⟨by decide, by decide +kernel, by decide +kernel, by decide, by decide +kernel,
    by decide +kernel⟩

end StateFile

end PhoneAccounts
