import PhoneAccounts.Proofs.StateFile.Saving
import PhoneAccounts.Proofs.StateFile.Storable
import PhoneAccounts.Proofs.StateFile.Upgrade
import PhoneAccounts.Proofs.Steps

/-!
Contract: what a document gives, whatever stands in it.

Every component was read from a text and every scope was found under some serial number; an
icon is a payload alone or a reference to a resource of a named package; the manager may have
been put under the scope of the process.  That holds for the documents of every version: no
upgrade changes a handle, and the icon is made of the fields after the upgrades.

Owns: the steps of a reading that ended well, `IsRead` for handles, accounts and catalogs, that
reading gives nothing else, and that what was read can be stored and read again.

Does not own: what changes when that is done (see `PhoneAccounts.Proofs.StateFile.Resaving`).
-/

namespace PhoneAccounts

/-- The component was read from a text, and the scope was found under a serial number. -/
structure Handle.IsRead (directory : ScopeDirectory) (handle : Handle) : Prop where
  component : ∃ text, Component.ofText? text = some handle.component
  scope : ∀ scope ∈ handle.scope, ∃ serial, directory.scopeOf? serial = some scope

/-- The handle was read, and the icon is one that fields describe. -/
structure Account.IsRead (directory : ScopeDirectory) (account : Account) : Prop where
  handle : account.handle.IsRead directory
  icon : ∀ icon ∈ account.icon,
    (∃ payload, icon = Icon.ofPayload payload) ∨ icon.isResource = true

/-- Everything in the catalog was read; its manager may since have been put under the scope of
the process. -/
structure Catalog.IsRead
    (directory : ScopeDirectory)
    (processScope : Scope)
    (catalog : Catalog) :
    Prop where
  accounts : ∀ account ∈ catalog.accounts, account.IsRead directory
  defaultOutgoing : ∀ handle ∈ catalog.defaultOutgoing, handle.IsRead directory
  simCallManager : ∀ handle ∈ catalog.simCallManager,
    ∃ read : Handle, read.IsRead directory ∧ handle = read.adopted processScope

namespace StoredAccount

/-- The fields describe a payload alone, or a resource of a named package. -/
theorem cases_of_icon?
    {stored : StoredAccount}
    {icon : Icon}
    (shown : stored.icon? = some icon) :
    (∃ payload, icon = Icon.ofPayload payload) ∨ icon.isResource = true := by
  unfold icon? at shown
  split at shown
  · exact .inl ⟨_, (Option.some.inj shown).symm⟩
  · exact .inl ⟨_, (Option.some.inj shown).symm⟩
  · next package _ _ _ =>
      by_cases unnamed : package = ""
      · rw [if_pos unnamed] at shown
        exact absurd shown (by simp)
      · rw [if_neg unnamed] at shown
        obtain rfl := Option.some.inj shown
        exact .inr (by simp [Icon.isResource, Icon.ofResource, unnamed])
  · exact absurd shown (by simp)

end StoredAccount

namespace StateFile

variable {reader : Reader}

/-! ## Handles -/

theorem isRead_of_readHandle
    {value : Tree}
    {handle : Handle}
    (read : reader.readHandle value = .ok (some handle)) :
    handle.IsRead reader.directory := by
  unfold Reader.readHandle at read
  cases entries : value.entries? with
  | none =>
      rw [entries] at read
      exact absurd read (by simp)
  | some fields =>
      rw [entries] at read
      obtain ⟨named, -, read⟩ := bind_eq_ok read
      cases named with
      | none => exact absurd read (by simp)
      | some text =>
          cases component : Component.ofText? text with
          | none =>
              simp only [component] at read
              exact absurd read (by simp)
          | some component =>
              simp only [component] at read
              obtain ⟨scope, scopeRead, read⟩ := bind_eq_ok read
              obtain ⟨id, -, read⟩ := bind_eq_ok read
              obtain rfl := Option.some.inj (Except.ok.inj read)
              refine ⟨⟨text, ‹_›⟩, ?_⟩
              rintro owner rfl
              unfold Reader.readScope at scopeRead
              split at scopeRead
              · exact absurd scopeRead (by simp)
              · obtain ⟨serial, -, found⟩ := bind_eq_ok scopeRead
                exact ⟨serial, Except.ok.inj found⟩

theorem isRead_of_readHandleField
    {field : String}
    {entries : List (Tree × Tree)}
    {handle : Handle}
    (read : reader.readHandleField field entries = .ok (some handle)) :
    handle.IsRead reader.directory := by
  unfold Reader.readHandleField at read
  by_cases absent : (Tree.get field entries).isNull = true
  · simp [absent] at read
  · simp only [absent, Bool.false_eq_true, if_false] at read
    exact isRead_of_readHandle read

/-! ## Accounts -/

/-- The flag that an account is switched on; it is off where the key is missing. -/
def readEnabled (entries : List (Tree × Tree)) : Except FieldFault Bool :=
  match Tree.find? Key.enabled entries with
  | none => .ok false
  | some value => readFlag Key.enabled value

/-- What is read of an account besides its handle: among others its capabilities, and whether it
is switched on. -/
theorem readStoredAccount_eq_ok
    {handle : Handle}
    {entries : List (Tree × Tree)}
    {stored : StoredAccount}
    (read : readStoredAccount handle entries = .ok stored) :
    stored.handle = handle ∧
      readIntegerOr 0 Key.capabilities entries = .ok stored.capabilities ∧
      readEnabled entries = .ok stored.enabled := by
  unfold readStoredAccount at read
  dsimp only at read
  -- The schemes and the flag are there or not; each other field is one step.
  split at read
  all_goals
    obtain ⟨schemes, -, read⟩ := bind_eq_ok read
    iterate 2 obtain ⟨_, -, read⟩ := bind_eq_ok read
    obtain ⟨capabilities, capabilitiesRead, read⟩ := bind_eq_ok read
    iterate 8 obtain ⟨_, -, read⟩ := bind_eq_ok read
    unfold readEnabled
    cases flag : Tree.find? Key.enabled entries
    all_goals
      rw [flag] at read
      obtain ⟨enabled, enabledRead, read⟩ := bind_eq_ok read
      obtain rfl := Except.ok.inj read
      exact ⟨rfl, capabilitiesRead, enabledRead⟩

/-- An account that was read has a handle, and its fields brought up to date. -/
theorem readAccount_eq_ok
    {version : Int}
    {value : Tree}
    {account : Account}
    (read : reader.readAccount version value = .ok (some account)) :
    ∃ entries handle stored,
      value.entries? = some entries ∧
        reader.readHandleField Key.handle entries = .ok (some handle) ∧
        readStoredAccount handle entries = .ok stored ∧
        account = (stored.upgrade reader.upgrades version).toAccount := by
  unfold Reader.readAccount at read
  cases entries : value.entries? with
  | none =>
      rw [entries] at read
      exact absurd read (by simp)
  | some fields =>
      rw [entries] at read
      obtain ⟨named, handleRead, read⟩ := bind_eq_ok read
      cases named with
      | none => exact absurd read (by simp)
      | some handle =>
          obtain ⟨stored, storedRead, read⟩ := bind_eq_ok read
          exact ⟨fields, handle, stored, rfl, handleRead, storedRead,
            (Option.some.inj (Except.ok.inj read)).symm⟩

theorem isRead_of_readAccount
    {version : Int}
    {value : Tree}
    {account : Account}
    (read : reader.readAccount version value = .ok (some account)) :
    account.IsRead reader.directory := by
  obtain ⟨entries, handle, stored, -, handleRead, storedRead, rfl⟩ := readAccount_eq_ok read
  refine ⟨?_, fun icon shown => StoredAccount.cases_of_icon? shown⟩
  have same : (stored.upgrade reader.upgrades version).handle = handle := by
    rw [StoredAccount.upgrade_eq]
    exact (readStoredAccount_eq_ok storedRead).1
  show (stored.upgrade reader.upgrades version).handle.IsRead reader.directory
  rw [same]
  exact isRead_of_readHandleField handleRead

/-- Every account was read from one of the items. -/
theorem exists_item_of_mem_readAccounts
    {version : Int}
    {items : List Tree}
    {accounts : List Account}
    (read : reader.readAccounts version items = .ok accounts)
    {account : Account}
    (member : account ∈ accounts) :
    ∃ item ∈ items, reader.readAccount version item = .ok (some account) := by
  induction items generalizing accounts with
  | nil =>
      obtain rfl := Except.ok.inj read
      exact absurd member List.not_mem_nil
  | cons item rest inductionHypothesis =>
      rw [Reader.readAccounts] at read
      obtain ⟨first, firstRead, read⟩ := bind_eq_ok read
      obtain ⟨others, othersRead, read⟩ := bind_eq_ok read
      obtain rfl := Except.ok.inj read
      rcases List.mem_append.mp member with here | later
      · obtain rfl := Option.mem_toList.mp here
        exact ⟨item, List.mem_cons_self, firstRead⟩
      · obtain ⟨other, listed, otherRead⟩ := inductionHypothesis othersRead later
        exact ⟨other, List.mem_cons_of_mem item listed, otherRead⟩

/-! ## Catalogs -/

/-- The items that stand under a key, none where the value is empty. -/
def itemsOf? (key : String) (entries : List (Tree × Tree)) : Option (List Tree) :=
  let value := Tree.get key entries
  if value.isEmpty then some [] else value.items?

/-- The parts of a body that was read. -/
theorem readBody_eq_ok
    {entries : List (Tree × Tree)}
    {catalog : Catalog}
    (read : reader.readBody entries = .ok catalog) :
    ∃ manager items,
      reader.readHandleField Key.defaultOutgoing entries = .ok catalog.defaultOutgoing ∧
        reader.readHandleField Key.simCallManager entries = .ok manager ∧
        catalog.simCallManager = manager.map reader.ownManager ∧
        itemsOf? Key.accounts entries = some items ∧
        reader.readAccounts catalog.version items = .ok catalog.accounts := by
  unfold Reader.readBody at read
  obtain ⟨version, -, read⟩ := bind_eq_ok read
  obtain ⟨chosen, chosenRead, read⟩ := bind_eq_ok read
  obtain ⟨manager, managerRead, read⟩ := bind_eq_ok read
  dsimp only at read
  split at read
  · exact absurd read (by simp)
  · next items listed =>
      obtain ⟨accounts, accountsRead, read⟩ := bind_eq_ok read
      obtain rfl := Except.ok.inj read
      exact ⟨manager, items, chosenRead, managerRead, rfl, listed, accountsRead⟩

theorem isRead_of_readBody
    {entries : List (Tree × Tree)}
    {catalog : Catalog}
    (read : reader.readBody entries = .ok catalog) :
    catalog.IsRead reader.directory reader.processScope := by
  obtain ⟨manager, items, chosenRead, managerRead, manages, -, accountsRead⟩ :=
    readBody_eq_ok read
  refine ⟨?_, ?_, ?_⟩
  · intro account member
    obtain ⟨item, -, itemRead⟩ := exists_item_of_mem_readAccounts accountsRead member
    exact isRead_of_readAccount itemRead
  · intro handle chosen
    rw [chosen] at chosenRead
    exact isRead_of_readHandleField chosenRead
  · intro handle chosen
    rw [manages] at chosen
    obtain ⟨own, rfl, rfl⟩ := Option.map_eq_some_iff.mp chosen
    exact ⟨own, isRead_of_readHandleField managerRead, reader.ownManager_eq_adopted own⟩

/-- A document that gives a catalog has a body, which gives the catalog. -/
theorem decodeTree_eq_ok
    {tree : Tree}
    {catalog : Catalog}
    (decoded : reader.decodeTree tree = .ok (some catalog)) :
    ∃ entries body fields,
      tree = .mapping entries ∧
        Tree.find? Key.root entries = some body ∧
        (if body.isEmpty then some [] else body.entries?) = some fields ∧
        reader.readBody fields = .ok catalog := by
  unfold Reader.decodeTree at decoded
  split at decoded
  · next entries =>
      split at decoded
      · exact absurd decoded (by simp)
      · next body found =>
          split at decoded
          · exact absurd decoded (by simp)
          · next fields given =>
              obtain ⟨read, bodyRead, same⟩ := map_eq_ok decoded
              obtain rfl := Option.some.inj same
              exact ⟨entries, body, fields, rfl, found, given, bodyRead⟩
  · exact absurd decoded (by simp)

/-- Everything in a catalog that a document gives was read as the handles and accounts are. -/
theorem isRead_of_decodeTree
    {tree : Tree}
    {catalog : Catalog}
    (decoded : reader.decodeTree tree = .ok (some catalog)) :
    catalog.IsRead reader.directory reader.processScope := by
  obtain ⟨entries, body, fields, -, -, -, bodyRead⟩ := decodeTree_eq_ok decoded
  exact isRead_of_readBody bodyRead

theorem decodeWith_eq_ok_iff {parser : Yaml.Parser} {bytes : List UInt8} {found : Option Catalog} :
    reader.decodeWith parser bytes = .ok found ↔
      ∃ tree, parser bytes = .ok tree ∧ reader.decodeTree tree = .ok found := by
  unfold Reader.decodeWith Reader.decodeDocument
  cases parser bytes with
  | error fault => simp
  | ok tree => cases decoded : reader.decodeTree tree <;> simp [decoded]

/-- What a file was found to hold was read, whoever wrote it and whatever parses it. -/
theorem isRead_of_loadWith
    {parser : Yaml.Parser}
    {path : FilePath}
    {files : Entry}
    {catalog : Catalog}
    (loaded : loadWith parser reader path files = .ok (.loaded catalog)) :
    catalog.IsRead reader.directory reader.processScope := by
  obtain ⟨bytes, -, decoded⟩ :=
    ((findsWhatStands parser reader path files).loaded catalog).mp loaded
  obtain ⟨tree, -, decoded⟩ := decodeWith_eq_ok_iff.mp decoded
  exact isRead_of_decodeTree decoded

end StateFile

/-! ## Storing what was read -/

theorem Handle.IsRead.isReadable
    {directory : ScopeDirectory}
    {handle : Handle}
    (read : handle.IsRead directory) :
    handle.isUnreadable = false := by
  obtain ⟨text, component⟩ := read.component
  exact Component.isReadable_of_read component

/-- Putting a handle under a scope does not change its component. -/
theorem Handle.component_adopted (processScope : Scope) (handle : Handle) :
    (handle.adopted processScope).component = handle.component := by
  unfold adopted
  split
  · rfl
  · split <;> rfl

theorem Catalog.IsRead.isReadable
    {directory : ScopeDirectory}
    {processScope : Scope}
    {catalog : Catalog}
    (read : catalog.IsRead directory processScope)
    {handle : Handle}
    (stored : handle ∈ catalog.storedHandles) :
    handle.isUnreadable = false := by
  rcases mem_storedHandles.mp stored with chosen | manages | ⟨account, listed, rfl⟩
  · exact (read.defaultOutgoing handle chosen).isReadable
  · obtain ⟨own, ownRead, rfl⟩ := read.simCallManager handle manages
    rw [Handle.isUnreadable, Handle.component_adopted]
    exact ownRead.isReadable
  · exact (read.accounts account listed).handle.isReadable

/-- What was read can be stored and read again. -/
theorem StateFile.decodeTree_documentTree_of_isRead
    {reader : Reader}
    {catalog : Catalog}
    (read : catalog.IsRead reader.directory reader.processScope) :
    reader.decodeTree (documentTree reader.directory catalog) =
      .ok (some (catalog.reread reader.directory reader.processScope)) := by
  rw [decodeTree_documentTree, Catalog.rereadFrom_self]
  exact unlessUnreadable_of_readable _ fun handle stored => read.isReadable stored

end PhoneAccounts
