import PhoneAccounts.Proofs.StateFile.Readers
import PhoneAccounts.Proofs.StateFile.Saving
import PhoneAccounts.Proofs.StateFile.Storable
import PhoneAccounts.Proofs.Yaml.Reread

/-!
Contract: what the text of a state file keeps.

The document of every catalog is read, whatever its texts hold.  A text that is written between
apostrophes loses its next-line characters (U+0085), which the reader takes for line breaks;
everything else is kept.

Owns: that documents are sound and shallow, when the text of one is read as its tree, and what
every reading of it keeps.

Does not own: what a catalog loses in its document (see `PhoneAccounts.Proofs.StateFile.Reread`).
-/

namespace PhoneAccounts.StateFile

open PhoneAccounts.Yaml

/-! ## Keys -/

def handleKeys : List String :=
  [Key.componentName, Key.id, Key.serialNumber]

def schemesKeys : List String :=
  [Key.length, Key.values]

/-- The keys of an account, in the order in which they are written. -/
def accountKeys : List String :=
  [Key.handle] ++ [Key.address] ++ [Key.subscriptionAddress] ++ [Key.capabilities] ++
    [Key.icon, Key.iconPackage, Key.iconResource, Key.iconTint] ++ [Key.highlightColor] ++
    [Key.label] ++ [Key.shortDescription] ++ [Key.schemes, Key.enabled]

def bodyKeys : List String :=
  [Key.version] ++ [Key.defaultOutgoing] ++ [Key.simCallManager] ++ [Key.accounts]

/-- Every key is a word that needs no quotes. -/
theorem isKey_of_mem :
    ∀ key ∈ Key.root :: bodyKeys ++ accountKeys ++ schemesKeys ++ handleKeys,
      Outline.IsKey key := by
  decide +kernel

theorem keys_handleFields (directory : ScopeDirectory) (handle : Handle) :
    ((handleFields directory handle).map Prod.fst).Sublist handleKeys := by
  unfold handleFields
  cases handle.scope with
  | none => exact List.sublist_append_left [Key.componentName, Key.id] [Key.serialNumber]
  | some scope => exact List.Sublist.refl handleKeys

theorem keys_optionalText (key : String) (value : Option String) :
    ((optionalText key value).map Prod.fst).Sublist [key] := by
  cases value with
  | none => exact List.nil_sublist [key]
  | some value => exact List.Sublist.refl [key]

theorem keys_optionalHandle
    (directory : ScopeDirectory)
    (key : String)
    (handle : Option Handle) :
    ((optionalHandle directory key handle).map Prod.fst).Sublist [key] := by
  cases handle with
  | none => exact List.nil_sublist [key]
  | some handle => exact List.Sublist.refl [key]

theorem keys_iconFields (icon : Option Icon) :
    ((iconFields icon).map Prod.fst).Sublist
      [Key.icon, Key.iconPackage, Key.iconResource, Key.iconTint] := by
  unfold iconFields
  split
  · exact List.nil_sublist _
  · split
    · exact List.sublist_append_left [Key.icon] _
    · split
      · exact List.nil_sublist _
      · exact List.sublist_cons_self Key.icon _
    · exact List.nil_sublist _

theorem keys_accountFields (directory : ScopeDirectory) (account : Account) :
    ((accountFields directory account).map Prod.fst).Sublist accountKeys := by
  unfold accountFields accountKeys
  simp only [List.map_append]
  refine List.Sublist.append ?_ (List.Sublist.refl _)
  refine List.Sublist.append ?_ (keys_optionalText _ _)
  refine List.Sublist.append ?_ (keys_optionalText _ _)
  refine List.Sublist.append ?_ (List.Sublist.refl _)
  refine List.Sublist.append ?_ (keys_iconFields _)
  refine List.Sublist.append ?_ (List.Sublist.refl _)
  refine List.Sublist.append ?_ (keys_optionalText _ _)
  exact List.Sublist.append (List.Sublist.refl _) (keys_optionalText _ _)

theorem keys_bodyFields (directory : ScopeDirectory) (catalog : Catalog) :
    ((bodyFields directory catalog).map Prod.fst).Sublist bodyKeys := by
  unfold bodyFields bodyKeys
  simp only [List.map_append]
  refine List.Sublist.append ?_ (List.Sublist.refl _)
  refine List.Sublist.append ?_ (keys_optionalHandle _ _ _)
  exact List.Sublist.append (List.Sublist.refl _) (keys_optionalHandle _ _ _)

/-! ## Values -/

theorem isLeaf_of_mem_handleFields
    {directory : ScopeDirectory}
    {handle : Handle}
    {entry : String × Outline}
    (member : entry ∈ handleFields directory handle) :
    entry.2.isLeaf = true := by
  unfold handleFields at member
  rcases List.mem_append.mp member with member | member
  · rcases List.mem_cons.mp member with rfl | member
    · rfl
    · rw [List.mem_singleton.mp member]
      rfl
  · split at member
    · exact absurd member List.not_mem_nil
    · rw [List.mem_singleton.mp member]
      rfl

theorem isLeaf_of_mem_optionalText
    {key : String}
    {value : Option String}
    {entry : String × Outline}
    (member : entry ∈ optionalText key value) :
    entry.2.isLeaf = true := by
  cases value with
  | none => exact absurd member List.not_mem_nil
  | some value =>
      rw [List.mem_singleton.mp member]
      rfl

theorem isLeaf_of_mem_iconFields
    {icon : Option Icon}
    {entry : String × Outline}
    (member : entry ∈ iconFields icon) :
    entry.2.isLeaf = true := by
  have leaves : (iconFields icon).all fun entry => entry.2.isLeaf := by
    unfold iconFields
    repeat' split
    all_goals rfl
  exact List.all_eq_true.mp leaves entry member

/-- An account holds its handle, its schemes, and values that are no collections. -/
theorem cases_of_mem_accountFields
    {directory : ScopeDirectory}
    {account : Account}
    {entry : String × Outline}
    (member : entry ∈ accountFields directory account) :
    entry.2.isLeaf = true ∨ entry.2 = handleOutline directory account.handle ∨
      entry.2 = schemesOutline account.schemes := by
  unfold accountFields at member
  simp only [List.mem_append, List.mem_cons, List.not_mem_nil, or_false] at member
  rcases member with
    (((((((rfl | address) | subscription) | rfl) | icon) | rfl) | label) | description) | rfl | rfl
  · exact .inr (.inl rfl)
  · exact .inl (isLeaf_of_mem_optionalText address)
  · exact .inl (isLeaf_of_mem_optionalText subscription)
  · exact .inl rfl
  · exact .inl (isLeaf_of_mem_iconFields icon)
  · exact .inl rfl
  · exact .inl (isLeaf_of_mem_optionalText label)
  · exact .inl (isLeaf_of_mem_optionalText description)
  · exact .inr (.inr rfl)
  · exact .inl rfl

/-- The body holds its version, handles and accounts. -/
theorem cases_of_mem_bodyFields
    {directory : ScopeDirectory}
    {catalog : Catalog}
    {entry : String × Outline}
    (member : entry ∈ bodyFields directory catalog) :
    entry.2.isLeaf = true ∨ (∃ handle, entry.2 = handleOutline directory handle) ∨
      entry.2 = .sequence (catalog.accounts.map (accountOutline directory)) := by
  have isHandle {key : String} {handle : Option Handle}
      (member : entry ∈ optionalHandle directory key handle) :
      ∃ handle, entry.2 = handleOutline directory handle := by
    cases handle with
    | none => exact absurd member List.not_mem_nil
    | some handle =>
        rw [List.mem_singleton.mp member]
        exact ⟨handle, rfl⟩
  unfold bodyFields at member
  simp only [List.mem_append, List.mem_singleton] at member
  rcases member with ((rfl | chosen) | manages) | rfl
  · exact .inl rfl
  · exact .inr (.inl (isHandle chosen))
  · exact .inr (.inl (isHandle manages))
  · exact .inr (.inr rfl)

/-! ## Soundness -/

variable {directory : ScopeDirectory}

theorem isSound_handleOutline
    {handle : Handle}
    (short : (handleOutline directory handle).HasShortIntegers) :
    (handleOutline directory handle).IsSound := by
  have fieldsShort : (Outline.mapping (handleFields directory handle)).HasShortIntegers := short
  exact Outline.isSound_mapping (keys_handleFields directory handle) (by decide)
    (fun key member => isKey_of_mem key (by simp [member]))
    fun entry member =>
      Outline.isSound_of_isLeaf (isLeaf_of_mem_handleFields member) (fieldsShort.entry member)

theorem isSound_schemesOutline
    {schemes : List String}
    (short : (schemesOutline schemes).HasShortIntegers) :
    (schemesOutline schemes).IsSound := by
  refine Outline.isSound_mapping (List.Sublist.refl schemesKeys) (by decide)
    (fun key member => isKey_of_mem key (by simp [member])) ?_
  intro entry member
  have own := short.entry member
  rcases List.mem_cons.mp member with rfl | member
  · exact Outline.isSound_of_isLeaf rfl own
  · obtain rfl := List.mem_singleton.mp member
    refine Outline.isSound_sequence fun item isItem => ?_
    obtain ⟨scheme, -, rfl⟩ := List.mem_map.mp isItem
    trivial

theorem isSound_accountOutline
    {account : Account}
    (short : (accountOutline directory account).HasShortIntegers) :
    (accountOutline directory account).IsSound := by
  have fieldsShort : (Outline.mapping (accountFields directory account)).HasShortIntegers := short
  refine Outline.isSound_mapping (keys_accountFields directory account) (by decide)
    (fun key member => isKey_of_mem key (by simp [member])) ?_
  intro entry member
  have own := fieldsShort.entry member
  rcases cases_of_mem_accountFields member with leaf | handle | schemes
  · exact Outline.isSound_of_isLeaf leaf own
  · rw [handle] at own ⊢
    exact isSound_handleOutline own
  · rw [schemes] at own ⊢
    exact isSound_schemesOutline own

theorem isSound_document
    {catalog : Catalog}
    (short : (Outline.mapping (document directory catalog)).HasShortIntegers) :
    (Outline.mapping (document directory catalog)).IsSound := by
  have isRoot := isKey_of_mem Key.root (by simp)
  refine ⟨by simp [document], isRoot, ?_, trivial⟩
  refine Outline.isSound_mapping (keys_bodyFields directory catalog) (by decide)
    (fun key member => isKey_of_mem key (by simp [member])) ?_
  intro entry member
  have own := (short.entry List.mem_cons_self).entry member
  rcases cases_of_mem_bodyFields member with leaf | ⟨handle, isHandle⟩ | accounts
  · exact Outline.isSound_of_isLeaf leaf own
  · rw [isHandle] at own ⊢
    exact isSound_handleOutline own
  · rw [accounts] at own ⊢
    refine Outline.isSound_sequence fun item isItem => ?_
    have itemShort := own.item isItem
    obtain ⟨account, -, rfl⟩ := List.mem_map.mp isItem
    exact isSound_accountOutline itemShort

/-! ## Depth -/

theorem depth_handleOutline_le (directory : ScopeDirectory) (handle : Handle) :
    (handleOutline directory handle).depth ≤ 1 := by
  have fields : Outline.entriesDepth (handleFields directory handle) ≤ 0 :=
    Outline.entriesDepth_le fun _ member =>
      Nat.le_of_eq (Outline.depth_of_isLeaf (isLeaf_of_mem_handleFields member))
  exact Nat.succ_le_succ fields

theorem depth_schemesOutline_le (schemes : List String) :
    (schemesOutline schemes).depth ≤ 2 := by
  have values : Outline.itemsDepth (schemes.map .text) ≤ 0 := by
    refine Outline.itemsDepth_le fun item isItem => ?_
    obtain ⟨scheme, -, rfl⟩ := List.mem_map.mp isItem
    exact Nat.le_refl 0
  refine Nat.succ_le_succ (Outline.entriesDepth_le fun entry member => ?_)
  rcases List.mem_cons.mp member with rfl | member
  · exact Nat.zero_le 1
  · obtain rfl := List.mem_singleton.mp member
    exact Nat.succ_le_succ values

theorem depth_accountOutline_le (directory : ScopeDirectory) (account : Account) :
    (accountOutline directory account).depth ≤ 3 := by
  suffices fields : Outline.entriesDepth (accountFields directory account) ≤ 2 from
    Nat.succ_le_succ fields
  refine Outline.entriesDepth_le fun entry member => ?_
  rcases cases_of_mem_accountFields member with leaf | handle | schemes
  · rw [Outline.depth_of_isLeaf leaf]
    exact Nat.zero_le 2
  · rw [handle]
    exact Nat.le_succ_of_le (depth_handleOutline_le directory account.handle)
  · rw [schemes]
    exact depth_schemesOutline_le account.schemes

/-- The collections of a document lie so little deep that a line has room for a text. -/
theorem narrow_document (directory : ScopeDirectory) (catalog : Catalog) :
    Outline.step * (Outline.entriesDepth (document directory catalog) + 1) < bestWidth := by
  have body : Outline.entriesDepth (bodyFields directory catalog) ≤ 4 := by
    refine Outline.entriesDepth_le fun entry member => ?_
    rcases cases_of_mem_bodyFields member with leaf | ⟨handle, isHandle⟩ | accounts
    · rw [Outline.depth_of_isLeaf leaf]
      exact Nat.zero_le 4
    · rw [isHandle]
      exact Nat.le_trans (depth_handleOutline_le directory handle) (by decide)
    · rw [accounts]
      refine Nat.succ_le_succ (Outline.itemsDepth_le fun item isItem => ?_)
      obtain ⟨account, -, rfl⟩ := List.mem_map.mp isItem
      exact depth_accountOutline_le directory account
  have whole : Outline.entriesDepth (document directory catalog) ≤ 5 :=
    Outline.entriesDepth_le fun entry member => by
      rw [List.mem_singleton.mp member]
      exact Nat.succ_le_succ body
  simp only [Outline.step, bestWidth]
  omega

/-! ## The text of a catalog -/

/-- The text of a catalog is always read; what it is read as is another document, in which only
texts can differ. -/
theorem treeOfBytes?_encode
    {catalog : Catalog}
    (short : (Outline.mapping (document directory catalog)).HasShortIntegers) :
    treeOfBytes? (encode directory catalog) =
      .ok (Outline.mapping (document directory catalog)).reread.tree :=
  Outline.treeOfBytes?_documentText (List.cons_ne_nil _ _) (isSound_document short)
    (narrow_document directory catalog)

theorem readsBack_iff
    {catalog : Catalog}
    (short : (Outline.mapping (document directory catalog)).HasShortIntegers) :
    ReadsBack directory catalog ↔
      ∀ value ∈ (Outline.mapping (document directory catalog)).texts,
        TextStyle.of value.toList = .singleQuoted → '\x85' ∉ value.toList := by
  rw [ReadsBack, ReadsBackWith, treeOfBytes?_encode short, Except.ok.injEq, documentTree]
  exact Outline.tree_reread_eq_iff_texts _

theorem decode_encode_of_readsBack
    {reader : Reader}
    {catalog : Catalog}
    (readsBack : ReadsBack reader.directory catalog) :
    reader.decode (encode reader.directory catalog) =
      (reader.decodeTree (documentTree reader.directory catalog)).mapError .field := by
  unfold ReadsBack ReadsBackWith at readsBack
  rw [Reader.decode, Reader.decodeWith, readsBack]
  exact decodeDocument_documentTree reader reader.directory catalog

/-- The bytes of every catalog whose integers can be written are read.  They give the tree that
was written if and only if no text between apostrophes holds a next-line character, and then
decoding the bytes is decoding that tree. -/
theorem stored_text_loses_only_nextLines
    {reader : Reader}
    {catalog : Catalog}
    (short : (Outline.mapping (document reader.directory catalog)).HasShortIntegers) :
    treeOfBytes? (encode reader.directory catalog) =
        .ok (Outline.mapping (document reader.directory catalog)).reread.tree ∧
      (ReadsBack reader.directory catalog ↔
        ∀ value ∈ (Outline.mapping (document reader.directory catalog)).texts,
          TextStyle.of value.toList = .singleQuoted → '\x85' ∉ value.toList) ∧
      (ReadsBack reader.directory catalog →
        reader.decode (encode reader.directory catalog) =
          (reader.decodeTree (documentTree reader.directory catalog)).mapError .field) :=
  ⟨treeOfBytes?_encode short, readsBack_iff short, decode_encode_of_readsBack⟩

/-! ## What every reading keeps -/

theorem field?_rereadEntries (name : String) (fields : List (String × Outline)) :
    field? name (Outline.rereadEntries fields) = (field? name fields).map Outline.reread := by
  induction fields with
  | nil => rfl
  | cons field rest inductionHypothesis =>
      obtain ⟨key, value⟩ := field
      rw [Outline.rereadEntries, field?_cons, field?_cons]
      by_cases same : key = name
      · rw [if_pos same, if_pos same]
        rfl
      · rw [if_neg same, if_neg same]
        exact inductionHypothesis

theorem exists_of_mem_rereadItems
    {items : List Outline}
    {tree : Tree}
    (member : tree ∈ Outline.itemTrees (Outline.rereadItems items)) :
    ∃ item ∈ items, tree = item.reread.tree := by
  induction items with
  | nil => exact absurd member List.not_mem_nil
  | cons first rest inductionHypothesis =>
      rcases List.mem_cons.mp member with rfl | later
      · exact ⟨first, List.mem_cons_self, rfl⟩
      · obtain ⟨item, listed, same⟩ := inductionHypothesis later
        exact ⟨item, List.mem_cons_of_mem first listed, same⟩

/-- Whatever becomes of its texts, an account comes back with the same switches. -/
theorem switches_of_readAccount
    {reader : Reader}
    {written : ScopeDirectory}
    {version : Int}
    {stored account : Account}
    (read : reader.readAccount version (accountOutline written stored).reread.tree =
      .ok (some account)) :
    account.switches = stored.switches := by
  obtain ⟨entries, handle, fields, given, -, fieldsRead, rfl⟩ := readAccount_eq_ok read
  obtain rfl : Outline.entryTrees (Outline.rereadEntries (accountFields written stored)) =
      entries := Option.some.inj given
  obtain ⟨-, capabilitiesRead, enabledRead⟩ := readStoredAccount_eq_ok fieldsRead
  obtain ⟨-, -, -, capabilities, -, -, -, -, -, -, -, -, -, enabled⟩ :=
    field?_accountFields written stored
  rw [readIntegerOr, find?_entryTrees, field?_rereadEntries, capabilities] at capabilitiesRead
  rw [readEnabled, find?_entryTrees, field?_rereadEntries, enabled] at enabledRead
  rw [StoredAccount.upgrade_eq]
  exact Prod.ext (Except.ok.inj capabilitiesRead).symm (Except.ok.inj enabledRead).symm

/-- Every account that is read from the bytes of a catalog was in the catalog, with the same
switches. -/
theorem switches_of_decode_encode
    {reader : Reader}
    {written : ScopeDirectory}
    {stored catalog : Catalog}
    (short : (Outline.mapping (document written stored)).HasShortIntegers)
    (decoded : reader.decode (encode written stored) = .ok (some catalog))
    {account : Account}
    (member : account ∈ catalog.accounts) :
    ∃ known ∈ stored.accounts, account.switches = known.switches := by
  obtain ⟨tree, treeRead, decoded⟩ := decodeWith_eq_ok_iff.mp decoded
  rw [treeOfBytes?_encode short] at treeRead
  obtain rfl := Except.ok.inj treeRead
  obtain ⟨entries, body, fields, mapping, root, given, bodyRead⟩ := decodeTree_eq_ok decoded
  obtain rfl : Outline.entryTrees (Outline.rereadEntries (document written stored)) = entries :=
    Tree.mapping.inj mapping
  rw [find?_entryTrees, field?_rereadEntries] at root
  obtain rfl : Tree.mapping (Outline.entryTrees (Outline.rereadEntries
      (bodyFields written stored))) = body := Option.some.inj root
  obtain rfl : Outline.entryTrees (Outline.rereadEntries (bodyFields written stored)) = fields :=
    Option.some.inj given
  obtain ⟨-, items, -, -, -, listed, accountsRead⟩ := readBody_eq_ok bodyRead
  rw [itemsOf?, get_entryTrees, field?_rereadEntries,
    (field?_bodyFields written stored).2.2.2] at listed
  obtain rfl : Outline.itemTrees (Outline.rereadItems
      (stored.accounts.map (accountOutline written))) = items :=
    Option.some.inj ((items?_sequence _).symm.trans listed)
  obtain ⟨item, listed, itemRead⟩ := exists_item_of_mem_readAccounts accountsRead member
  obtain ⟨outline, outlined, rfl⟩ := exists_of_mem_rereadItems listed
  obtain ⟨known, knownMember, rfl⟩ := List.mem_map.mp outlined
  exact ⟨known, knownMember, switches_of_readAccount itemRead⟩

/-! ## Samples -/

/-- A catalog with one account, which has this label. -/
def labelledCatalog (label : String) : Catalog where
  accounts := [{ handle := ⟨⟨"com.calls", "Service"⟩, "line", some Scope.owner⟩, label := label }]

/-- A label of several lines that is written between apostrophes is kept, with an apostrophe, line
breaks of two kinds and what looks like marks in it. -/
theorem readsBack_of_lines :
    let label := "\n# it's:\u2028\n\n- fine"
    let catalog := labelledCatalog label
    TextStyle.of label.toList = .singleQuoted ∧
      (Outline.mapping (document sampleReader.directory catalog)).HasShortIntegers ∧
      ReadsBack sampleReader.directory catalog ∧
      (sampleReader.decode (encode sampleReader.directory catalog)).toOption =
        some (some catalog) := by
  intro label catalog
  have style : TextStyle.of label.toList = .singleQuoted := by decide +kernel
  have short : (Outline.mapping (document sampleReader.directory catalog)).HasShortIntegers := by
    decide +kernel
  obtain ⟨-, readsBack, decoded⟩ := stored_text_loses_only_nextLines short
  have kept : ReadsBack sampleReader.directory catalog := readsBack.mpr (by decide +kernel)
  refine ⟨style, short, kept, ?_⟩
  rw [decoded kept]
  decide +kernel

/-- A next-line character in a label is written as it is and read as a space. -/
theorem nextLine_isLost :
    let catalog := labelledCatalog "a\x85b"
    let read := sampleReader.decode (encode sampleReader.directory catalog)
    let written := sampleReader.decodeTree (documentTree sampleReader.directory catalog)
    ¬ ReadsBack sampleReader.directory catalog ∧
      read.toOption = some (some (labelledCatalog "a b")) ∧
      written.toOption = some (some catalog) := by
  intro catalog read written
  exact ⟨by decide +kernel, by decide +kernel, by decide +kernel⟩

end PhoneAccounts.StateFile
