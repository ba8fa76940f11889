import PhoneAccounts.Proofs.StateFile.Decoded
import PhoneAccounts.Proofs.StateFile.Grammar

/-!
Contract: what of a document does not depend on who reads it.

The scopes of the device, the scope of the process and the facts that upgrades need decide which
scopes, icons and schemes come out.  Whether the document can be read at all, its version, and
which accounts there are with which capabilities, switched on or off, is the same for every
reader; so are the handles of the accounts for readers that know the same scopes.

Owns: `Account.switches`, `FoundAlike`, and that all readers end alike, the faults included.

Does not own: what one reader finds (see `PhoneAccounts.Proofs.StateFile.Decoded`).
-/

namespace PhoneAccounts

/-- What the account can do, and whether it is switched on. -/
def Account.switches (account : Account) : Int × Bool :=
  (account.capabilities, account.enabled)

theorem Account.isSim_eq_of_switches
    {left right : Account}
    (same : left.switches = right.switches) :
    left.isSim = right.isSim := by
  have capabilities : left.capabilities = right.capabilities := congrArg Prod.fst same
  rw [isSim, isSim, has, has, hasAll, hasAll, capabilities]

namespace StateFile

/-! ## What two readers find -/

section Alike

variable (reader other : Reader)

/-- Two readers find a handle or none; it may be under different scopes. -/
structure HandlesAlike (left right : Option Handle) : Prop where
  isSome : right.isSome = left.isSome
  same : other.directory = reader.directory → right = left

/-- Accounts that two readers find, in the same order. -/
structure AccountsAlike (left right : List Account) : Prop where
  switches : right.map Account.switches = left.map Account.switches
  handles : other.directory = reader.directory →
    right.map Account.handle = left.map Account.handle

/-- What two readers find in one document. -/
structure FoundAlike (left right : Catalog) : Prop where
  version : right.version = left.version
  accounts : AccountsAlike reader other left.accounts right.accounts

/-- What two readers find in one place. -/
inductive ResultsAlike : LoadResult → LoadResult → Prop
  | absent : ResultsAlike .absent .absent
  | corrupt : ResultsAlike .corrupt .corrupt
  | loaded {left right : Catalog} (alike : FoundAlike reader other left right) :
      ResultsAlike (.loaded left) (.loaded right)

end Alike

/-! ## Handles -/

section Readers

variable (reader other : Reader)

theorem readScope_alike (value : Tree) :
    EndAlike (fun left right => other.directory = reader.directory → right = left)
      (reader.readScope value) (other.readScope value) := by
  unfold Reader.readScope
  by_cases absent : value.isNull = true
  · rw [if_pos absent, if_pos absent]
    exact .done fun _ => rfl
  · rw [if_neg absent, if_neg absent]
    refine (EndAlike.refl _).bind ?_
    rintro serial _ rfl
    exact .done fun same => by rw [same]

theorem readRest_alike (entries : List (Tree × Tree)) (component : Component) :
    EndAlike (HandlesAlike reader other) (reader.readRest entries component)
      (other.readRest entries component) := by
  refine (readScope_alike reader other _).bind fun scope found sameScope => ?_
  refine (EndAlike.refl _).bind ?_
  rintro id _ rfl
  exact .done ⟨rfl, fun sameDirectory => by rw [sameScope sameDirectory]⟩

theorem readHandle_alike (value : Tree) :
    EndAlike (HandlesAlike reader other) (reader.readHandle value) (other.readHandle value) := by
  cases mapping : value.entries? with
  | none =>
      rw [readHandle_of_noMapping reader mapping, readHandle_of_noMapping other mapping]
      exact .stopped _
  | some entries =>
      rw [readHandle_eq reader mapping, readHandle_eq other mapping]
      refine (EndAlike.refl _).bind ?_
      rintro named _ rfl
      cases named with
      | none => exact .done ⟨rfl, fun _ => rfl⟩
      | some text =>
          dsimp only [Reader.readNamed]
          cases Component.ofText? text with
          | none => exact .stopped _
          | some component => exact readRest_alike reader other entries component

theorem readHandleField_alike (field : String) (entries : List (Tree × Tree)) :
    EndAlike (HandlesAlike reader other) (reader.readHandleField field entries)
      (other.readHandleField field entries) := by
  rw [readHandleField_eq, readHandleField_eq]
  by_cases absent : (Tree.get field entries).isNull = true
  · rw [if_pos absent, if_pos absent]
    exact .done ⟨rfl, fun _ => rfl⟩
  · rw [if_neg absent, if_neg absent]
    exact readHandle_alike reader other _

/-! ## Accounts -/

/-- The handle under which an account is stored counts for nothing else in it. -/
theorem readStoredAccount_eq_map (handle other : Handle) (entries : List (Tree × Tree)) :
    readStoredAccount other entries =
      (readStoredAccount handle entries).map fun stored => { stored with handle := other } := by
  unfold readStoredAccount
  dsimp only
  split <;> split <;> simp only [map_bind_eq] <;> rfl

theorem readStoredAccount_alike (handle otherHandle : Handle) (entries : List (Tree × Tree)) :
    EndAlike
      (fun left right => left.handle = handle ∧ right = { left with handle := otherHandle })
      (readStoredAccount handle entries) (readStoredAccount otherHandle entries) := by
  rw [readStoredAccount_eq_map handle otherHandle]
  cases read : readStoredAccount handle entries with
  | error fault => exact .stopped fault
  | ok stored => exact .done ⟨(readStoredAccount_eq_ok read).1, rfl⟩

/-- An upgrade keeps the handle and the switches. -/
theorem handle_and_switches_upgrade
    (stored : StoredAccount)
    (context : UpgradeContext)
    (version : Int) :
    (stored.upgrade context version).toAccount.handle = stored.handle ∧
      (stored.upgrade context version).toAccount.switches =
        (stored.capabilities, stored.enabled) := by
  rw [StoredAccount.upgrade_eq]
  exact ⟨rfl, rfl⟩

theorem readFound_alike
    (version : Int)
    (entries : List (Tree × Tree))
    {handle found : Option Handle}
    (alike : HandlesAlike reader other handle found) :
    EndAlike (fun left right => AccountsAlike reader other left.toList right.toList)
      (reader.readFound version entries handle) (other.readFound version entries found) := by
  cases handle with
  | none =>
      obtain rfl := Option.not_isSome_iff_eq_none.mp (Bool.eq_false_iff.mp alike.isSome)
      exact .done ⟨rfl, fun _ => rfl⟩
  | some handle =>
      obtain ⟨here, rfl⟩ := Option.isSome_iff_exists.mp alike.isSome
      refine (readStoredAccount_alike handle here entries).bind ?_
      rintro stored _ ⟨own, rfl⟩
      have left := handle_and_switches_upgrade stored reader.upgrades version
      have right :=
        handle_and_switches_upgrade { stored with handle := here } other.upgrades version
      refine .done ⟨?_, fun sameDirectory => ?_⟩
      · exact congrArg (fun switches => [switches]) (right.2.trans left.2.symm)
      · have same : here = handle := Option.some.inj (alike.same sameDirectory)
        have handles := right.1.trans (same.trans (own.symm.trans left.1.symm))
        exact congrArg (fun handle => [handle]) handles

theorem readAccount_alike (version : Int) (value : Tree) :
    EndAlike (fun left right => AccountsAlike reader other left.toList right.toList)
      (reader.readAccount version value) (other.readAccount version value) := by
  cases mapping : value.entries? with
  | none =>
      unfold Reader.readAccount
      rw [mapping]
      exact .stopped _
  | some entries =>
      rw [readAccount_eq reader version mapping, readAccount_eq other version mapping]
      exact (readHandleField_alike reader other _ entries).bind fun handle found alike =>
        readFound_alike reader other version entries alike

variable {reader other} in
theorem AccountsAlike.append
    {left right moreLeft moreRight : List Account}
    (alike : AccountsAlike reader other left right)
    (moreAlike : AccountsAlike reader other moreLeft moreRight) :
    AccountsAlike reader other (left ++ moreLeft) (right ++ moreRight) where
  switches := by rw [List.map_append, List.map_append, alike.switches, moreAlike.switches]
  handles same := by
    rw [List.map_append, List.map_append, alike.handles same, moreAlike.handles same]

theorem readAccounts_alike (version : Int) (items : List Tree) :
    EndAlike (AccountsAlike reader other) (reader.readAccounts version items)
      (other.readAccounts version items) := by
  induction items with
  | nil => exact .done ⟨rfl, fun _ => rfl⟩
  | cons item rest inductionHypothesis =>
      rw [Reader.readAccounts, Reader.readAccounts]
      refine (readAccount_alike reader other version item).bind fun first found alike => ?_
      refine inductionHypothesis.bind fun later laterFound laterAlike => ?_
      exact .done (alike.append laterAlike)

/-! ## Documents -/

theorem readAccountsField_alike
    (version : Int)
    (chosen otherChosen manager otherManager : Option Handle)
    (entries : List (Tree × Tree)) :
    EndAlike (FoundAlike reader other)
      (reader.readAccountsField version chosen manager entries)
      (other.readAccountsField version otherChosen otherManager entries) := by
  unfold Reader.readAccountsField
  dsimp only
  split
  · exact .stopped _
  · next items listed =>
      refine (readAccounts_alike reader other version items).bind fun accounts found alike => ?_
      exact .done ⟨rfl, alike⟩

theorem readBody_alike (entries : List (Tree × Tree)) :
    EndAlike (FoundAlike reader other) (reader.readBody entries) (other.readBody entries) := by
  rw [readBody_eq, readBody_eq]
  refine (EndAlike.refl _).bind ?_
  rintro version _ rfl
  refine (readHandleField_alike reader other _ entries).bind fun chosen otherChosen _ => ?_
  refine (readHandleField_alike reader other _ entries).bind fun manager otherManager _ => ?_
  exact readAccountsField_alike reader other version _ _ _ _ entries

theorem readGiven_alike (body : Tree) :
    EndAlike (FoundAlike reader other) (reader.readGiven body) (other.readGiven body) := by
  unfold Reader.readGiven
  split
  · exact .stopped _
  · exact readBody_alike reader other _

/-- Every reader finds the same fault in a document, or no catalog, or one that is alike. -/
theorem decodeTree_alike (tree : Tree) :
    EndAlike (Option.Rel (FoundAlike reader other)) (reader.decodeTree tree)
      (other.decodeTree tree) := by
  by_cases present : ∃ body, HasBody tree body
  · obtain ⟨body, given⟩ := present
    rw [decodeTree_of_hasBody reader given, decodeTree_of_hasBody other given]
    exact (readGiven_alike reader other body).map fun _ _ alike => .some alike
  · rw [decodeTree_of_not_hasBody reader present, decodeTree_of_not_hasBody other present]
    exact .done .none

/-! ## Files -/

variable (parser : Yaml.Parser) (path : FilePath) (files : Entry)

theorem decodeWith_alike (bytes : List UInt8) :
    EndAlike (Option.Rel (FoundAlike reader other)) (reader.decodeWith parser bytes)
      (other.decodeWith parser bytes) := by
  unfold Reader.decodeWith
  cases parser bytes with
  | error markup => exact .stopped _
  | ok tree =>
      dsimp only [Reader.decodeDocument]
      have alike := decodeTree_alike reader other tree
      generalize reader.decodeTree tree = left at alike
      generalize other.decodeTree tree = right at alike
      cases alike with
      | stopped fault => exact .stopped _
      | done found => exact .done found

variable {reader other} in
theorem classify_alike
    {left right : Except DecodeFault (Option Catalog)}
    (alike : EndAlike (Option.Rel (FoundAlike reader other)) left right) :
    EndAlike (ResultsAlike reader other) (classify left) (classify right) := by
  cases alike with
  | stopped fault =>
      cases classified : classify (.error fault) with
      | error stop => exact .stopped stop
      | ok result =>
          cases result with
          | absent => exact .done .absent
          | corrupt => exact .done .corrupt
          | loaded catalog =>
              exact absurd ((classify_eq_loaded_iff _ _).mp classified) (by simp)
  | done found =>
      cases found with
      | none => exact .done .corrupt
      | some alike => exact .done (.loaded alike)

/-- Whoever loads a file is stopped by the same, or finds what is alike. -/
theorem loadWith_alike :
    EndAlike (ResultsAlike reader other) (loadWith parser reader path files)
      (loadWith parser other path files) := by
  unfold loadWith
  split
  · exact .done .absent
  · exact .done .corrupt
  · exact .done .corrupt
  · exact classify_alike (decodeWith_alike reader other parser _)

end Readers

variable {reader : Reader} {parser : Yaml.Parser} {path : FilePath} {files : Entry}

/-- Where one reader finds a catalog in the files, so does every other, and they are alike. -/
theorem loadWith_of_reader
    {catalog : Catalog}
    (loaded : loadWith parser reader path files = .ok (.loaded catalog))
    (other : Reader) :
    ∃ found, loadWith parser other path files = .ok (.loaded found) ∧
      FoundAlike reader other catalog found := by
  have alike := loadWith_alike reader other parser path files
  rw [loaded] at alike
  generalize loadWith parser other path files = found at alike
  cases alike with
  | done results =>
      cases results with
      | loaded alike => exact ⟨_, rfl, alike⟩

/-- Where one reader finds no catalog, every other finds the same instead. -/
theorem loadWith_of_reader_of_unloaded
    {result : LoadResult}
    (found : loadWith parser reader path files = .ok result)
    (unloaded : result.catalog? = none)
    (other : Reader) :
    loadWith parser other path files = .ok result := by
  have alike := loadWith_alike reader other parser path files
  rw [found] at alike
  generalize loadWith parser other path files = again at alike
  cases alike with
  | done results =>
      cases results with
      | absent => rfl
      | corrupt => rfl
      | loaded alike => exact absurd unloaded (by simp [LoadResult.catalog?])

end StateFile

end PhoneAccounts
