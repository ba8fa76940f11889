import Mathlib.Data.List.Forall2
import PhoneAccounts.Proofs.StateFile.Fields
import PhoneAccounts.Proofs.StateFile.Grammar
import PhoneAccounts.Proofs.StateFile.Saving

/-!
Contract: entries that no reader looks for, and the order of entries, never matter.

Two documents are alike if their mappings agree under the keys that are looked up, at every level
down to the handles and the schemes of the accounts.  Nothing is said about other entries, and the
order of entries is no part of it.  Alike documents are read the same, faults and their wording
included.

Owns: which documents are alike, and that they are read the same.

Does not own: which documents can be read (see `PhoneAccounts.Proofs.StateFile.Grammar`).
-/

namespace PhoneAccounts.StateFile

open PhoneAccounts.Tree (AgreeUnder)

/-! ## Alike values -/

/-- Two values are the same, or mappings that agree under some keys. -/
inductive AlikeRecords (alike : String → Tree → Tree → Prop) (keys : List String) :
    Tree → Tree → Prop where
  | same (value : Tree) : AlikeRecords alike keys value value
  | mapping (left right : List (Tree × Tree)) (agree : AgreeUnder alike keys left right) :
      AlikeRecords alike keys (.mapping left) (.mapping right)

def knownInHandle : List String := [Key.componentName, Key.id, Key.serialNumber]

def AlikeHandles : Tree → Tree → Prop := AlikeRecords (fun _ => Eq) knownInHandle

def knownInList : List String := [Key.length, Key.values]

def AlikeLists : Tree → Tree → Prop := AlikeRecords (fun _ => Eq) knownInList

/-- The keys of an account whose values are no mappings. -/
def plainKeys : List String := Key.enabled :: (textKeys ++ integerKeys ++ payloadKeys)

def knownInAccount : List String := Key.handle :: Key.schemes :: plainKeys

/-- The values under a key of an account: the handle and the schemes need only be alike. -/
def AlikeInAccount (key : String) (left right : Tree) : Prop :=
  left = right ∨ (key = Key.handle ∧ AlikeHandles left right) ∨
    (key = Key.schemes ∧ AlikeLists left right)

def AlikeAccounts : Tree → Tree → Prop := AlikeRecords AlikeInAccount knownInAccount

def knownInBody : List String :=
  [Key.version, Key.defaultOutgoing, Key.simCallManager, Key.accounts]

/-- The values under a key of a body: the choices need only be alike, and so need the accounts, one
by one. -/
def AlikeInBody (key : String) (left right : Tree) : Prop :=
  left = right ∨
    ((key = Key.defaultOutgoing ∨ key = Key.simCallManager) ∧ AlikeHandles left right) ∨
    (key = Key.accounts ∧ ∃ lefts rights, left = .sequence lefts ∧ right = .sequence rights ∧
      List.Forall₂ AlikeAccounts lefts rights)

def AlikeBodies : Tree → Tree → Prop := AlikeRecords AlikeInBody knownInBody

def AlikeDocuments : Tree → Tree → Prop := AlikeRecords (fun _ => AlikeBodies) [Key.root]

/-! ## Handles -/

variable {left right : Tree}

theorem AlikeRecords.isNull_eq
    {alike : String → Tree → Tree → Prop}
    {keys : List String}
    (records : AlikeRecords alike keys left right) :
    left.isNull = right.isNull := by
  cases records <;> rfl

variable (reader : Reader)

theorem readHandle_of_alike (handles : AlikeHandles left right) :
    reader.readHandle left = reader.readHandle right := by
  cases handles with
  | same => rfl
  | mapping lefts rights agree =>
      have same {key : String} (known : key ∈ knownInHandle) :
          Tree.get key lefts = Tree.get key rights :=
        agree.get_eq known (fun _ _ equal => equal)
      simp only [Reader.readHandle, readTextField, Tree.entries?,
        same (by decide : Key.componentName ∈ knownInHandle),
        same (by decide : Key.id ∈ knownInHandle),
        same (by decide : Key.serialNumber ∈ knownInHandle)]

theorem readHandleField_of_alike
    {field : String}
    {lefts rights : List (Tree × Tree)}
    (handles : AlikeHandles (Tree.get field lefts) (Tree.get field rights)) :
    reader.readHandleField field lefts = reader.readHandleField field rights := by
  rw [readHandleField_eq, readHandleField_eq, handles.isNull_eq,
    readHandle_of_alike reader handles]

/-! ## Accounts -/

theorem readCountedList_of_alike (field : String) (lists : AlikeLists left right) :
    readCountedList field left = readCountedList field right := by
  cases lists with
  | same => rfl
  | mapping lefts rights agree =>
      have length : Tree.find? Key.length lefts = Tree.find? Key.length rights :=
        agree.find?_eq (by decide) (fun _ _ equal => equal)
      have values : Tree.get Key.values lefts = Tree.get Key.values rights :=
        agree.get_eq (by decide) (fun _ _ equal => equal)
      simp only [readCountedList, Tree.entries?, length, values]

section Account

variable {lefts rights : List (Tree × Tree)}

theorem alikeInAccount_refl (key : String) (value : Tree) : AlikeInAccount key value value :=
  .inl rfl

theorem alikeHandles_of_agree (agree : AgreeUnder AlikeInAccount knownInAccount lefts rights) :
    AlikeHandles (Tree.get Key.handle lefts) (Tree.get Key.handle rights) := by
  rcases agree.get alikeInAccount_refl (by decide : Key.handle ∈ knownInAccount) with
    same | ⟨-, handles⟩ | ⟨other, -⟩
  · rw [same]
    exact .same _
  · exact handles
  · exact absurd other (by decide)

theorem alikeLists_of_agree (agree : AgreeUnder AlikeInAccount knownInAccount lefts rights) :
    AlikeLists (Tree.get Key.schemes lefts) (Tree.get Key.schemes rights) := by
  rcases agree.get alikeInAccount_refl (by decide : Key.schemes ∈ knownInAccount) with
    same | ⟨other, -⟩ | ⟨-, lists⟩
  · rw [same]
    exact .same _
  · exact absurd other (by decide)
  · exact lists

theorem find?_of_agree
    (agree : AgreeUnder AlikeInAccount knownInAccount lefts rights)
    {key : String}
    (plain : key ∈ plainKeys) :
    Tree.find? key lefts = Tree.find? key rights := by
  have others : ∀ key ∈ plainKeys, key ≠ Key.handle ∧ key ≠ Key.schemes := by decide
  apply agree.find?_eq (List.mem_cons_of_mem _ (List.mem_cons_of_mem _ plain))
  rintro first second (same | ⟨isHandle, -⟩ | ⟨isSchemes, -⟩)
  · exact same
  · exact absurd isHandle (others key plain).1
  · exact absurd isSchemes (others key plain).2

theorem readStoredAccount_of_alike
    (agree : AgreeUnder AlikeInAccount knownInAccount lefts rights)
    (handle : Handle) :
    readStoredAccount handle lefts = readStoredAccount handle rights := by
  have found {key : String} (plain : key ∈ plainKeys) := find?_of_agree agree plain
  have given {key : String} (plain : key ∈ plainKeys) :
      Tree.get key lefts = Tree.get key rights := by
    rw [Tree.get, Tree.get, found plain]
  have lists := alikeLists_of_agree agree
  simp only [readStoredAccount, readTextField, readIntegerOr, lists.isNull_eq,
    readCountedList_of_alike Key.schemes lists,
    given (by decide : Key.address ∈ plainKeys),
    given (by decide : Key.subscriptionAddress ∈ plainKeys),
    found (by decide : Key.capabilities ∈ plainKeys),
    given (by decide : Key.icon ∈ plainKeys),
    given (by decide : Key.iconBitmap ∈ plainKeys),
    given (by decide : Key.iconPackage ∈ plainKeys),
    found (by decide : Key.iconResource ∈ plainKeys),
    found (by decide : Key.iconTint ∈ plainKeys),
    found (by decide : Key.highlightColor ∈ plainKeys),
    given (by decide : Key.label ∈ plainKeys),
    given (by decide : Key.shortDescription ∈ plainKeys),
    found (by decide : Key.enabled ∈ plainKeys)]

end Account

theorem readAccount_of_alike (version : Int) (accounts : AlikeAccounts left right) :
    reader.readAccount version left = reader.readAccount version right := by
  cases accounts with
  | same => rfl
  | mapping lefts rights agree =>
      have handle := readHandleField_of_alike reader (alikeHandles_of_agree agree)
      simp only [Reader.readAccount, Tree.entries?, handle, readStoredAccount_of_alike agree]

theorem readAccounts_of_alike
    (version : Int)
    {lefts rights : List Tree}
    (accounts : List.Forall₂ AlikeAccounts lefts rights) :
    reader.readAccounts version lefts = reader.readAccounts version rights := by
  induction accounts with
  | nil => rfl
  | cons first _ inductionHypothesis =>
      rw [Reader.readAccounts, Reader.readAccounts, readAccount_of_alike reader version first,
        inductionHypothesis]

/-! ## Bodies and documents -/

section Body

variable {lefts rights : List (Tree × Tree)}

theorem alikeInBody_refl (key : String) (value : Tree) : AlikeInBody key value value :=
  .inl rfl

theorem version_of_agree (agree : AgreeUnder AlikeInBody knownInBody lefts rights) :
    Tree.get Key.version lefts = Tree.get Key.version rights := by
  apply agree.get_eq (by decide)
  rintro first second (same | ⟨isChoice, -⟩ | ⟨isAccounts, -⟩)
  · exact same
  · exact absurd isChoice (by decide)
  · exact absurd isAccounts (by decide)

theorem readChoice_of_agree
    (agree : AgreeUnder AlikeInBody knownInBody lefts rights)
    {key : String}
    (choice : key = Key.defaultOutgoing ∨ key = Key.simCallManager) :
    reader.readHandleField key lefts = reader.readHandleField key rights := by
  have known : key ∈ knownInBody := by
    rcases choice with rfl | rfl <;> decide
  apply readHandleField_of_alike
  rcases agree.get alikeInBody_refl known with same | ⟨-, handles⟩ | ⟨isAccounts, -⟩
  · rw [same]
    exact .same _
  · exact handles
  · rcases choice with rfl | rfl <;> exact absurd isAccounts (by decide)

theorem readAccountsField_of_agree
    (agree : AgreeUnder AlikeInBody knownInBody lefts rights)
    (version : Int)
    (defaultOutgoing simCallManager : Option Handle) :
    reader.readAccountsField version defaultOutgoing simCallManager lefts =
      reader.readAccountsField version defaultOutgoing simCallManager rights := by
  unfold Reader.readAccountsField
  rcases agree.get alikeInBody_refl (by decide : Key.accounts ∈ knownInBody) with
    same | ⟨isChoice, -⟩ | ⟨-, leftItems, rightItems, leftSame, rightSame, accounts⟩
  · rw [same]
  · exact absurd isChoice (by decide)
  · rw [leftSame, rightSame]
    simp only [items?_sequence, readAccounts_of_alike reader version accounts]

theorem readBody_of_agree (agree : AgreeUnder AlikeInBody knownInBody lefts rights) :
    reader.readBody lefts = reader.readBody rights := by
  have defaultOutgoing := readChoice_of_agree reader agree (.inl rfl)
  have simCallManager := readChoice_of_agree reader agree (.inr rfl)
  simp only [readBody_eq reader, version_of_agree agree, defaultOutgoing, simCallManager,
    readAccountsField_of_agree reader agree]

end Body

/-- A mapping that is empty is read like any other. -/
theorem readGiven_mapping (entries : List (Tree × Tree)) :
    reader.readGiven (.mapping entries) = reader.readBody entries := by
  cases entries <;> rfl

theorem readGiven_of_alike (bodies : AlikeBodies left right) :
    reader.readGiven left = reader.readGiven right := by
  cases bodies with
  | same => rfl
  | mapping lefts rights agree =>
      rw [readGiven_mapping, readGiven_mapping, readBody_of_agree reader agree]

/-- Documents that differ only in entries under keys that are not looked up, at any level from the
document down to the handles and the schemes, and in the order of entries, are read the same: as
the same catalog, as no state file, or with the same fault. -/
theorem decodeTree_ignores_unknownKeys (documents : AlikeDocuments left right) :
    reader.decodeTree left = reader.decodeTree right := by
  cases documents with
  | same => rfl
  | mapping lefts rights agree =>
      rcases agree.answers (List.mem_singleton_self Key.root) with
        ⟨leftNone, rightNone⟩ | ⟨leftBody, rightBody, leftSome, rightSome, bodies⟩
      · simp only [Reader.decodeTree, leftNone, rightNone]
      · have leftGiven : HasBody (.mapping lefts) leftBody := ⟨lefts, rfl, leftSome⟩
        have rightGiven : HasBody (.mapping rights) rightBody := ⟨rights, rfl, rightSome⟩
        rw [decodeTree_of_hasBody reader leftGiven, decodeTree_of_hasBody reader rightGiven,
          readGiven_of_alike reader bodies]

/-! ## A document of a later program -/

def olderHandle : Tree :=
  .mapping [(.text Key.componentName, .text "com.calls/Service"), (.text Key.id, .text "line")]

def newerHandle : Tree :=
  .mapping [
    (.text Key.componentName, .text "com.calls/Service"),
    (.text "flavour", .sequence []),
    (.text Key.id, .text "line")]

def olderSchemes : Tree :=
  .mapping [(.text Key.length, .integer 1), (.text Key.values, .sequence [.text "tel"])]

def newerSchemes : Tree :=
  .mapping [
    (.text "sorted", .boolean true),
    (.text Key.values, .sequence [.text "tel"]),
    (.text Key.length, .integer 1)]

def olderAccount : Tree :=
  .mapping [
    (.text Key.handle, olderHandle),
    (.text Key.schemes, olderSchemes),
    (.text Key.label, .text "Line")]

def newerAccount : Tree :=
  .mapping [
    (.integer 7, .null),
    (.text Key.handle, newerHandle),
    (.text Key.schemes, newerSchemes),
    (.text Key.label, .text "Line")]

def olderBody : Tree :=
  .mapping [(.text Key.version, .integer 5), (.text Key.accounts, .sequence [olderAccount])]

def newerBody : Tree :=
  .mapping [
    (.text "comment", .text ""),
    (.text Key.version, .integer 5),
    (.text Key.accounts, .sequence [newerAccount])]

def olderDocument : Tree := .mapping [(.text Key.root, olderBody)]

def newerDocument : Tree :=
  .mapping [(.text "written_by", .text "later"), (.text Key.root, newerBody)]

theorem olderHandle_alike : AlikeHandles olderHandle newerHandle := by
  apply AlikeRecords.mapping
  refine AgreeUnder.reorder ?_ (.swap _ _ _) (by simp [Key.componentName, Key.id])
  apply AgreeUnder.add_unknownText _ (by decide)
  exact AgreeUnder.refl (fun _ _ => rfl) _

theorem olderSchemes_alike : AlikeLists olderSchemes newerSchemes := by
  apply AlikeRecords.mapping
  apply AgreeUnder.add_unknownText _ (by decide)
  refine AgreeUnder.reorder ?_ (.swap _ _ _) (by simp [Key.length, Key.values])
  exact AgreeUnder.refl (fun _ _ => rfl) _

theorem olderAccount_alike : AlikeAccounts olderAccount newerAccount := by
  apply AlikeRecords.mapping
  apply AgreeUnder.add_unknown _ (by rintro key - ⟨⟩)
  apply AgreeUnder.cons _ (.inr (.inl ⟨rfl, olderHandle_alike⟩))
  apply AgreeUnder.cons _ (.inr (.inr ⟨rfl, olderSchemes_alike⟩))
  exact AgreeUnder.refl alikeInAccount_refl _

theorem olderBody_alike : AlikeBodies olderBody newerBody := by
  apply AlikeRecords.mapping
  apply AgreeUnder.add_unknownText _ (by decide)
  apply AgreeUnder.cons _ (alikeInBody_refl _ _)
  apply AgreeUnder.cons _ (.inr (.inr ⟨rfl, _, _, rfl, rfl, .cons olderAccount_alike .nil⟩))
  exact AgreeUnder.refl alikeInBody_refl _

/-- An older document and a newer one with keys of its own at all levels are read the same. -/
theorem newerDocument_isReadAsOlder :
    AlikeDocuments olderDocument newerDocument ∧
      sampleReader.decodeTree olderDocument = sampleReader.decodeTree newerDocument ∧
      ((sampleReader.decodeTree newerDocument).toOption.join.map fun catalog =>
        catalog.accounts.map Account.schemes) = some [["tel"]] := by
  have documents : AlikeDocuments olderDocument newerDocument := by
    apply AlikeRecords.mapping
    apply AgreeUnder.add_unknownText _ (by decide)
    apply AgreeUnder.cons _ olderBody_alike
    rintro key -
    exact .none
  have same := decodeTree_ignores_unknownKeys sampleReader documents
  refine ⟨documents, same, ?_⟩
  rw [← same]
  rfl

end PhoneAccounts.StateFile
