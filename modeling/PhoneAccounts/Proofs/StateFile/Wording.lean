import PhoneAccounts.Proofs.StateFile.Grammar
import PhoneAccounts.Proofs.Text.Numeral

/-!
Contract: which faults of a field can be put into words, and how the decoding of a document ends.

The words of a fault show a value of the document, or a length that a list declares.  A length that
was read from a text is never too long, so it takes an integer of the document to keep a fault from
being put into words.

Owns: `WordsFaults`, that every reader has it on a tree that can be shown, and the four ends of a
decoding.

Does not own: which of several faults is reported, and the words themselves.
-/

namespace PhoneAccounts.StateFile

/-- A fault that ends the computation can be put into words. -/
def WordsFaults {Value : Type} (computation : Except FieldFault Value) : Prop :=
  ∀ fault, computation = .error fault → fault.isWritable = true

section

variable {First Second : Type} {first : Except FieldFault First}

theorem wordsFaults_ok (value : First) : WordsFaults (.ok value : Except FieldFault First) :=
  nofun

theorem wordsFaults_error
    {fault : FieldFault}
    (writable : fault.isWritable = true) :
    WordsFaults (.error fault : Except FieldFault First) := by
  rintro _ ⟨⟩
  exact writable

theorem WordsFaults.bind
    (words : WordsFaults first)
    {next : First → Except FieldFault Second}
    (nextWords : ∀ value, first = .ok value → WordsFaults (next value)) :
    WordsFaults (first >>= next) := by
  intro fault stopped
  rcases bind_eq_error stopped with stopped | ⟨value, done, stopped⟩
  · exact words fault stopped
  · exact nextWords value done fault stopped

theorem WordsFaults.map
    (words : WordsFaults first)
    (change : First → Second) :
    WordsFaults (first.map change) := by
  cases first with
  | ok value => exact nofun
  | error other =>
      rintro _ ⟨⟩
      exact words other rfl

end

/-! ## Readers of single values -/

section Single

variable {value : Tree} (writable : value.isWritable = true)

include writable

theorem wordsFaults_readInteger (field : String) : WordsFaults (readInteger field value) := by
  unfold readInteger
  split
  · exact wordsFaults_ok _
  · split
    · exact wordsFaults_ok _
    · exact wordsFaults_error writable
  · exact wordsFaults_error writable

/-- An integer that is read can be written. -/
theorem isWritable_of_readInteger
    {field : String}
    {integer : Int}
    (read : readInteger field value = .ok integer) :
    Text.isWritable integer = true := by
  cases (readInteger_eq_ok_iff field value integer).mp read with
  | integer => rwa [Tree.isWritable] at writable
  | text text _ written => exact Text.isWritable_of_readInteger? written

theorem wordsFaults_readText (field : String) : WordsFaults (readText field value) := by
  unfold readText
  split
  · exact wordsFaults_ok _
  · exact wordsFaults_ok _
  · exact wordsFaults_error writable

theorem wordsFaults_readFlag (field : String) : WordsFaults (readFlag field value) := by
  unfold readFlag
  split
  · exact wordsFaults_ok _
  · dsimp only
    split
    · exact wordsFaults_ok _
    · split
      · exact wordsFaults_ok _
      · exact wordsFaults_error writable
  · exact wordsFaults_error writable

end Single

/-- The words about a payload show its kind alone. -/
theorem wordsFaults_readPayload (field : String) (value : Tree) :
    WordsFaults (readPayload field value) := by
  unfold readPayload
  split
  · exact wordsFaults_ok _
  · exact wordsFaults_ok _
  · split
    · exact wordsFaults_ok _
    · exact wordsFaults_error rfl
  · exact wordsFaults_error rfl

theorem wordsFaults_readTexts
    (field : String)
    {values : List Tree}
    (writable : ∀ value ∈ values, value.isWritable = true) :
    WordsFaults (readTexts field values) := by
  induction values with
  | nil => exact wordsFaults_ok []
  | cons value rest inductionHypothesis =>
      obtain ⟨first, others⟩ := List.forall_mem_cons.mp writable
      rw [readTexts]
      refine (wordsFaults_readText first field).bind fun text _ => ?_
      exact (inductionHypothesis others).bind fun texts _ => wordsFaults_ok _

/-! ## Readers of records -/

section Records

variable {entries : List (Tree × Tree)} (writable : Tree.areWritableEntries entries = true)

include writable

theorem wordsFaults_readTextField (field : String) :
    WordsFaults (readTextField field entries) :=
  wordsFaults_readText (Tree.isWritable_get writable field) field

theorem wordsFaults_readIntegerOr (default : Int) (field : String) :
    WordsFaults (readIntegerOr default field entries) := by
  unfold readIntegerOr
  cases found : Tree.find? field entries with
  | none => exact wordsFaults_ok default
  | some value =>
      exact wordsFaults_readInteger (Tree.isWritable_of_find? writable found) field

theorem wordsFaults_readListed
    (field : String)
    {length : Int}
    (lengthWritable : Text.isWritable length = true) :
    WordsFaults (readListed field entries length) := by
  unfold readListed
  dsimp only
  split
  · exact wordsFaults_error lengthWritable
  · next items listed =>
      split
      · exact wordsFaults_readTexts field
          (Tree.isWritable_of_mem_items? (Tree.isWritable_get writable Key.values) listed)
      · exact wordsFaults_error lengthWritable

omit writable in
/-- The words about a list show the length that it declares. -/
theorem wordsFaults_readCountedList
    (field : String)
    {value : Tree}
    (writable : value.isWritable = true) :
    WordsFaults (readCountedList field value) := by
  cases mapping : value.entries? with
  | none =>
      unfold readCountedList
      rw [mapping]
      exact wordsFaults_error rfl
  | some entries =>
      have inside := Tree.areWritableEntries_of_entries? writable mapping
      rw [readCountedList_eq mapping]
      unfold readLength
      cases found : Tree.find? Key.length entries with
      | none =>
          refine (wordsFaults_ok 0).bind fun length read => ?_
          obtain rfl := Except.ok.inj read
          exact wordsFaults_readListed inside field (by decide)
      | some length =>
          have lengthWritable := Tree.isWritable_of_find? inside found
          refine (wordsFaults_readInteger lengthWritable _).bind fun integer read => ?_
          exact wordsFaults_readListed inside field (isWritable_of_readInteger lengthWritable read)

theorem wordsFaults_readStoredAccount (handle : Handle) :
    WordsFaults (readStoredAccount handle entries) := by
  have text := wordsFaults_readTextField writable
  have integer := wordsFaults_readIntegerOr writable
  have payload (field : String) := wordsFaults_readPayload field (Tree.get field entries)
  have noSchemes : WordsFaults (.ok none : Except FieldFault (Option (List String))) :=
    wordsFaults_ok none
  have schemes := (wordsFaults_readCountedList Key.schemes
    (Tree.isWritable_get writable Key.schemes)).map some
  unfold readStoredAccount
  dsimp only
  split
  all_goals
    refine WordsFaults.bind ‹_› fun _ _ => ?_
    refine (text Key.address).bind fun _ _ => ?_
    refine (text Key.subscriptionAddress).bind fun _ _ => ?_
    refine (integer 0 Key.capabilities).bind fun _ _ => ?_
    refine (payload Key.icon).bind fun _ _ => ?_
    refine (payload Key.iconBitmap).bind fun _ _ => ?_
    refine (text Key.iconPackage).bind fun _ _ => ?_
    refine (integer Icon.noResource Key.iconResource).bind fun _ _ => ?_
    refine (integer Icon.noTint Key.iconTint).bind fun _ _ => ?_
    refine (integer Account.noHighlight Key.highlightColor).bind fun _ _ => ?_
    refine (text Key.label).bind fun _ _ => ?_
    refine (text Key.shortDescription).bind fun _ _ => ?_
    cases found : Tree.find? Key.enabled entries with
    | none => exact wordsFaults_ok _
    | some value =>
        exact (wordsFaults_readFlag (Tree.isWritable_of_find? writable found) _).bind
          fun _ _ => wordsFaults_ok _

end Records

section Reader

variable (reader : Reader)

theorem wordsFaults_readScope
    {value : Tree}
    (writable : value.isWritable = true) :
    WordsFaults (reader.readScope value) := by
  unfold Reader.readScope
  split
  · exact wordsFaults_ok none
  · exact (wordsFaults_readInteger writable _).bind fun _ _ => wordsFaults_ok _

theorem wordsFaults_readHandle
    {value : Tree}
    (writable : value.isWritable = true) :
    WordsFaults (reader.readHandle value) := by
  cases mapping : value.entries? with
  | none =>
      rw [readHandle_of_noMapping reader mapping]
      exact wordsFaults_error rfl
  | some entries =>
      have inside := Tree.areWritableEntries_of_entries? writable mapping
      rw [readHandle_eq reader mapping]
      refine (wordsFaults_readTextField inside _).bind fun name _ => ?_
      unfold Reader.readNamed
      split
      · exact wordsFaults_ok none
      · split
        · exact wordsFaults_error rfl
        · refine (wordsFaults_readScope reader (Tree.isWritable_get inside _)).bind fun _ _ => ?_
          exact (wordsFaults_readTextField inside _).bind fun _ _ => wordsFaults_ok _

theorem wordsFaults_readHandleField
    (field : String)
    {entries : List (Tree × Tree)}
    (writable : Tree.areWritableEntries entries = true) :
    WordsFaults (reader.readHandleField field entries) := by
  rw [readHandleField_eq]
  split
  · exact wordsFaults_ok none
  · exact wordsFaults_readHandle reader (Tree.isWritable_get writable field)

theorem wordsFaults_readAccount
    (version : Int)
    {value : Tree}
    (writable : value.isWritable = true) :
    WordsFaults (reader.readAccount version value) := by
  cases mapping : value.entries? with
  | none =>
      unfold Reader.readAccount
      rw [mapping]
      exact wordsFaults_error rfl
  | some entries =>
      have inside := Tree.areWritableEntries_of_entries? writable mapping
      rw [readAccount_eq reader version mapping]
      refine (wordsFaults_readHandleField reader _ inside).bind fun handle _ => ?_
      cases handle with
      | none => exact wordsFaults_ok none
      | some handle =>
          exact (wordsFaults_readStoredAccount inside handle).bind fun _ _ => wordsFaults_ok _

theorem wordsFaults_readAccounts
    (version : Int)
    {values : List Tree}
    (writable : ∀ value ∈ values, value.isWritable = true) :
    WordsFaults (reader.readAccounts version values) := by
  induction values with
  | nil => exact wordsFaults_ok []
  | cons value rest inductionHypothesis =>
      obtain ⟨first, others⟩ := List.forall_mem_cons.mp writable
      rw [Reader.readAccounts]
      refine (wordsFaults_readAccount reader version first).bind fun account _ => ?_
      exact (inductionHypothesis others).bind fun accounts _ => wordsFaults_ok _

theorem wordsFaults_readVersion
    {value : Tree}
    (writable : value.isWritable = true) :
    WordsFaults (readVersion value) := by
  unfold readVersion
  split
  · exact wordsFaults_ok _
  · exact wordsFaults_readInteger writable _

theorem wordsFaults_readBody
    {entries : List (Tree × Tree)}
    (writable : Tree.areWritableEntries entries = true) :
    WordsFaults (reader.readBody entries) := by
  rw [readBody_eq]
  refine (wordsFaults_readVersion (Tree.isWritable_get writable _)).bind fun version _ => ?_
  refine (wordsFaults_readHandleField reader _ writable).bind fun defaultOutgoing _ => ?_
  refine (wordsFaults_readHandleField reader _ writable).bind fun simCallManager _ => ?_
  unfold Reader.readAccountsField
  dsimp only
  split
  · exact wordsFaults_error rfl
  · next items listed =>
      have inside := Tree.isWritable_of_mem_items? (Tree.isWritable_get writable _) listed
      exact (wordsFaults_readAccounts reader version inside).bind fun _ _ => wordsFaults_ok _

/-- In a document that can be shown, every fault of a field can be put into words. -/
theorem wordsFaults_decodeTree
    {tree : Tree}
    (writable : tree.isWritable = true) :
    WordsFaults (reader.decodeTree tree) := by
  by_cases present : ∃ body, HasBody tree body
  · obtain ⟨body, given⟩ := present
    rw [decodeTree_of_hasBody reader given]
    obtain ⟨entries, rfl, found⟩ := given
    have inside : body.isWritable = true :=
      Tree.isWritable_of_find? (by rwa [Tree.isWritable] at writable) found
    apply WordsFaults.map
    unfold Reader.readGiven
    split
    · exact wordsFaults_error rfl
    · next fields read =>
        apply wordsFaults_readBody reader
        by_cases empty : body.isEmpty = true
        · rw [if_pos empty] at read
          obtain rfl := Option.some.inj read
          rfl
        · rw [if_neg empty] at read
          exact Tree.areWritableEntries_of_entries? inside read
  · rw [decodeTree_of_not_hasBody reader present]
    exact wordsFaults_ok none

/-! ## Documents -/

theorem decodeDocument_eq_ok_iff {tree : Tree} {result : Option Catalog} :
    reader.decodeDocument tree = .ok result ↔ reader.decodeTree tree = .ok result := by
  unfold Reader.decodeDocument
  cases reader.decodeTree tree <;> simp

theorem decodeDocument_of_error
    {tree : Tree}
    {fault : FieldFault}
    (faulty : reader.decodeTree tree = .error fault) :
    reader.decodeDocument tree =
      .error (if fault.isWritable then .field fault else .longInteger) := by
  rw [Reader.decodeDocument, faulty]

/-- A document is no state file exactly if it has no body.  One that has a body is read exactly if
the body follows the rules, and is refused exactly if it does not.  A refusal names a field and can
be put into words, unless an integer in the document cannot be written. -/
theorem decodeDocument_follows_rules (tree : Tree) :
    (reader.decodeDocument tree = .ok none ↔ ¬ ∃ body, HasBody tree body) ∧
    ((∃ catalog, reader.decodeDocument tree = .ok (some catalog)) ↔
      ∃ body, HasBody tree body ∧ IsBody body) ∧
    ((∃ fault, reader.decodeDocument tree = .error fault) ↔
      ∃ body, HasBody tree body ∧ ¬ IsBody body) ∧
    ∀ fault, reader.decodeDocument tree = .error fault →
      (∃ field : FieldFault, fault = .field field ∧ field.isWritable = true) ∨
        fault = .longInteger ∧ tree.isWritable = false := by
  obtain ⟨noBody, follows, breaks⟩ := decodeTree_follows_rules reader tree
  have refused : (∃ fault, reader.decodeDocument tree = .error fault) ↔
      ∃ fault, reader.decodeTree tree = .error fault := by
    constructor
    · rintro ⟨fault, stopped⟩
      cases decoded : reader.decodeTree tree with
      | ok result =>
          exact nomatch stopped.symm.trans ((decodeDocument_eq_ok_iff reader).mpr decoded)
      | error field => exact ⟨field, rfl⟩
    · rintro ⟨field, faulty⟩
      exact ⟨_, decodeDocument_of_error reader faulty⟩
  simp only [decodeDocument_eq_ok_iff]
  refine ⟨noBody, follows, refused.trans breaks, ?_⟩
  intro fault stopped
  obtain ⟨field, faulty⟩ := refused.mp ⟨fault, stopped⟩
  obtain rfl := Except.error.inj ((decodeDocument_of_error reader faulty).symm.trans stopped)
  by_cases worded : field.isWritable = true
  · rw [if_pos worded]
    exact .inl ⟨field, rfl, worded⟩
  · rw [if_neg worded]
    refine .inr ⟨rfl, Bool.eq_false_iff.mpr fun writable => ?_⟩
    exact worded (wordsFaults_decodeTree reader writable field faulty)

end Reader

/-! ## A sample -/

/-- What a file says that has a flag of 4301 digits. -/
def boundlessFlag : Tree :=
  .mapping [(.text Key.root, .mapping [
    (.text Key.accounts, .sequence [.mapping [
      (.text Key.handle, .mapping [(.text Key.componentName, .text "a/b")]),
      (.text Key.enabled, .integer (Number.tenTo 4300))]])])]

/-- The flag breaks the rules, but it is no fault of a field that the decoding ends with. -/
theorem boundlessFlag_hasNoWords :
    let reader : Reader := ⟨.initial false, Scope.owner, ⟨⟨"com.sip", "Service"⟩, false⟩⟩
    (∃ body, HasBody boundlessFlag body ∧ ¬ IsBody body) ∧
      reader.decodeDocument boundlessFlag = .error .longInteger := by
  intro reader
  have faulty : reader.decodeTree boundlessFlag =
      .error (.noFlag Key.enabled (.integer (Number.tenTo 4300))) := rfl
  have long :
      (FieldFault.noFlag Key.enabled (.integer (Number.tenTo 4300))).isWritable = false := by
    decide +kernel
  refine ⟨(decodeTree_follows_rules reader boundlessFlag).2.2.mp ⟨_, faulty⟩, ?_⟩
  rw [decodeDocument_of_error reader faulty, long]
  rfl

end PhoneAccounts.StateFile
