import PhoneAccounts.Proofs.Component
import PhoneAccounts.Proofs.Steps
import PhoneAccounts.Proofs.Tree
import PhoneAccounts.StateFile.Reading

/-!
Contract: which documents are read as state files.

A document is a state file if it is a mapping with the root key.  Whether a state file can be read
is said by rules for each kind of value, from single fields up to the body, which do not mention the
reader.  What a field may be depends on its kind and on whether the field may be missing or null; in
an account without a handle, or with one that names no component, nothing else counts.

Owns: the rules, and that the reader follows them.

Does not own: what is read (see `PhoneAccounts.Proofs.StateFile.Decoded`), and which fault is
reported where several fields break the rules.
-/

namespace PhoneAccounts.StateFile

/-! ## Single values -/

/-- A value is an integer, or a text that writes one; a flag is none. -/
inductive WritesInteger : Tree → Int → Prop where
  | integer (value : Int) : WritesInteger (.integer value) value
  | text (value : String) (integer : Int)
      (written : Text.readInteger? value.toList = some integer) :
      WritesInteger (.text value) integer

def IsInteger (value : Tree) : Prop :=
  ∃ integer, WritesInteger value integer

/-- A text or nothing. -/
inductive IsOptionalText : Tree → Prop where
  | null : IsOptionalText .null
  | text (value : String) : IsOptionalText (.text value)

/-- A flag, or one of two words in letters of any case. -/
inductive IsFlag : Tree → Prop where
  | boolean (value : Bool) : IsFlag (.boolean value)
  | text (value : String)
      (word : value.toList.map Char.toLower = ['t', 'r', 'u', 'e'] ∨
        value.toList.map Char.toLower = ['f', 'a', 'l', 's', 'e']) :
      IsFlag (.text value)

/-- Nothing, bytes, or a text that writes bytes. -/
inductive IsPayload : Tree → Prop where
  | null : IsPayload .null
  | bytes (value : List UInt8) : IsPayload (.bytes value)
  | text (value : String) (bytes : List UInt8)
      (written : Text.Base64.decodeStrict? value.toList = some bytes) :
      IsPayload (.text value)

/-- The items of a sequence; a value that is empty has none, whatever it is. -/
def Lists (value : Tree) (items : List Tree) : Prop :=
  (if value.isEmpty then some [] else value.items?) = some items

/-! ## Records -/

/-- The length that a list declares, zero where it declares none. -/
inductive DeclaresLength (entries : List (Tree × Tree)) : Int → Prop where
  | missing (absent : Tree.find? Key.length entries = none) : DeclaresLength entries 0
  | given (value : Tree) (length : Int)
      (found : Tree.find? Key.length entries = some value)
      (written : WritesInteger value length) :
      DeclaresLength entries length

/-- A mapping of a length and so many texts, some of which may be nothing. -/
structure IsCountedList (value : Tree) (entries : List (Tree × Tree)) (items : List Tree) :
    Prop where
  mapping : value.entries? = some entries
  listed : Lists (Tree.get Key.values entries) items
  counted : DeclaresLength entries items.length
  texts : ∀ item ∈ items, IsOptionalText item

/-- A mapping that names no component; nothing else in it counts. -/
structure IsNamelessHandle (value : Tree) (entries : List (Tree × Tree)) : Prop where
  mapping : value.entries? = some entries
  nameless : Tree.get Key.componentName entries = .null

/-- A mapping that names a component. -/
structure IsNamedHandle (value : Tree) (entries : List (Tree × Tree)) (name : String) : Prop where
  mapping : value.entries? = some entries
  named : Tree.get Key.componentName entries = .text name
  component : Component.HasFirstSlash name
  serial : Tree.get Key.serialNumber entries = .null ∨ IsInteger (Tree.get Key.serialNumber entries)
  id : IsOptionalText (Tree.get Key.id entries)

/-- A handle with or without a component. -/
inductive IsHandle (value : Tree) : Prop where
  | nameless (entries : List (Tree × Tree)) (rules : IsNamelessHandle value entries)
  | named (entries : List (Tree × Tree)) (name : String) (rules : IsNamedHandle value entries name)

/-- The fields of an account that hold a text or nothing. -/
def textKeys : List String :=
  [Key.address, Key.subscriptionAddress, Key.iconPackage, Key.label, Key.shortDescription]

/-- The fields of an account that hold an integer if they are there. -/
def integerKeys : List String :=
  [Key.capabilities, Key.iconResource, Key.iconTint, Key.highlightColor]

def payloadKeys : List String := [Key.icon, Key.iconBitmap]

/-- The fields of an account besides its handle.  Only where the key is missing has an integer or a
flag a default; null is none. -/
structure HasFields (entries : List (Tree × Tree)) : Prop where
  schemes : Tree.get Key.schemes entries = .null ∨
    ∃ fields items, IsCountedList (Tree.get Key.schemes entries) fields items
  texts : ∀ key ∈ textKeys, IsOptionalText (Tree.get key entries)
  integers : ∀ key ∈ integerKeys, ∀ value ∈ Tree.find? key entries, IsInteger value
  payloads : ∀ key ∈ payloadKeys, IsPayload (Tree.get key entries)
  enabled : ∀ value ∈ Tree.find? Key.enabled entries, IsFlag value

/-- An account: a mapping without a handle, with one that names no component, or with one that does
and with fields. -/
inductive IsAccount (value : Tree) : Prop where
  | alone (entries : List (Tree × Tree))
      (mapping : value.entries? = some entries)
      (absent : Tree.get Key.handle entries = .null)
  | nameless (entries fields : List (Tree × Tree))
      (mapping : value.entries? = some entries)
      (handle : IsNamelessHandle (Tree.get Key.handle entries) fields)
  | named (entries fields : List (Tree × Tree)) (name : String)
      (mapping : value.entries? = some entries)
      (handle : IsNamedHandle (Tree.get Key.handle entries) fields name)
      (rest : HasFields entries)

/-- The fields of a body. -/
structure HasState (entries : List (Tree × Tree)) : Prop where
  version : Tree.get Key.version entries = .null ∨ Tree.get Key.version entries = .text "" ∨
    IsInteger (Tree.get Key.version entries)
  defaultOutgoing : Tree.get Key.defaultOutgoing entries = .null ∨
    IsHandle (Tree.get Key.defaultOutgoing entries)
  simCallManager : Tree.get Key.simCallManager entries = .null ∨
    IsHandle (Tree.get Key.simCallManager entries)
  accounts : ∃ items, Lists (Tree.get Key.accounts entries) items ∧ ∀ item ∈ items, IsAccount item

/-- What may stand under the root key. -/
inductive IsBody (body : Tree) : Prop where
  | empty (isEmpty : body.isEmpty = true)
  | mapping (entries : List (Tree × Tree)) (given : body.entries? = some entries)
      (rules : HasState entries)

/-- A document is a mapping with the root key, and a body stands under it. -/
def HasBody (tree body : Tree) : Prop :=
  ∃ entries, tree = .mapping entries ∧ Tree.find? Key.root entries = some body

/-! ## Reading single values -/

theorem isNull_eq_false {value : Tree} {entries : List (Tree × Tree)}
    (mapping : value.entries? = some entries) :
    value.isNull = false := by
  cases value with
  | null => cases mapping
  | _ => rfl

theorem readInteger_eq_ok_iff (field : String) (value : Tree) (integer : Int) :
    readInteger field value = .ok integer ↔ WritesInteger value integer := by
  constructor
  · intro read
    unfold readInteger at read
    split at read
    · obtain rfl := Except.ok.inj read
      exact .integer _
    · next text =>
        split at read
        · next written =>
            obtain rfl := Except.ok.inj read
            exact .text text _ written
        · cases read
    · cases read
  · rintro (_ | ⟨text, _, written⟩)
    · rfl
    · rw [readInteger, written]

theorem endsWell_readInteger (field : String) (value : Tree) :
    EndsWell (readInteger field value) ↔ IsInteger value := by
  simp only [EndsWell, IsInteger, readInteger_eq_ok_iff]

theorem endsWell_readIntegerOr
    (default : Int)
    (field : String)
    (entries : List (Tree × Tree)) :
    EndsWell (readIntegerOr default field entries) ↔
      ∀ value ∈ Tree.find? field entries, IsInteger value := by
  unfold readIntegerOr
  cases Tree.find? field entries with
  | none => exact iff_of_true (endsWell_ok default) (by simp)
  | some value => simp [endsWell_readInteger]

/-- The tree of a text that may be missing. -/
def ofOptionalText : Option String → Tree
  | none => .null
  | some text => .text text

theorem readText_eq_ok_iff (field : String) (value : Tree) (text : Option String) :
    readText field value = .ok text ↔ value = ofOptionalText text := by
  constructor
  · intro read
    unfold readText at read
    split at read
    · obtain rfl := Except.ok.inj read
      rfl
    · obtain rfl := Except.ok.inj read
      rfl
    · cases read
  · rintro rfl
    cases text <;> rfl

theorem endsWell_readText (field : String) (value : Tree) :
    EndsWell (readText field value) ↔ IsOptionalText value := by
  unfold EndsWell
  simp only [readText_eq_ok_iff]
  constructor
  · rintro ⟨_ | text, rfl⟩
    · exact .null
    · exact .text text
  · rintro (_ | text)
    · exact ⟨none, rfl⟩
    · exact ⟨some text, rfl⟩

theorem endsWell_readFlag (field : String) (value : Tree) :
    EndsWell (readFlag field value) ↔ IsFlag value := by
  constructor
  · rintro ⟨flag, read⟩
    unfold readFlag at read
    split at read
    · exact .boolean _
    · next text =>
        dsimp only at read
        split at read
        · next word => exact .text text (.inl word)
        · split at read
          · next word => exact .text text (.inr word)
          · cases read
    · cases read
  · rintro (flag | ⟨text, word⟩)
    · exact endsWell_ok flag
    · rw [readFlag]
      rcases word with word | word <;> simp [word]

theorem endsWell_readPayload (field : String) (value : Tree) :
    EndsWell (readPayload field value) ↔ IsPayload value := by
  constructor
  · rintro ⟨payload, read⟩
    unfold readPayload at read
    split at read
    · exact .null
    · exact .bytes _
    · next text =>
        split at read
        · next bytes written => exact .text text bytes written
        · cases read
    · cases read
  · rintro (_ | bytes | ⟨text, bytes, written⟩)
    · exact endsWell_ok none
    · exact endsWell_ok (some bytes)
    · rw [readPayload, written]
      exact endsWell_ok (some bytes)

theorem endsWell_readTexts (field : String) (values : List Tree) :
    EndsWell (readTexts field values) ↔ ∀ value ∈ values, IsOptionalText value := by
  induction values with
  | nil => exact iff_of_true (endsWell_ok []) (by simp)
  | cons value rest inductionHypothesis =>
      rw [readTexts, List.forall_mem_cons, ← endsWell_readText field value, ← inductionHypothesis]
      apply endsWell_bind_iff_and
      intro text
      exact endsWell_bind_ok_iff

/-! ## Reading records -/

/-- The length that a reader finds. -/
def readLength (field : String) (entries : List (Tree × Tree)) : Except FieldFault Int :=
  match Tree.find? Key.length entries with
  | none => .ok 0
  | some value => readInteger (field ++ "." ++ Key.length) value

theorem readLength_eq_ok_iff (field : String) (entries : List (Tree × Tree)) (length : Int) :
    readLength field entries = .ok length ↔ DeclaresLength entries length := by
  constructor
  · intro read
    unfold readLength at read
    split at read
    · next absent =>
        obtain rfl := Except.ok.inj read
        exact .missing absent
    · next value found =>
        exact .given value length found ((readInteger_eq_ok_iff _ value length).mp read)
  · rintro (absent | ⟨value, _, found, written⟩)
    · rw [readLength, absent]
    · rw [readLength, found]
      exact (readInteger_eq_ok_iff _ value length).mpr written

/-- The texts of a list whose length was read. -/
def readListed (field : String) (entries : List (Tree × Tree)) (length : Int) :
    Except FieldFault (List String) :=
  let values := Tree.get Key.values entries
  match if values.isEmpty then some [] else values.items? with
  | none => .error (.wrongLength field length)
  | some items =>
      if (items.length : Int) = length then readTexts field items
      else .error (.wrongLength field length)

theorem readCountedList_eq {field : String} {value : Tree} {entries : List (Tree × Tree)}
    (mapping : value.entries? = some entries) :
    readCountedList field value = readLength field entries >>= readListed field entries := by
  unfold readCountedList readLength
  rw [mapping]
  dsimp only
  cases Tree.find? Key.length entries <;> rfl

theorem endsWell_readListed (field : String) (entries : List (Tree × Tree)) (length : Int) :
    EndsWell (readListed field entries length) ↔
      ∃ items, Lists (Tree.get Key.values entries) items ∧ (items.length : Int) = length ∧
        ∀ item ∈ items, IsOptionalText item := by
  constructor
  · intro read
    unfold readListed at read
    dsimp only at read
    split at read
    · exact absurd read (not_endsWell_error _)
    · next items listed =>
        split at read
        · next counted => exact ⟨items, listed, counted, (endsWell_readTexts field items).mp read⟩
        · exact absurd read (not_endsWell_error _)
  · rintro ⟨items, listed, counted, texts⟩
    unfold Lists at listed
    unfold readListed
    dsimp only
    rw [listed]
    dsimp only
    rw [if_pos counted]
    exact (endsWell_readTexts field items).mpr texts

theorem endsWell_readCountedList (field : String) (value : Tree) :
    EndsWell (readCountedList field value) ↔
      ∃ entries items, IsCountedList value entries items := by
  constructor
  · intro read
    cases mapping : value.entries? with
    | none =>
        unfold readCountedList at read
        rw [mapping] at read
        exact absurd read (not_endsWell_error _)
    | some entries =>
        rw [readCountedList_eq mapping, endsWell_bind_iff] at read
        obtain ⟨length, lengthRead, listRead⟩ := read
        obtain ⟨items, listed, rfl, texts⟩ := (endsWell_readListed field entries length).mp listRead
        have declared := (readLength_eq_ok_iff field entries _).mp lengthRead
        exact ⟨entries, items, mapping, listed, declared, texts⟩
  · rintro ⟨entries, items, rules⟩
    rw [readCountedList_eq rules.mapping, endsWell_bind_iff]
    refine ⟨items.length, (readLength_eq_ok_iff field entries _).mpr rules.counted, ?_⟩
    exact (endsWell_readListed field entries _).mpr ⟨items, rules.listed, rfl, rules.texts⟩

/-! ## Reading handles -/

/-- What is read only where something stands. -/
theorem endsWell_ite_isNull_iff
    {Value : Type}
    {value : Tree}
    {computation : Except FieldFault (Option Value)} :
    EndsWell (if value.isNull then .ok none else computation) ↔
      value = .null ∨ EndsWell computation := by
  rw [← Tree.isNull_iff]
  by_cases null : value.isNull = true
  · rw [if_pos null]
    exact iff_of_true (endsWell_ok none) (.inl null)
  · rw [if_neg null]
    exact (or_iff_right null).symm

variable (reader : Reader)

theorem endsWell_readScope (value : Tree) :
    EndsWell (reader.readScope value) ↔ value = .null ∨ IsInteger value := by
  rw [Reader.readScope, endsWell_ite_isNull_iff, endsWell_bind_ok_iff, endsWell_readInteger]

/-- What is read of a handle once its component is known. -/
def Reader.readRest (entries : List (Tree × Tree)) (component : Component) :
    Except FieldFault (Option Handle) := do
  let scope ← reader.readScope (Tree.get Key.serialNumber entries)
  let id ← readTextField Key.id entries
  .ok (some ⟨component, id.getD "", scope⟩)

theorem exists_readRest_iff (entries : List (Tree × Tree)) (component : Component) :
    (∃ handle, reader.readRest entries component = .ok (some handle)) ↔
      (Tree.get Key.serialNumber entries = .null ∨
        IsInteger (Tree.get Key.serialNumber entries)) ∧
      IsOptionalText (Tree.get Key.id entries) := by
  rw [← endsWell_readScope reader, ← endsWell_readText Key.id]
  constructor
  · rintro ⟨handle, read⟩
    obtain ⟨scope, scopeRead, read⟩ := bind_eq_ok read
    obtain ⟨id, idRead, -⟩ := bind_eq_ok read
    exact ⟨⟨scope, scopeRead⟩, id, idRead⟩
  · rintro ⟨⟨scope, scopeRead⟩, id, idRead⟩
    refine ⟨⟨component, id.getD "", scope⟩, ?_⟩
    unfold Reader.readRest readTextField
    rw [scopeRead, idRead]
    rfl

theorem readRest_ne_none (entries : List (Tree × Tree)) (component : Component) :
    reader.readRest entries component ≠ .ok none := by
  intro read
  obtain ⟨scope, -, read⟩ := bind_eq_ok read
  obtain ⟨id, -, read⟩ := bind_eq_ok read
  cases read

/-- What is read of a handle once the text that names its component is known. -/
def Reader.readNamed (entries : List (Tree × Tree)) :
    Option String → Except FieldFault (Option Handle)
  | none => .ok none
  | some text =>
      match Component.ofText? text with
      | none => .error (.malformedComponent text)
      | some component => reader.readRest entries component

theorem readHandle_eq {value : Tree} {entries : List (Tree × Tree)}
    (mapping : value.entries? = some entries) :
    reader.readHandle value =
      readTextField Key.componentName entries >>= reader.readNamed entries := by
  unfold Reader.readHandle
  rw [mapping]
  dsimp only
  congr 1

theorem readHandle_of_noMapping {value : Tree} (noMapping : value.entries? = none) :
    reader.readHandle value = .error .handleIsNoMapping := by
  unfold Reader.readHandle
  rw [noMapping]

/-- A handle without a component. -/
theorem readHandle_eq_none_iff (value : Tree) :
    reader.readHandle value = .ok none ↔ ∃ entries, IsNamelessHandle value entries := by
  constructor
  · intro read
    cases mapping : value.entries? with
    | none =>
        rw [readHandle_of_noMapping reader mapping] at read
        cases read
    | some entries =>
        rw [readHandle_eq reader mapping] at read
        obtain ⟨_ | text, named, read⟩ := bind_eq_ok read
        · exact ⟨entries, mapping, (readText_eq_ok_iff _ _ none).mp named⟩
        · rw [Reader.readNamed] at read
          split at read
          · cases read
          · exact absurd read (readRest_ne_none reader entries _)
  · rintro ⟨entries, rules⟩
    have named := (readText_eq_ok_iff Key.componentName _ none).mpr rules.nameless
    rw [readHandle_eq reader rules.mapping, readTextField, named]
    rfl

/-- A handle with a component. -/
theorem exists_readHandle_iff (value : Tree) :
    (∃ handle, reader.readHandle value = .ok (some handle)) ↔
      ∃ entries name, IsNamedHandle value entries name := by
  constructor
  · rintro ⟨handle, read⟩
    cases mapping : value.entries? with
    | none =>
        rw [readHandle_of_noMapping reader mapping] at read
        cases read
    | some entries =>
        rw [readHandle_eq reader mapping] at read
        obtain ⟨_ | name, named, read⟩ := bind_eq_ok read
        · cases read
        · rw [Reader.readNamed] at read
          split at read
          · cases read
          · next component found =>
              have standing := (readText_eq_ok_iff _ _ (some name)).mp named
              have slash := (Component.exists_ofText?_iff name).mp ⟨component, found⟩
              have rest := (exists_readRest_iff reader entries component).mp ⟨handle, read⟩
              exact ⟨entries, name, mapping, standing, slash, rest.1, rest.2⟩
  · rintro ⟨entries, name, rules⟩
    obtain ⟨component, found⟩ := (Component.exists_ofText?_iff name).mpr rules.component
    have named := (readText_eq_ok_iff Key.componentName _ (some name)).mpr rules.named
    have same : reader.readHandle value = reader.readRest entries component := by
      rw [readHandle_eq reader rules.mapping, readTextField, named]
      show reader.readNamed entries (some name) = _
      rw [Reader.readNamed, found]
    rw [same]
    exact (exists_readRest_iff reader entries component).mpr ⟨rules.serial, rules.id⟩

theorem endsWell_readHandle (value : Tree) :
    EndsWell (reader.readHandle value) ↔ IsHandle value := by
  constructor
  · rintro ⟨_ | handle, read⟩
    · obtain ⟨entries, rules⟩ := (readHandle_eq_none_iff reader value).mp read
      exact .nameless entries rules
    · obtain ⟨entries, name, rules⟩ := (exists_readHandle_iff reader value).mp ⟨handle, read⟩
      exact .named entries name rules
  · rintro (⟨entries, rules⟩ | ⟨entries, name, rules⟩)
    · exact ⟨none, (readHandle_eq_none_iff reader value).mpr ⟨entries, rules⟩⟩
    · obtain ⟨handle, read⟩ := (exists_readHandle_iff reader value).mpr ⟨entries, name, rules⟩
      exact ⟨some handle, read⟩

theorem readHandleField_eq (field : String) (entries : List (Tree × Tree)) :
    reader.readHandleField field entries =
      if (Tree.get field entries).isNull then .ok none
      else reader.readHandle (Tree.get field entries) := rfl

theorem endsWell_readHandleField (field : String) (entries : List (Tree × Tree)) :
    EndsWell (reader.readHandleField field entries) ↔
      Tree.get field entries = .null ∨ IsHandle (Tree.get field entries) := by
  rw [readHandleField_eq, endsWell_ite_isNull_iff, endsWell_readHandle]

/-! ## Reading accounts -/

/-- The schemes of an account, if it has any. -/
def readSchemes (entries : List (Tree × Tree)) : Except FieldFault (Option (List String)) :=
  let value := Tree.get Key.schemes entries
  if value.isNull then .ok none else (readCountedList Key.schemes value).map some

theorem endsWell_readSchemes (entries : List (Tree × Tree)) :
    EndsWell (readSchemes entries) ↔
      Tree.get Key.schemes entries = .null ∨
        ∃ fields items, IsCountedList (Tree.get Key.schemes entries) fields items := by
  unfold readSchemes
  dsimp only
  rw [endsWell_ite_isNull_iff, endsWell_map_iff, endsWell_readCountedList]

/-- The fields of an account are read one after the other; which values they have does not matter
for the others. -/
theorem endsWell_readStoredAccount_iff_and (handle : Handle) (entries : List (Tree × Tree)) :
    EndsWell (readStoredAccount handle entries) ↔
      EndsWell (readSchemes entries) ∧
      EndsWell (readTextField Key.address entries) ∧
      EndsWell (readTextField Key.subscriptionAddress entries) ∧
      EndsWell (readIntegerOr 0 Key.capabilities entries) ∧
      EndsWell (readPayload Key.icon (Tree.get Key.icon entries)) ∧
      EndsWell (readPayload Key.iconBitmap (Tree.get Key.iconBitmap entries)) ∧
      EndsWell (readTextField Key.iconPackage entries) ∧
      EndsWell (readIntegerOr Icon.noResource Key.iconResource entries) ∧
      EndsWell (readIntegerOr Icon.noTint Key.iconTint entries) ∧
      EndsWell (readIntegerOr Account.noHighlight Key.highlightColor entries) ∧
      EndsWell (readTextField Key.label entries) ∧
      EndsWell (readTextField Key.shortDescription entries) ∧
      ∀ value ∈ Tree.find? Key.enabled entries, IsFlag value := by
  unfold readStoredAccount readSchemes
  dsimp only
  split
  all_goals
    iterate 12 refine endsWell_bind_iff_and fun _ => ?_
    cases Tree.find? Key.enabled entries with
    | none => exact iff_of_true ⟨_, rfl⟩ (by simp)
    | some value =>
        rw [endsWell_bind_ok_iff, endsWell_readFlag]
        simp

theorem endsWell_readStoredAccount (handle : Handle) (entries : List (Tree × Tree)) :
    EndsWell (readStoredAccount handle entries) ↔ HasFields entries := by
  rw [endsWell_readStoredAccount_iff_and]
  unfold readTextField
  simp only [endsWell_readSchemes, endsWell_readText, endsWell_readIntegerOr, endsWell_readPayload]
  constructor
  · rintro ⟨schemes, address, subscriptionAddress, capabilities, icon, iconBitmap, iconPackage,
      iconResource, iconTint, highlightColor, label, shortDescription, enabled⟩
    exact {
      schemes := schemes
      texts := by
        simp only [textKeys, List.forall_mem_cons]
        exact ⟨address, subscriptionAddress, iconPackage, label, shortDescription,
          List.forall_mem_nil _⟩
      integers := by
        simp only [integerKeys, List.forall_mem_cons]
        exact ⟨capabilities, iconResource, iconTint, highlightColor, List.forall_mem_nil _⟩
      payloads := by
        simp only [payloadKeys, List.forall_mem_cons]
        exact ⟨icon, iconBitmap, List.forall_mem_nil _⟩
      enabled := enabled }
  · rintro ⟨schemes, texts, integers, payloads, enabled⟩
    simp only [textKeys, List.forall_mem_cons] at texts
    simp only [integerKeys, List.forall_mem_cons] at integers
    simp only [payloadKeys, List.forall_mem_cons] at payloads
    obtain ⟨address, subscriptionAddress, iconPackage, label, shortDescription, -⟩ := texts
    obtain ⟨capabilities, iconResource, iconTint, highlightColor, -⟩ := integers
    exact ⟨schemes, address, subscriptionAddress, capabilities, payloads.1, payloads.2.1,
      iconPackage, iconResource, iconTint, highlightColor, label, shortDescription, enabled⟩

/-- What is read of an account once its handle is known. -/
def Reader.readFound (version : Int) (entries : List (Tree × Tree)) :
    Option Handle → Except FieldFault (Option Account)
  | none => .ok none
  | some handle => do
      let stored ← readStoredAccount handle entries
      .ok (some (stored.upgrade reader.upgrades version).toAccount)

theorem endsWell_readFound (version : Int) (entries : List (Tree × Tree)) (handle : Handle) :
    EndsWell (reader.readFound version entries (some handle)) ↔ HasFields entries := by
  rw [Reader.readFound, endsWell_bind_ok_iff, endsWell_readStoredAccount]

theorem readAccount_eq (version : Int) {value : Tree} {entries : List (Tree × Tree)}
    (mapping : value.entries? = some entries) :
    reader.readAccount version value =
      reader.readHandleField Key.handle entries >>= reader.readFound version entries := by
  unfold Reader.readAccount
  rw [mapping]
  dsimp only
  congr 1

theorem endsWell_readAccount (version : Int) (value : Tree) :
    EndsWell (reader.readAccount version value) ↔ IsAccount value := by
  constructor
  · intro read
    cases mapping : value.entries? with
    | none =>
        unfold Reader.readAccount at read
        rw [mapping] at read
        exact absurd read (not_endsWell_error _)
    | some entries =>
        rw [readAccount_eq reader version mapping, endsWell_bind_iff, readHandleField_eq] at read
        obtain ⟨handle, handleRead, read⟩ := read
        split at handleRead
        · next absent => exact .alone entries mapping ((Tree.isNull_iff _).mp absent)
        · cases handle with
          | none =>
              obtain ⟨fields, rules⟩ := (readHandle_eq_none_iff reader _).mp handleRead
              exact .nameless entries fields mapping rules
          | some handle =>
              obtain ⟨fields, name, rules⟩ :=
                (exists_readHandle_iff reader _).mp ⟨handle, handleRead⟩
              have rest := (endsWell_readFound reader version entries handle).mp read
              exact .named entries fields name mapping rules rest
  · rintro (⟨entries, mapping, absent⟩ | ⟨entries, fields, mapping, rules⟩ |
      ⟨entries, fields, name, mapping, rules, rest⟩)
    all_goals rw [readAccount_eq reader version mapping, endsWell_bind_iff, readHandleField_eq]
    · refine ⟨none, ?_, endsWell_ok none⟩
      rw [absent]
      rfl
    · have given := isNull_eq_false rules.mapping
      refine ⟨none, ?_, endsWell_ok none⟩
      rw [given]
      exact (readHandle_eq_none_iff reader _).mpr ⟨fields, rules⟩
    · have given := isNull_eq_false rules.mapping
      obtain ⟨handle, read⟩ := (exists_readHandle_iff reader _).mpr ⟨fields, name, rules⟩
      refine ⟨some handle, ?_, (endsWell_readFound reader version entries handle).mpr rest⟩
      rw [given]
      exact read

theorem endsWell_readAccounts (version : Int) (values : List Tree) :
    EndsWell (reader.readAccounts version values) ↔ ∀ value ∈ values, IsAccount value := by
  induction values with
  | nil => exact iff_of_true (endsWell_ok []) (by simp)
  | cons value rest inductionHypothesis =>
      rw [Reader.readAccounts, List.forall_mem_cons, ← endsWell_readAccount reader version value,
        ← inductionHypothesis]
      apply endsWell_bind_iff_and
      intro account
      exact endsWell_bind_ok_iff

/-! ## Reading bodies -/

theorem endsWell_readVersion (value : Tree) :
    EndsWell (readVersion value) ↔ value = .null ∨ value = .text "" ∨ IsInteger value := by
  unfold readVersion
  by_cases missing : (value.isNull || Tree.isTextKey "" value) = true
  · rw [if_pos missing]
    rw [Bool.or_eq_true, Tree.isNull_iff, Tree.isTextKey_iff] at missing
    exact iff_of_true (endsWell_ok firstVersion) (missing.imp_right .inl)
  · rw [if_neg missing, endsWell_readInteger]
    rw [Bool.or_eq_true, Tree.isNull_iff, Tree.isTextKey_iff, not_or] at missing
    rw [or_iff_right missing.1, or_iff_right missing.2]

/-- What is read of a body once its version and its choices are known. -/
def Reader.readAccountsField
    (version : Int)
    (defaultOutgoing simCallManager : Option Handle)
    (entries : List (Tree × Tree)) :
    Except FieldFault Catalog :=
  let accountsTree := Tree.get Key.accounts entries
  match if accountsTree.isEmpty then some [] else accountsTree.items? with
  | none => .error .accountsAreNoList
  | some items => do
      let accounts ← reader.readAccounts version items
      .ok {
        defaultOutgoing := defaultOutgoing
        simCallManager := simCallManager.map reader.ownManager
        accounts := accounts
        version := version }

theorem endsWell_readAccountsField
    (version : Int)
    (defaultOutgoing simCallManager : Option Handle)
    (entries : List (Tree × Tree)) :
    EndsWell (reader.readAccountsField version defaultOutgoing simCallManager entries) ↔
      ∃ items, Lists (Tree.get Key.accounts entries) items ∧ ∀ item ∈ items, IsAccount item := by
  unfold Reader.readAccountsField Lists
  dsimp only
  cases (if (Tree.get Key.accounts entries).isEmpty then some []
    else (Tree.get Key.accounts entries).items?) with
  | none => exact iff_of_false (not_endsWell_error _) (by simp)
  | some items =>
      dsimp only
      rw [endsWell_bind_ok_iff, endsWell_readAccounts]
      simp

theorem readBody_eq (entries : List (Tree × Tree)) :
    reader.readBody entries =
      (readVersion (Tree.get Key.version entries) >>= fun version =>
        reader.readHandleField Key.defaultOutgoing entries >>= fun defaultOutgoing =>
          reader.readHandleField Key.simCallManager entries >>= fun simCallManager =>
            reader.readAccountsField version defaultOutgoing simCallManager entries) := rfl

theorem endsWell_readBody (entries : List (Tree × Tree)) :
    EndsWell (reader.readBody entries) ↔ HasState entries := by
  have inSteps : EndsWell (reader.readBody entries) ↔
      EndsWell (readVersion (Tree.get Key.version entries)) ∧
      EndsWell (reader.readHandleField Key.defaultOutgoing entries) ∧
      EndsWell (reader.readHandleField Key.simCallManager entries) ∧
      ∃ items, Lists (Tree.get Key.accounts entries) items ∧ ∀ item ∈ items, IsAccount item := by
    rw [readBody_eq]
    iterate 3 refine endsWell_bind_iff_and fun _ => ?_
    exact endsWell_readAccountsField reader _ _ _ entries
  rw [inSteps, endsWell_readVersion, endsWell_readHandleField, endsWell_readHandleField]
  constructor
  · rintro ⟨version, defaultOutgoing, simCallManager, accounts⟩
    exact ⟨version, defaultOutgoing, simCallManager, accounts⟩
  · rintro ⟨version, defaultOutgoing, simCallManager, accounts⟩
    exact ⟨version, defaultOutgoing, simCallManager, accounts⟩

/-- A body without fields breaks no rule. -/
theorem hasState_nil : HasState [] where
  version := .inl rfl
  defaultOutgoing := .inl rfl
  simCallManager := .inl rfl
  accounts := ⟨[], rfl, List.forall_mem_nil _⟩

/-! ## Reading documents -/

/-- A body is read field by field if it is a mapping, and like one without fields if it is empty. -/
def Reader.readGiven (body : Tree) : Except FieldFault Catalog :=
  match if body.isEmpty then some [] else body.entries? with
  | none => .error .bodyIsNoMapping
  | some entries => reader.readBody entries

theorem decodeTree_of_hasBody {tree body : Tree} (given : HasBody tree body) :
    reader.decodeTree tree = (reader.readGiven body).map some := by
  obtain ⟨entries, rfl, found⟩ := given
  unfold Reader.decodeTree Reader.readGiven
  dsimp only
  rw [found]
  dsimp only
  cases (if body.isEmpty then some [] else body.entries?) <;> rfl

theorem decodeTree_of_not_hasBody {tree : Tree} (missing : ¬ ∃ body, HasBody tree body) :
    reader.decodeTree tree = .ok none := by
  unfold Reader.decodeTree
  split
  · next entries =>
      split
      · rfl
      · next body found => exact absurd ⟨body, entries, rfl, found⟩ missing
  · rfl

theorem endsWell_readGiven (body : Tree) : EndsWell (reader.readGiven body) ↔ IsBody body := by
  unfold Reader.readGiven
  by_cases empty : body.isEmpty = true
  · rw [if_pos empty]
    exact iff_of_true ((endsWell_readBody reader []).mpr hasState_nil) (.empty empty)
  · rw [if_neg empty]
    cases given : body.entries? with
    | none =>
        refine iff_of_false (not_endsWell_error _) ?_
        rintro (isEmpty | ⟨entries, mapping, rules⟩)
        · exact empty isEmpty
        · rw [given] at mapping
          cases mapping
    | some entries =>
        dsimp only
        rw [endsWell_readBody]
        constructor
        · exact .mapping entries given
        · rintro (isEmpty | ⟨others, mapping, rules⟩)
          · exact absurd isEmpty empty
          · rw [given] at mapping
            obtain rfl := Option.some.inj mapping
            exact rules

/-- A document is no state file exactly if it has no body.  One that has a body is read exactly if
the body follows the rules, and is refused for a field exactly if it does not. -/
theorem decodeTree_follows_rules (tree : Tree) :
    (reader.decodeTree tree = .ok none ↔ ¬ ∃ body, HasBody tree body) ∧
    ((∃ catalog, reader.decodeTree tree = .ok (some catalog)) ↔
      ∃ body, HasBody tree body ∧ IsBody body) ∧
    ((∃ fault, reader.decodeTree tree = .error fault) ↔
      ∃ body, HasBody tree body ∧ ¬ IsBody body) := by
  by_cases present : ∃ body, HasBody tree body
  · obtain ⟨body, given⟩ := present
    have unique : ∀ other, HasBody tree other → other = body := by
      rintro other ⟨entries, rfl, found⟩
      obtain ⟨same, mapping, there⟩ := given
      obtain rfl := Tree.mapping.inj mapping
      exact Option.some.inj (found.symm.trans there)
    have bodies (good : Tree → Prop) : (∃ other, HasBody tree other ∧ good other) ↔ good body := by
      constructor
      · rintro ⟨other, hasOther, holds⟩
        rw [← unique other hasOther]
        exact holds
      · exact fun holds => ⟨body, given, holds⟩
    rw [bodies, bodies, ← endsWell_readGiven reader, not_endsWell_iff,
      decodeTree_of_hasBody reader given]
    cases reader.readGiven body with
    | ok catalog =>
        refine ⟨iff_of_false (by rintro ⟨⟩) (fun none => none ⟨body, given⟩), ?_, ?_⟩
        · exact iff_of_true ⟨catalog, rfl⟩ ⟨catalog, rfl⟩
        · exact iff_of_false (by rintro ⟨_, ⟨⟩⟩) (by rintro ⟨_, ⟨⟩⟩)
    | error fault =>
        refine ⟨iff_of_false (by rintro ⟨⟩) (fun none => none ⟨body, given⟩), ?_, ?_⟩
        · exact iff_of_false (by rintro ⟨_, ⟨⟩⟩) (not_endsWell_error fault)
        · exact iff_of_true ⟨fault, rfl⟩ ⟨fault, rfl⟩
  · have absent (good : Tree → Prop) : ¬ ∃ body, HasBody tree body ∧ good body := by
      rintro ⟨body, given, -⟩
      exact present ⟨body, given⟩
    rw [decodeTree_of_not_hasBody reader present]
    refine ⟨iff_of_true rfl present, ?_, ?_⟩
    · exact iff_of_false (by rintro ⟨_, ⟨⟩⟩) (absent _)
    · exact iff_of_false (by rintro ⟨_, ⟨⟩⟩) (absent _)

end PhoneAccounts.StateFile
