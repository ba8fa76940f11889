import PhoneAccounts.Proofs.Text.Base64
import PhoneAccounts.StateFile.Reading
import PhoneAccounts.StateFile.Writing

/-!
Contract: the fields of a written mapping, as the reader finds them.

The reader looks keys up in the tree of a mapping.  The look-up lands on the first field
with that key, so what each kind of reader makes of a field follows from the field alone.

Owns: `field?` with its rules, and the single readers on written fields.

Does not own: which fields a handle, an account or a catalog writes (see
`PhoneAccounts.Proofs.StateFile.RoundTrip`).
-/

namespace PhoneAccounts.StateFile

open PhoneAccounts.Yaml

/-- The value of the first field with a key. -/
def field? (name : String) (fields : List (String × Outline)) : Option Outline :=
  (fields.find? fun field => field.1 = name).map Prod.snd

@[simp] theorem field?_nil (name : String) : field? name [] = none := rfl

@[simp] theorem field?_cons
    (name key : String)
    (value : Outline)
    (rest : List (String × Outline)) :
    field? name ((key, value) :: rest) =
      if key = name then some value else field? name rest := by
  by_cases same : key = name <;> simp [field?, same]

@[simp] theorem field?_append (name : String) (first second : List (String × Outline)) :
    field? name (first ++ second) = (field? name first).or (field? name second) := by
  rw [field?, List.find?_append, Option.map_or]
  rfl

@[simp] theorem field?_optionalText (name key : String) (value : Option String) :
    field? name (optionalText key value) = if key = name then value.map .text else none := by
  cases value <;> simp [optionalText]

@[simp] theorem field?_optionalHandle
    (directory : ScopeDirectory)
    (name key : String)
    (handle : Option Handle) :
    field? name (optionalHandle directory key handle) =
      if key = name then handle.map (handleOutline directory) else none := by
  cases handle <;> simp [optionalHandle]

/-! ## Look-ups in the tree -/

theorem find?_entryTrees (name : String) (fields : List (String × Outline)) :
    Tree.find? name (Outline.entryTrees fields) = (field? name fields).map Outline.tree := by
  induction fields with
  | nil => rfl
  | cons field rest inductionHypothesis =>
      obtain ⟨key, value⟩ := field
      rw [field?_cons]
      unfold Tree.find? at inductionHypothesis ⊢
      by_cases same : key = name
      · simp [Outline.entryTrees, Tree.isTextKey, same]
      · simpa [Outline.entryTrees, Tree.isTextKey, same] using inductionHypothesis

theorem get_entryTrees (name : String) (fields : List (String × Outline)) :
    Tree.get name (Outline.entryTrees fields) =
      ((field? name fields).map Outline.tree).getD .null := by
  rw [Tree.get, find?_entryTrees]

theorem length_itemTrees (items : List Outline) :
    (Outline.itemTrees items).length = items.length := by
  induction items with
  | nil => rfl
  | cons item rest inductionHypothesis => simp [Outline.itemTrees, inductionHypothesis]

/-- A sequence gives its items, also where an empty value would do. -/
theorem items?_sequence (items : List Tree) :
    (if (Tree.sequence items).isEmpty then some [] else (Tree.sequence items).items?) =
      some items := by
  cases items <;> rfl

/-! ## Single readers -/

section Readers

variable {name : String} {fields : List (String × Outline)}

theorem readTextField_entryTrees
    (value : Option String)
    (written : field? name fields = value.map .text) :
    readTextField name (Outline.entryTrees fields) = .ok value := by
  rw [readTextField, get_entryTrees, written]
  cases value <;> rfl

theorem readIntegerOr_entryTrees
    (default : Int)
    (value : Option Int)
    (written : field? name fields = value.map .integer) :
    readIntegerOr default name (Outline.entryTrees fields) = .ok (value.getD default) := by
  rw [readIntegerOr, find?_entryTrees, written]
  cases value <;> rfl

theorem readPayload_entryTrees
    (value : Option (List UInt8))
    (written : field? name fields =
      value.map fun bytes => .text (String.ofList (Text.Base64.encode bytes))) :
    readPayload name (Tree.get name (Outline.entryTrees fields)) = .ok value := by
  rw [get_entryTrees, written]
  cases value with
  | none => rfl
  | some bytes => simp [Outline.tree, readPayload, Text.Base64.decodeStrict?_encode]

end Readers

theorem readTexts_itemTrees (field : String) (texts : List String) :
    readTexts field (Outline.itemTrees (texts.map .text)) = .ok texts := by
  induction texts with
  | nil => rfl
  | cons text rest inductionHypothesis =>
      rw [List.map_cons, Outline.itemTrees, readTexts, inductionHypothesis]
      rfl

/-- A list is read as it was written, whatever its length. -/
theorem readCountedList_schemesOutline (field : String) (schemes : List String) :
    readCountedList field (schemesOutline schemes).tree = .ok schemes := by
  have lengthTree :
      Tree.find? Key.length (Outline.entryTrees [
        (Key.length, .integer schemes.length), (Key.values, .sequence (schemes.map .text))]) =
        some (.integer schemes.length) := by
    rw [find?_entryTrees]
    rfl
  have valuesTree :
      Tree.get Key.values (Outline.entryTrees [
        (Key.length, .integer schemes.length), (Key.values, .sequence (schemes.map .text))]) =
        .sequence (Outline.itemTrees (schemes.map .text)) := by
    rw [get_entryTrees]
    rfl
  have count : ((Outline.itemTrees (schemes.map .text)).length : Int) = schemes.length := by
    rw [length_itemTrees, List.length_map]
  unfold schemesOutline readCountedList
  simp only [Outline.tree, Tree.entries?, lengthTree, valuesTree, readInteger, items?_sequence,
    bind, Except.bind]
  rw [if_pos count]
  exact readTexts_itemTrees field schemes

end PhoneAccounts.StateFile
