/-!
Contract: values under keys, in the order in which the keys were first given.

Giving a key a new value keeps its place; erasing a key and giving it again moves it
to the end.

Owns: `Keyed`, `valueOf?`, `put`, `erase`, and how a look-up sees each of them.

Does not own: what the keys mean.
-/

namespace PhoneAccounts

/-- Entries in insertion order. -/
abbrev Keyed (Key Value : Type) := List (Key × Value)

namespace Keyed

variable {Key Value : Type} [DecidableEq Key]

/-- Value of a key. -/
def valueOf? (key : Key) : Keyed Key Value → Option Value
  | [] => none
  | entry :: rest => if entry.1 = key then some entry.2 else valueOf? key rest

/-- Gives a key a value, at its place or at the end. -/
def put (key : Key) (value : Value) : Keyed Key Value → Keyed Key Value
  | [] => [(key, value)]
  | entry :: rest =>
      if entry.1 = key then (key, value) :: rest else entry :: put key value rest

def erase (key : Key) (entries : Keyed Key Value) : Keyed Key Value :=
  entries.filter fun entry => entry.1 ≠ key

@[simp] theorem valueOf?_nil (key : Key) : valueOf? key ([] : Keyed Key Value) = none := rfl

theorem valueOf?_put
    (key other : Key)
    (value : Value)
    (entries : Keyed Key Value) :
    valueOf? other (put key value entries) =
      if other = key then some value else valueOf? other entries := by
  induction entries with
  | nil => by_cases same : other = key <;> simp_all [put, valueOf?, eq_comm]
  | cons entry rest inductionHypothesis =>
      by_cases here : entry.1 = key
      · by_cases same : other = key
        · subst same; simp [put, valueOf?, here]
        · have different : ¬ key = other := fun equal => same equal.symm
          simp [put, valueOf?, here, same, different]
      · by_cases first : entry.1 = other
        · have different : ¬ other = key := fun equal => here (first.trans equal)
          simp [put, valueOf?, first, different]
        · simp [put, valueOf?, here, first, inductionHypothesis]

theorem valueOf?_erase
    (key other : Key)
    (entries : Keyed Key Value) :
    valueOf? other (erase key entries) =
      if other = key then none else valueOf? other entries := by
  induction entries with
  | nil => simp [erase]
  | cons entry rest inductionHypothesis =>
      unfold erase at inductionHypothesis ⊢
      by_cases here : entry.1 = key
      · by_cases same : other = key
        · simp_all [List.filter]
        · have different : ¬ entry.1 = other := fun equal => same (equal.symm.trans here)
          simp_all [List.filter, valueOf?]
      · by_cases first : entry.1 = other
        · have different : ¬ other = key := fun equal => here (first.trans equal)
          simp [List.filter, valueOf?, first, different]
        · simpa [List.filter, valueOf?, here, first] using inductionHypothesis

end Keyed

end PhoneAccounts
