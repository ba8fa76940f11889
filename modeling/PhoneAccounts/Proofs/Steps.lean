/-!
Contract: computations in steps that stop at the first fault.

Owns: what the steps of such a computation gave when it ended well, which of them stopped it when
it did not, when it ends well (`EndsWell`), and when two of them end alike (`EndAlike`).

Does not own: the faults.
-/

namespace PhoneAccounts

section

variable {Fault First Second : Type} {first : Except Fault First}
  {next : First → Except Fault Second}

/-- Where two steps end well, so did the first, and the second went on from its value. -/
theorem bind_eq_ok
    {result : Second}
    (done : (first >>= next) = .ok result) :
    ∃ value, first = .ok value ∧ next value = .ok result := by
  cases first with
  | error fault => exact absurd done (by simp [bind, Except.bind])
  | ok value => exact ⟨value, rfl, done⟩

/-- Where two steps stop, either the first did, or the second did with its value. -/
theorem bind_eq_error
    {fault : Fault}
    (stopped : (first >>= next) = .error fault) :
    first = .error fault ∨ ∃ value, first = .ok value ∧ next value = .error fault := by
  cases first with
  | error other =>
      have same : other = fault := Except.error.inj stopped
      exact .inl (congrArg Except.error same)
  | ok value => exact .inr ⟨value, rfl, stopped⟩

/-- A value that is there was the result. -/
theorem eq_ok_of_toOption
    {value : First}
    (done : first.toOption = some value) :
    first = .ok value := by
  cases first with
  | error fault => exact absurd done (by simp [Except.toOption])
  | ok other => exact congrArg Except.ok (Option.some.inj done)

/-- What stopped the computation, if it was stopped. -/
def fault? : Except Fault First → Option Fault
  | .error fault => some fault
  | .ok _ => none

/-- A fault that is there stopped the computation. -/
theorem eq_error_of_fault?
    {fault : Fault}
    (stopped : fault? first = some fault) :
    first = .error fault := by
  cases first with
  | error other => exact congrArg Except.error (Option.some.inj stopped)
  | ok value => exact absurd stopped (by simp [fault?])

theorem map_eq_ok
    {change : First → Second}
    {result : Second}
    (done : first.map change = .ok result) :
    ∃ value, first = .ok value ∧ change value = result := by
  cases first with
  | error fault => exact absurd done (by simp [Except.map])
  | ok value => exact ⟨value, rfl, Except.ok.inj done⟩

/-- A fault in other words is a fault. -/
theorem mapError_eq_ok_iff
    {Other : Type}
    {words : Fault → Other}
    {value : First} :
    first.mapError words = .ok value ↔ first = .ok value := by
  cases first with
  | ok result =>
      show Except.ok result = Except.ok value ↔ Except.ok result = Except.ok value
      rw [Except.ok.injEq, Except.ok.injEq]
  | error fault =>
      show Except.error (words fault) = Except.ok value ↔ Except.error fault = Except.ok value
      simp

/-- The computation gave something. -/
def EndsWell (computation : Except Fault First) : Prop :=
  ∃ value, computation = .ok value

@[simp] theorem endsWell_ok (value : First) : EndsWell (.ok value : Except Fault First) :=
  ⟨value, rfl⟩

@[simp] theorem not_endsWell_error (fault : Fault) :
    ¬ EndsWell (.error fault : Except Fault First) := by
  rintro ⟨value, same⟩
  cases same

theorem not_endsWell_iff : ¬ EndsWell first ↔ ∃ fault, first = .error fault := by
  cases first with
  | ok value => exact iff_of_false (fun stopped => stopped ⟨value, rfl⟩) (by simp)
  | error fault => exact iff_of_true (not_endsWell_error fault) ⟨fault, rfl⟩

theorem endsWell_map_iff {change : First → Second} :
    EndsWell (first.map change) ↔ EndsWell first := by
  cases first with
  | ok value => exact iff_of_true ⟨change value, rfl⟩ ⟨value, rfl⟩
  | error fault => exact iff_of_false (not_endsWell_error fault) (not_endsWell_error fault)

theorem endsWell_bind_iff :
    EndsWell (first >>= next) ↔ ∃ value, first = .ok value ∧ EndsWell (next value) := by
  constructor
  · rintro ⟨result, done⟩
    obtain ⟨value, firstDone, nextDone⟩ := bind_eq_ok done
    exact ⟨value, firstDone, result, nextDone⟩
  · rintro ⟨value, rfl, result, nextDone⟩
    exact ⟨result, nextDone⟩

/-- Two steps end well where both do, if it does not depend on the value of the first whether the
second does. -/
theorem endsWell_bind_iff_and
    {good : Prop}
    (independent : ∀ value, EndsWell (next value) ↔ good) :
    EndsWell (first >>= next) ↔ EndsWell first ∧ good := by
  rw [endsWell_bind_iff]
  constructor
  · rintro ⟨value, firstDone, nextWell⟩
    exact ⟨⟨value, firstDone⟩, (independent value).mp nextWell⟩
  · rintro ⟨⟨value, firstDone⟩, holds⟩
    exact ⟨value, firstDone, (independent value).mpr holds⟩

theorem endsWell_bind_ok_iff {change : First → Second} :
    EndsWell (first >>= fun value => .ok (change value)) ↔ EndsWell first := by
  rw [endsWell_bind_iff_and (fun value => iff_true_intro (endsWell_ok (change value))), and_true]

/-- What is made of the result of two steps is made in the second. -/
theorem map_bind_eq
    {Result : Type}
    (change : Second → Result) :
    (first >>= next).map change = first >>= fun value => (next value).map change := by
  cases first <;> rfl

end

/-! ## Two computations -/

/-- Two computations are stopped by the same fault, or both end well, with values that are
related. -/
inductive EndAlike {Fault First Second : Type} (related : First → Second → Prop) :
    Except Fault First → Except Fault Second → Prop
  | stopped (fault : Fault) : EndAlike related (.error fault) (.error fault)
  | done {left : First} {right : Second} (alike : related left right) :
      EndAlike related (.ok left) (.ok right)

namespace EndAlike

variable {Fault First Second Later LaterOther : Type} {related : First → Second → Prop}
  {laterRelated : Later → LaterOther → Prop}
  {left : Except Fault First} {right : Except Fault Second}

theorem refl (computation : Except Fault First) : EndAlike Eq computation computation := by
  cases computation with
  | error fault => exact .stopped fault
  | ok value => exact .done rfl

theorem bind
    (alike : EndAlike related left right)
    {next : First → Except Fault Later}
    {otherNext : Second → Except Fault LaterOther}
    (laterAlike : ∀ value other, related value other →
      EndAlike laterRelated (next value) (otherNext other)) :
    EndAlike laterRelated (left >>= next) (right >>= otherNext) := by
  cases alike with
  | stopped fault => exact .stopped fault
  | done values => exact laterAlike _ _ values

theorem map
    (alike : EndAlike related left right)
    {change : First → Later}
    {otherChange : Second → LaterOther}
    (changedAlike : ∀ value other, related value other →
      laterRelated (change value) (otherChange other)) :
    EndAlike laterRelated (left.map change) (right.map otherChange) := by
  cases alike with
  | stopped fault => exact .stopped fault
  | done values => exact .done (changedAlike _ _ values)

end EndAlike

end PhoneAccounts
