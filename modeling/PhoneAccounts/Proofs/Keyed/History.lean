import Mathlib.Data.List.Induction
import PhoneAccounts.Proofs.Keyed

/-!
Contract: keyed values as a function of the calls that made them.

Calls give keys values and erase keys, one after the other, where there was nothing.  A key is
there in the end if the last call on it gave it a value, and this is its value.  It has its place
by the call since which it has been there without a break, which is the first one with a value for
it after the last one that erased it.

Owns: `Call`, `ofCalls` and `lastValue?`; `Standing` with `HoldsAfter`, which says when a key stands
since when; and the entries that calls leave, in terms of them.

Does not own: what the keys mean.
-/

namespace PhoneAccounts.Keyed

/-- A call that gives a key a value, or erases a key. -/
inductive Call (Key Value : Type) where
  | put (key : Key) (value : Value)
  | erase (key : Key)
deriving DecidableEq, Repr

/-- A key with its value, and the number of calls before the one since which it is there. -/
structure Standing (Key Value : Type) where
  key : Key
  since : Nat
  value : Value
deriving DecidableEq, Repr

variable {Key Value : Type}

namespace Call

/-- The key that the call is on. -/
def key : Call Key Value → Key
  | .put key _ => key
  | .erase key => key

/-- The value that the key has after the call. -/
def value? : Call Key Value → Option Value
  | .put _ value => some value
  | .erase _ => none

end Call

def Standing.entry (standing : Standing Key Value) : Key × Value :=
  (standing.key, standing.value)

/-- In a list that is ordered by since when, the first accepted standing is the earliest one. -/
theorem find?_eq_some_iff_of_ordered
    {standings : List (Standing Key Value)}
    (ordered : standings.Pairwise fun earlier later => earlier.since < later.since)
    (accepts : Standing Key Value → Bool)
    (standing : Standing Key Value) :
    standings.find? accepts = some standing ↔
      standing ∈ standings ∧ accepts standing = true ∧
        ∀ other ∈ standings, accepts other = true → standing.since ≤ other.since := by
  induction standings with
  | nil => exact iff_of_false (by simp) fun holds => List.not_mem_nil holds.1
  | cons first rest inductionHypothesis =>
      rw [List.pairwise_cons] at ordered
      by_cases accepted : accepts first = true
      · rw [List.find?_cons_of_pos accepted, Option.some.injEq]
        constructor
        · rintro rfl
          refine ⟨List.mem_cons_self, accepted, fun other member _ => ?_⟩
          rcases List.mem_cons.mp member with rfl | later
          · exact Nat.le_refl _
          · exact Nat.le_of_lt (ordered.1 other later)
        · rintro ⟨member, -, isEarliest⟩
          rcases List.mem_cons.mp member with same | later
          · exact same.symm
          · have notBefore := isEarliest first List.mem_cons_self accepted
            exact absurd (ordered.1 standing later) (Nat.not_lt.mpr notBefore)
      · rw [List.find?_cons_of_neg accepted, inductionHypothesis ordered.2]
        constructor
        · rintro ⟨member, isAccepted, isEarliest⟩
          refine ⟨List.mem_cons_of_mem first member, isAccepted, fun other otherMember => ?_⟩
          rcases List.mem_cons.mp otherMember with rfl | later
          · exact fun otherAccepted => absurd otherAccepted accepted
          · exact isEarliest other later
        · rintro ⟨member, isAccepted, isEarliest⟩
          refine ⟨?_, isAccepted, fun other later =>
            isEarliest other (List.mem_cons_of_mem first later)⟩
          rcases List.mem_cons.mp member with rfl | later
          · exact absurd isAccepted accepted
          · exact later

variable [DecidableEq Key]

/-- The entries after a call. -/
def Call.run (entries : Keyed Key Value) : Call Key Value → Keyed Key Value
  | .put key value => entries.put key value
  | .erase key => entries.erase key

/-- The entries that calls leave where there were none. -/
def ofCalls (calls : List (Call Key Value)) : Keyed Key Value :=
  calls.foldl Call.run []

/-- The value that the last call on a key gave it, if there was one and it gave it a value. -/
def lastValue? (key : Key) (calls : List (Call Key Value)) : Option Value :=
  (calls.filter fun call => call.key = key).getLast?.bind Call.value?

/-- The last call on the key gave it the value, and the key has been there after every number of
calls above `since`, but not yet after `since` of them. -/
structure Standing.HoldsAfter
    (standing : Standing Key Value)
    (calls : List (Call Key Value)) :
    Prop where
  value : lastValue? standing.key calls = some standing.value
  absent : lastValue? standing.key (calls.take standing.since) = none
  present : ∀ time ≤ calls.length, standing.since < time →
    lastValue? standing.key (calls.take time) ≠ none

instance [DecidableEq Value] (standing : Standing Key Value) (calls : List (Call Key Value)) :
    Decidable (standing.HoldsAfter calls) :=
  decidable_of_iff
    (lastValue? standing.key calls = some standing.value ∧
      lastValue? standing.key (calls.take standing.since) = none ∧
      ∀ time ≤ calls.length, standing.since < time →
        lastValue? standing.key (calls.take time) ≠ none)
    ⟨fun all => ⟨all.1, all.2.1, all.2.2⟩, fun holds => ⟨holds.value, holds.absent, holds.present⟩⟩

/-! ## The last call -/

section LastCall

variable {calls : List (Call Key Value)}

@[simp] theorem lastValue?_nil (key : Key) :
    lastValue? key ([] : List (Call Key Value)) = none := rfl

theorem lastValue?_concat (key : Key) (call : Call Key Value) :
    lastValue? key (calls ++ [call]) =
      if call.key = key then call.value? else lastValue? key calls := by
  unfold lastValue?
  rw [List.filter_append]
  by_cases on : call.key = key
  · have counts : [call].filter (fun call => call.key = key) = [call] := by simp [on]
    rw [if_pos on, counts, List.getLast?_concat, Option.bind_some]
  · have isLeftOut : [call].filter (fun call => call.key = key) = [] := by simp [on]
    rw [if_neg on, isLeftOut, List.append_nil]

theorem ofCalls_concat (call : Call Key Value) :
    ofCalls (calls ++ [call]) = call.run (ofCalls calls) := by
  rw [ofCalls, List.foldl_append]
  rfl

theorem Call.valueOf?_run (key : Key) (entries : Keyed Key Value) (call : Call Key Value) :
    (call.run entries).valueOf? key =
      if call.key = key then call.value? else entries.valueOf? key := by
  cases call with
  | put other value =>
      rw [run, valueOf?_put]
      exact if_congr eq_comm rfl rfl
  | erase other =>
      rw [run, valueOf?_erase]
      exact if_congr eq_comm rfl rfl

/-- A key finds the value that the last call on it gave it. -/
theorem valueOf?_ofCalls (key : Key) (calls : List (Call Key Value)) :
    (ofCalls calls).valueOf? key = lastValue? key calls := by
  induction calls using List.reverseRecOn with
  | nil => rfl
  | append_singleton calls call inductionHypothesis =>
      rw [ofCalls_concat, Call.valueOf?_run, lastValue?_concat, inductionHypothesis]

theorem nodup_keys_ofCalls (calls : List (Call Key Value)) :
    ((ofCalls calls).map Prod.fst).Nodup := by
  induction calls using List.reverseRecOn with
  | nil => exact List.nodup_nil
  | append_singleton calls call inductionHypothesis =>
      rw [ofCalls_concat]
      cases call with
      | put key value => exact nodup_keys_put inductionHypothesis key value
      | erase key => exact nodup_keys_erase inductionHypothesis key

/-- An entry is there if the last call on its key gave it its value. -/
theorem mem_ofCalls_iff {key : Key} {value : Value} :
    (key, value) ∈ ofCalls calls ↔ lastValue? key calls = some value := by
  rw [← valueOf?_ofCalls]
  exact ⟨valueOf?_of_mem (nodup_keys_ofCalls calls), mem_of_valueOf?_eq_some⟩

end LastCall

/-! ## Standings -/

namespace Standing

variable {calls : List (Call Key Value)} {standing other : Standing Key Value}

theorem HoldsAfter.since_lt (holds : standing.HoldsAfter calls) :
    standing.since < calls.length := by
  by_contra late
  have absent := holds.absent
  rw [List.take_of_length_le (by omega), holds.value] at absent
  exact absurd absent (by simp)

/-- A key stands in one way only. -/
theorem HoldsAfter.unique
    (holds : standing.HoldsAfter calls)
    (otherHolds : other.HoldsAfter calls)
    (same : standing.key = other.key) :
    standing = other := by
  have sameSince : standing.since = other.since := by
    rcases Nat.lt_trichotomy standing.since other.since with earlier | equal | later
    · have present := holds.present other.since (by have := otherHolds.since_lt; omega) earlier
      exact absurd (same ▸ otherHolds.absent) present
    · exact equal
    · have present := otherHolds.present standing.since (by have := holds.since_lt; omega) later
      exact absurd (same ▸ holds.absent) present
  have sameValue : some standing.value = some other.value := by
    rw [← holds.value, ← otherHolds.value, same]
  cases standing
  cases other
  cases same
  cases sameSince
  cases sameValue
  rfl

/-- A call leaves a key standing where it has a value after it: since the call if it was not there
before, else since when it was. -/
theorem holdsAfter_concat_iff (call : Call Key Value) :
    standing.HoldsAfter (calls ++ [call]) ↔
      lastValue? standing.key (calls ++ [call]) = some standing.value ∧
        (lastValue? standing.key calls = none ∧ standing.since = calls.length ∨
          ∃ before, HoldsAfter { standing with value := before } calls) := by
  have earlier {time : Nat} (within : time ≤ calls.length) :
      (calls ++ [call]).take time = calls.take time :=
    List.take_append_of_le_length within
  have longer : (calls ++ [call]).length = calls.length + 1 := List.length_append
  constructor
  · intro holds
    have below := holds.since_lt
    have absent := holds.absent
    rw [earlier (by omega)] at absent
    refine ⟨holds.value, ?_⟩
    by_cases last : standing.since = calls.length
    · rw [last, List.take_length] at absent
      exact .inl ⟨absent, last⟩
    · have present (time : Nat) (within : time ≤ calls.length) (after : standing.since < time) :
          lastValue? standing.key (calls.take time) ≠ none := by
        rw [← earlier within]
        exact holds.present time (by omega) after
      have now := present calls.length (Nat.le_refl _) (by omega)
      rw [List.take_length] at now
      obtain ⟨before, known⟩ := Option.ne_none_iff_exists'.mp now
      exact .inr ⟨before, known, absent, present⟩
  · rintro ⟨value, begins⟩
    have atEnd {time : Nat} (all : time = calls.length + 1) :
        lastValue? standing.key ((calls ++ [call]).take time) ≠ none := by
      rw [List.take_of_length_le (by omega), value]
      exact Option.some_ne_none _
    rcases begins with ⟨absent, last⟩ | ⟨before, holds⟩
    · refine ⟨value, ?_, fun time within after => atEnd (by omega)⟩
      rw [last, earlier (Nat.le_refl _), List.take_length]
      exact absent
    · have below : standing.since < calls.length := holds.since_lt
      refine ⟨value, ?_, fun time within after => ?_⟩
      · rw [earlier (by omega)]
        exact holds.absent
      · by_cases all : time = calls.length + 1
        · exact atEnd all
        · rw [earlier (by omega)]
          exact holds.present time (by omega) after

/-- A call on another key changes nothing. -/
theorem holdsAfter_concat_of_ne
    {call : Call Key Value}
    (elsewhere : standing.key ≠ call.key) :
    standing.HoldsAfter (calls ++ [call]) ↔ standing.HoldsAfter calls := by
  rw [holdsAfter_concat_iff, lastValue?_concat, if_neg elsewhere.symm]
  constructor
  · rintro ⟨value, ⟨absent, -⟩ | ⟨before, holds⟩⟩
    · exact absurd (absent.symm.trans value) (by simp)
    · have same : some before = some standing.value := holds.value.symm.trans value
      rwa [Option.some.inj same] at holds
  · intro holds
    exact ⟨holds.value, .inr ⟨standing.value, holds⟩⟩

/-- A key that is erased does not stand, and the others stand as before. -/
theorem holdsAfter_erase_iff {key : Key} :
    standing.HoldsAfter (calls ++ [.erase key]) ↔
      standing.HoldsAfter calls ∧ standing.key ≠ key := by
  by_cases on : standing.key = key
  · subst on
    refine iff_of_false (fun holds => ?_) fun both => both.2 rfl
    have value := holds.value
    rw [lastValue?_concat, Call.key, if_pos rfl] at value
    exact absurd value (by simp [Call.value?])
  · rw [holdsAfter_concat_of_ne on]
    exact (and_iff_left on).symm

/-- A key that was not there stands since the call. -/
theorem holdsAfter_put_iff_of_absent
    {key : Key}
    {value : Value}
    (absent : lastValue? key calls = none) :
    standing.HoldsAfter (calls ++ [.put key value]) ↔
      standing.HoldsAfter calls ∨ standing = ⟨key, calls.length, value⟩ := by
  by_cases on : standing.key = key
  · subst on
    have notBefore (before : Value) :
        ¬ HoldsAfter { standing with value := before } calls := fun holds =>
      absurd (absent.symm.trans holds.value) (by simp)
    rw [holdsAfter_concat_iff, lastValue?_concat, Call.key, if_pos rfl,
      or_iff_right (notBefore standing.value)]
    constructor
    · rintro ⟨sameValue, ⟨-, last⟩ | ⟨before, holds⟩⟩
      · cases standing
        cases last
        cases sameValue
        rfl
      · exact absurd holds (notBefore before)
    · intro isNew
      have sameValue : standing.value = value := congrArg Standing.value isNew
      exact ⟨congrArg some sameValue.symm, .inl ⟨absent, congrArg since isNew⟩⟩
  · rw [holdsAfter_concat_of_ne on]
    exact (or_iff_left fun isNew => on (congrArg Standing.key isNew)).symm

/-- Gives the key another value where it is the one. -/
def withValue (key : Key) (value : Value) (standing : Standing Key Value) :
    Standing Key Value :=
  if standing.key = key then { standing with value := value } else standing

theorem key_withValue (key : Key) (value : Value) :
    (standing.withValue key value).key = standing.key := by
  unfold withValue
  split <;> rfl

theorem since_withValue (key : Key) (value : Value) :
    (standing.withValue key value).since = standing.since := by
  unfold withValue
  split <;> rfl

theorem entry_withValue (key : Key) (value : Value) :
    (standing.withValue key value).entry =
      if standing.entry.1 = key then (key, value) else standing.entry := by
  unfold withValue
  by_cases on : standing.key = key
  · rw [if_pos on, if_pos (show standing.entry.1 = key from on), ← on]
    rfl
  · rw [if_neg on, if_neg (show ¬ standing.entry.1 = key from on)]

/-- A key that was there stands since when it did, with the new value. -/
theorem holdsAfter_put_iff_of_present
    {key : Key}
    {old value : Value}
    (present : lastValue? key calls = some old) :
    standing.HoldsAfter (calls ++ [.put key value]) ↔
      ∃ before : Standing Key Value, before.HoldsAfter calls ∧
        before.withValue key value = standing := by
  by_cases on : standing.key = key
  · subst on
    rw [holdsAfter_concat_iff, lastValue?_concat, Call.key, if_pos rfl]
    constructor
    · rintro ⟨sameValue, ⟨absent, -⟩ | ⟨before, holds⟩⟩
      · exact absurd (absent.symm.trans present) (by simp)
      · refine ⟨_, holds, ?_⟩
        rw [withValue, if_pos rfl, Option.some.inj sameValue]
    · rintro ⟨before, holds, same⟩
      have here : before.key = standing.key := by
        rw [← key_withValue standing.key value, same]
      rw [withValue, if_pos here] at same
      rw [← same]
      exact ⟨rfl, .inr ⟨before.value, holds⟩⟩
  · rw [holdsAfter_concat_of_ne on]
    constructor
    · intro holds
      exact ⟨standing, holds, by rw [withValue, if_neg on]⟩
    · rintro ⟨before, holds, same⟩
      have elsewhere : before.key ≠ key := by
        rw [← key_withValue key value, same]
        exact on
      rw [withValue, if_neg elsewhere] at same
      exact same ▸ holds

end Standing

/-! ## The entries -/

/-- All that stands after the calls, in the order in which it came to stand. -/
structure AreStandings
    (standings : List (Standing Key Value))
    (calls : List (Call Key Value)) :
    Prop where
  mem_iff : ∀ standing, standing ∈ standings ↔ standing.HoldsAfter calls
  ordered : standings.Pairwise fun earlier later => earlier.since < later.since

namespace AreStandings

variable {standings : List (Standing Key Value)} {calls : List (Call Key Value)}

theorem erase (all : AreStandings standings calls) (key : Key) :
    AreStandings (standings.filter fun standing => standing.key ≠ key)
      (calls ++ [.erase key]) where
  mem_iff standing := by
    rw [List.mem_filter, all.mem_iff, Standing.holdsAfter_erase_iff, decide_eq_true_eq]
  ordered := all.ordered.filter _

/-- A key that is not there comes to stand behind all others. -/
theorem put_of_absent
    (all : AreStandings standings calls)
    {key : Key}
    (absent : lastValue? key calls = none)
    (value : Value) :
    AreStandings (standings ++ [⟨key, calls.length, value⟩]) (calls ++ [.put key value]) where
  mem_iff standing := by
    rw [List.mem_append, List.mem_singleton, all.mem_iff,
      Standing.holdsAfter_put_iff_of_absent absent]
  ordered := by
    rw [List.pairwise_append]
    refine ⟨all.ordered, List.pairwise_singleton _ _, fun standing member new isNew => ?_⟩
    rw [List.mem_singleton.mp isNew]
    exact ((all.mem_iff standing).mp member).since_lt

/-- A key that is there keeps its place. -/
theorem put_of_present
    (all : AreStandings standings calls)
    {key : Key}
    {old : Value}
    (present : lastValue? key calls = some old)
    (value : Value) :
    AreStandings (standings.map (Standing.withValue key value))
      (calls ++ [.put key value]) where
  mem_iff standing := by
    rw [List.mem_map, Standing.holdsAfter_put_iff_of_present present]
    simp only [all.mem_iff]
  ordered := by
    rw [List.pairwise_map]
    simp only [Standing.since_withValue]
    exact all.ordered

end AreStandings

/-- The entries that calls leave are those of all that stands after them, in the order in which it
came to stand. -/
theorem exists_standings (calls : List (Call Key Value)) :
    ∃ standings, AreStandings standings calls ∧
      ofCalls calls = standings.map Standing.entry := by
  -- The induction is on the calls from the last one back; each case does to the standings what the
  -- call does to the entries.
  induction calls using List.reverseRecOn with
  | nil =>
      refine ⟨[], ⟨fun standing => iff_of_false List.not_mem_nil ?_, List.Pairwise.nil⟩, rfl⟩
      exact fun holds => absurd holds.value (by simp)
  | append_singleton calls call inductionHypothesis =>
      obtain ⟨standings, all, entries⟩ := inductionHypothesis
      rw [ofCalls_concat]
      cases call with
      | erase key =>
          refine ⟨_, all.erase key, ?_⟩
          rw [Call.run, entries, Keyed.erase, List.filter_map]
          rfl
      | put key value =>
          rw [Call.run]
          cases known : lastValue? key calls with
          | none =>
              have absent : key ∉ (ofCalls calls).map Prod.fst := by
                intro present
                obtain ⟨entry, member, same⟩ := List.mem_map.mp present
                have found : lastValue? entry.1 calls = some entry.2 := mem_ofCalls_iff.mp member
                rw [same, known] at found
                exact absurd found (by simp)
              refine ⟨_, all.put_of_absent known value, ?_⟩
              rw [Keyed.put_of_absent absent, entries, List.map_append]
              rfl
          | some old =>
              have present : key ∈ (ofCalls calls).map Prod.fst :=
                List.mem_map_of_mem (mem_ofCalls_iff.mpr known)
              refine ⟨_, all.put_of_present known value, ?_⟩
              rw [Keyed.put_of_present (nodup_keys_ofCalls calls) present, entries, List.map_map,
                List.map_map]
              exact List.map_congr_left fun standing _ => (standing.entry_withValue key value).symm

/-- A key stands with the value that the last call on it gave it, and with no other. -/
theorem exists_holdsAfter_iff
    {calls : List (Call Key Value)}
    {key : Key}
    {value : Value} :
    (∃ since, Standing.HoldsAfter ⟨key, since, value⟩ calls) ↔
      lastValue? key calls = some value := by
  refine ⟨fun ⟨_, holds⟩ => holds.value, fun known => ?_⟩
  obtain ⟨standings, all, entries⟩ := exists_standings calls
  have member := mem_ofCalls_iff.mpr known
  rw [entries] at member
  obtain ⟨standing, stands, same⟩ := List.mem_map.mp member
  obtain ⟨rfl, rfl⟩ := Prod.mk.inj same
  exact ⟨standing.since, (all.mem_iff standing).mp stands⟩

/-- Of the entries with accepted values, the one is found whose key has been there longest. -/
theorem find?_ofCalls_eq_some_iff
    {calls : List (Call Key Value)}
    {key : Key}
    {value : Value}
    (accepts : Value → Bool) :
    (ofCalls calls).find? (fun entry => accepts entry.2) = some (key, value) ↔
      ∃ since, Standing.HoldsAfter ⟨key, since, value⟩ calls ∧ accepts value = true ∧
        ∀ other : Standing Key Value, other.HoldsAfter calls → accepts other.value = true →
          since ≤ other.since := by
  obtain ⟨standings, all, entries⟩ := exists_standings calls
  have earliest (standing : Standing Key Value) :
      standings.find? (fun standing => accepts standing.value) = some standing ↔
        standing.HoldsAfter calls ∧ accepts standing.value = true ∧
          ∀ other : Standing Key Value, other.HoldsAfter calls → accepts other.value = true →
            standing.since ≤ other.since := by
    rw [find?_eq_some_iff_of_ordered all.ordered]
    simp only [all.mem_iff]
  rw [entries, List.find?_map, Option.map_eq_some_iff]
  constructor
  · rintro ⟨standing, found, same⟩
    obtain ⟨rfl, rfl⟩ := Prod.mk.inj same
    exact ⟨standing.since, (earliest standing).mp found⟩
  · rintro ⟨since, isEarliest⟩
    exact ⟨⟨key, since, value⟩, (earliest ⟨key, since, value⟩).mpr isEarliest, rfl⟩

end PhoneAccounts.Keyed
