import PhoneAccounts.StateFile.Upgrade

/-!
Contract: upgrading stored accounts in stages.

The steps do not depend on each other, and a step that has been taken has nothing left to do.  So
an account that was brought up from some version stays as it is when it is brought up from a later
one, whatever the two versions are.  The argument knows nothing of the single steps: a new one has
to be shown independent of the others.

Owns: `UpgradeStep.AreIndependent`, what upgrading again does, and the account that an upgraded one
becomes.

Does not own: the version of a file (see `PhoneAccounts.StateFile.Reading`).
-/

namespace PhoneAccounts

/-- A step that is taken twice does what it does once, and of two steps either may be taken
first. -/
structure UpgradeStep.AreIndependent (context : UpgradeContext) (steps : List UpgradeStep) :
    Prop where
  again : ∀ step ∈ steps, ∀ stored,
    step.apply context (step.apply context stored) = step.apply context stored
  either : ∀ first ∈ steps, ∀ second ∈ steps, ∀ stored,
    first.apply context (second.apply context stored) =
      second.apply context (first.apply context stored)

theorem UpgradeStep.AreIndependent.tail
    {context : UpgradeContext}
    {step : UpgradeStep}
    {rest : List UpgradeStep}
    (independent : AreIndependent context (step :: rest)) :
    AreIndependent context rest where
  again other member := independent.again other (List.mem_cons_of_mem step member)
  either first isFirst second isSecond :=
    independent.either first (List.mem_cons_of_mem step isFirst) second
      (List.mem_cons_of_mem step isSecond)

namespace StoredAccount

variable {context : UpgradeContext} {version later : Int}

/-! ## Steps -/

/-- A step that may be taken first or last may be taken before all of the others. -/
theorem apply_foldl_takeStep
    {step : UpgradeStep}
    {steps : List UpgradeStep}
    (either : ∀ other ∈ steps, ∀ stored,
      step.apply context (other.apply context stored) =
        other.apply context (step.apply context stored))
    (stored : StoredAccount) :
    step.apply context (steps.foldl (takeStep context version) stored) =
      steps.foldl (takeStep context version) (step.apply context stored) := by
  induction steps generalizing stored with
  | nil => rfl
  | cons other rest inductionHypothesis =>
      have eitherRest : ∀ third ∈ rest, _ :=
        fun third member => either third (List.mem_cons_of_mem other member)
      rw [List.foldl_cons, List.foldl_cons, inductionHypothesis eitherRest]
      congr 1
      unfold takeStep
      split
      · exact either other List.mem_cons_self stored
      · rfl

/-- A step that was taken has nothing left to do. -/
theorem apply_foldl_of_mem
    {steps : List UpgradeStep}
    (independent : UpgradeStep.AreIndependent context steps)
    {step : UpgradeStep}
    (member : step ∈ steps)
    (older : version < step.introducedIn)
    (stored : StoredAccount) :
    step.apply context (steps.foldl (takeStep context version) stored) =
      steps.foldl (takeStep context version) stored := by
  induction steps generalizing stored with
  | nil => exact absurd member List.not_mem_nil
  | cons first rest inductionHypothesis =>
      rw [List.foldl_cons]
      rcases List.mem_cons.mp member with rfl | memberRest
      · have either : ∀ other ∈ rest, _ := fun other memberOther =>
          independent.either step member other (List.mem_cons_of_mem step memberOther)
        rw [apply_foldl_takeStep either, takeStep, if_pos older,
          independent.again step member]
      · exact inductionHypothesis independent.tail memberRest _

/-- Where every step that is newer than a version has nothing to do, upgrading from it does
nothing. -/
theorem foldl_takeStep_of_settled
    {steps : List UpgradeStep}
    {stored : StoredAccount}
    (settled : ∀ step ∈ steps, version < step.introducedIn →
      step.apply context stored = stored) :
    steps.foldl (takeStep context version) stored = stored := by
  induction steps with
  | nil => rfl
  | cons step rest inductionHypothesis =>
      have settledRest : ∀ other ∈ rest, version < other.introducedIn →
          other.apply context stored = stored :=
        fun other member => settled other (List.mem_cons_of_mem step member)
      have taken : takeStep context version stored step = stored := by
        unfold takeStep
        split
        · next older => exact settled step List.mem_cons_self older
        · rfl
      rw [List.foldl_cons, taken, inductionHypothesis settledRest]

/-- Each step writes a field that no step reads. -/
theorem areIndependent_upgradeSteps (context : UpgradeContext) :
    UpgradeStep.AreIndependent context upgradeSteps := by
  have iconAgain : ∀ stored, withIconPackage context (withIconPackage context stored) =
      withIconPackage context stored := by
    intro stored
    unfold withIconPackage
    split <;> simp_all
  have exchange : ∀ stored, withImpliedSchemes context (withIconPackage context stored) =
      withIconPackage context (withImpliedSchemes context stored) := by
    intro stored
    unfold withIconPackage withImpliedSchemes
    split <;> simp_all
  constructor
  · intro step member stored
    simp only [upgradeSteps, List.mem_cons, List.not_mem_nil, or_false] at member
    rcases member with rfl | rfl
    · rfl
    · exact iconAgain stored
  · intro first isFirst second isSecond stored
    simp only [upgradeSteps, List.mem_cons, List.not_mem_nil, or_false] at isFirst isSecond
    rcases isFirst with rfl | rfl <;> rcases isSecond with rfl | rfl
    · rfl
    · exact exchange stored
    · exact (exchange stored).symm
    · rfl

/-! ## What upgrading makes of the fields -/

/-- Both steps at once. -/
theorem upgrade_eq (context : UpgradeContext) (version : Int) (stored : StoredAccount) :
    stored.upgrade context version =
      { stored with
        schemes :=
          if version < 2 then some (impliedSchemes context stored.handle.component)
          else stored.schemes
        iconPackage :=
          if version < 5 ∧ stored.iconBitmap = none then some stored.handle.package
          else stored.iconPackage } := by
  unfold upgrade upgradeSteps takeStep withIconPackage withImpliedSchemes
  simp only [List.foldl_cons, List.foldl_nil, Option.isNone_iff_eq_none]
  by_cases first : version < 2
  · have second : version < 5 := by omega
    by_cases noBitmap : stored.iconBitmap = none <;> simp [first, second, noBitmap]
  · by_cases second : version < 5
    · by_cases noBitmap : stored.iconBitmap = none <;> simp [first, second, noBitmap]
    · simp [first, second]

/-- An inline payload hides what the steps make of the package of the icon; where there is none,
there is no bitmap that keeps them from naming it. -/
theorem icon?_upgrade (context : UpgradeContext) (version : Int) (stored : StoredAccount) :
    (stored.upgrade context version).icon? =
      match stored.iconPayload.or stored.iconBitmap with
      | some payload => some (.ofPayload payload)
      | none =>
          ((if version < 5 then some stored.handle.package else stored.iconPackage).filter
            (· ≠ "")).map (.ofResource · stored.iconResource stored.iconTint) := by
  rw [upgrade_eq]
  unfold icon?
  cases stored.iconPayload with
  | some payload => rfl
  | none =>
      cases stored.iconBitmap with
      | some bitmap => rfl
      | none =>
          dsimp only
          have named :
              (if version < 5 ∧ (none : Option (List UInt8)) = none then
                some stored.handle.package else stored.iconPackage) =
                if version < 5 then some stored.handle.package else stored.iconPackage := by
            simp
          rw [named]
          cases (if version < 5 then some stored.handle.package else stored.iconPackage) with
          | none => rfl
          | some package =>
              rw [Option.filter_some]
              by_cases empty : package = "" <;> simp [empty]

/-- What is known of an account that was upgraded from a version: nothing is left to do for it
from that version on; a file of the current form keeps it as it is; only the schemes and the
package of the icon may have changed; and the account that it becomes has the schemes that its
component implied before files named them, and the icon of the component's package before files
named that. -/
structure IsUpgraded
    (context : UpgradeContext)
    (version : Int)
    (stored upgraded : StoredAccount) :
    Prop where
  settled : ∀ later, version ≤ later → upgraded.upgrade context later = upgraded
  current : 5 ≤ version → upgraded = stored
  framed :
    { upgraded with schemes := stored.schemes, iconPackage := stored.iconPackage } = stored
  schemes :
    upgraded.toAccount.schemes =
      if version < 2 then
        if stored.handle.component = context.legacySip then
          if context.sipForAllCalls then ["sip", "tel"] else ["sip"]
        else ["tel", "voicemail"]
      else stored.schemes.getD []
  icon :
    upgraded.toAccount.icon =
      match stored.iconPayload.or stored.iconBitmap with
      | some payload => some (.ofPayload payload)
      | none =>
          ((if version < 5 then some stored.handle.package else stored.iconPackage).filter
            (· ≠ "")).map (.ofResource · stored.iconResource stored.iconTint)

theorem upgrade_upgrade
    (upTo : version ≤ later)
    (context : UpgradeContext)
    (stored : StoredAccount) :
    (stored.upgrade context version).upgrade context later = stored.upgrade context version := by
  apply foldl_takeStep_of_settled
  intro step member older
  exact apply_foldl_of_mem (areIndependent_upgradeSteps context) member
    (Int.lt_of_le_of_lt upTo older) stored

/-- Upgrading from any version is complete, and does nothing but what that version calls for. -/
theorem upgrade_isUpgraded (context : UpgradeContext) (version : Int) (stored : StoredAccount) :
    stored.IsUpgraded context version (stored.upgrade context version) where
  settled later upTo := upgrade_upgrade upTo context stored
  current isCurrent := by
    have notFirst : ¬ version < 2 := by omega
    have notSecond : ¬ (version < 5 ∧ stored.iconBitmap = none) := by omega
    rw [upgrade_eq, if_neg notFirst, if_neg notSecond]
  framed := by rw [upgrade_eq]
  schemes := by
    rw [upgrade_eq]
    unfold toAccount impliedSchemes internetScheme telephoneScheme voicemailScheme
    dsimp only
    by_cases first : version < 2
    · rw [if_pos first, if_pos first, Option.getD_some]
      cases context.sipForAllCalls <;> rfl
    · rw [if_neg first, if_neg first]
  icon := icon?_upgrade context version stored

end StoredAccount

end PhoneAccounts
