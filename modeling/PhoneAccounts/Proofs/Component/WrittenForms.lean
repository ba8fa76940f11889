import PhoneAccounts.Proofs.Component
import PhoneAccounts.Proofs.StateFile.Fields

/-!
Contract: which components are read back as themselves from their two written forms.

Both forms are the package, a slash and a name: the class in the flat form, the shortened class
in the short form.  Whatever the name is, the reader finds the component behind it exactly if the
package has no slash of its own, a name stands there, and the name, filled up with the package
where it begins with a dot, is the class.

Owns: `HasOwnFlatText` and `HasOwnShortText`, that they are exactly the components which come back
from the flat and from the short form, which texts name no component, and that stored handles of
different components of the first kind have different names.

Does not own: what is made of the other components (see `PhoneAccounts.Proofs.Component`).
-/

namespace PhoneAccounts.Component

/-- The flat form of the component stands for the component itself: the package has no slash, and
the class is not empty and begins with a dot only where there is no package that it could
continue. -/
def HasOwnFlatText (component : Component) : Prop :=
  '/' ∉ component.package.toList ∧ component.className ≠ "" ∧
    (component.className.toList.head? ≠ some '.' ∨ component.package = "")

/-- The short form of the component stands for the component itself: the package has no slash, and
the class is not empty and begins with a dot only where it begins with the package and a dot. -/
def HasOwnShortText (component : Component) : Prop :=
  '/' ∉ component.package.toList ∧ component.className ≠ "" ∧
    (component.package.toList ++ ['.'] <+: component.className.toList ∨
      component.className.toList.head? ≠ some '.')

instance (component : Component) : Decidable component.HasOwnFlatText :=
  inferInstanceAs (Decidable (_ ∧ _ ∧ _))

instance (component : Component) : Decidable component.HasOwnShortText :=
  inferInstanceAs (Decidable (_ ∧ _ ∧ _))

/-! ## Package, slash and name -/

/-- A component that was read has no slash in its package. -/
theorem slash_notMem_of_read
    {text : String}
    {component : Component}
    (read : ofText? text = some component) :
    '/' ∉ component.package.toList := by
  obtain ⟨package, name, noSlash, -, rfl⟩ := exists_split_of_read read
  rw [String.toList_ofList]
  exact noSlash

/-- What stands behind the slash makes the reader find a component with the package before it. -/
theorem ofText?_eq_some_iff (component : Component) (name : List Char) :
    ofText? (String.ofList (component.package.toList ++ '/' :: name)) = some component ↔
      '/' ∉ component.package.toList ∧ name ≠ [] ∧
        fullName component.package.toList name = component.className.toList := by
  by_cases slash : '/' ∈ component.package.toList
  · exact iff_of_false (fun read => slash_notMem_of_read read slash) (fun holds => holds.1 slash)
  have split :
      splitSlash? (String.ofList (component.package.toList ++ '/' :: name)).toList =
        some (component.package.toList, name) := by
    rw [String.toList_ofList]
    exact splitSlash?_append_of_not_mem _ name slash
  by_cases named : name = []
  · subst named
    rw [ofText?_eq_none_of_split split]
    exact iff_of_false (by simp) fun holds => holds.2.1 rfl
  · rw [ofText?_of_split split named, Option.some.injEq, String.ofList_toList]
    have sameClass :
        (⟨component.package, String.ofList (fullName component.package.toList name)⟩ : Component) =
            component ↔
          fullName component.package.toList name = component.className.toList := by
      rw [← String.ofList_inj, String.ofList_toList]
      exact ⟨fun same => congrArg className same, fun same => by rw [same]⟩
    rw [sameClass]
    exact ⟨fun same => ⟨slash, named, same⟩, fun holds => holds.2.2⟩

/-- A name is the class as it is unless it continues a package. -/
theorem fullName_eq_self_iff {package name : List Char} :
    fullName package name = name ↔ name.head? ≠ some '.' ∨ package = [] := by
  unfold fullName
  by_cases dot : name.head? = some '.'
  · rw [if_pos dot, List.append_left_eq_self]
    exact ⟨.inr, fun holds => holds.resolve_left (not_not_intro dot)⟩
  · rw [if_neg dot]
    exact iff_of_true rfl (.inl dot)

/-! ## The two forms -/

theorem ofText?_flatText_eq_self_iff (component : Component) :
    ofText? component.flatText = some component ↔ component.HasOwnFlatText := by
  rw [flatText, ofText?_eq_some_iff, fullName_eq_self_iff, ne_eq,
    String.toList_eq_nil_iff, String.toList_eq_nil_iff]
  rfl

/-- A shortened class is the package's continuation that the reader fills up again. -/
theorem shortClass_of_isPrefix
    {component : Component}
    (continues : component.package.toList ++ ['.'] <+: component.className.toList) :
    component.shortClass ≠ [] ∧
      fullName component.package.toList component.shortClass = component.className.toList := by
  have short : component.shortClass =
      component.className.toList.drop component.package.toList.length := by
    rw [shortClass, if_pos (List.isPrefixOf_iff_prefix.mpr continues)]
  obtain ⟨rest, whole⟩ := continues
  have behind : component.shortClass = '.' :: rest := by
    rw [short, ← whole, List.append_assoc, List.drop_left]
    rfl
  rw [behind, ← whole, List.append_assoc]
  exact ⟨List.cons_ne_nil '.' rest, rfl⟩

theorem ofText?_shortText_eq_self_iff (component : Component) :
    ofText? component.shortText = some component ↔ component.HasOwnShortText := by
  rw [shortText, ofText?_eq_some_iff, HasOwnShortText]
  refine and_congr_right fun _ => ?_
  by_cases continues : component.package.toList ++ ['.'] <+: component.className.toList
  · -- The class is not empty either: it begins with the package and a dot.
    have nonempty : component.className ≠ "" := by
      rintro empty
      rw [empty] at continues
      exact absurd (List.prefix_nil.mp continues) (by simp)
    exact iff_of_true (shortClass_of_isPrefix continues) ⟨nonempty, .inl continues⟩
  · have whole : component.shortClass = component.className.toList := by
      rw [shortClass, if_neg fun found => continues (List.isPrefixOf_iff_prefix.mp found)]
    rw [whole, fullName_eq_self_iff, ne_eq, String.toList_eq_nil_iff]
    refine and_congr_right fun _ => ?_
    constructor
    · rintro (plain | noPackage)
      · exact .inr plain
      · -- Without a package, beginning with a dot is beginning with the package and a dot.
        refine .inr fun dot => continues ?_
        obtain ⟨rest, begins⟩ := List.head?_eq_some_iff.mp dot
        rw [noPackage, begins]
        exact ⟨rest, rfl⟩
    · rintro (found | plain)
      · exact absurd found continues
      · exact .inl plain

/-! ## Texts without a component -/

/-- Nothing is read from a text without a slash, or with its first slash at the end. -/
theorem ofText?_eq_none_iff (text : String) :
    ofText? text = none ↔
      '/' ∉ text.toList ∨ ∃ before, '/' ∉ before ∧ text.toList = before ++ ['/'] := by
  by_cases slash : '/' ∈ text.toList
  · obtain ⟨package, name, same, noSlash⟩ := List.eq_append_cons_of_mem slash
    have split : splitSlash? text.toList = some (package, name) := by
      rw [same]
      exact splitSlash?_append_of_not_mem package name noSlash
    by_cases named : name = []
    · subst named
      exact iff_of_true (ofText?_eq_none_of_split split) (.inr ⟨package, noSlash, same⟩)
    · refine iff_of_false (ofText?_ne_none_of_split split named) ?_
      rintro (absent | ⟨before, clear, ends⟩)
      · exact absent slash
      · -- The text is split in one way only, so nothing would stand behind the slash.
        rw [ends, splitSlash?_append_of_not_mem before [] clear] at split
        exact named (Prod.mk.inj (Option.some.inj split)).2.symm
  · refine iff_of_true ?_ (.inl slash)
    rw [Option.eq_none_iff_forall_ne_some]
    intro component read
    obtain ⟨package, name, same, -, -⟩ := (exists_ofText?_iff text).mp ⟨component, read⟩
    exact slash (same ▸ List.mem_append_right package List.mem_cons_self)

/-! ## Different components -/

theorem flatText_eq_iff
    {left right : Component}
    (leftOwn : left.HasOwnFlatText)
    (rightOwn : right.HasOwnFlatText) :
    left.flatText = right.flatText ↔ left = right := by
  refine ⟨fun same => ?_, congrArg flatText⟩
  have leftRead := (ofText?_flatText_eq_self_iff left).mpr leftOwn
  rw [same, (ofText?_flatText_eq_self_iff right).mpr rightOwn] at leftRead
  exact (Option.some.inj leftRead).symm

/-- The name of the component in a handle that is written. -/
def storedName? : Yaml.Outline → Option Yaml.Outline
  | .mapping fields => StateFile.field? StateFile.Key.componentName fields
  | _ => none

theorem storedName?_handleOutline (directory : ScopeDirectory) (handle : Handle) :
    storedName? (StateFile.handleOutline directory handle) =
      some (.text handle.component.flatText) := by
  simp [storedName?, StateFile.handleOutline]

/-- What the two written forms of components are worth.

A component comes back from its flat form, and from its short form, exactly as `HasOwnFlatText`
and `HasOwnShortText` say.  No component is read exactly from the texts without a slash and from
those whose first slash is their last character.  Where two components come back from their flat
forms, these forms differ if the components do, and so do the names under which handles of theirs
are stored, whatever the scopes and their numbers are. -/
theorem written_forms_stand_for_components :
    (∀ component : Component,
      ofText? component.flatText = some component ↔ component.HasOwnFlatText) ∧
    (∀ component : Component,
      ofText? component.shortText = some component ↔ component.HasOwnShortText) ∧
    (∀ text : String, ofText? text = none ↔
      '/' ∉ text.toList ∨ ∃ before, '/' ∉ before ∧ text.toList = before ++ ['/']) ∧
    (∀ left right : Component, left.HasOwnFlatText → right.HasOwnFlatText →
      (left.flatText = right.flatText ↔ left = right)) ∧
    (∀ (directory other : ScopeDirectory) (left right : Handle),
      left.component.HasOwnFlatText → right.component.HasOwnFlatText →
      (storedName? (StateFile.handleOutline directory left) =
          storedName? (StateFile.handleOutline other right) ↔
        left.component = right.component)) := by
  refine ⟨ofText?_flatText_eq_self_iff, ofText?_shortText_eq_self_iff, ofText?_eq_none_iff,
    fun _ _ leftOwn rightOwn => flatText_eq_iff leftOwn rightOwn, ?_⟩
  intro directory other left right leftOwn rightOwn
  rw [storedName?_handleOutline, storedName?_handleOutline, Option.some.injEq,
    Yaml.Outline.text.injEq]
  exact flatText_eq_iff leftOwn rightOwn

/-- A package that begins with a dot and classes with a slash: `.a/b/.c` and `.a/b/c` name two
components. -/
theorem dotted_forms_stand_for_components :
    HasOwnFlatText ⟨".a", "b/.c"⟩ ∧ HasOwnFlatText ⟨".a", "b/c"⟩ ∧
      (flatText ⟨".a", "b/.c"⟩ = flatText ⟨".a", "b/c"⟩ ↔
        (⟨".a", "b/.c"⟩ : Component) = ⟨".a", "b/c"⟩) :=
  have dotted : HasOwnFlatText ⟨".a", "b/.c"⟩ := by decide
  have plain : HasOwnFlatText ⟨".a", "b/c"⟩ := by decide
  ⟨dotted, plain, written_forms_stand_for_components.2.2.2.1 _ _ dotted plain⟩

end PhoneAccounts.Component
