import PhoneAccounts.Component

/-!
Contract: which components are read back from their flat form, and as what.

The reader splits at the first slash.  That is the slash the writer put in unless the
package has one of its own, and nothing stands behind it only if the class is empty.

A component that was read has no slash in its package and a class.  Its flat form is read as
the component itself, unless package and class both begin with a dot: the class is then taken
for one that continues the package.  Two such components still come back as two.

Owns: `isUnreadable`, `reread`, `isAmbiguous`, `HasFirstSlash`, and what the reader makes of a flat
form, in particular of that of a component that was read before.

Does not own: the short form.
-/

namespace PhoneAccounts.Component

/-- No component is read from the flat form: the class is empty, and the package has no
slash at which the text could be split instead. -/
def isUnreadable (component : Component) : Bool :=
  component.className = "" ∧ '/' ∉ component.package.toList

/-- The component that is read from the flat form. -/
def reread (component : Component) : Component :=
  (ofText? component.flatText).getD component

/-- The class would be taken for one that continues the package, and the package would then
be put before it once more. -/
def isAmbiguous (component : Component) : Bool :=
  component.package.toList.head? = some '.' ∧ component.className.toList.head? = some '.'

/-! ## The first slash -/

theorem splitSlash?_append_of_not_mem
    (before after : List Char)
    (absent : '/' ∉ before) :
    splitSlash? (before ++ '/' :: after) = some (before, after) := by
  induction before with
  | nil => rfl
  | cons char rest inductionHypothesis =>
      rw [List.mem_cons, not_or] at absent
      have different : char ≠ '/' := fun equal => absent.1 equal.symm
      rw [List.cons_append, splitSlash?, inductionHypothesis absent.2]
      · rfl
      · exact different

theorem splitSlash?_append_of_mem
    (before after : List Char)
    (present : '/' ∈ before) :
    ∃ package name, splitSlash? (before ++ after) = some (package, name ++ after) := by
  induction before with
  | nil => simp at present
  | cons char rest inductionHypothesis =>
      by_cases slash : char = '/'
      · subst slash
        exact ⟨[], rest, rfl⟩
      · have restPresent : '/' ∈ rest := by
          rcases List.mem_cons.mp present with equal | member
          · exact absurd equal.symm slash
          · exact member
        obtain ⟨package, name, found⟩ := inductionHypothesis restPresent
        refine ⟨char :: package, name, ?_⟩
        rw [List.cons_append, splitSlash?, found]
        · rfl
        · exact slash

/-! ## The flat form -/

theorem toList_flatText (component : Component) :
    component.flatText.toList = component.package.toList ++ '/' :: component.className.toList := by
  rw [flatText, String.toList_ofList]

/-- Nothing is read where nothing stands behind the first slash. -/
theorem ofText?_eq_none_of_split
    {text : String}
    {package : List Char}
    (split : splitSlash? text.toList = some (package, [])) :
    ofText? text = none := by
  rw [ofText?, split]

/-- Something is read where something stands behind the first slash. -/
theorem ofText?_ne_none_of_split
    {text : String}
    {package name : List Char}
    (split : splitSlash? text.toList = some (package, name))
    (named : name ≠ []) :
    ofText? text ≠ none := by
  unfold ofText?
  rw [split]
  cases name with
  | nil => exact absurd rfl named
  | cons first rest =>
      by_cases dot : first = '.'
      · subst dot
        simp
      · simp [dot]

/-- The flat form of a component is read unless the component is unreadable. -/
theorem ofText?_flatText_eq_none_iff (component : Component) :
    ofText? component.flatText = none ↔ component.isUnreadable = true := by
  have chars := toList_flatText component
  simp only [isUnreadable, decide_eq_true_eq]
  by_cases slash : '/' ∈ component.package.toList
  · obtain ⟨package, name, split⟩ :=
      splitSlash?_append_of_mem _ ('/' :: component.className.toList) slash
    rw [← chars] at split
    have read := ofText?_ne_none_of_split split (by simp)
    simp [slash, read]
  · have split := splitSlash?_append_of_not_mem _ component.className.toList slash
    rw [← chars] at split
    by_cases empty : component.className = ""
    · rw [empty] at split
      simp [ofText?_eq_none_of_split split, slash, empty]
    · have named : component.className.toList ≠ [] := by simpa using empty
      simp [ofText?_ne_none_of_split split named, empty]

/-- What is read from the flat form, said with `reread`. -/
theorem ofText?_flatText (component : Component) :
    ofText? component.flatText =
      if component.isUnreadable then none else some component.reread := by
  by_cases unreadable : component.isUnreadable = true
  · rw [if_pos unreadable]
    exact (ofText?_flatText_eq_none_iff component).mpr unreadable
  · rw [if_neg unreadable, reread]
    have read : ofText? component.flatText ≠ none :=
      fun none => unreadable ((ofText?_flatText_eq_none_iff component).mp none)
    obtain ⟨other, found⟩ := Option.ne_none_iff_exists'.mp read
    rw [found, Option.getD_some]

/-! ## Components that were read -/

theorem slash_notMem_of_splitSlash?
    {text package name : List Char}
    (split : splitSlash? text = some (package, name)) :
    '/' ∉ package := by
  induction text generalizing package with
  | nil => exact absurd split (by simp [splitSlash?])
  | cons char rest inductionHypothesis =>
      by_cases slash : char = '/'
      · subst slash
        obtain ⟨rfl, -⟩ := Prod.mk.inj (Option.some.inj split)
        exact List.not_mem_nil
      · rw [splitSlash?] at split
        · obtain ⟨⟨before, after⟩, found, same⟩ := Option.map_eq_some_iff.mp split
          obtain ⟨rfl, rfl⟩ := Prod.mk.inj same
          rw [List.mem_cons, not_or]
          exact ⟨fun equal => slash equal.symm, inductionHypothesis found⟩
        · exact slash

theorem eq_append_of_splitSlash?
    {text package name : List Char}
    (split : splitSlash? text = some (package, name)) :
    text = package ++ '/' :: name := by
  induction text generalizing package with
  | nil => exact absurd split (by simp [splitSlash?])
  | cons char rest inductionHypothesis =>
      by_cases slash : char = '/'
      · subst slash
        obtain ⟨rfl, rfl⟩ := Prod.mk.inj (Option.some.inj split)
        rfl
      · rw [splitSlash?] at split
        · obtain ⟨⟨before, after⟩, found, same⟩ := Option.map_eq_some_iff.mp split
          obtain ⟨rfl, rfl⟩ := Prod.mk.inj same
          rw [inductionHypothesis found]
          rfl
        · exact slash

/-- The class that is read behind a package: with the package before it if it begins with a
dot. -/
def fullName (package name : List Char) : List Char :=
  if name.head? = some '.' then package ++ name else name

theorem ofText?_of_split
    {text : String}
    {package name : List Char}
    (split : splitSlash? text.toList = some (package, name))
    (named : name ≠ []) :
    ofText? text = some ⟨String.ofList package, String.ofList (fullName package name)⟩ := by
  unfold ofText?
  rw [split]
  cases name with
  | nil => exact absurd rfl named
  | cons first rest =>
      by_cases dot : first = '.'
      · subst dot
        simp [fullName]
      · simp [fullName, dot]

/-- A component is read where something stands behind the first slash. -/
theorem exists_split_of_read
    {text : String}
    {component : Component}
    (read : ofText? text = some component) :
    ∃ package name,
      '/' ∉ package ∧ name ≠ [] ∧
        component = ⟨String.ofList package, String.ofList (fullName package name)⟩ := by
  cases split : splitSlash? text.toList with
  | none =>
      rw [ofText?, split] at read
      exact absurd read (by simp)
  | some parts =>
      obtain ⟨package, name⟩ := parts
      by_cases named : name = []
      · rw [ofText?_eq_none_of_split (named ▸ split)] at read
        exact absurd read (by simp)
      · rw [ofText?_of_split split named] at read
        exact ⟨package, name, slash_notMem_of_splitSlash? split, named,
          (Option.some.inj read).symm⟩

/-- Something stands behind the first slash of a text. -/
def HasFirstSlash (text : String) : Prop :=
  ∃ package name, text.toList = package ++ '/' :: name ∧ '/' ∉ package ∧ name ≠ []

theorem exists_ofText?_iff (text : String) :
    (∃ component, ofText? text = some component) ↔ HasFirstSlash text := by
  constructor
  · rintro ⟨component, read⟩
    cases split : splitSlash? text.toList with
    | none =>
        rw [ofText?, split] at read
        exact absurd read (by simp)
    | some parts =>
        obtain ⟨package, name⟩ := parts
        have named : name ≠ [] := by
          rintro rfl
          rw [ofText?_eq_none_of_split split] at read
          exact absurd read (by simp)
        exact ⟨package, name, eq_append_of_splitSlash? split, slash_notMem_of_splitSlash? split,
          named⟩
  · rintro ⟨package, name, same, noSlash, named⟩
    have split : splitSlash? text.toList = some (package, name) := by
      rw [same]
      exact splitSlash?_append_of_not_mem package name noSlash
    exact ⟨_, ofText?_of_split split named⟩

theorem fullName_ne_nil {package name : List Char} (named : name ≠ []) :
    fullName package name ≠ [] := by
  unfold fullName
  split
  · simp [named]
  · exact named

/-- The flat form of a component that was read can be read again. -/
theorem isReadable_of_read
    {text : String}
    {component : Component}
    (read : ofText? text = some component) :
    component.isUnreadable = false := by
  obtain ⟨package, name, -, named, rfl⟩ := exists_split_of_read read
  have hasClass : String.ofList (fullName package name) ≠ "" := by
    intro empty
    have chars : (String.ofList (fullName package name)).toList = fullName package name :=
      String.toList_ofList
    rw [empty] at chars
    exact fullName_ne_nil named chars.symm
  simp [isUnreadable, hasClass]

/-- A full name is taken for another one where it and its package begin with a dot; a package
that is empty changes nothing. -/
theorem fullName_fullName_iff {package name : List Char} :
    fullName package (fullName package name) = fullName package name ↔
      ¬ (package.head? = some '.' ∧ (fullName package name).head? = some '.') := by
  by_cases dot : (fullName package name).head? = some '.'
  · have outer : fullName package (fullName package name) = package ++ fullName package name := by
      rw [fullName, if_pos dot]
    rw [outer]
    cases package with
    | nil => simp
    | cons first rest =>
        have begins : first = '.' := by
          unfold fullName at dot
          by_cases short : name.head? = some '.'
          · rw [if_pos short] at dot
            exact Option.some.inj dot
          · rw [if_neg short] at dot
            exact absurd dot short
        have longer :
            first :: rest ++ fullName (first :: rest) name ≠ fullName (first :: rest) name := by
          intro same
          have lengths := congrArg List.length same
          rw [List.length_append, List.length_cons] at lengths
          omega
        exact iff_of_false longer fun clear => clear ⟨congrArg some begins, dot⟩
  · rw [fullName, if_neg dot]
    exact iff_of_true rfl fun ambiguous => dot ambiguous.2

/-- The flat form of a component that was read puts the package before a class with a dot once
more. -/
theorem ofText?_flatText_of_read
    {package name : List Char}
    (noSlash : '/' ∉ package)
    (named : name ≠ []) :
    ofText? (flatText ⟨String.ofList package, String.ofList (fullName package name)⟩) =
      some ⟨String.ofList package, String.ofList (fullName package (fullName package name))⟩ := by
  refine ofText?_of_split ?_ (fullName_ne_nil named)
  rw [toList_flatText, String.toList_ofList, String.toList_ofList]
  exact splitSlash?_append_of_not_mem package _ noSlash

/-- A component that was read comes back as itself if and only if it is not ambiguous. -/
theorem reread_eq_iff_of_read
    {text : String}
    {component : Component}
    (read : ofText? text = some component) :
    component.reread = component ↔ component.isAmbiguous = false := by
  obtain ⟨package, name, noSlash, named, rfl⟩ := exists_split_of_read read
  rw [reread, ofText?_flatText_of_read noSlash named, Option.getD_some]
  have sameClass (first second : List Char) :
      (⟨String.ofList package, String.ofList first⟩ : Component) =
          ⟨String.ofList package, String.ofList second⟩ ↔ first = second := by
    rw [mk.injEq, String.ofList_inj, String.ofList_inj]
    exact and_iff_right rfl
  rw [sameClass, fullName_fullName_iff]
  simp [isAmbiguous]

/-- What begins with a dot behind a package makes the whole begin with one. -/
theorem head?_append_of_fullName
    {package name : List Char}
    (dot : (fullName package name).head? = some '.') :
    (package ++ fullName package name).head? = some '.' := by
  cases package with
  | nil => exact dot
  | cons first rest =>
      unfold fullName at dot
      by_cases short : name.head? = some '.'
      · rw [if_pos short] at dot
        exact dot
      · rw [if_neg short] at dot
        exact absurd dot short

/-- Putting the package before full names once more keeps them apart. -/
theorem fullName_inj_of_fullName
    {package left right : List Char}
    (same : fullName package (fullName package left) =
      fullName package (fullName package right)) :
    fullName package left = fullName package right := by
  have outer (name : List Char) (dot : (fullName package name).head? = some '.') :
      fullName package (fullName package name) = package ++ fullName package name := by
    rw [fullName, if_pos dot]
  have inner (name : List Char) (clear : ¬ (fullName package name).head? = some '.') :
      fullName package (fullName package name) = fullName package name := by
    rw [fullName, if_neg clear]
  by_cases leftDot : (fullName package left).head? = some '.'
  · by_cases rightDot : (fullName package right).head? = some '.'
    · rw [outer left leftDot, outer right rightDot] at same
      exact List.append_cancel_left same
    · -- Only the left name got the package, and so it still begins with a dot.
      rw [outer left leftDot, inner right rightDot] at same
      exact absurd (same ▸ head?_append_of_fullName leftDot) rightDot
  · by_cases rightDot : (fullName package right).head? = some '.'
    · rw [inner left leftDot, outer right rightDot] at same
      exact absurd (same ▸ head?_append_of_fullName rightDot) leftDot
    · rw [inner left leftDot, inner right rightDot] at same
      exact same

/-- Two components that were read do not come back as one. -/
theorem reread_inj_of_read
    {leftText rightText : String}
    {left right : Component}
    (leftRead : ofText? leftText = some left)
    (rightRead : ofText? rightText = some right)
    (same : left.reread = right.reread) :
    left = right := by
  obtain ⟨package, name, noSlash, named, rfl⟩ := exists_split_of_read leftRead
  obtain ⟨otherPackage, otherName, otherNoSlash, otherNamed, rfl⟩ :=
    exists_split_of_read rightRead
  rw [reread, reread, ofText?_flatText_of_read noSlash named,
    ofText?_flatText_of_read otherNoSlash otherNamed, Option.getD_some, Option.getD_some,
    mk.injEq, String.ofList_inj, String.ofList_inj] at same
  obtain ⟨rfl, sameClass⟩ := same
  rw [fullName_inj_of_fullName sameClass]

end PhoneAccounts.Component
