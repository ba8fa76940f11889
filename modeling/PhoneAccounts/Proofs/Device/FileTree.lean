import PhoneAccounts.Device.FileTree

/-!
Contract: what stands at the places of a directory, before and after something was written.

Owns: `standing?` and `HasFileAbove`, reading and writing in terms of them, and that writing a
file changes nothing but its place and the directories that are missing above it.

Does not own: paths as text (see `PhoneAccounts.Device.FilePath`), and the steps in which a file
is replaced (see `PhoneAccounts.Proofs.Device.Replacement`).
-/

namespace PhoneAccounts.Entry

theorem named?_putNamed_self
    (name : String)
    (value : Entry)
    (entries : List (String × Entry)) :
    named? name (putNamed name value entries) = some value := by
  induction entries with
  | nil => simp [putNamed, named?]
  | cons entry rest inductionHypothesis =>
      rw [putNamed]
      by_cases here : entry.1 = name
      · rw [if_pos here, named?, if_pos rfl]
      · rw [if_neg here, named?, if_neg here, inductionHypothesis]

theorem named?_putNamed_of_ne
    {name other : String}
    (different : other ≠ name)
    (value : Entry)
    (entries : List (String × Entry)) :
    named? other (putNamed name value entries) = named? other entries := by
  induction entries with
  | nil => simp [putNamed, named?, different.symm]
  | cons entry rest inductionHypothesis =>
      rw [putNamed]
      by_cases here : entry.1 = name
      · have first : entry.1 ≠ other := fun same => different (same.symm.trans here)
        rw [if_pos here, named?, if_neg different.symm, named?, if_neg first]
      · rw [if_neg here, named?, named?, inductionHypothesis]

theorem read_chain (path : List String) (content : List UInt8) :
    (chain path (.file content)).read path = .ok content := by
  induction path with
  | nil => rfl
  | cons name rest inductionHypothesis =>
      rw [chain, read, named?, if_pos rfl]
      exact inductionHypothesis

/-- A file that could be written is read as it was written. -/
theorem read_of_write?_eq_some
    {content : List UInt8}
    {path : List String}
    {before after : Entry}
    (written : before.write? content path = some after) :
    after.read path = .ok content := by
  induction path generalizing before after with
  | nil =>
      cases before with
      | file old =>
          obtain rfl := Option.some.inj written
          rfl
      | directory entries => exact absurd written (by simp [write?])
  | cons name rest inductionHypothesis =>
      cases before with
      | file old => exact absurd written (by simp [write?])
      | directory entries =>
          rw [write?] at written
          cases found : named? name entries with
          | none =>
              rw [found] at written
              obtain rfl := Option.some.inj written
              rw [read, named?_putNamed_self]
              exact read_chain rest content
          | some entry =>
              rw [found] at written
              obtain ⟨below, writtenBelow, rfl⟩ := Option.map_eq_some_iff.mp written
              rw [read, named?_putNamed_self]
              exact inductionHypothesis writtenBelow

/-! ## What stands at a place -/

/-- A file with its bytes, or a directory. -/
inductive Standing where
  | file (content : List UInt8)
  | directory
deriving DecidableEq, Repr

/-- What stands at a place, if anything does. -/
def standing? : List String → Entry → Option Standing
  | [], .file content => some (.file content)
  | [], .directory _ => some .directory
  | _ :: _, .file _ => none
  | name :: rest, .directory entries => (named? name entries).bind (standing? rest)

/-- A file stands at a place above. -/
def HasFileAbove (path : List String) (files : Entry) : Prop :=
  ∃ above content, above <+: path ∧ above ≠ path ∧
    files.standing? above = some (.file content)

theorem not_hasFileAbove_nil (files : Entry) : ¬ files.HasFileAbove [] := by
  rintro ⟨above, content, begins, proper, -⟩
  exact proper (List.prefix_nil.mp begins)

theorem hasFileAbove_file (name : String) (rest : List String) (content : List UInt8) :
    (Entry.file content).HasFileAbove (name :: rest) :=
  ⟨[], content, List.nil_prefix, by simp, rfl⟩

/-- A file above a place in a directory is above that place in the entry on the way. -/
theorem hasFileAbove_directory_iff
    (name : String)
    (rest : List String)
    (entries : List (String × Entry)) :
    (Entry.directory entries).HasFileAbove (name :: rest) ↔
      ∃ entry, named? name entries = some entry ∧ entry.HasFileAbove rest := by
  constructor
  · rintro ⟨above, content, begins, proper, stands⟩
    cases above with
    | nil => exact absurd stands (by simp [standing?])
    | cons first above =>
        obtain ⟨rfl, beginsBelow⟩ := List.cons_prefix_cons.mp begins
        rw [standing?] at stands
        obtain ⟨entry, found, standsBelow⟩ := Option.bind_eq_some_iff.mp stands
        have properBelow : above ≠ rest := fun same => proper (congrArg (first :: ·) same)
        exact ⟨entry, found, above, content, beginsBelow, properBelow, standsBelow⟩
  · rintro ⟨entry, found, above, content, begins, proper, stands⟩
    refine ⟨name :: above, content, List.cons_prefix_cons.mpr ⟨rfl, begins⟩, ?_, ?_⟩
    · exact fun same => proper (List.cons.inj same).2
    · rw [standing?, found, Option.bind_some, stands]

/-- What reading a place finds is what stands there and above it. -/
theorem read_spec (path : List String) (files : Entry) :
    match files.read path with
    | .ok content => files.standing? path = some (.file content) ∧ ¬ files.HasFileAbove path
    | .error .isDirectory => files.standing? path = some .directory ∧ ¬ files.HasFileAbove path
    | .error .absent => files.standing? path = none ∧ ¬ files.HasFileAbove path
    | .error .fileOnTheWay => files.standing? path = none ∧ files.HasFileAbove path := by
  induction path generalizing files with
  | nil =>
      cases files with
      | file content => exact ⟨rfl, not_hasFileAbove_nil _⟩
      | directory entries => exact ⟨rfl, not_hasFileAbove_nil _⟩
  | cons name rest inductionHypothesis =>
      cases files with
      | file content => exact ⟨rfl, hasFileAbove_file name rest content⟩
      | directory entries =>
          rw [read, standing?, hasFileAbove_directory_iff]
          cases found : named? name entries with
          | none => simp
          | some entry => simpa using inductionHypothesis entry

theorem read_eq_ok_iff (path : List String) (content : List UInt8) (files : Entry) :
    files.read path = .ok content ↔ files.standing? path = some (.file content) := by
  have spec := read_spec path files
  constructor
  · intro found
    rw [found] at spec
    exact spec.1
  · intro stands
    rw [stands] at spec
    split at spec
    · next other found =>
        obtain rfl : content = other := Standing.file.inj (Option.some.inj spec.1)
        exact found
    · exact absurd spec.1 (by simp)
    · exact absurd spec.1 (by simp)
    · exact absurd spec.1 (by simp)

theorem read_eq_isDirectory_iff (path : List String) (files : Entry) :
    files.read path = .error .isDirectory ↔ files.standing? path = some .directory := by
  have spec := read_spec path files
  constructor
  · intro found
    rw [found] at spec
    exact spec.1
  · intro stands
    rw [stands] at spec
    split at spec
    · exact absurd spec.1 (by simp)
    · next found => exact found
    · exact absurd spec.1 (by simp)
    · exact absurd spec.1 (by simp)

theorem read_eq_fileOnTheWay_iff (path : List String) (files : Entry) :
    files.read path = .error .fileOnTheWay ↔ files.HasFileAbove path := by
  have spec := read_spec path files
  constructor
  · intro found
    rw [found] at spec
    exact spec.2
  · intro above
    split at spec
    · exact absurd above spec.2
    · exact absurd above spec.2
    · exact absurd above spec.2
    · next found => exact found

/-- Above a place where something stands, there are directories. -/
theorem standing?_of_above
    {place path : List String}
    {files : Entry}
    (stands : (files.standing? path).isSome = true)
    (above : place <+: path)
    (proper : place ≠ path) :
    files.standing? place = some .directory := by
  induction path generalizing place files with
  | nil => exact absurd (List.prefix_nil.mp above) proper
  | cons name rest inductionHypothesis =>
      cases files with
      | file content => exact absurd stands Bool.false_ne_true
      | directory entries =>
          cases place with
          | nil => rfl
          | cons first place =>
              obtain ⟨rfl, aboveBelow⟩ := List.cons_prefix_cons.mp above
              rw [standing?] at stands ⊢
              cases found : named? first entries with
              | none =>
                  rw [found] at stands
                  exact absurd stands Bool.false_ne_true
              | some entry =>
                  rw [found] at stands
                  exact inductionHypothesis stands aboveBelow fun same =>
                    proper (congrArg (first :: ·) same)

theorem exists?_eq_isSome (path : List String) (files : Entry) :
    files.exists? path = (files.standing? path).isSome := by
  induction path generalizing files with
  | nil => cases files <;> rfl
  | cons name rest inductionHypothesis =>
      cases files with
      | file content => rfl
      | directory entries =>
          rw [exists?, standing?]
          cases named? name entries with
          | none => rfl
          | some entry => exact inductionHypothesis entry

/-! ## What writing changes -/

theorem write?_eq_none_iff (content : List UInt8) (path : List String) (files : Entry) :
    files.write? content path = none ↔
      files.read path = .error .isDirectory ∨ files.read path = .error .fileOnTheWay := by
  induction path generalizing files with
  | nil => cases files <;> simp [write?, read]
  | cons name rest inductionHypothesis =>
      cases files with
      | file old => simp [write?, read]
      | directory entries =>
          rw [write?, read]
          cases named? name entries with
          | none => simp
          | some entry =>
              rw [Option.map_eq_none_iff]
              exact inductionHypothesis entry

/-- A path with nothing beside it leads to its end, and is made of directories. -/
theorem standing?_chain
    (path : List String)
    (content : List UInt8)
    (place : List String) :
    (chain path (.file content)).standing? place =
      if place = path then some (.file content)
      else if place <+: path then some .directory
      else none := by
  induction path generalizing place with
  | nil =>
      cases place with
      | nil => rfl
      | cons name rest => simp [chain, standing?]
  | cons first path inductionHypothesis =>
      cases place with
      | nil => simp [chain, standing?]
      | cons name rest =>
          rw [chain, standing?, named?]
          by_cases same : first = name
          · subst same
            rw [if_pos rfl, Option.bind_some, inductionHypothesis]
            simp [List.cons_prefix_cons]
          · have different : name ≠ first := fun equal => same equal.symm
            simp [named?, same, different, List.cons_prefix_cons]

/-- Writing a file changes its place, makes the directories above it, and leaves every other
place alone. -/
theorem standing?_of_write?_eq_some
    {content : List UInt8}
    {path : List String}
    {before after : Entry}
    (written : before.write? content path = some after)
    (place : List String) :
    after.standing? place =
      if place = path then some (.file content)
      else if place <+: path then some .directory
      else before.standing? place := by
  induction path generalizing before after place with
  | nil =>
      cases before with
      | directory entries => exact absurd written (by simp [write?])
      | file old =>
          obtain rfl := Option.some.inj written
          cases place with
          | nil => rfl
          | cons name rest => simp [standing?]
  | cons first path inductionHypothesis =>
      cases before with
      | file old => exact absurd written (by simp [write?])
      | directory entries =>
          -- The entry on the way is a new chain or what writing below it leaves.
          obtain ⟨below, putBelow, standsBelow⟩ : ∃ below,
              after = .directory (putNamed first below entries) ∧
                ∀ rest, below.standing? rest =
                  if rest = path then some (.file content)
                  else if rest <+: path then some .directory
                  else (named? first entries).bind (standing? rest) := by
            rw [write?] at written
            cases found : named? first entries with
            | none =>
                rw [found] at written
                exact ⟨_, (Option.some.inj written).symm, standing?_chain path content⟩
            | some entry =>
                rw [found] at written
                obtain ⟨below, writtenBelow, equal⟩ := Option.map_eq_some_iff.mp written
                exact ⟨below, equal.symm, fun rest => inductionHypothesis writtenBelow rest⟩
          subst putBelow
          cases place with
          | nil => simp [standing?]
          | cons name rest =>
              rw [standing?, standing?]
              by_cases same : name = first
              · subst same
                rw [named?_putNamed_self, Option.bind_some, standsBelow]
                simp [List.cons_prefix_cons]
              · rw [named?_putNamed_of_ne same]
                simp [same, List.cons_prefix_cons]

end PhoneAccounts.Entry
