import PhoneAccounts.Device.Replacement
import PhoneAccounts.Proofs.Device.FileTree

/-!
Contract: replacing a file step by step is writing it at once.

Steps inside one directory, done one after the other, are one change of its entries.  Making a
temporary file and moving it is putting the file in its place; making it and removing it is
nothing.  Directories are made on the way only where a file can then be put.

Owns: `entriesAt?`, the composition of steps, and `replaceFile_eq_write?`.

Does not own: what writing changes (see `PhoneAccounts.Proofs.Device.FileTree`).
-/

namespace PhoneAccounts.Entry

/-! ## Names -/

theorem named?_eq_none_iff (name : String) (entries : List (String × Entry)) :
    named? name entries = none ↔ name ∉ entries.map Prod.fst := by
  induction entries with
  | nil => simp [named?]
  | cons entry rest inductionHypothesis =>
      rw [named?, List.map_cons, List.mem_cons, not_or, ← inductionHypothesis]
      by_cases here : entry.1 = name
      · simp [here]
      · have different : name ≠ entry.1 := fun same => here same.symm
        simp [here, different]

theorem putNamed_of_named?
    {name : String}
    {value : Entry}
    {entries : List (String × Entry)}
    (found : named? name entries = some value) :
    putNamed name value entries = entries := by
  induction entries with
  | nil => exact absurd found (by simp [named?])
  | cons entry rest inductionHypothesis =>
      rw [named?] at found
      rw [putNamed]
      by_cases here : entry.1 = name
      · rw [if_pos here] at found ⊢
        rw [← here, ← Option.some.inj found]
      · rw [if_neg here] at found ⊢
        rw [inductionHypothesis found]

theorem putNamed_putNamed
    (name : String)
    (first second : Entry)
    (entries : List (String × Entry)) :
    putNamed name second (putNamed name first entries) = putNamed name second entries := by
  induction entries with
  | nil => simp [putNamed]
  | cons entry rest inductionHypothesis =>
      rw [putNamed, putNamed]
      by_cases here : entry.1 = name
      · rw [if_pos here, if_pos here, putNamed, if_pos rfl]
      · rw [if_neg here, if_neg here, putNamed, if_neg here, inductionHypothesis]

/-- Dropping what was put under a new name gives the entries back. -/
theorem dropNamed_putNamed
    {name : String}
    {entries : List (String × Entry)}
    (unused : named? name entries = none)
    (value : Entry) :
    dropNamed name (putNamed name value entries) = entries := by
  induction entries with
  | nil => simp [putNamed, dropNamed]
  | cons entry rest inductionHypothesis =>
      rw [named?] at unused
      by_cases here : entry.1 = name
      · rw [if_pos here] at unused
        exact absurd unused (by simp)
      · rw [if_neg here] at unused
        unfold dropNamed at inductionHypothesis ⊢
        rw [putNamed, if_neg here, List.filter_cons_of_pos (by simpa using here),
          inductionHypothesis unused]

/-! ## Steps inside one directory -/

/-- The entries of the directory at a path, if there is one. -/
def entriesAt? : List String → Entry → Option (List (String × Entry))
  | _, .file _ => none
  | [], .directory entries => some entries
  | name :: rest, .directory entries => (named? name entries).bind (entriesAt? rest)

theorem namesAt_eq {path : List String} {files : Entry} {entries : List (String × Entry)}
    (here : files.entriesAt? path = some entries) :
    files.namesAt path = entries.map Prod.fst := by
  induction path generalizing files with
  | nil =>
      cases files with
      | file content => exact absurd here (by simp [entriesAt?])
      | directory others =>
          obtain rfl := Option.some.inj here
          rfl
  | cons name rest inductionHypothesis =>
      cases files with
      | file content => exact absurd here (by simp [entriesAt?])
      | directory others =>
          obtain ⟨entry, found, below⟩ := Option.bind_eq_some_iff.mp here
          rw [namesAt, found]
          exact inductionHypothesis below

section Steps

variable
  {first second : List (String × Entry) → Option (List (String × Entry))}
  {path : List String}
  {files : Entry}
  {entries : List (String × Entry)}

/-- A change depends on the entries that it changes alone. -/
theorem inDirectory?_congr
    (same : ∀ entries, files.entriesAt? path = some entries → first entries = second entries) :
    files.inDirectory? first path = files.inDirectory? second path := by
  induction path generalizing files with
  | nil =>
      cases files with
      | file content => rfl
      | directory entries => rw [inDirectory?, inDirectory?, same entries rfl]
  | cons name rest inductionHypothesis =>
      cases files with
      | file content => rfl
      | directory entries =>
          rw [inDirectory?, inDirectory?]
          cases found : named? name entries with
          | none => rfl
          | some entry =>
              simp only
              rw [inductionHypothesis]
              intro below here
              apply same
              rw [entriesAt?, found, Option.bind_some, here]

/-- Two changes of one directory, one after the other, are one change. -/
theorem inDirectory?_bind :
    (files.inDirectory? first path).bind (inDirectory? second path) =
      files.inDirectory? (fun entries => (first entries).bind second) path := by
  induction path generalizing files with
  | nil =>
      cases files with
      | file content => rfl
      | directory entries =>
          rw [inDirectory?, inDirectory?]
          cases first entries <;> rfl
  | cons name rest inductionHypothesis =>
      cases files with
      | file content => rfl
      | directory entries =>
          rw [inDirectory?, inDirectory?]
          cases found : named? name entries with
          | none => rfl
          | some entry =>
              simp only
              rw [← inductionHypothesis]
              cases changed : entry.inDirectory? first rest with
              | none => rfl
              | some below =>
                  simp only [Option.map_some, Option.bind_some, inDirectory?,
                    named?_putNamed_self, putNamed_putNamed]

/-- Changing nothing is possible where there is a directory. -/
theorem inDirectory?_some (here : files.entriesAt? path = some entries) :
    files.inDirectory? some path = some files := by
  induction path generalizing files with
  | nil =>
      cases files with
      | file content => exact absurd here (by simp [entriesAt?])
      | directory others => rfl
  | cons name rest inductionHypothesis =>
      cases files with
      | file content => exact absurd here (by simp [entriesAt?])
      | directory others =>
          obtain ⟨entry, found, below⟩ := Option.bind_eq_some_iff.mp here
          rw [inDirectory?, found]
          simp only
          rw [inductionHypothesis below, Option.map_some, putNamed_of_named? found]

/-- A change is possible in a directory if it is on its entries. -/
theorem inDirectory?_eq_none_iff (here : files.entriesAt? path = some entries) :
    files.inDirectory? first path = none ↔ first entries = none := by
  induction path generalizing files with
  | nil =>
      cases files with
      | file content => exact absurd here (by simp [entriesAt?])
      | directory others =>
          obtain rfl := Option.some.inj here
          rw [inDirectory?, Option.map_eq_none_iff]
  | cons name rest inductionHypothesis =>
      cases files with
      | file content => exact absurd here (by simp [entriesAt?])
      | directory others =>
          obtain ⟨entry, found, below⟩ := Option.bind_eq_some_iff.mp here
          rw [inDirectory?, found]
          simp only
          rw [Option.map_eq_none_iff]
          exact inductionHypothesis below

end Steps

/-! ## Making directories -/

theorem entriesAt?_chain (path : List String) :
    (chain path emptyDirectory).entriesAt? path = some [] := by
  induction path with
  | nil => rfl
  | cons name rest inductionHypothesis =>
      rw [chain, entriesAt?, named?, if_pos rfl, Option.bind_some, inductionHypothesis]

/-- A directory that was made is the one that was there, or an empty one. -/
theorem entriesAt?_of_makeDirectory?
    {path : List String}
    {files made : Entry}
    (makes : files.makeDirectory? path = some made) :
    made.entriesAt? path = some ((files.entriesAt? path).getD []) := by
  induction path generalizing files made with
  | nil =>
      cases files with
      | file content => exact absurd makes (by simp [makeDirectory?])
      | directory entries =>
          obtain rfl := Option.some.inj makes
          rfl
  | cons name rest inductionHypothesis =>
      cases files with
      | file content => exact absurd makes (by simp [makeDirectory?])
      | directory entries =>
          rw [makeDirectory?] at makes
          cases found : named? name entries with
          | none =>
              rw [found] at makes
              obtain rfl := Option.some.inj makes
              rw [entriesAt?, named?_putNamed_self, Option.bind_some, entriesAt?_chain,
                entriesAt?, found]
              rfl
          | some entry =>
              rw [found] at makes
              obtain ⟨below, makesBelow, rfl⟩ := Option.map_eq_some_iff.mp makes
              rw [entriesAt?, named?_putNamed_self, Option.bind_some,
                inductionHypothesis makesBelow, entriesAt?, found, Option.bind_some]

/-- Where there is a directory, nothing has to be made. -/
theorem makeDirectory?_of_entriesAt?
    {path : List String}
    {files : Entry}
    {entries : List (String × Entry)}
    (here : files.entriesAt? path = some entries) :
    files.makeDirectory? path = some files := by
  induction path generalizing files with
  | nil =>
      cases files with
      | file content => exact absurd here (by simp [entriesAt?])
      | directory others => rfl
  | cons name rest inductionHypothesis =>
      cases files with
      | file content => exact absurd here (by simp [entriesAt?])
      | directory others =>
          obtain ⟨entry, found, below⟩ := Option.bind_eq_some_iff.mp here
          rw [makeDirectory?, found]
          simp only
          rw [inductionHypothesis below, Option.map_some, putNamed_of_named? found]

/-- A directory with something in it was there before, so nothing was made. -/
theorem eq_of_makeDirectory?
    {path : List String}
    {files made : Entry}
    {entries : List (String × Entry)}
    (makes : files.makeDirectory? path = some made)
    (here : made.entriesAt? path = some entries)
    (filled : entries ≠ []) :
    made = files := by
  have known := entriesAt?_of_makeDirectory? makes
  cases before : files.entriesAt? path with
  | none =>
      rw [before, here] at known
      exact absurd (Option.some.inj known) filled
  | some others =>
      rw [makeDirectory?_of_entriesAt? before] at makes
      exact (Option.some.inj makes).symm

/-! ## Putting a file in its place -/

/-- Puts a file under a name, unless a directory stands there. -/
def placeNamed? (name : String) (content : List UInt8) (entries : List (String × Entry)) :
    Option (List (String × Entry)) :=
  match named? name entries with
  | some (.directory _) => none
  | _ => some (putNamed name (.file content) entries)

/-- Only what is in a directory already is in the way of a file. -/
theorem ne_nil_of_placeNamed?_eq_none
    {name : String}
    {content : List UInt8}
    {entries : List (String × Entry)}
    (blocked : placeNamed? name content entries = none) :
    entries ≠ [] := by
  rintro rfl
  exact absurd blocked (by simp [placeNamed?, named?])

theorem inDirectory?_placeNamed?_chain
    (path : List String)
    (name : String)
    (content : List UInt8) :
    (chain path emptyDirectory).inDirectory? (placeNamed? name content) path =
      some (chain (path ++ [name]) (.file content)) := by
  induction path with
  | nil => rfl
  | cons first rest inductionHypothesis =>
      simp [chain, inDirectory?, named?, putNamed, inductionHypothesis]

/-- Writing a file is making its directory and then putting it in its place. -/
theorem write?_append
    (path : List String)
    (name : String)
    (content : List UInt8)
    (files : Entry) :
    files.write? content (path ++ [name]) =
      (files.makeDirectory? path).bind (inDirectory? (placeNamed? name content) path) := by
  induction path generalizing files with
  | nil =>
      cases files with
      | file old => rfl
      | directory entries =>
          simp only [List.nil_append, write?, makeDirectory?, Option.bind_some, inDirectory?,
            placeNamed?]
          cases named? name entries with
          | none => rfl
          | some entry => cases entry <;> rfl
  | cons first rest inductionHypothesis =>
      cases files with
      | file old => rfl
      | directory entries =>
          rw [List.cons_append, write?, makeDirectory?]
          cases found : named? first entries with
          | none =>
              simp only [Option.bind_some, inDirectory?, named?_putNamed_self,
                inDirectory?_placeNamed?_chain, Option.map_some, putNamed_putNamed]
          | some entry =>
              simp only
              rw [inductionHypothesis]
              cases made : entry.makeDirectory? rest with
              | none => rfl
              | some below =>
                  simp only [Option.bind_some, Option.map_some, inDirectory?,
                    named?_putNamed_self, putNamed_putNamed]

/-! ## Temporary files -/

section Temporary

variable
  {names : TemporaryNames}
  {name temporary : String}
  {content : List UInt8}
  {entries : List (String × Entry)}

theorem temporaryName_unused (names : TemporaryNames) (name : String)
    (entries : List (String × Entry)) :
    named? (temporaryName names name (entries.map Prod.fst)) entries = none :=
  (named?_eq_none_iff _ _).mpr (names.unused _ _ _)

theorem temporaryName_ne (names : TemporaryNames) (name : String) (used : List String) :
    name ≠ temporaryName names name used := by
  intro same
  have lengths := congrArg String.length same
  unfold temporaryName at lengths
  simp only [String.length_append] at lengths
  have suffix : ".tmp".length = 4 := by decide
  omega

/-- Making a temporary file and moving it is putting the file in its place. -/
theorem createNamed?_moveNamed?
    (unused : named? temporary entries = none)
    (different : name ≠ temporary) :
    (createNamed? temporary content entries).bind (moveNamed? temporary name) =
      placeNamed? name content entries := by
  rw [createNamed?, unused]
  simp only [Option.bind_some]
  rw [moveNamed?, named?_putNamed_self, named?_putNamed_of_ne different,
    dropNamed_putNamed unused, placeNamed?]
  cases named? name entries with
  | none => rfl
  | some entry => cases entry <;> rfl

/-- Making a temporary file and removing it is nothing. -/
theorem createNamed?_removeNamed? (unused : named? temporary entries = none) :
    (createNamed? temporary content entries).bind (removeNamed? temporary) = some entries := by
  rw [createNamed?, unused]
  simp only [Option.bind_some, removeNamed?, dropNamed_putNamed unused]

end Temporary

/-! ## Replacing -/

/-- A temporary file that was made in a directory is moved over the file beside it, or else
removed without a trace. -/
theorem moveTemporary_eq
    {temporary name : String}
    {content : List UInt8}
    {parent : List String}
    {made written : Entry}
    {entries : List (String × Entry)}
    (here : made.entriesAt? parent = some entries)
    (unused : named? temporary entries = none)
    (different : name ≠ temporary)
    (creates : made.inDirectory? (createNamed? temporary content) parent = some written) :
    written.moveTemporary temporary name parent =
      match made.inDirectory? (placeNamed? name content) parent with
      | some after => (after, true)
      | none => (made, false) := by
  have composed (change : List (String × Entry) → Option (List (String × Entry))) :
      written.inDirectory? change parent =
        made.inDirectory?
          (fun entries => (createNamed? temporary content entries).bind change) parent := by
    rw [← inDirectory?_bind, creates, Option.bind_some]
  have moves : written.inDirectory? (moveNamed? temporary name) parent =
      made.inDirectory? (placeNamed? name content) parent := by
    rw [composed]
    apply inDirectory?_congr
    intro others known
    obtain rfl := Option.some.inj (here.symm.trans known)
    exact createNamed?_moveNamed? unused different
  have removes : written.inDirectory? (removeNamed? temporary) parent = some made := by
    rw [composed, ← inDirectory?_some here]
    apply inDirectory?_congr
    intro others known
    obtain rfl := Option.some.inj (here.symm.trans known)
    exact createNamed?_removeNamed? unused
  cases placed : made.inDirectory? (placeNamed? name content) parent with
  | none => simp only [moveTemporary, moves, placed, removes, Option.getD_some]
  | some after => simp only [moveTemporary, moves, placed]

/-- Replacing a file is writing it, or leaving everything as it was, however the temporary file
is named. -/
theorem replaceFile_eq_write?
    (names : TemporaryNames)
    (content : List UInt8)
    {path : List String}
    (named : path ≠ [])
    (files : Entry) :
    files.replaceFile names content path =
      match files.write? content path with
      | some after => (after, true)
      | none => (files, false) := by
  obtain ⟨parent, name, rfl⟩ : ∃ parent name, path = parent ++ [name] :=
    ⟨path.dropLast, path.getLast named, (List.dropLast_concat_getLast named).symm⟩
  rw [write?_append, replaceFile, List.getLast?_concat, List.dropLast_concat]
  simp only
  cases makes : files.makeDirectory? parent with
  | none => rfl
  | some made =>
      obtain ⟨entries, here⟩ : ∃ entries, made.entriesAt? parent = some entries :=
        ⟨_, entriesAt?_of_makeDirectory? makes⟩
      have unused := temporaryName_unused names name entries
      have different := temporaryName_ne names name (entries.map Prod.fst)
      simp only [Option.bind_some, namesAt_eq here]
      cases creates : made.inDirectory?
          (createNamed? (temporaryName names name (entries.map Prod.fst)) content) parent with
      | none =>
          rw [inDirectory?_eq_none_iff here, createNamed?, unused] at creates
          exact absurd creates (by simp)
      | some written =>
          simp only
          rw [moveTemporary_eq here unused different creates]
          cases places : made.inDirectory? (placeNamed? name content) parent with
          | some after => rfl
          | none =>
              rw [inDirectory?_eq_none_iff here] at places
              rw [eq_of_makeDirectory? makes here (ne_nil_of_placeNamed?_eq_none places)]

end PhoneAccounts.Entry
