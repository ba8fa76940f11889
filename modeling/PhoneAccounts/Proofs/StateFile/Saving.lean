import PhoneAccounts.Proofs.Device.Replacement
import PhoneAccounts.Proofs.Steps
import PhoneAccounts.StateFile.Store

/-!
Contract: what saving a catalog changes, and what loading finds.

Saving replaces the file as a whole or leaves the whole tree as it was; it fails only where a
file stands above the path or a directory at it.  Loading tells a file that is missing from one
that cannot be used, and gives the catalog that the file stores.

Owns: `IsAtomicSave`, `FindsWhatStands`, both of these facts, and what stops a loading.

Does not own: when stored bytes give a catalog (see `PhoneAccounts.Proofs.StateFile.RoundTrip`).
-/

namespace PhoneAccounts.StateFile

section Save

variable
  {directory : ScopeDirectory}
  {path : FilePath}
  {catalog : Catalog}
  {files : Entry}

theorem save_of_named
    (names : TemporaryNames)
    (directory : ScopeDirectory)
    (catalog : Catalog)
    (files : Entry)
    (named : path.parts ≠ []) :
    save names directory path catalog files =
      match (encode? directory catalog).map (files.write? · path.parts) with
      | none => (files, .error .longInteger)
      | some none => (files, .error .obstructed)
      | some (some after) => (after, .ok ()) := by
  unfold save
  cases encode? directory catalog with
  | none => rfl
  | some content =>
      simp only [Option.map_some, Entry.replaceFile_eq_write? names content named files]
      cases files.write? content path.parts <;> rfl

/-- Nothing is saved under a path without a name. -/
theorem save?_of_unnamed (unnamed : path.parts = []) :
    save? directory path catalog files = none := by
  unfold save? save Entry.replaceFile
  rw [unnamed]
  cases encode? directory catalog <;> rfl

/-- A save that succeeds has written the bytes of the catalog. -/
theorem save?_of_named (named : path.parts ≠ []) :
    save? directory path catalog files =
      (encode? directory catalog).bind (files.write? · path.parts) := by
  rw [save?, save_of_named _ directory catalog files named]
  cases encode? directory catalog with
  | none => rfl
  | some content => cases written : files.write? content path.parts <;> simp [written]

theorem encode?_of_writable (writable : isWritable directory catalog = true) :
    encode? directory catalog = some (encode directory catalog) :=
  if_pos writable

theorem encode?_eq_none_iff :
    encode? directory catalog = none ↔ isWritable directory catalog = false := by
  unfold encode?
  cases isWritable directory catalog <;> simp

theorem save?_eq_some_iff {after : Entry} :
    save? directory path catalog files = some after ↔
      path.parts ≠ [] ∧ isWritable directory catalog = true ∧
        files.write? (encode directory catalog) path.parts = some after := by
  by_cases named : path.parts = []
  · simp [save?_of_unnamed named, named]
  · rw [save?_of_named named, encode?]
    by_cases writable : isWritable directory catalog = true <;> simp [named, writable]

theorem write?_of_save?_eq_some
    {after : Entry}
    (saved : save? directory path catalog files = some after) :
    files.write? (encode directory catalog) path.parts = some after :=
  (save?_eq_some_iff.mp saved).2.2

theorem isWritable_of_save?_eq_some
    {after : Entry}
    (saved : save? directory path catalog files = some after) :
    isWritable directory catalog = true :=
  (save?_eq_some_iff.mp saved).2.1

/-- A catalog that cannot be written out is not saved. -/
theorem save?_of_unwritable (unwritable : isWritable directory catalog = false) :
    save? directory path catalog files = none := by
  rw [Option.eq_none_iff_forall_ne_some]
  intro after saved
  exact nomatch unwritable.symm.trans (isWritable_of_save?_eq_some saved)

/-- When saving fails, the files are as they were. -/
theorem save_fst_eq_getD
    (directory : ScopeDirectory)
    (path : FilePath)
    (catalog : Catalog)
    (files : Entry) :
    (save .byLength directory path catalog files).1 =
      (save? directory path catalog files).getD files := by
  by_cases named : path.parts = []
  · rw [save?_of_unnamed named]
    unfold save Entry.replaceFile
    rw [named]
    cases encode? directory catalog <;> rfl
  · rw [save?, save_of_named _ directory catalog files named]
    cases encode? directory catalog with
    | none => rfl
    | some content => cases written : files.write? content path.parts <;> simp [written]

/-- A file that could be saved is read as it was saved. -/
theorem read_of_save?_eq_some
    {after : Entry}
    (saved : save? directory path catalog files = some after) :
    after.read path.parts = .ok (encode directory catalog) :=
  Entry.read_of_write?_eq_some (write?_of_save?_eq_some saved)

/-- Saving over a file leaves every other place alone. -/
theorem standing?_of_save?_eq_some
    {after : Entry}
    (saved : save? directory path catalog files = some after)
    (stands : (files.standing? path.parts).isSome = true)
    {place : List String}
    (other : place ≠ path.parts) :
    after.standing? place = files.standing? place := by
  rw [Entry.standing?_of_write?_eq_some (write?_of_save?_eq_some saved), if_neg other]
  by_cases above : place <+: path.parts
  · rw [if_pos above, Entry.standing?_of_above stands above other]
  · rw [if_neg above]

end Save

/-! ## Loading -/

/-- The bytes give no catalog: they cannot be read, a field in them cannot, or they are no
state file. -/
def IsMalformed : Except DecodeFault (Option Catalog) → Prop
  | .ok catalog => catalog = none
  | .error (.field _) => True
  | .error (.markup fault) => fault = .unparseable
  | .error .longInteger => False

/-- The decoding that stops a load. -/
def Stop.fault : Stop → DecodeFault
  | .markup fault => .markup fault
  | .longInteger => .longInteger

/-- The decoding is stopped for good: by markup with a fault that is none of the grammar, or
because the fault of a field cannot be put into words. -/
def IsStopped (stop : Stop) (decoded : Except DecodeFault (Option Catalog)) : Prop :=
  decoded = .error stop.fault ∧ stop ≠ .markup .unparseable

/-- Loading finds what stands at the path, unless what stands there stops it. -/
structure FindsWhatStands
    (parser : Yaml.Parser)
    (reader : Reader)
    (path : FilePath)
    (files : Entry) :
    Prop where
  absent : loadWith parser reader path files = .ok .absent ↔
    files.standing? path.parts = none ∧ ¬ files.HasFileAbove path.parts
  corrupt : loadWith parser reader path files = .ok .corrupt ↔
    files.standing? path.parts = some .directory ∨
      files.HasFileAbove path.parts ∨
      ∃ bytes, files.standing? path.parts = some (.file bytes) ∧
        IsMalformed (reader.decodeWith parser bytes)
  loaded (catalog : Catalog) : loadWith parser reader path files = .ok (.loaded catalog) ↔
    ∃ bytes, files.standing? path.parts = some (.file bytes) ∧
      reader.decodeWith parser bytes = .ok (some catalog)
  stopped (stop : Stop) : loadWith parser reader path files = .error stop ↔
    ∃ bytes, files.standing? path.parts = some (.file bytes) ∧
      IsStopped stop (reader.decodeWith parser bytes)

theorem classify_ne_absent (decoded : Except DecodeFault (Option Catalog)) :
    classify decoded ≠ .ok .absent := by
  rcases decoded with (fault | fault | _) | (_ | catalog)
  · cases fault <;> simp [classify]
  all_goals simp [classify]

theorem classify_eq_corrupt_iff (decoded : Except DecodeFault (Option Catalog)) :
    classify decoded = .ok .corrupt ↔ IsMalformed decoded := by
  rcases decoded with (fault | fault | _) | (_ | catalog)
  · cases fault <;> simp [classify, IsMalformed]
  all_goals simp [classify, IsMalformed]

theorem classify_eq_loaded_iff (decoded : Except DecodeFault (Option Catalog))
    (catalog : Catalog) :
    classify decoded = .ok (.loaded catalog) ↔ decoded = .ok (some catalog) := by
  rcases decoded with (fault | fault | _) | (_ | stored)
  · cases fault <;> simp [classify]
  all_goals simp [classify]

theorem classify_eq_error_iff
    {decoded : Except DecodeFault (Option Catalog)}
    {stop : Stop} :
    classify decoded = .error stop ↔ IsStopped stop decoded := by
  rcases decoded with (fault | fault | _) | (_ | catalog)
  · cases stop with
    | markup other =>
        by_cases grammar : fault = .unparseable
        · subst grammar
          simp only [classify, IsStopped, Stop.fault, reduceCtorEq, false_iff, not_and,
            Except.error.injEq, DecodeFault.markup.injEq]
          exact fun same other => other (congrArg Stop.markup same.symm)
        · have stops : classify (.error (.markup fault)) = .error (.markup fault) := by
            cases fault <;> first | rfl | exact absurd rfl grammar
          rw [stops]
          simp only [IsStopped, Stop.fault, Except.error.injEq, DecodeFault.markup.injEq,
            Stop.markup.injEq, ne_eq]
          exact ⟨fun same => ⟨same, same ▸ grammar⟩, And.left⟩
    | longInteger => cases fault <;> simp [classify, IsStopped, Stop.fault]
  all_goals cases stop <;> simp [classify, IsStopped, Stop.fault]

theorem findsWhatStands
    (parser : Yaml.Parser)
    (reader : Reader)
    (path : FilePath)
    (files : Entry) :
    FindsWhatStands parser reader path files := by
  have spec := Entry.read_spec path.parts files
  cases found : files.read path.parts with
  | ok bytes =>
      rw [found] at spec
      obtain ⟨stands, noneAbove⟩ := spec
      have loads : loadWith parser reader path files =
          classify (reader.decodeWith parser bytes) := by
        rw [loadWith, found]
      constructor
      · simp [loads, stands, classify_ne_absent]
      · simp [loads, stands, noneAbove, classify_eq_corrupt_iff]
      · simp [loads, stands, classify_eq_loaded_iff]
      · simp [loads, stands, classify_eq_error_iff]
  | error fault =>
      rw [found] at spec
      cases fault with
      | absent =>
          obtain ⟨stands, noneAbove⟩ := spec
          have loads : loadWith parser reader path files = .ok .absent := by rw [loadWith, found]
          constructor <;> simp [loads, stands, noneAbove]
      | isDirectory =>
          obtain ⟨stands, noneAbove⟩ := spec
          have loads : loadWith parser reader path files = .ok .corrupt := by
            rw [loadWith, found]
          constructor <;> simp [loads, stands]
      | fileOnTheWay =>
          obtain ⟨stands, above⟩ := spec
          have loads : loadWith parser reader path files = .ok .corrupt := by
            rw [loadWith, found]
          constructor <;> simp [loads, stands, above]

/-! ## Saving -/

/-- Saving a catalog succeeds unless it cannot be written out or something is in the way.  Then the
file holds the catalog and the directories above it are there, and nothing else has changed;
otherwise nothing has. -/
structure IsAtomicSave
    (directory : ScopeDirectory)
    (path : FilePath)
    (catalog : Catalog)
    (before : Entry)
    (result : Entry × Except SaveFault Unit) :
    Prop where
  succeeds : result.2 = .ok () ↔
    isWritable directory catalog = true ∧
      ¬ before.HasFileAbove path.parts ∧ before.standing? path.parts ≠ some .directory
  stops : result.2 = .error .longInteger ↔ isWritable directory catalog = false
  replaces : result.2 = .ok () → ∀ place, result.1.standing? place =
    if place = path.parts then some (.file (encode directory catalog))
    else if place <+: path.parts then some .directory
    else before.standing? place
  keeps : result.2 ≠ .ok () → result.1 = before

/-- Under every path with a name and whatever the tree, saving is atomic, however the temporary file
is named.  Where it fails for another reason than the state of the files, that is an integer in the
catalog that cannot be written.  In every tree, the one that is left included, loading finds what
stands at the path, whatever parses it. -/
theorem save_isAtomic
    (names : TemporaryNames)
    (parser : Yaml.Parser)
    (reader : Reader)
    {path : FilePath}
    (named : path.parts ≠ [])
    (catalog : Catalog)
    (before : Entry) :
    IsAtomicSave reader.directory path catalog before
        (save names reader.directory path catalog before) ∧
      ∀ files, FindsWhatStands parser reader path files := by
  refine ⟨?_, findsWhatStands parser reader path⟩
  have blocked := Entry.write?_eq_none_iff (encode reader.directory catalog) path.parts before
  rw [Entry.read_eq_isDirectory_iff, Entry.read_eq_fileOnTheWay_iff] at blocked
  rw [save_of_named names reader.directory catalog before named]
  by_cases writable : isWritable reader.directory catalog = true
  · rw [encode?_of_writable writable, Option.map_some]
    cases written : before.write? (encode reader.directory catalog) path.parts with
    | none =>
        have inTheWay := blocked.mp written
        constructor
        · refine iff_of_false nofun ?_
          rintro ⟨-, noneAbove, noDirectory⟩
          exact inTheWay.elim noDirectory noneAbove
        · exact iff_of_false nofun (by simp [writable])
        · exact nofun
        · exact fun _ => rfl
    | some after =>
        have free : ¬ (before.standing? path.parts = some .directory ∨
            before.HasFileAbove path.parts) := by
          rw [← blocked, written]
          simp
        constructor
        · exact iff_of_true rfl
            ⟨writable, fun above => free (.inr above), fun same => free (.inl same)⟩
        · exact iff_of_false nofun (by simp [writable])
        · exact fun _ => Entry.standing?_of_write?_eq_some written
        · exact fun failed => (failed rfl).elim
  · have unwritable := Bool.eq_false_iff.mpr writable
    rw [encode?_eq_none_iff.mpr unwritable, Option.map_none]
    constructor
    · exact iff_of_false nofun fun free => writable free.1
    · exact iff_of_true rfl unwritable
    · exact nofun
    · exact fun _ => rfl

/-! ## Samples -/

/-- A file and an empty directory. -/
def sampleFiles : Entry :=
  .directory [("note", .file [104, 105]), ("data", .directory [])]

/-- What the state file of a closed device is read against. -/
def sampleReader : Reader :=
  ⟨.initial false, Scope.owner, ⟨⟨"com.sip", "Service"⟩, false⟩⟩

/-- A catalog is saved in a directory that has to be made; below a file it is not saved. -/
theorem save_isAtomic_sample :
    let new : FilePath := ⟨0, ["data", "new", "state"]⟩
    let blocked : FilePath := ⟨0, ["note", "state"]⟩
    let save (path : FilePath) := save .byLength sampleReader.directory path .empty sampleFiles
    (new.parts ≠ [] ∧ (save new).2 = .ok () ∧
        (save new).1.standing? ["data", "new"] = some .directory ∧
        IsAtomicSave sampleReader.directory new .empty sampleFiles (save new)) ∧
      (blocked.parts ≠ [] ∧ (save blocked).2 = .error .obstructed ∧
        IsAtomicSave sampleReader.directory blocked .empty sampleFiles (save blocked)) :=
  ⟨⟨by decide, eq_ok_of_toOption (by decide +kernel), by decide +kernel,
      (save_isAtomic .byLength Yaml.treeOfBytes? sampleReader (by decide) .empty sampleFiles).1⟩,
    ⟨by decide, eq_error_of_fault? (by decide +kernel),
      (save_isAtomic .byLength Yaml.treeOfBytes? sampleReader (by decide) .empty
        sampleFiles).1⟩⟩

/-- A catalog whose only account has capabilities of 4301 digits. -/
def boundlessCatalog : Catalog :=
  { Catalog.empty with
    accounts := [{
      handle := ⟨⟨"com.a", "Service"⟩, "line", some Scope.owner⟩
      capabilities := Number.tenTo 4300 }] }

/-- With nothing in its way, a catalog with an integer that cannot be written is not saved. -/
theorem save_stops_at_boundlessCatalog :
    let path : FilePath := ⟨0, ["data", "state"]⟩
    ¬ sampleFiles.HasFileAbove path.parts ∧
      sampleFiles.standing? path.parts = none ∧
      save .byLength sampleReader.directory path boundlessCatalog sampleFiles =
        (sampleFiles, .error .longInteger) := by
  intro path
  have named : path.parts ≠ [] := by decide
  have unwritable : isWritable sampleReader.directory boundlessCatalog = false := by
    decide +kernel
  have saved := save_of_named .byLength sampleReader.directory boundlessCatalog sampleFiles named
  rw [encode?_eq_none_iff.mpr unwritable] at saved
  have missing : sampleFiles.read path.parts = .error .absent :=
    eq_error_of_fault? (by decide)
  have spec := Entry.read_spec path.parts sampleFiles
  rw [missing] at spec
  exact ⟨spec.2, spec.1, saved⟩

end PhoneAccounts.StateFile
