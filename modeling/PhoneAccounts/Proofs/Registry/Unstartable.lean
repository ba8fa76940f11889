import PhoneAccounts.Proofs.Registry.Convergence
import PhoneAccounts.Proofs.StateFile.Wording
import PhoneAccounts.Proofs.Yaml.Impossible

/-!
Contract: which files stop a registry from starting.

A file is corrupt when its grammar is broken or when it holds no catalog, and then the
registry starts with nothing.  Three things are no matter of that and stop the start: a part of
the document that is marked as a value and names none, a fault whose words would show an integer
that cannot be written, and such an integer in a catalog that has to be written again.

Owns: `StopsLoad`, `CannotRewrite`, and the outcome of a start on any file, whatever parses it.

Does not own: the outcome of a loading (see `PhoneAccounts.Proofs.StateFile.Saving`), and what a
file that can be loaded holds (see `PhoneAccounts.Proofs.StateFile.Decoded`).
-/

namespace PhoneAccounts

namespace StateFile

/-- What of a file stops its loading: a fault of the markup that is none of the grammar, or the
fault of a field that cannot be put into words. -/
inductive StopsLoad (parser : Yaml.Parser) (reader : Reader) (bytes : List UInt8) : Stop → Prop
  | markup {fault : Yaml.Fault}
      (unread : parser bytes = .error fault)
      (allowed : fault ≠ .unparseable) :
      StopsLoad parser reader bytes (.markup fault)
  | message {tree : Tree} {fault : FieldFault}
      (parsed : parser bytes = .ok tree)
      (faulty : reader.decodeTree tree = .error fault)
      (long : fault.isWritable = false) :
      StopsLoad parser reader bytes .longInteger

theorem isStopped_decodeWith_iff
    {parser : Yaml.Parser}
    {reader : Reader}
    {bytes : List UInt8}
    {stop : Stop} :
    IsStopped stop (reader.decodeWith parser bytes) ↔ StopsLoad parser reader bytes stop := by
  constructor
  · rintro ⟨stops, allowed⟩
    unfold Reader.decodeWith at stops
    cases parsed : parser bytes with
    | error fault =>
        rw [parsed] at stops
        cases stop with
        | markup same =>
            obtain rfl : fault = same := by simpa [Stop.fault] using stops
            exact .markup parsed fun grammar => allowed (congrArg Stop.markup grammar)
        | longInteger => simp [Stop.fault] at stops
    | ok tree =>
        simp only [parsed, Reader.decodeDocument] at stops
        cases decoded : reader.decodeTree tree with
        | ok catalog => simp [decoded] at stops
        | error fault =>
            rw [decoded] at stops
            cases writable : fault.isWritable with
            | true => cases stop <;> simp [writable, Stop.fault] at stops
            | false =>
                cases stop with
                | markup other => simp [writable, Stop.fault] at stops
                | longInteger => exact .message parsed decoded writable
  · intro stops
    cases stops with
    | markup unread allowed =>
        refine ⟨?_, fun grammar => allowed (Stop.markup.inj grammar)⟩
        rw [Reader.decodeWith, unread]
        rfl
    | message parsed faulty long =>
        refine ⟨?_, fun same => by cases same⟩
        rw [Reader.decodeWith, parsed]
        simp only [Reader.decodeDocument, faulty, long]
        rfl

/-- The loading is stopped by what stands in the file, and by nothing else. -/
theorem loadWith_eq_error_iff
    {parser : Yaml.Parser}
    {reader : Reader}
    {path : FilePath}
    {files : Entry}
    {stop : Stop} :
    loadWith parser reader path files = .error stop ↔
      ∃ bytes, files.standing? path.parts = some (.file bytes) ∧
        StopsLoad parser reader bytes stop := by
  simp only [(findsWhatStands parser reader path files).stopped stop, isStopped_decodeWith_iff]

end StateFile

namespace Registry

open StateFile (StopsLoad)

/-- The file holds a catalog that has to be corrected, and what it is corrected to cannot be
written out. -/
def CannotRewrite
    (parser : Yaml.Parser)
    (device : Device)
    (processScope : Scope)
    (bytes : List UInt8) :
    Prop :=
  ∃ tree stored,
    parser bytes = .ok tree ∧
      (startReader device processScope).decodeTree tree = .ok (some stored) ∧
      Startup.MustRepair device.directory stored ∧
      StateFile.isWritable device.directory (Startup.normalise device.directory stored) = false

/-- What a file does to a start, whatever parses it.

The loading ends well unless the markup of the file has a fault that is none of the grammar, or the
fault of a field cannot be put into words; and what stops the loading stops the start.  The start is
stopped by that, and by a catalog that has to be written again and cannot be.  On every other device
it ends with a registry: one on the corrected catalog if a catalog was loaded, and else an empty one
that leaves the device as it was. -/
theorem start_ends_unless_stopped
    (parser : Yaml.Parser)
    (device : Device)
    (processScope : Scope) :
    let reader := startReader device processScope
    let path := device.settings.stateFile
    let loading := StateFile.loadWith parser reader path device.files
    (EndsWell loading ↔
      ∀ bytes stop, device.files.standing? path.parts = some (.file bytes) →
        ¬ StopsLoad parser reader bytes stop) ∧
    (∀ stop, loading = .error stop → startWith parser device processScope = .error stop) ∧
    (∀ stop, startWith parser device processScope = .error stop ↔
      ∃ bytes, device.files.standing? path.parts = some (.file bytes) ∧
        (StopsLoad parser reader bytes stop ∨
          stop = .longInteger ∧ CannotRewrite parser device processScope bytes)) ∧
    ∀ registry after, startWith parser device processScope = .ok (registry, after) →
      ∃ loaded, loading = .ok loaded ∧
        (∀ stored, loaded = .loaded stored →
          registry.catalog = Startup.normalise device.directory stored) ∧
        (loaded.catalog? = none → registry.catalog = .empty ∧ after = device) := by
  intro reader path loading
  refine ⟨?_, fun stop => startWith_of_stopped, fun stop => ?_, ?_⟩
  · constructor
    · rintro ⟨loaded, found⟩ bytes stop stands stops
      exact nomatch found.symm.trans (StateFile.loadWith_eq_error_iff.mpr ⟨bytes, stands, stops⟩)
    · intro free
      cases outcome : loading with
      | ok loaded => exact ⟨loaded, rfl⟩
      | error stop =>
          obtain ⟨bytes, stands, stops⟩ := StateFile.loadWith_eq_error_iff.mp outcome
          exact absurd stops (free bytes stop stands)
  · rw [startWith_eq_error_iff, StateFile.loadWith_eq_error_iff]
    constructor
    · rintro (⟨bytes, stands, stops⟩ | ⟨loaded, found, blocked, rfl⟩)
      · exact ⟨bytes, stands, .inl stops⟩
      · obtain ⟨stored, rfl, repairs, long⟩ := isBlocked_iff.mp blocked
        obtain ⟨bytes, stands, decoded⟩ :=
          ((StateFile.findsWhatStands parser reader path device.files).loaded stored).mp found
        obtain ⟨tree, parsed, decoded⟩ := StateFile.decodeWith_eq_ok_iff.mp decoded
        exact ⟨bytes, stands, .inr ⟨rfl, tree, stored, parsed, decoded, repairs, long⟩⟩
    · rintro ⟨bytes, stands, stops | ⟨rfl, tree, stored, parsed, decoded, repairs, long⟩⟩
      · exact .inl ⟨bytes, stands, stops⟩
      · refine .inr ⟨.loaded stored, ?_, isBlocked_iff.mpr ⟨stored, rfl, repairs, long⟩, rfl⟩
        exact ((StateFile.findsWhatStands parser reader path device.files).loaded stored).mpr
          ⟨bytes, stands, StateFile.decodeWith_eq_ok_iff.mpr ⟨tree, parsed, decoded⟩⟩
  · intro registry after starts
    obtain ⟨loaded, found, -, same⟩ := load_of_startWith_eq_ok starts
    obtain ⟨rfl, rfl⟩ := Prod.mk.inj same
    refine ⟨loaded, found, ?_, ?_⟩
    · rintro stored rfl
      rfl
    · intro unloaded
      cases loaded with
      | loaded stored => exact nomatch unloaded
      | absent => exact ⟨rfl, rfl⟩
      | corrupt => exact ⟨rfl, rfl⟩

/-- The own parser gives a fault that stops a start only for an impossible part of the document. -/
theorem hasImpossiblePart_of_stopped
    {device : Device}
    {processScope : Scope}
    {fault : Yaml.Fault}
    (stops : start device processScope = .error (.markup fault)) :
    ∃ bytes chars, device.files.standing? device.settings.stateFile.parts = some (.file bytes) ∧
      Yaml.documentChars? bytes = .ok chars ∧ Yaml.HasImpossiblePart chars fault := by
  rcases startWith_eq_error_iff.mp stops with stops | ⟨loaded, -, -, other⟩
  · obtain ⟨bytes, stands, stops⟩ := StateFile.loadWith_eq_error_iff.mp stops
    cases stops with
    | markup unread allowed =>
        obtain ⟨chars, decoded, impossible⟩ := Yaml.fault_of_treeOfBytes? unread allowed
        exact ⟨bytes, chars, stands, decoded, impossible⟩
  · exact nomatch other

/-! ## Samples -/

/-- A state file whose only flaw is a date that does not exist, under a key that nothing
reads. -/
def impossibleDateFile : List UInt8 :=
  Text.Utf8.encode "phone_account_registrar_state: \x7baccounts: [], note: 2020-02-30\x7d\n".toList

/-- The loading stops at the date. -/
theorem load_impossibleDate :
    StateFile.load (startReader (deviceWith impossibleDateFile) Scope.owner)
      (deviceWith impossibleDateFile).settings.stateFile (deviceWith impossibleDateFile).files =
      .error (.markup .impossibleValue) :=
  eq_error_of_fault? (by decide +kernel)

/-- The file counts neither as absent nor as corrupt, and no registry is started. -/
theorem impossibleDate_stopsStart :
    StateFile.load (startReader (deviceWith impossibleDateFile) Scope.owner)
        (deviceWith impossibleDateFile).settings.stateFile (deviceWith impossibleDateFile).files =
        .error (.markup .impossibleValue) ∧
      start (deviceWith impossibleDateFile) Scope.owner = .error (.markup .impossibleValue) :=
  ⟨load_impossibleDate, startWith_of_stopped load_impossibleDate⟩

/-- A start is stopped by the date, by a flag that no message can show, and by an integer that has
to be written again and cannot be. -/
theorem sampleFiles_stopStart :
    start (deviceWith impossibleDateFile) Scope.owner = .error (.markup .impossibleValue) ∧
      startWith (fun _ => .ok StateFile.boundlessFlag) (deviceWith []) Scope.owner =
        .error .longInteger ∧
      startWith (fun _ => .ok boundlessTree) (deviceWith []) Scope.owner = .error .longInteger := by
  have dated : Yaml.treeOfBytes? impossibleDateFile = .error .impossibleValue :=
    eq_error_of_fault? (by decide +kernel)
  have flagged : (startReader (deviceWith []) Scope.owner).decodeTree StateFile.boundlessFlag =
      .error (.noFlag StateFile.Key.enabled (.integer (Number.tenTo 4300))) :=
    rfl
  have long : (StateFile.FieldFault.noFlag StateFile.Key.enabled
      (.integer (Number.tenTo 4300))).isWritable = false := by
    decide +kernel
  have unordered : CannotRewrite (fun _ => .ok boundlessTree) (deviceWith []) Scope.owner [] :=
    ⟨boundlessTree, boundlessCatalog, rfl, eq_ok_of_toOption (by decide +kernel),
      by decide +kernel, by decide +kernel⟩
  exact ⟨((start_ends_unless_stopped Yaml.treeOfBytes? _ _).2.2.1 _).mpr
      ⟨impossibleDateFile, rfl, .inl (.markup dated nofun)⟩,
    ((start_ends_unless_stopped _ _ _).2.2.1 _).mpr ⟨[], rfl, .inl (.message rfl flagged long)⟩,
    ((start_ends_unless_stopped _ _ _).2.2.1 _).mpr ⟨[], rfl, .inr ⟨rfl, unordered⟩⟩⟩

end Registry

end PhoneAccounts
