import PhoneAccounts.Proofs.Yaml.Line
import PhoneAccounts.Yaml.Token.Lexer

/-!
Contract: the steps in which a text is cut into tokens.

Before each token the lexer settles: it skips what stands between tokens, gives up possible
keys that have become stale, and ends the blocks that lie deeper than the place.  Two lexers
that settle alike find the same tokens, so the steps speak of the tokens that are found from a
lexer on, whatever fuel there is above the number of characters.

Owns: `Lexer.settle`, `Lexer.Scans`, a rule for each way in which a lexer settles, and the
changes of a lexer that leave it in its place.

Does not own: the single tokens, and the texts that hold them.
-/

namespace PhoneAccounts.Yaml

namespace Lexer

/-- The lexer at the next token, or at the end of the text. -/
def settle (lexer : Lexer) : Except Fault Lexer :=
  (skipBetween (lexer.cursor.rest.length + 1) lexer.skipMark).dropStale.map fun lexer =>
    lexer.unwind lexer.cursor.column

theorem run_succ (fuel : Nat) (lexer : Lexer) :
    run (fuel + 1) lexer =
      lexer.settle >>= fun lexer =>
        if lexer.cursor.next == endMark then
          lexer.readEnd.map fun lexer => lexer.produced.reverse
        else lexer.readToken >>= run fuel := by
  rw [run, settle]
  cases (skipBetween (lexer.cursor.rest.length + 1) lexer.skipMark).dropStale <;> rfl

/-- With more fuel than there are characters, these are all the tokens. -/
def Scans (lexer : Lexer) (tokens : List Token) : Prop :=
  ∀ fuel, lexer.cursor.rest.length < fuel → run fuel lexer = .ok tokens

/-- The lexer in a block, at a place where a key may begin. -/
def ready (cursor : Cursor) (produced : List Token) (indent : Int) (outer : List Int) : Lexer :=
  ⟨cursor, produced, indent, outer, true, none, []⟩

/-! ## Changes that move nothing -/

theorem cursor_unwind (lexer : Lexer) (column : Int) :
    (lexer.unwind column).cursor = lexer.cursor := by
  unfold unwind
  split <;> rfl

theorem cursor_confirmKey (lexer : Lexer) (key : PossibleKey) :
    (lexer.confirmKey key).cursor = lexer.cursor := by
  unfold confirmKey
  simp only
  split <;> rfl

/-! ## Settling -/

theorem skipBetween_of_token
    {lexer : Lexer}
    {spaces index line column : Nat}
    {tail : List Char}
    (starts : startsToken (tail.headD endMark) = true)
    (here : lexer.cursor = ⟨List.replicate spaces ' ' ++ tail, index, line, column⟩)
    (fuel : Nat) :
    skipBetween (fuel + 1) lexer =
      lexer.moveTo ⟨tail, index + spaces, line, column + spaces⟩ := by
  obtain ⟨noSpace, noBreak, noComment, -⟩ := (startsToken_iff _).mp starts
  have skipped : skipSpaces ⟨List.replicate spaces ' ' ++ tail, index, line, column⟩ =
      ⟨tail, index + spaces, line, column + spaces⟩ :=
    Cursor.skip_spaces rfl noSpace spaces index line column
  have noSkip : skipComment ⟨tail, index + spaces, line, column + spaces⟩ =
      ⟨tail, index + spaces, line, column + spaces⟩ := by
    rw [skipComment, Cursor.next, noComment]
    rfl
  have within : Cursor.lineBreak? ⟨tail, index + spaces, line, column + spaces⟩ = none :=
    Cursor.lineBreak?_of_inline noBreak
  rw [skipBetween, here]
  simp only [skipped, noSkip, within]

theorem skipBetween_of_newLine
    {lexer : Lexer}
    {spaces index line column : Nat}
    {tail : List Char}
    (starts : startsToken (tail.headD endMark) = true)
    (here : lexer.cursor = ⟨'\n' :: (List.replicate spaces ' ' ++ tail), index, line, column⟩)
    (fuel : Nat) :
    skipBetween (fuel + 2) lexer =
      { lexer with
        cursor := ⟨tail, index + 1 + spaces, line + 1, spaces⟩
        keyAllowed := lexer.keyAllowed || !lexer.inFlow } := by
  have noSpaces : skipSpaces
      ⟨'\n' :: (List.replicate spaces ' ' ++ tail), index, line, column⟩ =
        ⟨'\n' :: (List.replicate spaces ' ' ++ tail), index, line, column⟩ := by
    rw [skipSpaces, Cursor.skip, Cursor.span_nil rfl]
  have crossed : Cursor.lineBreak?
      ⟨'\n' :: (List.replicate spaces ' ' ++ tail), index, line, column⟩ =
        some ('\n', ⟨List.replicate spaces ' ' ++ tail, index + 1, line + 1, 0⟩) :=
    Cursor.lineBreak?_cons rfl (by decide) _ _ _ _
  have noComment : skipComment
      ⟨'\n' :: (List.replicate spaces ' ' ++ tail), index, line, column⟩ =
        ⟨'\n' :: (List.replicate spaces ' ' ++ tail), index, line, column⟩ := rfl
  rw [skipBetween, here]
  simp only [noSpaces, noComment, crossed]
  rw [skipBetween_of_token starts rfl, Nat.zero_add]
  rfl

theorem skipMark_of_ne
    {lexer : Lexer}
    (noMark : (lexer.cursor.next == byteOrderMark) = false) :
    lexer.skipMark = lexer := by
  rw [skipMark, noMark, Bool.and_false]
  rfl

theorem next_of_spaces
    {tail : List Char}
    (starts : startsToken (tail.headD endMark) = true)
    (spaces index line column : Nat) :
    (Cursor.next ⟨List.replicate spaces ' ' ++ tail, index, line, column⟩ == byteOrderMark) =
      false := by
  cases spaces with
  | succ spaces => rfl
  | zero => exact ((startsToken_iff _).mp starts).2.2.2

theorem keepFresh_of_fresh
    {cursor : Cursor}
    {candidate : Option PossibleKey}
    (fresh : ∀ key ∈ candidate, isStale cursor key = false) :
    keepFresh cursor candidate = .ok candidate := by
  cases candidate with
  | none => rfl
  | some key =>
      rw [keepFresh, fresh key rfl]
      rfl

theorem dropStale_of_fresh
    {lexer : Lexer}
    (fresh : ∀ candidate ∈ lexer.candidate :: lexer.outerCandidates,
      ∀ key ∈ candidate, isStale lexer.cursor key = false) :
    lexer.dropStale = .ok lexer := by
  have outer : ∀ candidates : List (Option PossibleKey),
      (∀ candidate ∈ candidates, ∀ key ∈ candidate, isStale lexer.cursor key = false) →
        candidates.mapM (keepFresh lexer.cursor) = .ok candidates := by
    intro candidates allFresh
    induction candidates with
    | nil => rfl
    | cons first others inductionHypothesis =>
        rw [List.mapM_cons, keepFresh_of_fresh (allFresh first List.mem_cons_self),
          inductionHypothesis fun candidate member =>
            allFresh candidate (List.mem_cons_of_mem first member)]
        rfl
  rw [dropStale, keepFresh_of_fresh (fresh _ List.mem_cons_self),
    outer _ fun candidate member => fresh candidate (List.mem_cons_of_mem _ member)]
  rfl

/-- The possible key lies on an earlier line and may be given up. -/
def IsOutdated (cursor : Cursor) (candidate : Option PossibleKey) : Prop :=
  ∀ key ∈ candidate, key.isRequired = false ∧ key.line < cursor.line

theorem dropStale_of_outdated
    {lexer : Lexer}
    (outdated : IsOutdated lexer.cursor lexer.candidate)
    (inBlock : lexer.outerCandidates = []) :
    lexer.dropStale = .ok { lexer with candidate := none } := by
  have given : keepFresh lexer.cursor lexer.candidate = .ok none := by
    cases candidate : lexer.candidate with
    | none => rfl
    | some key =>
        obtain ⟨notRequired, earlier⟩ := outdated key candidate
        have stale : isStale lexer.cursor key = true := by
          simp [isStale, Nat.ne_of_lt earlier]
        rw [keepFresh, stale, notRequired]
        rfl
  rw [dropStale, given, inBlock]
  rfl

theorem unwind_of_le
    {lexer : Lexer}
    {column : Int}
    (deep : lexer.inFlow = true ∨ lexer.indent ≤ column) :
    lexer.unwind column = lexer := by
  unfold unwind
  by_cases inFlow : lexer.inFlow = true
  · rw [if_pos inFlow]
  · have noPop : ¬ column < lexer.indent := Int.not_lt.mpr (deep.resolve_left inFlow)
    rw [if_neg inFlow]
    obtain ⟨cursor, produced, indent, outer, allowed, candidate, candidates⟩ := lexer
    cases outer with
    | nil => rfl
    | cons next outer => simp only [popIndents, if_neg noPop]

theorem unwind_blockEnd
    {column indent : Int}
    (shallow : column < indent)
    (cursor : Cursor)
    (produced : List Token)
    (around : Int)
    (outer : List Int) :
    (ready cursor produced indent (around :: outer)).unwind column =
      (ready cursor (.blockEnd :: produced) around outer).unwind column := by
  simp only [unwind, ready, popIndents, if_pos shallow]
  rfl

/-- At a token there is nothing to skip. -/
theorem settle_of_token
    (lexer : Lexer)
    (starts : startsToken lexer.cursor.next = true) :
    lexer.settle = lexer.dropStale.map fun lexer => lexer.unwind lexer.cursor.column := by
  have noSpaces : lexer.cursor = ⟨List.replicate 0 ' ' ++ lexer.cursor.rest, lexer.cursor.index,
      lexer.cursor.line, lexer.cursor.column⟩ := rfl
  have noMark := next_of_spaces starts 0 lexer.cursor.index lexer.cursor.line lexer.cursor.column
  unfold settle
  rw [skipMark_of_ne noMark, skipBetween_of_token starts noSpaces]
  rfl

/-- The lexer has nothing to skip, to give up or to end. -/
theorem settle_eq_self
    {lexer : Lexer}
    (starts : startsToken lexer.cursor.next = true)
    (fresh : ∀ candidate ∈ lexer.candidate :: lexer.outerCandidates,
      ∀ key ∈ candidate, isStale lexer.cursor key = false)
    (deep : lexer.inFlow = true ∨ lexer.indent ≤ lexer.cursor.column) :
    lexer.settle = .ok lexer := by
  rw [settle_of_token lexer starts, dropStale_of_fresh fresh]
  simp only [Except.map, unwind_of_le deep]

/-- The lexer has nothing to do at a token of the innermost block. -/
theorem settle_of_block
    (cursor : Cursor)
    (starts : startsToken cursor.next = true)
    {indent : Int}
    (deep : indent ≤ cursor.column)
    (produced : List Token)
    (outer : List Int)
    (allowed : Bool) :
    settle ⟨cursor, produced, indent, outer, allowed, none, []⟩ =
      .ok ⟨cursor, produced, indent, outer, allowed, none, []⟩ :=
  settle_eq_self starts (by simp) (.inr deep)

theorem settle_of_flow
    (cursor : Cursor)
    (starts : startsToken cursor.next = true)
    {around : Option PossibleKey}
    (fresh : ∀ key ∈ around, isStale cursor key = false)
    (produced : List Token)
    (indent : Int)
    (outer : List Int) :
    settle ⟨cursor, produced, indent, outer, true, none, [around]⟩ =
      .ok ⟨cursor, produced, indent, outer, true, none, [around]⟩ :=
  settle_eq_self starts (by simpa using fresh) (.inl rfl)

/-- Spaces in front of a token make no difference. -/
theorem settle_spaces
    {tail : List Char}
    (starts : startsToken (tail.headD endMark) = true)
    (lexer : Lexer)
    (spaces index line column : Nat) :
    (lexer.moveTo ⟨List.replicate spaces ' ' ++ tail, index, line, column⟩).settle =
      (lexer.moveTo ⟨tail, index + spaces, line, column + spaces⟩).settle := by
  have noMark := next_of_spaces starts spaces index line column
  rw [settle_of_token (lexer.moveTo ⟨tail, index + spaces, line, column + spaces⟩) starts]
  unfold settle
  rw [skipMark_of_ne noMark, skipBetween_of_token starts rfl]
  rfl

/-- A new line of a block may begin with a key. -/
theorem settle_newLine
    {tail : List Char}
    (starts : startsToken (tail.headD endMark) = true)
    {candidate : Option PossibleKey}
    {line : Nat}
    (outdated : ∀ key ∈ candidate, key.isRequired = false ∧ key.line ≤ line)
    (spaces index column : Nat)
    (produced : List Token)
    (indent : Int)
    (outer : List Int)
    (allowed : Bool) :
    settle ⟨⟨'\n' :: (List.replicate spaces ' ' ++ tail), index, line, column⟩, produced, indent,
        outer, allowed, candidate, []⟩ =
      (ready ⟨tail, index + 1 + spaces, line + 1, spaces⟩ produced indent outer).settle := by
  have outdatedBehind :
      IsOutdated ⟨tail, index + 1 + spaces, line + 1, spaces⟩ candidate :=
    fun key member => ⟨(outdated key member).1, Nat.lt_succ_of_le (outdated key member).2⟩
  rw [settle_of_token
    (ready ⟨tail, index + 1 + spaces, line + 1, spaces⟩ produced indent outer) starts,
    dropStale_of_fresh (by simp [ready])]
  unfold settle
  rw [skipMark_of_ne rfl, List.length_cons, skipBetween_of_newLine starts rfl,
    dropStale_of_outdated outdatedBehind rfl]
  cases allowed <;> rfl

/-- An outdated key is given up. -/
theorem settle_outdated
    (cursor : Cursor)
    (starts : startsToken cursor.next = true)
    {candidate : Option PossibleKey}
    (outdated : IsOutdated cursor candidate)
    (produced : List Token)
    (indent : Int)
    (outer : List Int) :
    settle ⟨cursor, produced, indent, outer, true, candidate, []⟩ =
      (ready cursor produced indent outer).settle := by
  rw [settle_of_token (ready cursor produced indent outer) starts,
    settle_of_token ⟨cursor, produced, indent, outer, true, candidate, []⟩ starts,
    dropStale_of_outdated outdated rfl, dropStale_of_fresh (by simp [ready])]
  rfl

/-- A block that lies deeper than the place is ended. -/
theorem settle_blockEnd
    (cursor : Cursor)
    (starts : startsToken cursor.next = true)
    {indent : Int}
    (shallow : cursor.column < indent)
    (produced : List Token)
    (around : Int)
    (outer : List Int) :
    (ready cursor produced indent (around :: outer)).settle =
      (ready cursor (.blockEnd :: produced) around outer).settle := by
  rw [settle_of_token (ready cursor produced indent (around :: outer)) starts,
    settle_of_token (ready cursor (.blockEnd :: produced) around outer) starts,
    dropStale_of_fresh (by simp [ready]), dropStale_of_fresh (by simp [ready])]
  exact congrArg Except.ok (unwind_blockEnd shallow cursor produced around outer)

/-! ## Steps -/

namespace Scans

variable
  {lexer other : Lexer}
  {tokens : List Token}

/-- Two lexers that settle alike find the same tokens. -/
theorem of_settle
    (same : lexer.settle = other.settle)
    (shorter : other.cursor.rest.length ≤ lexer.cursor.rest.length)
    (scans : other.Scans tokens) :
    lexer.Scans tokens := by
  intro fuel enough
  obtain ⟨fuel, rfl⟩ := exists_fuel enough
  have found := scans (fuel + 1) (Nat.lt_of_le_of_lt shorter enough)
  rw [run_succ] at found ⊢
  rw [same]
  exact found

/-- A settled lexer reads a token and goes on. -/
theorem token
    (settled : lexer.settle = .ok lexer)
    (notEnd : (lexer.cursor.next == endMark) = false)
    (read : lexer.readToken = .ok other)
    (shorter : other.cursor.rest.length < lexer.cursor.rest.length)
    (scans : other.Scans tokens) :
    lexer.Scans tokens := by
  intro fuel enough
  obtain ⟨fuel, rfl⟩ := exists_fuel enough
  have found := scans fuel (by omega)
  rw [run_succ, settled]
  show (if lexer.cursor.next == endMark then _ else _) = _
  rw [notEnd, if_neg Bool.false_ne_true, read]
  exact found

end Scans

end Lexer

end PhoneAccounts.Yaml
