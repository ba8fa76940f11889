import PhoneAccounts.Proofs.Yaml.Token.Lexer
import PhoneAccounts.Proofs.Yaml.Token.PlainScalar
import PhoneAccounts.Proofs.Yaml.Token.QuotedScalar

/-!
Contract: the tokens that begin, join and end the lines of a document.

Each rule goes from the tokens that are found behind a piece of a line to those that are found
from the piece on.

Owns: rules for keys, dashes, scalars, empty collections, line ends, block ends and the end of
the text.

Does not own: the lines of a whole document (see `PhoneAccounts.Proofs.Yaml.Layout.Outline`).
-/

namespace PhoneAccounts.Yaml.Lexer

open PhoneAccounts.Text

/-! ## Dispatch -/

/-- Where a plain scalar begins, it is read, unless the place marks the end of a document. -/
theorem readToken_of_plain
    {lexer : Lexer}
    (inBlock : lexer.inFlow = false)
    (begins : beginsPlain false lexer.cursor = true)
    (noMark : lexer.cursor.column = 0 → lexer.cursor.isAtDocumentMark = false) :
    lexer.readToken = lexer.readPlainToken := by
  have noStart : (lexer.cursor.column == 0 && lexer.cursor.isDocumentMark '-') = false := by
    by_cases front : lexer.cursor.column = 0
    · have clear := noMark front
      rw [Cursor.isAtDocumentMark, Bool.or_eq_false_iff] at clear
      rw [clear.1, Bool.and_false]
    · simp [front]
  have noEnd : (lexer.cursor.column == 0 && lexer.cursor.isDocumentMark '.') = false := by
    by_cases front : lexer.cursor.column = 0
    · have clear := noMark front
      rw [Cursor.isAtDocumentMark, Bool.or_eq_false_iff] at clear
      rw [clear.2, Bool.and_false]
    · simp [front]
  have otherwise := begins
  unfold beginsPlain at begins
  unfold readToken
  simp only [inBlock, noStart, noEnd, otherwise]
  simp only [Bool.or_eq_true, Bool.and_eq_true, Bool.not_eq_true', Bool.or_eq_false_iff] at begins
  rcases begins with ⟨-, notReserved⟩ | ⟨notBlank, isDash | isMark⟩
  · have different : ∀ mark ∈ reservedMarks, (lexer.cursor.next == mark) = false := by
      intro mark member
      rw [beq_eq_false_iff_ne]
      rintro rfl
      rw [List.contains_eq_mem, decide_eq_false_iff_not] at notReserved
      exact notReserved member
    simp only [reservedMarks, List.forall_mem_cons] at different
    simp [different, QuoteStyle.mark, apostrophe, doubleQuote]
  · rw [beq_iff_eq] at isDash
    simp [isDash, notBlank, QuoteStyle.mark, apostrophe, doubleQuote]
  · simp only [true_and, beq_iff_eq] at isMark
    rcases isMark with isMark | isMark <;>
      simp [isMark, isMarkHere, notBlank, QuoteStyle.mark, apostrophe, doubleQuote]

/-- Behind marks other than dashes and dots, no document begins or ends. -/
theorem isDocumentMark_of_ne
    (cursor : Cursor)
    (noDash : cursor.next ≠ '-')
    (noDot : cursor.next ≠ '.') :
    cursor.isDocumentMark '-' = false ∧ cursor.isDocumentMark '.' = false := by
  have clear := isAtDocumentMark_of_ne noDash noDot
  rw [Cursor.isAtDocumentMark, Bool.or_eq_false_iff] at clear
  exact clear

theorem readToken_of_colon
    {lexer : Lexer}
    (here : lexer.cursor.next = ':')
    (blank : isBlankOrEnd (lexer.cursor.ahead 1) = true) :
    lexer.readToken = lexer.readValueMark := by
  have clear := isDocumentMark_of_ne lexer.cursor (by simp [here]) (by simp [here])
  simp [readToken, here, clear, isMarkHere, blank]

theorem readToken_of_quote
    {lexer : Lexer}
    {style : QuoteStyle}
    (here : lexer.cursor.next = style.mark) :
    lexer.readToken = lexer.readKeyPart (readQuotedToken style) := by
  cases style with
  | single =>
      have here : lexer.cursor.next = '\x27' := here
      have clear := isDocumentMark_of_ne lexer.cursor (by simp [here]) (by simp [here])
      simp [readToken, here, clear, QuoteStyle.mark, apostrophe]
  | double =>
      have here : lexer.cursor.next = '\x22' := here
      have clear := isDocumentMark_of_ne lexer.cursor (by simp [here]) (by simp [here])
      simp [readToken, here, clear, QuoteStyle.mark, apostrophe, doubleQuote]

/-- The marks of collections inside a line. -/
theorem readToken_of_flow (lexer : Lexer) :
    (lexer.cursor.next = '[' → lexer.readToken = lexer.openFlow .flowSequenceStart) ∧
      (lexer.cursor.next = ']' → lexer.readToken = lexer.closeFlow .flowSequenceEnd) ∧
      (lexer.cursor.next = '\x7b' → lexer.readToken = lexer.openFlow .flowMappingStart) ∧
      (lexer.cursor.next = '\x7d' → lexer.readToken = lexer.closeFlow .flowMappingEnd) := by
  refine ⟨?_, ?_, ?_, ?_⟩
  all_goals
    intro here
    have clear := isDocumentMark_of_ne lexer.cursor (by simp [here]) (by simp [here])
    simp [readToken, here, clear]

theorem readToken_of_dash
    {lexer : Lexer}
    {after : List Char}
    (here : lexer.cursor.rest = '-' :: ' ' :: after) :
    lexer.readToken = lexer.readBlockEntry := by
  obtain ⟨⟨rest, index, line, column⟩, produced, indent, outer, allowed, candidate, candidates⟩ :=
    lexer
  subst here
  have next : Cursor.next ⟨'-' :: ' ' :: after, index, line, column⟩ = '-' := rfl
  have noStart : Cursor.isDocumentMark '-' ⟨'-' :: ' ' :: after, index, line, column⟩ = false := rfl
  have noEnd : Cursor.isDocumentMark '.' ⟨'-' :: ' ' :: after, index, line, column⟩ = false := rfl
  have blankAhead : isBlankOrEnd (Cursor.ahead ⟨'-' :: ' ' :: after, index, line, column⟩ 1) =
      true := rfl
  simp [readToken, next, noStart, noEnd, blankAhead]

theorem readBlockEntry_of_ready
    (cursor : Cursor)
    (produced : List Token)
    (indent : Int)
    (outer : List Int) :
    readBlockEntry (ready cursor produced indent outer) =
      (((beginBlock (ready cursor produced indent outer) .blockSequenceStart).allowKey
        true).dropCandidate).map fun lexer =>
          (lexer.moveTo lexer.cursor.advance).emit .blockEntry := by
  rfl

theorem next_of_beginsPlain
    {cursor : Cursor}
    (begins : beginsPlain false cursor = true) :
    (cursor.next == endMark) = false := by
  rw [beq_eq_false_iff_ne]
  intro isEnd
  rw [beginsPlain, isEnd] at begins
  simp only [Bool.or_eq_true, Bool.and_eq_true] at begins
  rcases begins with notBlank | ⟨-, isMark⟩
  · exact absurd notBlank (by decide)
  · exact absurd isMark (by decide)

/-! ## Possible keys -/

/-- The possible key that a token at a place leaves behind. -/
def keyAt (cursor : Cursor) (produced : List Token) (indent : Int) : PossibleKey where
  tokensBefore := produced.length
  isRequired := decide (indent = cursor.column)
  index := cursor.index
  line := cursor.line
  column := cursor.column

theorem saveCandidate_of_block
    (cursor : Cursor)
    (produced : List Token)
    (indent : Int)
    (outer : List Int)
    (allowed : Bool) :
    saveCandidate ⟨cursor, produced, indent, outer, allowed, none, []⟩ =
      .ok ⟨cursor, produced, indent, outer, allowed,
        if allowed then some (keyAt cursor produced indent) else none, []⟩ := by
  cases allowed <;> rfl

theorem readKeyPart_of_block
    (read : Cursor → Except Fault (Token × Cursor))
    (cursor : Cursor)
    (produced : List Token)
    (indent : Int)
    (outer : List Int)
    (allowed : Bool) :
    readKeyPart ⟨cursor, produced, indent, outer, allowed, none, []⟩ read =
      (read cursor).map fun found =>
        ⟨found.2, found.1 :: produced, indent, outer, false,
          if allowed then some (keyAt cursor produced indent) else none, []⟩ := by
  rw [readKeyPart, saveCandidate_of_block]
  show (read cursor >>= _) = _
  cases read cursor <;> rfl

theorem readPlainToken_of_block
    {cursor : Cursor}
    {indent : Int}
    {scalar : PlainScalar}
    (read : readPlain false (indent + 1) cursor = scalar)
    (produced : List Token)
    (outer : List Int)
    (allowed : Bool) :
    readPlainToken ⟨cursor, produced, indent, outer, allowed, none, []⟩ =
      .ok ⟨scalar.cursor, .scalar scalar.text true :: produced, indent, outer, scalar.crossesLine,
        if allowed then some (keyAt cursor produced indent) else none, []⟩ := by
  subst read
  rw [readPlainToken, saveCandidate_of_block]
  rfl

/-- A token that lies deeper than its block need not be a key. -/
theorem keyAt_notRequired
    (cursor : Cursor)
    {indent : Int}
    (deep : indent < cursor.column)
    (produced : List Token)
    (allowed : Bool) :
    ∀ key ∈ if allowed then some (keyAt cursor produced indent) else none,
      key.isRequired = false ∧ key.line = cursor.line := by
  intro key saved
  cases allowed with
  | false => exact absurd saved (by simp)
  | true =>
      obtain rfl := Option.some.inj saved
      exact ⟨decide_eq_false (Int.ne_of_lt deep), rfl⟩

theorem insertAfter_of_last
    (cursor : Cursor)
    (last : Token)
    (produced inserted : List Token)
    (indent : Int)
    (outer : List Int)
    (allowed : Bool)
    (candidate : Option PossibleKey) :
    insertAfter ⟨cursor, last :: produced, indent, outer, allowed, candidate, []⟩ produced.length
        inserted =
      ⟨cursor, last :: (inserted.reverse ++ produced), indent, outer, allowed, candidate, []⟩ := by
  have late : (last :: produced).length - produced.length = 1 := by
    rw [List.length_cons, Nat.add_sub_cancel_left]
  simp only [insertAfter, late]
  rfl

/-- A key that lies deeper than the block around it begins a mapping. -/
theorem confirmKey_of_deeper
    {indent : Int}
    {start : Cursor}
    (deeper : indent < start.column)
    (cursor : Cursor)
    (scalar : Token)
    (produced : List Token)
    (outer : List Int)
    (allowed : Bool)
    (candidate : Option PossibleKey) :
    confirmKey ⟨cursor, scalar :: produced, indent, outer, allowed, candidate, []⟩
        (keyAt start produced indent) =
      ⟨cursor, scalar :: .key :: .blockMappingStart :: produced, start.column, indent :: outer,
        false, none, []⟩ := by
  simp only [confirmKey, inFlow, isDeeper, keyAt, insertAfter_of_last, pushIndent]
  exact if_pos (decide_eq_true deeper)

theorem confirmKey_of_not_deeper
    {indent : Int}
    {start : Cursor}
    (notDeeper : ¬ indent < start.column)
    (cursor : Cursor)
    (scalar : Token)
    (produced : List Token)
    (outer : List Int)
    (allowed : Bool)
    (candidate : Option PossibleKey) :
    confirmKey ⟨cursor, scalar :: produced, indent, outer, allowed, candidate, []⟩
        (keyAt start produced indent) =
      ⟨cursor, scalar :: .key :: produced, indent, outer, false, none, []⟩ := by
  have stays : ¬ decide (indent < start.column) = true := by
    rw [decide_eq_true_eq]
    exact notDeeper
  simp only [confirmKey, inFlow, isDeeper, keyAt, insertAfter_of_last]
  exact if_neg stays

/-! ## Keys -/

/-- A word that is written in front of a colon. -/
structure IsKeyWord (word : List Char) : Prop where
  nonempty : word ≠ []
  isKey : ∀ char ∈ word, isKeyChar char = true
  short : word.length ≤ longestKey

instance (word : List Char) : Decidable (IsKeyWord word) :=
  decidable_of_iff
    (word ≠ [] ∧ (∀ char ∈ word, isKeyChar char = true) ∧ word.length ≤ longestKey)
    ⟨fun ⟨nonempty, isKey, short⟩ => ⟨nonempty, isKey, short⟩,
      fun keyWord => ⟨keyWord.nonempty, keyWord.isKey, keyWord.short⟩⟩

theorem IsKeyWord.isPlainWord
    {word : List Char}
    (keyWord : IsKeyWord word) :
    IsPlainWord word where
  nonempty := keyWord.nonempty
  kinds := by
    have letters : ∀ char ∈ keyChars,
        RunKind.of char = .word ∧ TextStyle.isWritable char = true := by
      decide
    exact fun char member => letters char (mem_keyChars (keyWord.isKey char member))
  noComment := by
    intro first
    exact absurd (keyWord.isKey '#' (List.mem_of_head? first)) (by decide)
  noKey := by
    intro last
    exact absurd (keyWord.isKey ':' (List.mem_of_getLast? last)) (by decide)

theorem IsKeyWord.begins
    {word : List Char}
    (keyWord : IsKeyWord word)
    (rest : List Char) :
    BeginsToken (word ++ rest) := by
  obtain ⟨first, others, rfl⟩ := List.exists_cons_of_ne_nil keyWord.nonempty
  exact .inr (.inr ⟨first, others ++ rest, rfl, keyWord.isKey first List.mem_cons_self⟩)

/-- A key begins a plain scalar. -/
theorem IsKeyWord.beginsPlain
    {word : List Char}
    (keyWord : IsKeyWord word)
    (rest : List Char)
    (index line column : Nat) :
    Lexer.beginsPlain false ⟨word ++ rest, index, line, column⟩ = true ∧
      (Cursor.next ⟨word ++ rest, index, line, column⟩ == endMark) = false := by
  have letters : ∀ char ∈ keyChars,
      (!(isBlankOrEnd char || reservedMarks.contains char)) = true ∧
        (char == endMark) = false := by
    decide
  obtain ⟨first, others, rfl⟩ := List.exists_cons_of_ne_nil keyWord.nonempty
  obtain ⟨isPlain, notEnd⟩ := letters first (mem_keyChars (keyWord.isKey first List.mem_cons_self))
  have next : Cursor.next ⟨first :: others ++ rest, index, line, column⟩ = first := rfl
  rw [Lexer.beginsPlain, next]
  simp only [isPlain, Bool.true_or, true_and]
  exact notEnd

namespace Scans

variable
  {produced : List Token}
  {indent : Int}
  {outer : List Int}
  {tokens : List Token}
  {index line column : Nat}

/-- The colon behind a possible key. -/
theorem colon
    {after : List Char}
    {possible : PossibleKey}
    {allowed : Bool}
    (blank : isBlankOrEnd (after.headD endMark) = true)
    (fresh : isStale ⟨':' :: after, index, line, column⟩ possible = false)
    (deep : indent ≤ column)
    (scans : Scans
      (((confirmKey ⟨⟨':' :: after, index, line, column⟩, produced, indent, outer, allowed,
        some possible, []⟩ possible).moveTo ⟨after, index + 1, line, column + 1⟩).emit .value)
      tokens) :
    Scans ⟨⟨':' :: after, index, line, column⟩, produced, indent, outer, allowed, some possible, []⟩
      tokens := by
  have settled : settle ⟨⟨':' :: after, index, line, column⟩, produced, indent, outer, allowed,
      some possible, []⟩ = .ok ⟨⟨':' :: after, index, line, column⟩, produced, indent, outer, allowed,
        some possible, []⟩ := settle_eq_self rfl (by simpa using fresh) (.inr deep)
  have moved : Cursor.advance ⟨':' :: after, index, line, column⟩ =
      ⟨after, index + 1, line, column + 1⟩ := Cursor.advance_inline (by decide) _ _ _ _
  refine token settled rfl ?_ (Nat.lt_succ_self _) scans
  rw [readToken_of_colon rfl (by exact blank)]
  show Except.ok (Lexer.emit (Lexer.moveTo (confirmKey _ _)
    (Cursor.advance (confirmKey _ _).cursor)) .value) = _
  rw [cursor_confirmKey, moved]

/-- A key and its colon; what the colon confirms is put in before the key. -/
theorem key
    {word after : List Char}
    (keyWord : IsKeyWord word)
    (blank : isBlankOrEnd (after.headD endMark) = true)
    (deep : indent ≤ column)
    (scans : Scans
      (((confirmKey
        ⟨⟨':' :: after, index + word.length, line, column + word.length⟩,
          .scalar word true :: produced, indent, outer, false,
          some (keyAt ⟨word ++ ':' :: after, index, line, column⟩ produced indent), []⟩
        (keyAt ⟨word ++ ':' :: after, index, line, column⟩ produced indent)).moveTo
          ⟨after, index + word.length + 1, line, column + word.length + 1⟩).emit .value)
      tokens) :
    Scans (ready ⟨word ++ ':' :: after, index, line, column⟩ produced indent outer) tokens := by
  have starts := (keyWord.begins (':' :: after)).startsToken
  have settled := settle_of_block ⟨word ++ ':' :: after, index, line, column⟩ starts deep produced
    outer true
  have noMark := isAtDocumentMark_of_line (keyWord.begins (':' :: after)) 0 index line column
  have read := readPlain_key keyWord.isPlainWord blank (indent + 1) index line column
  have fresh : isStale ⟨':' :: after, index + word.length, line, column + word.length⟩
      (keyAt ⟨word ++ ':' :: after, index, line, column⟩ produced indent) = false := by
    have short := keyWord.short
    simp only [isStale, keyAt, bne_self_eq_false, Bool.false_or, Nat.add_sub_cancel_left]
    exact decide_eq_false (Nat.not_lt.mpr short)
  obtain ⟨isPlain, notEnd⟩ := keyWord.beginsPlain (':' :: after) index line column
  have shorter : (':' :: after).length < (word ++ ':' :: after).length := by
    have some := List.length_pos_iff.mpr keyWord.nonempty
    rw [List.length_append]
    omega
  refine token settled notEnd ?_ shorter (colon blank fresh (by omega) scans)
  rw [readToken_of_plain rfl isPlain fun _ => noMark, ready, readPlainToken_of_block read]
  rfl

/-- The first key of a mapping, which lies deeper than the block around it. -/
theorem firstKey
    {word after : List Char}
    (keyWord : IsKeyWord word)
    (blank : isBlankOrEnd (after.headD endMark) = true)
    (deeper : indent < column)
    (scans : Scans
      ⟨⟨after, index + word.length + 1, line, column + word.length + 1⟩,
        .value :: .scalar word true :: .key :: .blockMappingStart :: produced, column,
        indent :: outer, false, none, []⟩ tokens) :
    Scans (ready ⟨word ++ ':' :: after, index, line, column⟩ produced indent outer) tokens := by
  refine key keyWord blank (Int.le_of_lt deeper) ?_
  rw [confirmKey_of_deeper deeper]
  exact scans

/-- A further key of a mapping. -/
theorem nextKey
    {word after : List Char}
    (keyWord : IsKeyWord word)
    (blank : isBlankOrEnd (after.headD endMark) = true)
    (scans : Scans
      ⟨⟨after, index + word.length + 1, line, column + word.length + 1⟩,
        .value :: .scalar word true :: .key :: produced, column, outer, false, none, []⟩ tokens) :
    Scans (ready ⟨word ++ ':' :: after, index, line, column⟩ produced column outer) tokens := by
  refine key keyWord blank (Int.le_refl _) ?_
  have notDeeper : ¬ (column : Int) < (⟨word ++ ':' :: after, index, line, column⟩ : Cursor).column :=
    Int.lt_irrefl _
  rw [confirmKey_of_not_deeper notDeeper]
  exact scans

/-! ## Dashes -/

/-- The dash of the first item of a sequence that lies deeper than the block around it. -/
theorem firstDash
    {after : List Char}
    (deeper : indent < column)
    (scans : Scans
      (ready ⟨' ' :: after, index + 1, line, column + 1⟩
        (.blockEntry :: .blockSequenceStart :: produced) column (indent :: outer)) tokens) :
    Scans (ready ⟨'-' :: ' ' :: after, index, line, column⟩ produced indent outer) tokens := by
  have settled := settle_of_block ⟨'-' :: ' ' :: after, index, line, column⟩ rfl
    (Int.le_of_lt deeper) produced outer true
  have begun : beginBlock (ready ⟨'-' :: ' ' :: after, index, line, column⟩ produced indent outer)
      .blockSequenceStart =
        ready ⟨'-' :: ' ' :: after, index, line, column⟩ (.blockSequenceStart :: produced) column
          (indent :: outer) := if_pos (decide_eq_true deeper)
  refine token settled rfl ?_ (Nat.lt_succ_self _) scans
  rw [readToken_of_dash rfl, readBlockEntry_of_ready, begun]
  rfl

/-- The dash of a further item, or of a sequence that is not indented. -/
theorem nextDash
    {after : List Char}
    (scans : Scans
      (ready ⟨' ' :: after, index + 1, line, column + 1⟩ (.blockEntry :: produced) column outer)
      tokens) :
    Scans (ready ⟨'-' :: ' ' :: after, index, line, column⟩ produced column outer) tokens := by
  have settled := settle_of_block ⟨'-' :: ' ' :: after, index, line, column⟩ rfl
    (Int.le_refl (column : Int)) produced outer true
  have begun : beginBlock (ready ⟨'-' :: ' ' :: after, index, line, column⟩ produced column outer)
      .blockSequenceStart =
        ready ⟨'-' :: ' ' :: after, index, line, column⟩ produced column outer :=
    if_neg fun deeper => Int.lt_irrefl _ (of_decide_eq_true deeper)
  refine token settled rfl ?_ (Nat.lt_succ_self _) scans
  rw [readToken_of_dash rfl, readBlockEntry_of_ready, begun]
  rfl

/-! ## Lines -/

/-- Spaces in front of a token. -/
theorem spaces
    {tail : List Char}
    (starts : startsToken (tail.headD endMark) = true)
    {count : Nat}
    {allowed : Bool}
    (scans : Scans
      ⟨⟨tail, index + count, line, column + count⟩, produced, indent, outer, allowed, none, []⟩
      tokens) :
    Scans
      ⟨⟨List.replicate count ' ' ++ tail, index, line, column⟩, produced, indent, outer, allowed,
        none, []⟩ tokens :=
  of_settle
    (settle_spaces starts ⟨⟨tail, index + count, line, column + count⟩, produced, indent, outer,
      allowed, none, []⟩ count index line column)
    (List.suffix_append _ _).length_le scans

end Scans

/-- The lines that begin here stand at most so deep, and these are the tokens that are found
from their first token on, wherever it is. -/
def ScansLine
    (most : Nat)
    (text : List Char)
    (produced : List Token)
    (indent : Int)
    (outer : List Int)
    (tokens : List Token) :
    Prop :=
  ∃ depth tail, depth ≤ most ∧ text = List.replicate depth ' ' ++ tail ∧ BeginsToken tail ∧
    ∀ index line, Scans (ready ⟨tail, index, line, depth⟩ produced indent outer) tokens

namespace ScansLine

variable
  {most : Nat}
  {text : List Char}
  {produced : List Token}
  {indent : Int}
  {outer : List Int}
  {tokens : List Token}

theorem mono
    {least : Nat}
    (scans : ScansLine least text produced indent outer tokens)
    (deeper : least ≤ most) :
    ScansLine most text produced indent outer tokens := by
  obtain ⟨depth, tail, shallow, split, begins, found⟩ := scans
  exact ⟨depth, tail, Nat.le_trans shallow deeper, split, begins, found⟩

/-- The end of a line, behind which no key is possible any more. -/
theorem newLine
    (scans : ScansLine most text produced indent outer tokens)
    (index column : Nat)
    (allowed : Bool)
    {line : Nat}
    {candidate : Option PossibleKey}
    (outdated : ∀ key ∈ candidate, key.isRequired = false ∧ key.line ≤ line) :
    Scans ⟨⟨'\n' :: text, index, line, column⟩, produced, indent, outer, allowed, candidate, []⟩
      tokens := by
  obtain ⟨depth, tail, -, rfl, begins, found⟩ := scans
  have shorter : tail.length ≤ ('\n' :: (List.replicate depth ' ' ++ tail)).length :=
    ((List.suffix_append _ _).trans (List.suffix_cons _ _)).length_le
  exact Scans.of_settle (settle_newLine begins.startsToken outdated depth index column produced
    indent outer allowed) shorter (found _ _)

/-- The end of a block, before lines that lie less deep. -/
theorem blockEnd
    {around : Int}
    (scans : ScansLine most text (.blockEnd :: produced) around outer tokens)
    (shallow : most < indent) :
    ScansLine most text produced indent (around :: outer) tokens := by
  obtain ⟨depth, tail, shallower, split, begins, found⟩ := scans
  refine ⟨depth, tail, shallower, split, begins, fun index line => ?_⟩
  have ends : (depth : Int) < indent := by omega
  exact Scans.of_settle
    (settle_blockEnd ⟨tail, index, line, depth⟩ begins.startsToken ends produced around
      outer) (Nat.le_refl _) (found index line)

/-- The end of the text, which ends the one block that is left. -/
theorem streamEnd :
    ScansLine most [] produced 0 [-1] ((.streamEnd :: .blockEnd :: produced).reverse) := by
  refine ⟨0, [], Nat.zero_le _, rfl, .inl rfl, fun index line fuel enough => ?_⟩
  obtain ⟨fuel, rfl⟩ := exists_fuel enough
  have settled := settle_of_block ⟨[], index, line, 0⟩ rfl (Int.le_refl 0) produced [-1] true
  rw [run_succ, ready, settled]
  rfl

/-! ## Scalars -/

/-- A text without quotes, which ends with its line. -/
theorem plain
    {runs : List (RunKind × List Char)}
    (arePlain : ArePlain runs)
    {depth written : Nat}
    (scans : ScansLine most text (.scalar (runs.flatMap Prod.snd) true :: produced) indent outer
      tokens)
    (shallow : most ≤ indent)
    (deep : indent < depth)
    {index line column : Nat}
    (deeper : indent < column)
    (begins : beginsPlain false
      ⟨plainRuns depth written runs ++ '\n' :: text, index, line, column⟩ = true)
    {allowed : Bool} :
    Scans
      ⟨⟨plainRuns depth written runs ++ '\n' :: text, index, line, column⟩, produced, indent,
        outer, allowed, none, []⟩ tokens := by
  obtain ⟨front, tail, notDeep, rfl, beginsTail, found⟩ := scans
  obtain ⟨index', line', further, read⟩ := readPlain_plainRuns arePlain depth front
    (indent + 1) (by omega) (by omega) (by omega) beginsTail written
    index line column (by omega)
  have starts := startsToken_plainRuns arePlain depth written
    ('\n' :: (List.replicate front ' ' ++ tail))
  have settled := settle_of_block ⟨plainRuns depth written runs ++
    '\n' :: (List.replicate front ' ' ++ tail), index, line, column⟩ starts (Int.le_of_lt deeper)
    produced outer allowed
  have notEnd := next_of_beginsPlain begins
  have shorter : tail.length <
      (plainRuns depth written runs ++ '\n' :: (List.replicate front ' ' ++ tail)).length := by
    simp only [List.length_append, List.length_cons]
    omega
  have notRequired := keyAt_notRequired ⟨plainRuns depth written runs ++
    '\n' :: (List.replicate front ' ' ++ tail), index, line, column⟩ deeper produced allowed
  have behind := Scans.of_settle
    (settle_outdated ⟨tail, index', line', front⟩ beginsTail.startsToken
      (fun key member => ⟨(notRequired key member).1, (notRequired key member).2 ▸ further⟩)
      (.scalar (runs.flatMap Prod.snd) true :: produced) indent outer)
    (Nat.le_refl _) (found index' line')
  refine Scans.token settled notEnd ?_ shorter behind
  rw [readToken_of_plain rfl begins (by intro front; simp only at front; omega),
    readPlainToken_of_block read]

/-- A text between quotes, which ends with its line. -/
theorem quoted
    {style : QuoteStyle}
    {inside chars : List Char}
    (readsAs : ReadsAs style ('\n' :: text) inside chars)
    (scans : ScansLine most text (.scalar chars false :: produced) indent outer tokens)
    {index line column : Nat}
    (deeper : indent < column)
    {allowed : Bool} :
    Scans
      ⟨⟨style.mark :: inside ++ style.mark :: '\n' :: text, index, line, column⟩, produced, indent,
        outer, allowed, none, []⟩ tokens := by
  obtain ⟨index', line', column', further, read⟩ := readsAs [] (index + 1) line (column + 1)
  have settled := settle_of_block ⟨style.mark :: inside ++ style.mark :: '\n' :: text, index, line,
    column⟩ (by cases style <;> rfl) (Int.le_of_lt deeper) produced outer allowed
  have notEnd : (Cursor.next ⟨style.mark :: inside ++ style.mark :: '\n' :: text, index, line,
      column⟩ == endMark) = false := by cases style <;> rfl
  have shorter : ('\n' :: text).length < (style.mark :: inside ++ style.mark :: '\n' :: text).length := by
    simp only [List.length_append, List.length_cons]
    omega
  have notRequired := keyAt_notRequired ⟨style.mark :: inside ++
    style.mark :: '\n' :: text, index, line, column⟩ deeper produced allowed
  have behind := scans.newLine index' column' false
    fun key member => ⟨(notRequired key member).1,
      Nat.le_trans (Nat.le_of_eq (notRequired key member).2) further⟩
  have inline : isInline style.mark = true := by cases style <;> decide
  have moved := Cursor.advance_inline inline (inside ++ style.mark :: '\n' :: text) index line column
  have found : readQuoted style
      ⟨style.mark :: (inside ++ style.mark :: '\n' :: text), index, line, column⟩ =
        .ok (chars, ⟨'\n' :: text, index', line', column'⟩) := by
    rw [readQuoted, moved]
    exact read _ (Nat.lt_of_succ_lt (Nat.lt_succ_self _))
  refine Scans.token settled notEnd ?_ shorter behind
  rw [readToken_of_quote rfl, List.cons_append, readKeyPart_of_block, readQuotedToken, found]
  rfl

/-! ## Empty collections -/

/-- An empty collection, which ends with its line. -/
theorem emptyCollection
    {first last : Char}
    {start finish : Token}
    (marks : ∀ mark ∈ [first, last], startsToken mark = true ∧ (mark == endMark) = false ∧
      isInline mark = true)
    (opens : ∀ lexer : Lexer, lexer.cursor.next = first → lexer.readToken = lexer.openFlow start)
    (closes : ∀ lexer : Lexer, lexer.cursor.next = last → lexer.readToken = lexer.closeFlow finish)
    (scans : ScansLine most text (finish :: start :: produced) indent outer tokens)
    {index line column : Nat}
    (deeper : indent < column)
    {allowed : Bool} :
    Scans
      ⟨⟨first :: last :: '\n' :: text, index, line, column⟩, produced, indent, outer, allowed,
        none, []⟩ tokens := by
  simp only [List.forall_mem_cons, List.not_mem_nil, false_implies, implies_true, and_true] at marks
  obtain ⟨⟨firstStarts, firstNotEnd, firstInline⟩, lastStarts, lastNotEnd, lastInline⟩ := marks
  have notRequired := keyAt_notRequired ⟨first :: last :: '\n' :: text, index, line,
    column⟩ deeper produced allowed
  have behind := scans.newLine (index + 2) (column + 2) false
    fun key member => ⟨(notRequired key member).1, Nat.le_of_eq (notRequired key member).2⟩
  have settled := settle_of_block ⟨first :: last :: '\n' :: text, index, line, column⟩ firstStarts
    (Int.le_of_lt deeper) produced outer allowed
  have opened := Cursor.advance_inline firstInline (last :: '\n' :: text) index line column
  have closed := Cursor.advance_inline lastInline ('\n' :: text) (index + 1) line (column + 1)
  -- The possible key of the block around is kept until the collection ends.
  have fresh : ∀ key ∈ if allowed then
      some (keyAt ⟨first :: last :: '\n' :: text, index, line, column⟩ produced indent) else none,
        isStale ⟨last :: '\n' :: text, index + 1, line, column + 1⟩ key = false := by
    cases allowed <;> simp [isStale, keyAt, longestKey]
  have inside := settle_of_flow ⟨last :: '\n' :: text, index + 1, line, column + 1⟩ lastStarts fresh
    (start :: produced) indent outer
  refine Scans.token settled firstNotEnd ?_ (Nat.lt_succ_self _)
    (Scans.token inside lastNotEnd ?_ (Nat.lt_succ_self _) behind)
  · rw [opens _ rfl, openFlow, saveCandidate_of_block]
    show Except.ok (Lexer.emit (Lexer.moveTo _ (Cursor.advance _)) start) = _
    rw [opened]
    rfl
  · rw [closes _ rfl]
    show Except.ok (Lexer.emit (Lexer.moveTo _ (Cursor.advance _)) finish) = _
    rw [closed]
    rfl

end ScansLine

end PhoneAccounts.Yaml.Lexer
