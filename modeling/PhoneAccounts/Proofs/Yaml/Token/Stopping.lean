import PhoneAccounts.Proofs.Yaml.Token.Forward
import PhoneAccounts.Proofs.Yaml.Token.Lexer

/-!
Contract: what stops the search for tokens.

Owns: `Lexer.Forward`, that every step of the lexer obeys it, and why a text has no tokens.

Does not own: what the tokens mean together, and what scalars mean.
-/

namespace PhoneAccounts.Yaml

namespace Lexer

/-- A step of the lexer goes forward from where the lexer stands. -/
def Forward (lexer : Lexer) (result : Except Fault Lexer) : Prop :=
  ReadsForward lexer.cursor Lexer.cursor result

namespace Forward

/-- The step moves nothing. -/
theorem stays {lexer changed : Lexer} (same : changed.cursor = lexer.cursor) :
    lexer.Forward (.ok changed) :=
  ReadsForward.stays same

/-- A step after a change that moves nothing. -/
theorem of_same
    {lexer changed : Lexer}
    {result : Except Fault Lexer}
    (same : changed.cursor = lexer.cursor)
    (forward : changed.Forward result) :
    lexer.Forward result := by
  rwa [Forward, same] at forward

end Forward

/-! ## Steps that do not move -/

theorem keepFresh_forward (cursor : Cursor) (candidate : Option PossibleKey) :
    ReadsForward cursor (fun _ => cursor) (keepFresh cursor candidate) := by
  cases candidate with
  | none => exact .stays rfl
  | some key =>
      rw [keepFresh]
      exact .ite (fun _ => .ite (fun _ => .unparseable) fun _ => .stays rfl) fun _ => .stays rfl

theorem keepAllFresh_forward (cursor : Cursor) (candidates : List (Option PossibleKey)) :
    ReadsForward cursor (fun _ => cursor) (candidates.mapM (keepFresh cursor)) := by
  induction candidates with
  | nil => exact .stays rfl
  | cons first others inductionHypothesis =>
      rw [List.mapM_cons]
      exact .bind (keepFresh_forward cursor first) fun _ =>
        .bind inductionHypothesis fun _ => .stays rfl

theorem dropStale_forward (lexer : Lexer) : lexer.Forward lexer.dropStale := by
  unfold dropStale
  exact .bind (keepFresh_forward _ _) fun _ =>
    .bind (keepAllFresh_forward _ _) fun _ => Forward.stays rfl

theorem dropCandidate_forward (lexer : Lexer) : lexer.Forward lexer.dropCandidate := by
  unfold dropCandidate
  split
  · exact .ite (fun _ => .unparseable) fun _ => Forward.stays rfl
  · exact Forward.stays rfl

theorem saveCandidate_forward (lexer : Lexer) : lexer.Forward lexer.saveCandidate := by
  unfold saveCandidate
  exact .ite (fun _ => .bind (dropCandidate_forward lexer) fun _ => Forward.stays rfl)
    fun _ => Forward.stays rfl

theorem beginBlockHere_forward (lexer : Lexer) (token : Token) :
    lexer.Forward (lexer.beginBlockHere token) := by
  have same : (lexer.beginBlock token).cursor = lexer.cursor := by
    unfold beginBlock
    simp only
    split <;> rfl
  unfold beginBlockHere
  exact .ite (fun _ => Forward.stays rfl) fun _ =>
    .ite (fun _ => Forward.stays same) fun _ => .unparseable

/-! ## Between tokens -/

theorem skipBetween_forward (fuel : Nat) (lexer : Lexer) :
    lexer.cursor.LeadsTo (skipBetween fuel lexer).cursor := by
  induction fuel generalizing lexer with
  | zero => exact Cursor.LeadsTo.refl _
  | succ fuel inductionHypothesis =>
      have behindComment := (Cursor.LeadsTo.refl lexer.cursor).skipSpaces.skipComment
      rw [skipBetween]
      split
      · exact behindComment
      · next char after ends =>
          exact (behindComment.lineBreak ends).trans (inductionHypothesis _)

theorem skipMark_forward (lexer : Lexer) : lexer.cursor.LeadsTo lexer.skipMark.cursor := by
  unfold skipMark
  split
  · exact (Cursor.LeadsTo.refl lexer.cursor).advance
  · exact Cursor.LeadsTo.refl lexer.cursor

/-! ## Tokens -/

/-- Ending all blocks and giving up the possible key, in front of a line that stands for
itself. -/
theorem endBlocks_forward (lexer : Lexer) :
    lexer.Forward (lexer.unwind (-1)).dropCandidate :=
  .of_same (cursor_unwind lexer (-1)) (dropCandidate_forward _)

theorem readEnd_forward (lexer : Lexer) : lexer.Forward lexer.readEnd := by
  unfold readEnd
  exact .bind (endBlocks_forward lexer) fun _ => Forward.stays rfl

theorem readDirectiveLine_forward (lexer : Lexer) : lexer.Forward lexer.readDirectiveLine := by
  unfold readDirectiveLine
  exact .bind (endBlocks_forward lexer) fun ended =>
    .bind (readDirective_forward ended.cursor) fun found =>
      .stays rfl

theorem readDocumentMark_forward (lexer : Lexer) (token : Token) :
    lexer.Forward (lexer.readDocumentMark token) := by
  unfold readDocumentMark
  exact .bind (endBlocks_forward lexer) fun ended =>
    .endsAt ((Cursor.LeadsTo.refl ended.cursor).advanceBy 3)

theorem openFlow_forward (lexer : Lexer) (token : Token) :
    lexer.Forward (lexer.openFlow token) := by
  unfold openFlow
  exact .bind (saveCandidate_forward lexer) fun saved =>
    .endsAt (Cursor.LeadsTo.refl saved.cursor).advance

theorem closeFlow_forward (lexer : Lexer) (token : Token) :
    lexer.Forward (lexer.closeFlow token) := by
  unfold closeFlow
  refine .bind (dropCandidate_forward lexer) fun dropped => ?_
  split
  · exact .unparseable
  · exact .endsAt (Cursor.LeadsTo.refl dropped.cursor).advance

theorem readFlowEntry_forward (lexer : Lexer) : lexer.Forward lexer.readFlowEntry := by
  unfold readFlowEntry
  exact .bind (dropCandidate_forward (lexer.allowKey true)) fun dropped =>
    .endsAt (Cursor.LeadsTo.refl dropped.cursor).advance

theorem readBlockEntry_forward (lexer : Lexer) : lexer.Forward lexer.readBlockEntry := by
  unfold readBlockEntry
  exact .bind (beginBlockHere_forward lexer _) fun begun =>
    .bind (dropCandidate_forward (begun.allowKey true)) fun dropped =>
      .endsAt (Cursor.LeadsTo.refl dropped.cursor).advance

theorem readKeyMark_forward (lexer : Lexer) : lexer.Forward lexer.readKeyMark := by
  unfold readKeyMark
  exact .bind (beginBlockHere_forward lexer _) fun begun =>
    .bind (dropCandidate_forward (begun.allowKey !begun.inFlow)) fun dropped =>
      .endsAt (Cursor.LeadsTo.refl dropped.cursor).advance

theorem readValueMark_forward (lexer : Lexer) : lexer.Forward lexer.readValueMark := by
  unfold readValueMark
  split
  · next key _ =>
      refine .endsAt ?_
      rw [show lexer.cursor = (lexer.confirmKey key).cursor from (cursor_confirmKey lexer key).symm]
      exact (Cursor.LeadsTo.refl _).advance
  · exact .bind (beginBlockHere_forward lexer _) fun begun =>
      .endsAt (Cursor.LeadsTo.refl begun.cursor).advance

theorem readKeyPart_forward
    {read : Cursor → Except Fault (Token × Cursor)}
    (reads : ∀ cursor, ReadsForward cursor Prod.snd (read cursor))
    (lexer : Lexer) :
    lexer.Forward (lexer.readKeyPart read) := by
  unfold readKeyPart
  exact .bind (saveCandidate_forward lexer) fun saved =>
    .bind (reads saved.cursor) fun found => .stays rfl

theorem readAlias_forward (cursor : Cursor) :
    ReadsForward cursor Prod.snd (readAlias cursor) :=
  .bind (readName_forward cursor) fun _ => .stays rfl

theorem readAnchor_forward (cursor : Cursor) :
    ReadsForward cursor Prod.snd (readAnchor cursor) :=
  .bind (readName_forward cursor) fun _ => .stays rfl

theorem readQuotedToken_forward (style : QuoteStyle) (cursor : Cursor) :
    ReadsForward cursor Prod.snd (readQuotedToken style cursor) :=
  .bind (readQuoted_forward style cursor) fun _ => .stays rfl

theorem readBlockToken_forward (lexer : Lexer) (style : BlockStyle) :
    lexer.Forward (lexer.readBlockToken style) := by
  unfold readBlockToken
  exact .bind (dropCandidate_forward (lexer.allowKey true)) fun dropped =>
    .bind (readBlock_forward style dropped.indent dropped.cursor) fun text =>
      .stays rfl

theorem readPlainToken_forward (lexer : Lexer) : lexer.Forward lexer.readPlainToken := by
  unfold readPlainToken
  exact .bind (saveCandidate_forward lexer) fun saved =>
    .endsAt (Cursor.LeadsTo.readPlain saved.inFlow (saved.indent + 1) saved.cursor)

theorem readToken_forward (lexer : Lexer) : lexer.Forward lexer.readToken := by
  unfold readToken
  refine .ite (fun _ => readDirectiveLine_forward lexer) fun _ => ?_
  refine .ite (fun _ => readDocumentMark_forward lexer _) fun _ => ?_
  refine .ite (fun _ => readDocumentMark_forward lexer _) fun _ => ?_
  refine .ite (fun _ => openFlow_forward lexer _) fun _ => ?_
  refine .ite (fun _ => openFlow_forward lexer _) fun _ => ?_
  refine .ite (fun _ => closeFlow_forward lexer _) fun _ => ?_
  refine .ite (fun _ => closeFlow_forward lexer _) fun _ => ?_
  refine .ite (fun _ => readFlowEntry_forward lexer) fun _ => ?_
  refine .ite (fun _ => readBlockEntry_forward lexer) fun _ => ?_
  refine .ite (fun _ => readKeyMark_forward lexer) fun _ => ?_
  refine .ite (fun _ => readValueMark_forward lexer) fun _ => ?_
  refine .ite (fun _ => readKeyPart_forward readAlias_forward lexer) fun _ => ?_
  refine .ite (fun _ => readKeyPart_forward readAnchor_forward lexer) fun _ => ?_
  refine .ite (fun _ => readKeyPart_forward readTag_forward lexer) fun _ => ?_
  refine .ite (fun _ => readBlockToken_forward lexer _) fun _ => ?_
  refine .ite (fun _ => readBlockToken_forward lexer _) fun _ => ?_
  refine .ite (fun _ => readKeyPart_forward (readQuotedToken_forward _) lexer) fun _ => ?_
  refine .ite (fun _ => readKeyPart_forward (readQuotedToken_forward _) lexer) fun _ => ?_
  exact .ite (fun _ => readPlainToken_forward lexer) fun _ => .unparseable

/-- The whole text is read forward, up to its end. -/
theorem run_forward (fuel : Nat) (lexer : Lexer) :
    ReadsForward lexer.cursor (fun _ => Cursor.start []) (run fuel lexer) := by
  induction fuel generalizing lexer with
  | zero => exact .unparseable
  | succ fuel inductionHypothesis =>
      have behindSpaces := (skipMark_forward lexer).trans
        (skipBetween_forward (lexer.cursor.rest.length + 1) lexer.skipMark)
      rw [run]
      refine .from_earlier behindSpaces (.bind (dropStale_forward _) fun fresh => ?_)
      have same := cursor_unwind fresh fresh.cursor.column
      generalize fresh.unwind fresh.cursor.column = unwound at same ⊢
      rw [← same]
      refine .ite (fun _ => ?_) fun _ => ?_
      · exact .bind (readEnd_forward _) fun _ => .endsAt List.nil_suffix
      · exact .bind (readToken_forward _) inductionHypothesis

end Lexer

/-- Looking for the tokens of a text fails as the grammar has it, or at a notation without a
value. -/
theorem fault_of_scan?
    {chars : List Char}
    {fault : Fault}
    (stops : Token.scan? chars = .error fault) :
    fault = .unparseable ∨ fault = .impossibleValue ∧ hasImpossibleNotation chars = true := by
  have forward := Lexer.run_forward (chars.length + 2) (Lexer.start chars)
  rw [show Lexer.run (chars.length + 2) (Lexer.start chars) = .error fault from stops] at forward
  cases forward with
  | unparseable => exact .inl rfl
  | impossible ahead => exact .inr ⟨rfl, ahead⟩

end PhoneAccounts.Yaml
