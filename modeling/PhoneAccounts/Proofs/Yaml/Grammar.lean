import PhoneAccounts.Yaml.Node

/-!
Contract: how reading nodes from tokens can end.

Owns: `StopsByGrammar` with its rules, and that nothing but the grammar stops the reading of a
node or of a document from its tokens.

Does not own: finding the tokens, and what the nodes mean.
-/

namespace PhoneAccounts.Yaml

/-- A computation ends with a value, or is stopped by what the grammar forbids. -/
inductive StopsByGrammar {Value : Type} : Except Fault Value → Prop
  | ok (value : Value) : StopsByGrammar (.ok value)
  | unparseable : StopsByGrammar (.error .unparseable)

namespace StopsByGrammar

variable {First Second : Type}

theorem bind
    {result : Except Fault First}
    {next : First → Except Fault Second}
    (stops : StopsByGrammar result)
    (stopsNext : ∀ value, StopsByGrammar (next value)) :
    StopsByGrammar (result >>= next) := by
  cases stops with
  | ok value => exact stopsNext value
  | unparseable => exact .unparseable

theorem map
    {result : Except Fault First}
    (change : First → Second)
    (stops : StopsByGrammar result) :
    StopsByGrammar (result.map change) := by
  cases stops with
  | ok value => exact .ok (change value)
  | unparseable => exact .unparseable

theorem ite
    {condition : Prop}
    [Decidable condition]
    {first second : Except Fault First}
    (stops : StopsByGrammar first)
    (otherwise : StopsByGrammar second) :
    StopsByGrammar (if condition then first else second) := by
  split
  · exact stops
  · exact otherwise

/-- Two ways into what comes next. -/
theorem bind_ite
    {condition : Prop}
    [Decidable condition]
    {first second : Except Fault First}
    {next : First → Except Fault Second}
    (stops : StopsByGrammar first)
    (otherwise : StopsByGrammar second)
    (stopsNext : ∀ value, StopsByGrammar (next value)) :
    StopsByGrammar (if condition then first >>= next else second >>= next) :=
  .ite (stops.bind stopsNext) (otherwise.bind stopsNext)

end StopsByGrammar

namespace Node

theorem expect_grammar (source : TokenSource) (token : Token) :
    StopsByGrammar (source.expect token) :=
  .ite (.ok _) .unparseable

theorem tagName_grammar
    (source : TokenSource)
    (handle : Option (List Char))
    (suffix : List Char) :
    StopsByGrammar (source.tagName handle suffix) := by
  unfold TokenSource.tagName
  split
  · exact .ok _
  · split
    · exact .unparseable
    · exact .ok _

theorem checkAnchor_grammar (source : TokenSource) (anchor : Option (List Char)) :
    StopsByGrammar (checkAnchor source anchor) := by
  unfold checkAnchor
  split
  · exact .ok _
  · exact .ite .unparseable (.ok _)

theorem readProperties_grammar (source : TokenSource) :
    StopsByGrammar (readProperties source) := by
  unfold readProperties
  simp only
  split
  · exact .ok _
  · exact .bind ((tagName_grammar _ _ _).map some) fun _ => .ok _

/-- A collection: its anchor is new, its parts are read, and it is done. -/
theorem collection_grammar
    {Parts : Type}
    (source : TokenSource)
    (properties : Properties)
    (make : Parts → Node)
    {parts : Except Fault (Parts × TokenSource)}
    (stops : StopsByGrammar parts) :
    StopsByGrammar (do
      checkAnchor source properties.anchor
      let (parts, source) ← parts
      finish properties (make parts) source) :=
  .bind (checkAnchor_grammar source _) fun _ => .bind stops fun _ => .ok _

mutual

theorem read_grammar : ∀ (fuel : Nat) (place : Place) (source : TokenSource),
    StopsByGrammar (read fuel place source)
  | 0, _, _ => .unparseable
  | fuel + 1, place, source => by
      rw [read]
      split
      · split
        · exact .unparseable
        · exact .ok _
        · exact .ok _
      · refine .bind (readProperties_grammar source) fun found => ?_
        obtain ⟨properties, behind⟩ := found
        simp only
        split
        · exact .bind (checkAnchor_grammar _ _) fun _ => .ok _
        · exact collection_grammar _ _ (.sequence _) (readFlowItems_grammar fuel true _)
        · exact collection_grammar _ _ (.mapping _) (readFlowEntries_grammar fuel true _)
        · refine .ite ?_ (.ite ?_ (.ite ?_ (.ite .unparseable ?_)))
          · exact collection_grammar _ _ (.sequence _) (readBareItems_grammar fuel _)
          · exact collection_grammar _ _ (.sequence _) (readBlockItems_grammar fuel _)
          · exact collection_grammar _ _ (.mapping _) (readBlockEntries_grammar fuel _)
          · exact .bind (checkAnchor_grammar _ _) fun _ => .ok _

theorem readUnless_grammar : ∀ (fuel : Nat) (ends : List Token) (place : Place)
    (source : TokenSource), StopsByGrammar (readUnless fuel ends place source)
  | 0, _, _, _ => .unparseable
  | fuel + 1, ends, place, source => by
      rw [readUnless]
      exact .ite (.ok _) (read_grammar fuel place source)

theorem readBlockItems_grammar : ∀ (fuel : Nat) (source : TokenSource),
    StopsByGrammar (readBlockItems fuel source)
  | 0, _ => .unparseable
  | fuel + 1, source => by
      rw [readBlockItems]
      split
      · exact .bind (readUnless_grammar fuel _ _ _) fun item =>
          .bind (readBlockItems_grammar fuel item.2) fun _ => .ok _
      · exact .bind (expect_grammar _ _) fun _ => .ok _

theorem readBareItems_grammar : ∀ (fuel : Nat) (source : TokenSource),
    StopsByGrammar (readBareItems fuel source)
  | 0, _ => .unparseable
  | fuel + 1, source => by
      rw [readBareItems]
      split
      · exact .bind (readUnless_grammar fuel _ _ _) fun item =>
          .bind (readBareItems_grammar fuel item.2) fun _ => .ok _
      · exact .ok _

theorem readBlockEntries_grammar : ∀ (fuel : Nat) (source : TokenSource),
    StopsByGrammar (readBlockEntries fuel source)
  | 0, _ => .unparseable
  | fuel + 1, source => by
      rw [readBlockEntries]
      split
      · refine .bind (readUnless_grammar fuel _ _ _) fun key => ?_
        exact .bind_ite (readUnless_grammar fuel _ _ _) (.ok _) fun value =>
          .bind (readBlockEntries_grammar fuel value.2) fun _ => .ok _
      · exact .bind (expect_grammar _ _) fun _ => .ok _

theorem readFlowItems_grammar : ∀ (fuel : Nat) (isFirst : Bool) (source : TokenSource),
    StopsByGrammar (readFlowItems fuel isFirst source)
  | 0, _, _ => .unparseable
  | fuel + 1, isFirst, source => by
      rw [readFlowItems]
      refine .ite (.ok _) (.bind_ite (.ok _) (expect_grammar _ _) fun source => ?_)
      simp only
      split
      · exact .ok _
      · refine .bind (readUnless_grammar fuel _ _ _) fun key => ?_
        exact .bind_ite (readUnless_grammar fuel _ _ _) (.ok _) fun value =>
          .bind (readFlowItems_grammar fuel false value.2) fun _ => .ok _
      · exact .bind (read_grammar fuel _ _) fun item =>
          .bind (readFlowItems_grammar fuel false item.2) fun _ => .ok _

theorem readFlowEntries_grammar : ∀ (fuel : Nat) (isFirst : Bool) (source : TokenSource),
    StopsByGrammar (readFlowEntries fuel isFirst source)
  | 0, _, _ => .unparseable
  | fuel + 1, isFirst, source => by
      rw [readFlowEntries]
      refine .ite (.ok _) (.bind_ite (.ok _) (expect_grammar _ _) fun source => ?_)
      simp only
      split
      · exact .ok _
      · refine .bind (readUnless_grammar fuel _ _ _) fun key => ?_
        exact .bind_ite (readUnless_grammar fuel _ _ _) (.ok _) fun value =>
          .bind (readFlowEntries_grammar fuel false value.2) fun _ => .ok _
      · exact .bind (read_grammar fuel _ _) fun key =>
          .bind (readFlowEntries_grammar fuel false key.2) fun _ => .ok _

end

theorem readDirectives_grammar
    (hasVersion : Bool)
    (handles : List (List Char × List Char))
    (tokens : List Token) :
    StopsByGrammar (readDirectives hasVersion handles tokens) := by
  fun_induction readDirectives hasVersion handles tokens with
  | case1 => exact .unparseable
  | case2 _ _ _ _ _ inductionHypothesis => exact inductionHypothesis
  | case3 => exact .unparseable
  | case4 _ _ _ _ _ _ inductionHypothesis => exact inductionHypothesis
  | case5 _ _ _ inductionHypothesis => exact inductionHypothesis
  | case6 => exact .ok _

/-- Nothing but the grammar stops the reading of a document from its tokens. -/
theorem ofTokens?_grammar (tokens : List Token) : StopsByGrammar (ofTokens? tokens) := by
  have atEnd (node : Node) (source : TokenSource) :
      StopsByGrammar
        (if endsStream source.tokens then (.ok (some node) : Except Fault (Option Node))
        else .error .unparseable) :=
    .ite (.ok _) .unparseable
  unfold ofTokens?
  split
  · exact .ok _
  · refine .bind (readDirectives_grammar _ _ _) fun directives => .bind (expect_grammar _ _) ?_
    exact fun source => .bind_ite (.ok _) (read_grammar _ _ _) fun root => atEnd root.1 root.2
  · refine .bind (readDirectives_grammar _ _ _) fun directives => .bind (expect_grammar _ _) ?_
    exact fun source => .bind_ite (.ok _) (read_grammar _ _ _) fun root => atEnd root.1 root.2
  · exact .bind (read_grammar _ _ _) fun root => atEnd root.1 root.2

end Node

end PhoneAccounts.Yaml
