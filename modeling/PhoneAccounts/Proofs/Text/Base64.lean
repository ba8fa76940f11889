import PhoneAccounts.Text.Base64

/-!
Contract: base64 text gives back the bytes that it was written from.

Writing is a layer of sextets, the alphabet over it, and the padding at the end.  The
strict reader takes the three layers off again, so it accepts every written text.

Owns: `sextetsOf`, `padsOf`, the written form in these terms, and the round trip of the
strict reader.

Does not own: the lenient reader, which the markup uses.
-/

namespace PhoneAccounts.Text.Base64

/-! ## The alphabet -/

private theorem sextet?_alphabet_all :
    ∀ sextet, sextet < 64 → sextet? (alphabet sextet) = some sextet := by
  decide

private theorem alphabet_ne_padding_all :
    ∀ sextet, sextet < 64 → alphabet sextet ≠ padding := by
  decide

/-- A character of the alphabet is read as its own sextet. -/
theorem mapM_sextet?_alphabet (sextets : List Nat) (small : ∀ sextet ∈ sextets, sextet < 64) :
    (sextets.map alphabet).mapM sextet? = some sextets := by
  induction sextets with
  | nil => rfl
  | cons sextet rest inductionHypothesis =>
      have headSmall : sextet < 64 := small sextet (by simp)
      have restRead := inductionHypothesis fun other member => small other (by simp [member])
      simp [sextet?_alphabet_all sextet headSmall, restRead]

/-! ## The layers of a written text -/

/-- The sextets of some bytes, a short last group filled up with zero bits. -/
def sextetsOf : List UInt8 → List Nat
  | [] => []
  | [a] => [a.toNat / 4, a.toNat % 4 * 16]
  | [a, b] => [a.toNat / 4, a.toNat % 4 * 16 + b.toNat / 16, b.toNat % 16 * 4]
  | a :: b :: c :: rest =>
      a.toNat / 4 ::
      (a.toNat % 4 * 16 + b.toNat / 16) ::
      (b.toNat % 16 * 4 + c.toNat / 64) ::
      c.toNat % 64 ::
      sextetsOf rest

/-- How many characters fill up the last group. -/
def padsOf : List UInt8 → Nat
  | [] => 0
  | [_] => 2
  | [_, _] => 1
  | _ :: _ :: _ :: rest => padsOf rest

theorem sextetsOf_lt (bytes : List UInt8) : ∀ sextet ∈ sextetsOf bytes, sextet < 64 := by
  fun_induction sextetsOf bytes with
  | case1 => simp
  | case2 a =>
      have := a.toNat_lt
      simp only [List.mem_cons, List.not_mem_nil, or_false]
      omega
  | case3 a b =>
      have := a.toNat_lt
      have := b.toNat_lt
      simp only [List.mem_cons, List.not_mem_nil, or_false]
      omega
  | case4 a b c rest inductionHypothesis =>
      have := a.toNat_lt
      have := b.toNat_lt
      have := c.toNat_lt
      simp only [List.mem_cons]
      rintro sextet (rfl | rfl | rfl | rfl | member)
      · omega
      · omega
      · omega
      · omega
      · exact inductionHypothesis sextet member

theorem encode_eq_layers (bytes : List UInt8) :
    encode bytes =
      (sextetsOf bytes).map alphabet ++ List.replicate (padsOf bytes) padding := by
  fun_induction encode bytes with
  | case1 => rfl
  | case2 a => rfl
  | case3 a b => rfl
  | case4 a b c rest inductionHypothesis => simp [sextetsOf, padsOf, inductionHypothesis]

/-- The padding of a written text is what the strict reader asks for. -/
theorem paddingFits_layers (bytes : List UInt8) :
    paddingFits (sextetsOf bytes).length (padsOf bytes) = true := by
  have whole :
      ((sextetsOf bytes).length % 4 = 0 ∧ padsOf bytes = 0) ∨
        ((sextetsOf bytes).length % 4 = 2 ∧ padsOf bytes = 2) ∨
        ((sextetsOf bytes).length % 4 = 3 ∧ padsOf bytes = 1) := by
    fun_induction sextetsOf bytes with
    | case1 => simp [padsOf]
    | case2 a => simp [padsOf]
    | case3 a b => simp [padsOf]
    | case4 a b c rest inductionHypothesis =>
        simp only [List.length_cons, padsOf]
        omega
  unfold paddingFits
  rcases whole with ⟨rest, pads⟩ | ⟨rest, pads⟩ | ⟨rest, pads⟩ <;> simp [rest, pads]

/-- A byte from its high and its low part. -/
private theorem ofNat_eq (byte : UInt8) (value : Nat) (same : value % 256 = byte.toNat) :
    UInt8.ofNat value = byte := by
  apply UInt8.toNat_inj.mp
  rw [UInt8.toNat_ofNat']
  exact same

theorem bytesOfSextets_sextetsOf (bytes : List UInt8) :
    bytesOfSextets (sextetsOf bytes) = bytes := by
  fun_induction sextetsOf bytes with
  | case1 => rfl
  | case2 a =>
      have := a.toNat_lt
      simp only [bytesOfSextets, List.cons.injEq, and_true]
      exact ofNat_eq _ _ (by omega)
  | case3 a b =>
      have := a.toNat_lt
      have := b.toNat_lt
      simp only [bytesOfSextets, List.cons.injEq, and_true]
      exact ⟨ofNat_eq _ _ (by omega), ofNat_eq _ _ (by omega)⟩
  | case4 a b c rest inductionHypothesis =>
      have := a.toNat_lt
      have := b.toNat_lt
      have := c.toNat_lt
      simp only [bytesOfSextets, inductionHypothesis, List.cons.injEq, and_true]
      exact ⟨ofNat_eq _ _ (by omega), ofNat_eq _ _ (by omega), ofNat_eq _ _ (by omega)⟩

/-! ## The round trip -/

private theorem takeWhile_layers (sextets : List Nat) (small : ∀ sextet ∈ sextets, sextet < 64)
    (pads : Nat) :
    (sextets.map alphabet ++ List.replicate pads padding).takeWhile (· ≠ padding) =
        sextets.map alphabet ∧
      (sextets.map alphabet ++ List.replicate pads padding).dropWhile (· ≠ padding) =
        List.replicate pads padding := by
  induction sextets with
  | nil => cases pads <;> simp [List.replicate_succ]
  | cons sextet rest inductionHypothesis =>
      have apart : alphabet sextet ≠ padding :=
        alphabet_ne_padding_all sextet (small sextet (by simp))
      have restSplit := inductionHypothesis fun other member => small other (by simp [member])
      simpa [apart] using restSplit

/-- The strict reader gives back the bytes that a text was written from. -/
theorem decodeStrict?_encode (bytes : List UInt8) : decodeStrict? (encode bytes) = some bytes := by
  have small := sextetsOf_lt bytes
  obtain ⟨body, pads⟩ := takeWhile_layers (sextetsOf bytes) small (padsOf bytes)
  unfold decodeStrict?
  rw [encode_eq_layers, body, pads]
  simp [mapM_sextet?_alphabet _ small, paddingFits_layers, bytesOfSextets_sextetsOf]

end PhoneAccounts.Text.Base64
