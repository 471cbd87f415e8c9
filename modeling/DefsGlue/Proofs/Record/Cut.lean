import DefsGlue.Proofs.Record.Grammar
import DefsGlue.Record.Token

/-! The first run of a source, judged by the grammar: what a cut takes is a gap or a token, and each
gap and token is cut where it ends. -/
namespace DefsGlue.Grammar

open Decimal (NumberStart Plain)
open Text (Longest)

variable {c : Char} {cs body rest run : List Char} {s : Scalar}

theorem isNumeric_iff (c : Char) : Token.isNumeric c = true ↔ NumericChar c := by
  simp [Token.isNumeric, NumericChar, or_assoc]

theorem isSymbol_iff (c : Char) : Token.isSymbol c = true ↔ SymbolChar c := by
  simp [Token.isSymbol, SymbolChar, and_assoc]

theorem startsNumber_iff (cs : List Char) : Token.startsNumber cs = true ↔ NumberStart cs := by
  constructor
  · intro h
    unfold Token.startsNumber at h
    split at h
    · cases h
    · exact .digit h
    · simp only [Bool.or_eq_true, Bool.and_eq_true, beq_iff_eq, or_assoc] at h
      rcases h with hc | ⟨hc, hd⟩
      · exact .digit hc
      · exact .mark hc hd
  · intro h
    cases h with
    | @digit c cs hc => cases cs <;> simp [Token.startsNumber, hc]
    | mark hc hd => rcases hc with rfl | rfl | rfl <;> simp [Token.startsNumber, hd]

theorem numericChar_of_numberStart (h : NumberStart (c :: cs)) : NumericChar c := by
  cases h with
  | digit hc => exact Or.inl hc
  | mark hc _ => exact Or.inr hc

theorem not_isBlank_of_numericChar (h : NumericChar c) : Text.isBlank c = false := by
  rcases h with h | rfl | rfl | rfl
  · have hn : 48 ≤ c.toNat ∧ c.toNat ≤ 57 := by
      simpa [Char.isDigit, UInt32.le_iff_toNat_le] using h
    simp only [Text.isBlank, Bool.or_eq_false_iff, Bool.and_eq_false_iff, beq_eq_false_iff_ne,
      decide_eq_false_iff_not]
    omega
  · rfl
  · rfl
  · rfl

/-- A numeric character begins no other kind of run. -/
theorem numericChar_ne (h : NumericChar c) : c ≠ '(' ∧ c ≠ ')' ∧ c ≠ '"' ∧ c ≠ ';' := by
  refine ⟨?_, ?_, ?_, ?_⟩ <;> rintro rfl <;> simp [NumericChar, Char.isDigit] at h

theorem cut_blank (h : Text.isBlank c = true) : Token.cut c cs = ⟨none, [c], cs⟩ := by
  simp [Token.cut, h]

theorem cut_comment (h : Longest (· ≠ '\n') body rest) :
    Token.cut ';' (body ++ rest) = ⟨none, ';' :: body, rest⟩ := by
  have hb : Text.isBlank ';' = false := rfl
  have hq : ∀ c : Char, (c != '\n') = true ↔ c ≠ '\n' := by simp
  simp [Token.cut, hb, h.takeWhile_eq hq, h.dropWhile_eq hq]

theorem cut_quoted (h : '"' ∉ body) : Token.cut '"' (body ++ '"' :: rest) =
    ⟨some (.scalar (.quoted (.ofList body))), '"' :: (body ++ ['"']), rest⟩ := by
  have hb : Text.isBlank '"' = false := rfl
  have hq : ∀ c : Char, (c != '"') = true ↔ c ≠ '"' := by simp
  have hl : Longest (· ≠ '"') body ('"' :: rest) := by
    refine ⟨?_, by simp⟩
    intro c hc he
    exact h (he ▸ hc)
  simp [Token.cut, hb, hl.takeWhile_eq hq, hl.dropWhile_eq hq]

theorem cut_number (hn : NumberStart (c :: (run ++ rest))) (hl : Longest NumericChar run rest) :
    Token.cut c (run ++ rest) = ⟨some (.scalar (Token.numeric (c :: run))), c :: run, rest⟩ := by
  have hc := numericChar_of_numberStart hn
  have hne := numericChar_ne hc
  simp [Token.cut, not_isBlank_of_numericChar hc, hne, (startsNumber_iff _).mpr hn,
    hl.takeWhile_eq isNumeric_iff, hl.dropWhile_eq isNumeric_iff]

theorem cut_symbol (hn : ¬ NumberStart (c :: (run ++ rest))) (hc : SymbolChar c) (hq : c ≠ '"')
    (hl : Longest SymbolChar run rest) : Token.cut c (run ++ rest) =
      ⟨some (.scalar (.atom (.ofList (c :: run)))), c :: run, rest⟩ := by
  obtain ⟨hb, ho, hcl, hs⟩ := hc
  have hn' : ¬ Token.startsNumber (c :: (run ++ rest)) = true := by
    rwa [startsNumber_iff]
  simp [Token.cut, hb, ho, hcl, hs, hq, hn', hl.takeWhile_eq isSymbol_iff,
    hl.dropWhile_eq isSymbol_iff]

theorem numeric_plain {d : Decimal} (h : Plain run d) :
    Token.numeric run = .number (.ofDecimal d) (.ofList run) := by
  simp [Token.numeric, Decimal.ofChars?_of_plain h]

theorem numeric_not_plain (hn : NumberStart run) (h : ∀ d, ¬ Plain run d) :
    Token.numeric run = .atom (.ofList run) := by
  simp [Token.numeric, (Decimal.ofChars?_eq_none_iff hn).mpr h]

/-- A numeric run is not empty. -/
theorem exists_cons_of_numberStart (hn : NumberStart (run ++ rest))
    (hl : Longest NumericChar run rest) :
    ∃ c tail, run = c :: tail ∧ Longest NumericChar tail rest := by
  cases run with
  | cons c tail => exact ⟨c, tail, rfl, hl.tail⟩
  | nil =>
    cases rest with
    | nil => cases hn
    | cons c rest => exact (hl.stop c (by simp) (numericChar_of_numberStart hn)).elim

theorem numberStart_of_numeric (hn : NumberStart (run ++ rest))
    (hl : Longest NumericChar run rest) : NumberStart run := by
  obtain ⟨c, tail, rfl, -⟩ := exists_cons_of_numberStart hn hl
  exact Decimal.numberStart_of_longest (fun _ h => Or.inl h) hl (by simp) hn

/-- Each token with a value is cut where it ends. -/
theorem cut_leaf (h : Leaf s cs rest) :
    ∃ c tail run, cs = c :: tail ∧ cs = run ++ rest ∧
      Token.cut c tail = ⟨some (.scalar s), run, rest⟩ := by
  cases h with
  | quoted ht => exact ⟨_, _, _, rfl, by simp, cut_quoted ht⟩
  | number hn hl hp =>
    obtain ⟨c, run, rfl, ht⟩ := exists_cons_of_numberStart hn hl
    refine ⟨c, run ++ rest, c :: run, rfl, rfl, ?_⟩
    rw [cut_number hn ht, numeric_plain hp]
  | misnumber hn hl hp =>
    have hs := numberStart_of_numeric hn hl
    obtain ⟨c, run, rfl, ht⟩ := exists_cons_of_numberStart hn hl
    refine ⟨c, run ++ rest, c :: run, rfl, rfl, ?_⟩
    rw [cut_number hn ht, numeric_not_plain hs hp]
  | @symbol run _ hn hl hne hq =>
    obtain ⟨c, run, rfl⟩ := List.exists_cons_of_ne_nil hne
    have hc := hl.within c (by simp)
    have hq' : c ≠ '"' := by simpa using hq
    exact ⟨c, run ++ rest, c :: run, rfl, rfl, cut_symbol hn hc hq' hl.tail⟩

/-- What the token of a cut says of the text from its first character on. -/
def Cuts : Option Token → List Char → List Char → Prop
  | none, cs, rest => Gap cs rest
  | some .opening, cs, rest => cs = '(' :: rest
  | some .closing, cs, rest => cs = ')' :: rest
  | some (.scalar s), cs, rest => Leaf s cs rest
  | some .openQuote, cs, rest => rest = [] ∧ ∃ text, cs = '"' :: text ∧ '"' ∉ text

theorem cuts_comment (cs : List Char) :
    Gap (';' :: cs) (cs.dropWhile (· != '\n')) := by
  have hl : Longest (· ≠ '\n') (cs.takeWhile (· != '\n')) (cs.dropWhile (· != '\n')) :=
    Text.longest_takeWhile (by simp) cs
  have hg := Gap.comment hl .none
  rwa [List.takeWhile_append_dropWhile] at hg

theorem leaf_numeric (hn : NumberStart (c :: cs)) :
    Leaf (Token.numeric (c :: cs.takeWhile Token.isNumeric)) (c :: cs)
      (cs.dropWhile Token.isNumeric) := by
  have hsplit := List.takeWhile_append_dropWhile (p := Token.isNumeric) (l := cs)
  have hl := (Text.longest_takeWhile isNumeric_iff cs).cons (numericChar_of_numberStart hn)
  have hn' : NumberStart
      ((c :: cs.takeWhile Token.isNumeric) ++ cs.dropWhile Token.isNumeric) := by
    rwa [List.cons_append, hsplit]
  have hs := numberStart_of_numeric hn' hl
  generalize hrun : c :: cs.takeWhile Token.isNumeric = run at hl hn' hs ⊢
  have hcs : c :: cs = run ++ cs.dropWhile Token.isNumeric := by
    rw [← hrun, List.cons_append, hsplit]
  rw [hcs]
  by_cases hp : ∃ d, Plain run d
  · obtain ⟨d, hp⟩ := hp
    rw [numeric_plain hp]
    exact .number hn' hl hp
  · have hp' : ∀ d, ¬ Plain run d := fun d h => hp ⟨d, h⟩
    rw [numeric_not_plain hs hp']
    exact .misnumber hn' hl hp'

theorem leaf_symbol (hn : ¬ NumberStart (c :: cs)) (hc : SymbolChar c) (hq : c ≠ '"') :
    Leaf (.atom (.ofList (c :: cs.takeWhile Token.isSymbol))) (c :: cs)
      (cs.dropWhile Token.isSymbol) := by
  have hsplit := List.takeWhile_append_dropWhile (p := Token.isSymbol) (l := cs)
  have hl := (Text.longest_takeWhile isSymbol_iff cs).cons hc
  have hs := Leaf.symbol (by rwa [List.cons_append, hsplit]) hl (by simp) (by simpa using hq)
  rwa [List.cons_append, hsplit] at hs

theorem cuts_quote (cs : List Char) :
    Cuts (Token.cut '"' cs).token? ('"' :: cs) (Token.cut '"' cs).rest := by
  have hb : Text.isBlank '"' = false := rfl
  have hsplit := List.takeWhile_append_dropWhile (p := (· != '"')) (l := cs)
  have hl : Longest (· ≠ '"') (cs.takeWhile (· != '"')) (cs.dropWhile (· != '"')) :=
    Text.longest_takeWhile (by simp) cs
  have ht : '"' ∉ cs.takeWhile (· != '"') := fun h => hl.within _ h rfl
  cases hd : cs.dropWhile (· != '"') with
  | nil =>
    rw [hd, List.append_nil] at hsplit
    rw [hsplit] at ht
    simp only [Token.cut, hb, hd]
    exact ⟨rfl, cs, rfl, ht⟩
  | cons quote rest =>
    obtain rfl : quote = '"' := by
      have := hl.stop quote (by simp [hd])
      simpa using this
    have hleaf : Leaf _ ('"' :: (cs.takeWhile (· != '"') ++ '"' :: rest)) rest := .quoted ht
    rw [hd] at hsplit
    rw [hsplit] at hleaf
    simpa [Token.cut, hb, hd, Cuts] using hleaf

/-- Whatever a cut takes is a gap or a token of the grammar. -/
theorem cuts_cut (c : Char) (cs : List Char) :
    Cuts (Token.cut c cs).token? (c :: cs) (Token.cut c cs).rest := by
  by_cases hb : Text.isBlank c = true
  · rw [cut_blank hb]
    exact .blank hb .none
  by_cases ho : c = '('
  · subst ho
    rfl
  by_cases hcl : c = ')'
  · subst hcl
    rfl
  by_cases hq : c = '"'
  · subst hq
    exact cuts_quote cs
  by_cases hs : c = ';'
  · subst hs
    exact cuts_comment cs
  by_cases hn : NumberStart (c :: cs)
  · have hleaf := leaf_numeric hn
    simpa [Token.cut, hb, ho, hcl, hq, hs, (startsNumber_iff _).mpr hn, Cuts] using hleaf
  · have hn' : ¬ Token.startsNumber (c :: cs) = true := by rwa [startsNumber_iff]
    have hleaf := leaf_symbol hn ⟨by simpa using hb, ho, hcl, hs⟩ hq
    simpa [Token.cut, hb, ho, hcl, hq, hs, hn', Cuts] using hleaf

end DefsGlue.Grammar
