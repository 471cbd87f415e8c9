import DefsGlue.Proofs.Record.RoundTrip

/-! Reading does not look ahead further than one character. What was read of a source is read the
same where the source ends there instead, goes on with another text that begins alike, or goes on in
a new line. -/
namespace DefsGlue

namespace Grammar

open Decimal (NumberStart)
open Text (Longest)

/-- A text that stops every run that the rest of a source stops. -/
def StopsAlike (rest rest' : List Char) : Prop := ∀ c ∈ rest'.head?, c = '\n' ∨ c ∈ rest.head?

variable {p : Char → Prop} {c : Char} {cs rest rest' run : List Char} {s : Scalar}
  {rs : List Record}

theorem stopsAlike_end (rest : List Char) : StopsAlike rest [] := by simp [StopsAlike]

theorem stopsAlike_newline (rest cs : List Char) : StopsAlike rest ('\n' :: cs) := by
  simp [StopsAlike]

theorem stopsAlike_cons (c : Char) (rest rest' : List Char) :
    StopsAlike (c :: rest) (c :: rest') := by
  simp [StopsAlike]

theorem StopsAlike.append (h : StopsAlike rest rest') (text : List Char) :
    StopsAlike (text ++ rest) (text ++ rest') := by
  cases text with
  | nil => exact h
  | cons c text => exact stopsAlike_cons c _ _

theorem StopsAlike.longest (h : StopsAlike rest rest') (hl : Longest p run rest) (hp : ¬ p '\n') :
    Longest p run rest' := by
  refine ⟨hl.within, ?_⟩
  intro c hc
  rcases h c hc with rfl | hc
  · exact hp
  · exact hl.stop c hc

theorem Gap.elsewhere (h : Gap cs rest) :
    ∃ text, cs = text ++ rest ∧ ∀ rest', StopsAlike rest rest' → Gap (text ++ rest') rest' := by
  induction h with
  | none => exact ⟨[], rfl, fun _ _ => .none⟩
  | @blank c _ _ hc _ ih =>
    obtain ⟨text, rfl, ht⟩ := ih
    exact ⟨c :: text, rfl, fun rest' hr => .blank hc (ht rest' hr)⟩
  | @comment body _ _ hl _ ih =>
    obtain ⟨text, rfl, ht⟩ := ih
    refine ⟨';' :: (body ++ text), by simp, ?_⟩
    intro rest' hr
    have hl' := (hr.append text).longest hl (by simp)
    simpa using Gap.comment hl' (ht rest' hr)

theorem not_numericChar_newline : ¬ NumericChar '\n' := by simp [NumericChar, Char.isDigit]

theorem not_symbolChar_newline : ¬ SymbolChar '\n' := by simp [SymbolChar, Text.isBlank]

/-- Where a symbol stops is no matter for whether it begins like a number. -/
theorem numberStart_of_symbol (hl : Longest SymbolChar run rest) (hne : run ≠ [])
    (h : NumberStart (run ++ rest)) : NumberStart run :=
  Decimal.numberStart_of_longest (fun _ hc => symbolChar_of_numericChar (Or.inl hc)) hl hne h

theorem Leaf.elsewhere (h : Leaf s cs rest) :
    ∃ text, cs = text ++ rest ∧ ∀ rest', StopsAlike rest rest' → Leaf s (text ++ rest') rest' := by
  cases h with
  | @quoted text _ ht =>
    refine ⟨'"' :: (text ++ ['"']), by simp, ?_⟩
    intro rest' _
    have hquoted : Leaf _ ('"' :: (text ++ '"' :: rest')) rest' := .quoted ht
    simpa using hquoted
  | @number run _ d hn hl hp =>
    refine ⟨run, rfl, fun rest' hr => ?_⟩
    have hn' := (numberStart_of_numeric hn hl).append rest'
    exact .number hn' (hr.longest hl not_numericChar_newline) hp
  | @misnumber run _ hn hl hp =>
    refine ⟨run, rfl, fun rest' hr => ?_⟩
    have hn' := (numberStart_of_numeric hn hl).append rest'
    exact .misnumber hn' (hr.longest hl not_numericChar_newline) hp
  | @symbol run _ hn hl hne hq =>
    refine ⟨run, rfl, fun rest' hr => ?_⟩
    have hl' := hr.longest hl not_symbolChar_newline
    exact .symbol (fun hn' => hn ((numberStart_of_symbol hl' hne hn').append rest)) hl' hne hq

theorem Spells.elsewhere (h : Spells rs cs rest) : ∃ text, cs = text ++ rest ∧
    ∀ rest', StopsAlike rest rest' → Spells rs (text ++ rest') rest' := by
  induction h with
  | nil hg =>
    obtain ⟨text, rfl, ht⟩ := hg.elsewhere
    exact ⟨text, rfl, fun rest' hr => .nil (ht rest' hr)⟩
  | leaf hg hs _ ih =>
    obtain ⟨tail, rfl, htail⟩ := ih
    obtain ⟨token, rfl, htoken⟩ := hs.elsewhere
    obtain ⟨gap, rfl, hgap⟩ := hg.elsewhere
    refine ⟨gap ++ (token ++ tail), by simp, ?_⟩
    intro rest' hr
    have htail' := hr.append tail
    have hrecord := Spells.leaf (hgap _ (htail'.append token)) (htoken _ htail') (htail rest' hr)
    simpa using hrecord
  | list hg _ _ ihi ih =>
    obtain ⟨tail, rfl, htail⟩ := ih
    obtain ⟨inner, rfl, hinner⟩ := ihi
    obtain ⟨gap, rfl, hgap⟩ := hg.elsewhere
    refine ⟨gap ++ '(' :: (inner ++ ')' :: tail), by simp, ?_⟩
    intro rest' hr
    have hgap' := hgap ('(' :: (inner ++ ')' :: (tail ++ rest'))) (stopsAlike_cons '(' _ _)
    have hinner' := hinner (')' :: (tail ++ rest')) (stopsAlike_cons ')' _ _)
    simpa using Spells.list hgap' hinner' (htail rest' hr)

end Grammar

namespace Nesting

open Grammar

variable {n : Nesting} {source before rest rest' text : List Char} {rs done : List Record}
  {pending : List OpenList}

theorem consume_spelled (h : Spells rs (text ++ rest) rest) (n : Nesting) (p : Position) :
    n.consume p (text ++ rest) = (n.addAll rs).consume (p.past text) rest := by
  obtain ⟨text', he, ht⟩ := passes_spells h
  obtain rfl := List.append_cancel_right he
  exact ht n p

/-- The reader has this nesting after the text, whatever text follows that stops it there. -/
def Reaches (before rest : List Char) (n : Nesting) : Prop :=
  ∀ rest', StopsAlike rest rest' →
    empty.consume .start (before ++ rest') = n.consume (Position.start.past before) rest'

theorem Reaches.read (h : Reaches before rest n) (hr : StopsAlike rest rest') :
    Record.read (.ofList (before ++ rest')) =
      n.consume (Position.start.past before) rest' >>= finish := by
  rw [Record.read, String.toList_ofList, h rest' hr]

theorem Reaches.read_end (h : Reaches before rest n) : Record.read (.ofList before) = n.finish := by
  have hread := h.read (stopsAlike_end rest)
  rw [List.append_nil, consume_nil] at hread
  exact hread

/-- An opening begins a list at its own place, and what is spelled after it makes the items. -/
theorem Reaches.opened {items : List Record} {outer : List OpenList}
    (h : Reaches before ('(' :: (text ++ rest)) ⟨done, outer⟩)
    (ht : ∀ rest', StopsAlike rest rest' → Spells items.reverse (text ++ rest') rest') :
    Reaches (before ++ '(' :: text) rest ⟨done, ⟨Position.start.past before, items⟩ :: outer⟩ := by
  intro rest' hr
  have hopen : Token.cut '(' (text ++ rest') = ⟨some .opening, ['('], text ++ rest'⟩ := rfl
  have hbefore := h ('(' :: (text ++ rest')) (stopsAlike_cons '(' _ _)
  rw [consume_cut hopen rfl, consume_spelled (ht rest' hr), addAll_inner, ← Position.past_append,
    ← Position.past_append] at hbefore
  simpa using hbefore

/-- What the reader has come through leads it to lists with the items it has. -/
theorem exists_reaches (h : Progress source done pending rest) :
    ∃ before pending', source = before ++ rest ∧
      pending'.map OpenList.items = pending.map OpenList.items ∧
      Reaches before rest ⟨done, pending'⟩ := by
  -- On the open lists, outermost first: each begins where the text around it has led.
  induction pending generalizing rest with
  | nil =>
    obtain ⟨before, rfl, hs⟩ := Spells.elsewhere h
    refine ⟨before, [], rfl, rfl, ?_⟩
    intro rest' hr
    rw [consume_spelled (hs rest' hr), empty, addAll_top]
    simp
  | cons o outer ih =>
    obtain ⟨mid, ho, hs⟩ := h
    obtain ⟨front, outer', rfl, hitems, hfront⟩ := ih ho
    obtain ⟨inner, rfl, hinner⟩ := hs.elsewhere
    exact ⟨front ++ '(' :: inner, _, by simp, by simp [hitems], hfront.opened hinner⟩

end Nesting
end DefsGlue
