import DefsGlue.Proofs.Record.Acceptance

/-! Written records read back. Every token of a written record stops where a blank, a closing or the
end of the text follows it, so records joined by blanks are spelled one by one. -/
namespace DefsGlue

open Decimal (NumberStart Plain)
open Grammar
open Text (Longest)

namespace Scalar

/-- The scalars that have a spelling. An atom that begins like a number has to be a numeric run that
is no decimal. -/
def Readable : Scalar → Prop
  | atom s => s.toList ≠ [] ∧ (∀ c ∈ s.toList, SymbolChar c) ∧ s.toList.head? ≠ some '"' ∧
      (NumberStart s.toList → (∀ c ∈ s.toList, NumericChar c) ∧ ∀ d, ¬ Plain s.toList d)
  | quoted s => '"' ∉ s.toList
  | number value lexeme => ∃ d, Plain lexeme.toList d ∧ value = .ofDecimal d

end Scalar

namespace Record

inductive Readable : Record → Prop
  | leaf {s : Scalar} : s.Readable → Readable (.leaf s)
  | list {items : List Record} : (∀ r ∈ items, Readable r) → Readable (.list items)

/-- Written records in one text, with blanks between each and the next. -/
inductive Joined : List Record → String → Prop
  | none : Joined [] ""
  | one (r : Record) : Joined [r] r.written
  | next {r next : Record} {rs : List Record} {text : String} (sep : String) : sep ≠ "" →
      (∀ c ∈ sep.toList, Text.isBlank c = true) → Joined (next :: rs) text →
      Joined (r :: next :: rs) (r.written ++ sep ++ text)

end Record

namespace Grammar

variable {c : Char} {cs rest : List Char} {d : Decimal} {s : Scalar} {r : Record}
  {rs items : List Record}

theorem symbolChar_of_numericChar (h : NumericChar c) : SymbolChar c := by
  obtain ⟨ho, hc, -, hs⟩ := numericChar_ne h
  exact ⟨not_isBlank_of_numericChar h, ho, hc, hs⟩

theorem numericChar_of_plain (h : Plain cs d) : ∀ c ∈ cs, NumericChar c := by
  have hsign : ∀ {sign : List Char} {negative : Bool}, Decimal.Sign sign negative →
      ∀ c ∈ sign, NumericChar c := by
    intro sign negative hs c hc
    cases hs with
    | none => cases hc
    | plus => exact Or.inr (Or.inl (List.mem_singleton.mp hc))
    | minus => exact Or.inr (Or.inr (Or.inl (List.mem_singleton.mp hc)))
  have hpoint : ∀ {fraction : List Char}, Decimal.Digits fraction →
      ∀ c ∈ '.' :: fraction, NumericChar c := by
    intro fraction hf c hc
    rcases List.mem_cons.mp hc with rfl | hc
    · exact Or.inr (Or.inr (Or.inr rfl))
    · exact Or.inl (hf c hc)
  cases h with
  | whole hs hd _ =>
    intro c hc
    rcases List.mem_append.mp hc with hc | hc
    · exact hsign hs c hc
    · exact Or.inl (hd c hc)
  | point hs hd _ hf =>
    intro c hc
    rcases List.mem_append.mp hc with hc | hc
    · exact hsign hs c hc
    · rcases List.mem_append.mp hc with hc | hc
      · exact Or.inl (hd c hc)
      · exact hpoint hf c hc
  | fraction hf _ => exact hpoint hf

theorem readable_of_leaf (h : Leaf s cs rest) : s.Readable := by
  cases h with
  | quoted ht => simpa [Scalar.Readable] using ht
  | number _ _ hp => exact ⟨_, by simpa using hp, rfl⟩
  | @misnumber run _ hn hl hp =>
    obtain ⟨c, run, rfl, -⟩ := exists_cons_of_numberStart hn hl
    have hq := (numericChar_ne (hl.within c (by simp))).2.2.1
    simp only [Scalar.Readable, String.toList_ofList]
    exact ⟨by simp, fun x hx => symbolChar_of_numericChar (hl.within x hx), by simpa using hq,
      fun _ => ⟨hl.within, hp⟩⟩
  | symbol hn hl hne hq =>
    simp only [Scalar.Readable, String.toList_ofList]
    exact ⟨hne, hl.within, hq, fun hs => (hn (hs.append rest)).elim⟩

theorem readable_of_spells (h : Spells rs cs rest) : ∀ r ∈ rs, r.Readable := by
  induction h with
  | nil => simp
  | leaf _ hs _ ih =>
    intro r hr
    rcases List.mem_cons.mp hr with rfl | hr
    · exact .leaf (readable_of_leaf hs)
    · exact ih r hr
  | list _ _ _ ihi ih =>
    intro r hr
    rcases List.mem_cons.mp hr with rfl | hr
    · exact .list ihi
    · exact ih r hr

/-- No symbol goes on into the text. -/
def Delimited (rest : List Char) : Prop := ∀ c ∈ rest.head?, ¬ SymbolChar c

theorem leaf_written (h : s.Readable) (hd : Delimited rest) :
    Leaf s (s.written.toList ++ rest) rest := by
  cases s with
  | atom s =>
    obtain ⟨hne, hs, hq, hn⟩ := h
    rw [← String.ofList_toList (s := s)]
    generalize s.toList = run at *
    simp only [Scalar.written, String.toList_ofList]
    by_cases hstart : NumberStart run
    · obtain ⟨hc, hp⟩ := hn hstart
      exact .misnumber (hstart.append rest)
        ⟨hc, fun c hr hcn => hd c hr (symbolChar_of_numericChar hcn)⟩ hp
    · have hl : Longest SymbolChar run rest := ⟨hs, hd⟩
      have hdigit : ∀ c, c.isDigit = true → SymbolChar c :=
        fun c hc => symbolChar_of_numericChar (Or.inl hc)
      exact .symbol (fun h => hstart (Decimal.numberStart_of_longest hdigit hl hne h)) hl hne hq
  | quoted s =>
    have hs : '"' ∉ s.toList := h
    have hleaf : Leaf _ ('"' :: (s.toList ++ '"' :: rest)) rest := .quoted hs
    simpa [Scalar.written] using hleaf
  | number value lexeme =>
    obtain ⟨d, hp, rfl⟩ := h
    have hl : Longest NumericChar lexeme.toList rest :=
      ⟨numericChar_of_plain hp, fun c hr hcn => hd c hr (symbolChar_of_numericChar hcn)⟩
    have hleaf := Leaf.number ((Decimal.numberStart_of_plain hp).append rest) hl hp
    simpa [Scalar.written] using hleaf

theorem gap_of_blank {sep : List Char} (h : ∀ c ∈ sep, Text.isBlank c = true) :
    Gap (sep ++ rest) rest := by
  induction sep with
  | nil => exact .none
  | cons c sep ih =>
    exact .blank (h c (by simp)) (ih (fun x hx => h x (List.mem_cons_of_mem _ hx)))

theorem delimited_blank {sep : List Char} (hne : sep ≠ [])
    (h : ∀ c ∈ sep, Text.isBlank c = true) : Delimited (sep ++ rest) := by
  obtain ⟨c, sep, rfl⟩ := List.exists_cons_of_ne_nil hne
  intro x hx hs
  obtain rfl : c = x := by simpa using hx
  exact absurd hs.1 (by simp [h c (by simp)])

/-- Records that are spelled as they are written are spelled one after the other when joined. -/
theorem spells_joined {text : String} (hj : Record.Joined rs text)
    (hw : ∀ r ∈ rs, ∀ rest, Delimited rest → Spells [r] (r.written.toList ++ rest) rest)
    (hd : Delimited rest) : Spells rs (text.toList ++ rest) rest := by
  induction hj with
  | none => exact .nil .none
  | one r => exact hw r (by simp) rest hd
  | @next r next rs text sep hne hb _ ih =>
    have hne' : sep.toList ≠ [] := by simpa using hne
    have hsep : Delimited (sep.toList ++ (text.toList ++ rest)) := delimited_blank hne' hb
    have hr := hw r (by simp) _ hsep
    have hs := ih (fun r' hr' => hw r' (List.mem_cons_of_mem _ hr'))
    simpa using hr.append (hs.leading (gap_of_blank hb))

theorem joined_intercalate {sep : String} (hne : sep ≠ "")
    (hb : ∀ c ∈ sep.toList, Text.isBlank c = true) (rs : List Record) :
    Record.Joined rs (sep.intercalate (rs.map Record.written)) := by
  induction rs with
  | nil => simpa using Record.Joined.none
  | cons r rs ih =>
    cases rs with
    | nil => simpa using Record.Joined.one r
    | cons next rs =>
      rw [List.map_cons, List.map_cons, String.intercalate_cons_cons]
      exact .next sep hne hb ih

theorem spells_written (h : r.Readable) :
    ∀ rest, Delimited rest → Spells [r] (r.written.toList ++ rest) rest := by
  induction h with
  | @leaf s hs =>
    intro rest hd
    exact .single_leaf (leaf_written hs hd)
  | @list items _ ih =>
    intro rest _
    have hb : ∀ c ∈ " ".toList, Text.isBlank c = true := by simp [Text.isBlank]
    have hj := joined_intercalate (by simp) hb items
    have hclose : Delimited (')' :: rest) := by simp [Delimited, SymbolChar]
    have hs := (spells_joined hj ih hclose).single_list
    simpa [Record.written, Record.writtenAll_eq_map] using hs

end Grammar

namespace Record

/-- What is read can be written, and what can be written reads back, whichever blanks stand between
the records. -/
theorem written_round_trip :
    (∀ source rs, read source = .ok rs → ∀ r ∈ rs, r.Readable) ∧
    (∀ rs source, (∀ r ∈ rs, r.Readable) → Joined rs source → read source = .ok rs) ∧
    (∀ rs sep, (∀ r ∈ rs, r.Readable) → sep ≠ "" → (∀ c ∈ sep.toList, Text.isBlank c = true) →
      read (sep.intercalate (rs.map written)) = .ok rs) := by
  have hjoined : ∀ rs source, (∀ r ∈ rs, r.Readable) → Joined rs source →
      read source = .ok rs := by
    intro rs source hr hj
    apply read_of_document
    have hd : Delimited [] := by simp [Delimited]
    have hs := spells_joined hj (fun r h => spells_written (hr r h)) hd
    simpa [Document] using hs
  refine ⟨?_, hjoined, ?_⟩
  · intro source rs h
    exact readable_of_spells (document_of_read h)
  · intro rs sep hr hne hb
    exact hjoined rs _ hr (joined_intercalate hne hb rs)

/-- A failed number, a string over two lines, a number and a quote inside an atom, between blanks of
different kinds. -/
theorem written_round_trip_mixed :
    let rs : List Record := [.leaf (.atom "1.2.3"),
      .list [.leaf (.quoted "a\nb"), .leaf (.number (.ofDecimal ⟨true, 250, 2⟩) "-2.50"), .list []],
      .leaf (.atom "x\"y")]
    (∀ r ∈ rs, r.Readable) ∧ read "1.2.3\r\n(\"a\nb\" -2.50 ())\tx\"y" = .ok rs := by
  intro rs
  obtain ⟨hreadable, hread, -⟩ := written_round_trip
  have hr : ∀ r ∈ rs, r.Readable :=
    hreadable "1.2.3;c\n(\"a\nb\"-2.50())x\"y" rs (by decide +kernel)
  have hlast : Joined [.leaf (.atom "x\"y")] "x\"y" := .one (.leaf (.atom "x\"y"))
  have hbreak : ∀ c ∈ "\r\n".toList, Text.isBlank c = true := by simp [Text.isBlank]
  have htab : ∀ c ∈ "\t".toList, Text.isBlank c = true := by simp [Text.isBlank]
  have hjoined : Joined rs "1.2.3\r\n(\"a\nb\" -2.50 ())\tx\"y" :=
    .next "\r\n" (by simp) hbreak (.next "\t" (by simp) htab hlast)
  exact ⟨hr, hread rs _ hr hjoined⟩

end Record
end DefsGlue
