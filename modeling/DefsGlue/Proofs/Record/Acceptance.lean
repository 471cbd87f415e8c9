import DefsGlue.Proofs.Record.Cut
import DefsGlue.Record.Reading
import Mathlib.Logic.Basic

/-! Reading accepts exactly the sources that the grammar spells. The reader passes over whatever the
grammar spells, and at every moment its open lists are beginnings of lists the grammar spells. -/
namespace DefsGlue

namespace Position

theorem past_append (p : Position) (a b : List Char) : p.past (a ++ b) = (p.past a).past b :=
  List.foldl_append

end Position

namespace Nesting

open Grammar

variable {n m : Nesting} {p : Position} {c : Char} {cs mid rest run source : List Char}
  {t? : Option Token} {s : Scalar} {r : Record} {rs rs' done items : List Record}
  {pending outer : List OpenList} {o : OpenList}

/-- Adds finished records, first one first. -/
def addAll (n : Nesting) (rs : List Record) : Nesting := rs.foldl add n

theorem addAll_append (n : Nesting) (rs rs' : List Record) :
    n.addAll (rs ++ rs') = (n.addAll rs).addAll rs' :=
  List.foldl_append

theorem addAll_top (done rs : List Record) :
    (⟨done, []⟩ : Nesting).addAll rs = ⟨rs.reverse ++ done, []⟩ := by
  induction rs generalizing done with
  | nil => rfl
  | cons r rs ih =>
    have h := ih (r :: done)
    simpa [addAll, add] using h

theorem addAll_inner (done rs items : List Record) (outer : List OpenList) :
    (⟨done, ⟨p, items⟩ :: outer⟩ : Nesting).addAll rs =
      ⟨done, ⟨p, rs.reverse ++ items⟩ :: outer⟩ := by
  induction rs generalizing items with
  | nil => rfl
  | cons r rs ih =>
    have h := ih (r :: items)
    simpa [addAll, add] using h

@[simp] theorem consume_nil (n : Nesting) (p : Position) : n.consume p [] = .ok n := by
  unfold consume
  rfl

theorem consume_cut (h : Token.cut c cs = ⟨t?, run, rest⟩) (ha : n.acceptRun p t? = .ok m) :
    n.consume p (c :: cs) = m.consume (p.past run) rest := by
  conv =>
    lhs
    unfold consume
  simp only [h, ha]

/-- Wherever the reader stands, it passes from a text to what is left of it and adds records. -/
def Passes (rs : List Record) (cs rest : List Char) : Prop :=
  ∃ text, cs = text ++ rest ∧
    ∀ n p, consume n p cs = (n.addAll rs).consume (p.past text) rest

theorem Passes.refl (cs : List Char) : Passes [] cs cs :=
  ⟨[], rfl, fun _ _ => rfl⟩

theorem Passes.trans (h : Passes rs cs mid) (h' : Passes rs' mid rest) :
    Passes (rs ++ rs') cs rest := by
  obtain ⟨a, rfl, ha⟩ := h
  obtain ⟨b, rfl, hb⟩ := h'
  refine ⟨a ++ b, by simp, ?_⟩
  intro n p
  rw [ha, hb, addAll_append, Position.past_append]

theorem passes_gap (h : Gap cs rest) : Passes [] cs rest := by
  induction h with
  | none => exact Passes.refl _
  | @blank c cs _ hb _ ih =>
    have h : Passes [] (c :: cs) cs := ⟨[c], rfl, fun _ _ => consume_cut (cut_blank hb) rfl⟩
    exact h.trans ih
  | @comment body cs _ hl _ ih =>
    have h : Passes [] (';' :: (body ++ cs)) cs :=
      ⟨';' :: body, rfl, fun _ _ => consume_cut (cut_comment hl) rfl⟩
    exact h.trans ih

theorem passes_leaf (h : Leaf s cs rest) : Passes [.leaf s] cs rest := by
  obtain ⟨c, tail, run, rfl, hrun, hcut⟩ := cut_leaf h
  exact ⟨run, hrun, fun _ _ => consume_cut hcut rfl⟩

/-- A list passes as one record: its opening is pushed, and its closing takes all that was added in
between. -/
theorem passes_list (h : Passes items cs (')' :: rest)) :
    Passes [.list items] ('(' :: cs) rest := by
  obtain ⟨text, rfl, ht⟩ := h
  refine ⟨'(' :: (text ++ [')']), by simp, ?_⟩
  intro n p
  have ho : Token.cut '(' (text ++ ')' :: rest) = ⟨some .opening, ['('], text ++ ')' :: rest⟩ := rfl
  have hc : Token.cut ')' rest = ⟨some .closing, [')'], rest⟩ := rfl
  rw [consume_cut ho rfl, ht, addAll_inner, consume_cut hc rfl, ← Position.past_append,
    ← Position.past_append]
  simp [addAll]

theorem passes_spells (h : Spells rs cs rest) : Passes rs cs rest := by
  induction h with
  | nil hg => exact passes_gap hg
  | leaf hg hs _ ih => exact (passes_gap hg).trans ((passes_leaf hs).trans ih)
  | list hg _ _ ihi ih => exact (passes_gap hg).trans ((passes_list ihi).trans ih)

/-- The reader has come from the source to the rest of it: each open list has begun where the one
around it stands, and its items are spelled from there. -/
def Progress (source : List Char) (done : List Record) : List OpenList → List Char → Prop
  | [], rest => Spells done.reverse source rest
  | o :: outer, rest =>
    ∃ mid, Progress source done outer ('(' :: mid) ∧ Spells o.items.reverse mid rest

theorem progress_start (source : List Char) : Progress source [] [] source := .nil .none

theorem progress_gap (h : Progress source done pending cs) (hg : Gap cs rest) :
    Progress source done pending rest := by
  cases pending with
  | nil => exact Spells.trailing h hg
  | cons o outer =>
    obtain ⟨mid, ho, hs⟩ := h
    exact ⟨mid, ho, hs.trailing hg⟩

theorem progress_add (h : Progress source n.done n.pending cs) (hr : Spells [r] cs rest) :
    Progress source (n.add r).done (n.add r).pending rest := by
  obtain ⟨done, pending⟩ := n
  cases pending with
  | nil =>
    have hs : Spells (done.reverse ++ [r]) source rest := Spells.append h hr
    simpa [add, Progress] using hs
  | cons o outer =>
    obtain ⟨mid, ho, hs⟩ := h
    exact ⟨mid, ho, by simpa using hs.append hr⟩

theorem progress_accept (h : Progress source n.done n.pending cs) (hc : Cuts t? cs rest)
    (ha : n.acceptRun p t? = .ok m) : Progress source m.done m.pending rest := by
  obtain ⟨done, pending⟩ := n
  rcases t? with _ | _ | _ | s | _
  · cases ha
    exact progress_gap h hc
  · cases ha
    obtain rfl : cs = '(' :: rest := hc
    exact ⟨rest, h, .nil .none⟩
  · obtain rfl : cs = ')' :: rest := hc
    cases pending with
    | nil => cases ha
    | cons o outer =>
      cases ha
      obtain ⟨mid, ho, hs⟩ := h
      exact progress_add (n := ⟨done, outer⟩) ho hs.single_list
  · cases ha
    exact progress_add (n := ⟨done, pending⟩) h (Spells.single_leaf hc)
  · cases ha

theorem progress_consume (h : Progress source n.done n.pending cs)
    (hc : n.consume p cs = .ok m) : Progress source m.done m.pending [] := by
  fun_induction consume n p cs with
  | case1 n p =>
    cases hc
    exact h
  | case2 => cases hc
  | case3 n p c cs n' ha ih => exact ih (progress_accept h (cuts_cut c cs) ha) hc

theorem finish_eq_ok (h : n.finish = .ok rs) : n.pending = [] ∧ n.done.reverse = rs := by
  obtain ⟨done, pending⟩ := n
  cases pending with
  | nil => exact ⟨rfl, Except.ok.inj h⟩
  | cons o outer => cases h

end Nesting

namespace Record

open Grammar Nesting

variable {source : String} {rs : List Record}

theorem document_of_read (h : read source = .ok rs) : Document rs source := by
  unfold read at h
  cases hc : Nesting.empty.consume .start source.toList with
  | error e =>
    rw [hc] at h
    cases h
  | ok n =>
    rw [hc] at h
    obtain ⟨hp, hd⟩ := finish_eq_ok h
    have hn := progress_consume (progress_start source.toList) hc
    rw [hp] at hn
    exact hd ▸ hn

theorem read_of_document (h : Document rs source) : read source = .ok rs := by
  obtain ⟨text, -, ht⟩ := passes_spells h
  unfold read
  rw [ht, Nesting.empty, addAll_top, consume_nil]
  exact congrArg Except.ok (by simp)

theorem read_eq_ok_iff : read source = .ok rs ↔ Document rs source :=
  ⟨document_of_read, read_of_document⟩

/-- A source has at most one reading; one with none is answered by a fault. -/
theorem read_decides_document (source : String) :
    (∀ rs, read source = .ok rs ↔ Document rs source) ∧
    (∀ rs rs', Document rs source → Document rs' source → rs = rs') ∧
    ((∃ e, read source = .error e) ↔ ∀ rs, ¬ Document rs source) := by
  refine ⟨fun _ => read_eq_ok_iff, ?_, ?_, ?_⟩
  · intro rs rs' h h'
    have he := (read_of_document h).symm.trans (read_of_document h')
    exact Except.ok.inj he
  · rintro ⟨e, he⟩ rs h
    rw [read_of_document h] at he
    cases he
  · intro h
    cases hr : read source with
    | error e => exact ⟨e, rfl⟩
    | ok rs => exact (h rs (document_of_read hr)).elim

theorem read_decides_glued_tokens :
    let source := "1.2.3;c\n(\"a\nb\"-2.50())x\"y"
    let rs : List Record := [.leaf (.atom "1.2.3"),
      .list [.leaf (.quoted "a\nb"), .leaf (.number (.ofDecimal ⟨true, 250, 2⟩) "-2.50"), .list []],
      .leaf (.atom "x\"y")]
    Document rs source ∧ ∀ rs', Document rs' source → rs' = rs := by
  intro source rs
  obtain ⟨hread, hunique, -⟩ := read_decides_document source
  have hrs : read source = .ok rs := by decide +kernel
  have hdoc := (hread rs).mp hrs
  exact ⟨hdoc, fun rs' h => hunique rs' rs h hdoc⟩

end Record
end DefsGlue
