import DefsGlue.Proofs.Record.Continuation
import Mathlib.Data.List.DropRight

/-! Where reading fails. Each fault gives the place of the character that is to blame: the closing
that nothing opened, the quote that nothing closes, or the opening of the innermost list that is
left open. -/
namespace DefsGlue

namespace Position

/-- The place right after a text: one line down for each line feed, and one column right for each
character after the last of them. -/
def following (before : List Char) : Position where
  line := 1 + before.count '\n'
  column := 1 + (before.rtakeWhile (· ≠ '\n')).length

theorem past_start (before : List Char) : start.past before = following before := by
  induction before using List.reverseRecOn with
  | nil => rfl
  | append_singleton before c ih =>
    rw [past_append, ih]
    by_cases hc : c = '\n'
    · subst hc
      simp [past, next, following]
      omega
    · simp [past, next, following, hc]
      omega

end Position

namespace Nesting

open Grammar

variable {n m : Nesting} {p : Position} {source before rest cs : List Char} {e : ReadFault}
  {t? : Option Token} {rs : List Record}

theorem acceptRun_error (h : n.acceptRun p t? = .error e) :
    (t? = some .closing ∧ n.pending = [] ∧ e = .unmatchedClose p) ∨
      (t? = some .openQuote ∧ e = .unterminatedText p) := by
  obtain ⟨done, pending⟩ := n
  rcases t? with _ | _ | _ | s | _
  · cases h
  · cases h
  · cases pending with
    | nil => exact .inl ⟨rfl, rfl, (Except.error.inj h).symm⟩
    | cons o outer => cases h
  · cases h
  · exact .inr ⟨rfl, (Except.error.inj h).symm⟩

/-- Reading fails at one character, and up to there it has made progress. -/
theorem consume_error (h : Progress source n.done n.pending cs) (he : n.consume p cs = .error e) :
    ∃ (m : Nesting) (before : List Char) (c : Char) (after : List Char), cs = before ++ c :: after ∧
      Progress source m.done m.pending (c :: after) ∧
      m.acceptRun (p.past before) (Token.cut c after).token? = .error e := by
  fun_induction consume n p cs with
  | case1 => cases he
  | case2 n p c cs e' ha =>
    obtain rfl := Except.error.inj he
    exact ⟨n, [], c, cs, rfl, h, ha⟩
  | case3 n p c cs m ha ih =>
    obtain ⟨m', before, c', after, hrest, hm, hfail⟩ := ih (progress_accept h (cuts_cut c cs) ha) he
    refine ⟨m', (Token.cut c cs).run ++ before, c', after, ?_, hm, ?_⟩
    · rw [List.append_assoc, ← hrest, Token.cut_run_append_rest]
    · rwa [Position.past_append]

theorem consume_stray (done : List Record) (p : Position) (cs : List Char) :
    consume ⟨done, []⟩ p (')' :: cs) = .error (.unmatchedClose p) := by
  have hclose : Token.cut ')' cs = ⟨some .closing, [')'], cs⟩ := rfl
  unfold consume
  rw [hclose]
  rfl

/-- Whether a source that ends here has records depends on whether a list is open. -/
theorem finish_cases (n : Nesting) : (n.pending = [] ∧ n.finish = .ok n.done.reverse) ∨
    ∃ o outer, n.pending = o :: outer ∧
      n.finish = .error (.unclosedList (outer.length + 1) o.start) := by
  obtain ⟨done, pending⟩ := n
  cases pending with
  | nil => exact .inl ⟨rfl, rfl⟩
  | cons o outer => exact .inr ⟨o, outer, rfl, rfl⟩

theorem length_pending_add (n : Nesting) (r : Record) :
    (n.add r).pending.length = n.pending.length := by
  obtain ⟨done, pending⟩ := n
  cases pending <;> rfl

/-- As many closings as lists are open close them all. -/
theorem consume_closings (n : Nesting) (p : Position) (rest : List Char) :
    ∃ done, n.consume p (List.replicate n.pending.length ')' ++ rest) =
      consume ⟨done, []⟩ (p.past (List.replicate n.pending.length ')')) rest := by
  induction hk : n.pending.length generalizing n p with
  | zero =>
    obtain ⟨done, pending⟩ := n
    obtain rfl := List.length_eq_zero_iff.mp hk
    exact ⟨done, rfl⟩
  | succ k ih =>
    obtain ⟨done, pending⟩ := n
    obtain ⟨o, outer, rfl⟩ := List.exists_cons_of_length_eq_add_one hk
    have hclose : Token.cut ')' (List.replicate k ')' ++ rest) =
        ⟨some .closing, [')'], List.replicate k ')' ++ rest⟩ := rfl
    have hk' : ((⟨done, outer⟩ : Nesting).add (.list o.items.reverse)).pending.length = k := by
      rw [length_pending_add]
      simpa using hk
    obtain ⟨done', hrest⟩ := ih _ (p.past [')']) hk'
    refine ⟨done', ?_⟩
    rw [List.replicate_succ, List.cons_append, consume_cut hclose rfl, hrest,
      ← Position.past_append]
    rfl

end Nesting

namespace Record

open Grammar Nesting

/-- A source with closings added in a line of their own. -/
def closedBy (source : String) (count : Nat) : String :=
  source ++ "\n" ++ String.ofList (List.replicate count ')')

end Record

open Record in
/-- What a fault says of the source in which it was found. -/
def ReadFault.Explains (source : String) : ReadFault → Prop
  | unmatchedClose p => ∃ before after, source.toList = before ++ ')' :: after ∧
      p = .following before ∧ (∃ rs, read (.ofList before) = .ok rs) ∧
      ∀ text, read (.ofList (before ++ ')' :: text)) = .error (.unmatchedClose p)
  | unterminatedText p => ∃ before after, source.toList = before ++ '"' :: after ∧
      p = .following before ∧ '"' ∉ after ∧
      ((∃ rs, read (.ofList before) = .ok rs) ∨
        ∃ depth p', read (.ofList before) = .error (.unclosedList depth p'))
  | unclosedList depth p => 1 ≤ depth ∧
      (∃ before after, source.toList = before ++ '(' :: after ∧ p = .following before ∧
        (∃ rs, read (.ofList after) = .ok rs) ∧
        (depth = 1 → ∃ rs, read (.ofList before) = .ok rs) ∧
        (depth ≠ 1 → ∃ p', read (.ofList before) = .error (.unclosedList (depth - 1) p'))) ∧
      (∃ rs, read (closedBy source depth) = .ok rs) ∧
      ∃ p', read (closedBy source (depth + 1)) = .error (.unmatchedClose p')

namespace Record

open Grammar Nesting

variable {source : String} {before after : List Char} {done : List Record} {pending : List OpenList}
  {n : Nesting} {o : OpenList} {outer : List OpenList} {e : ReadFault}

theorem explains_unmatchedClose (hs : source.toList = before ++ ')' :: after)
    (h : Progress source.toList done [] (')' :: after)) :
    (ReadFault.unmatchedClose (.following before)).Explains source := by
  obtain ⟨before', pending', hsource, hitems, hreach⟩ := exists_reaches h
  obtain rfl := List.append_cancel_right (hs.symm.trans hsource)
  obtain rfl : pending' = [] := by simpa using hitems
  refine ⟨before, after, hs, rfl, ⟨_, hreach.read_end⟩, ?_⟩
  intro text
  rw [hreach.read (stopsAlike_cons ')' after text), Position.past_start, consume_stray]
  rfl

theorem explains_unterminatedText (hs : source.toList = before ++ '"' :: after)
    (hq : '"' ∉ after) (h : Progress source.toList done pending ('"' :: after)) :
    (ReadFault.unterminatedText (.following before)).Explains source := by
  obtain ⟨before', pending', hsource, -, hreach⟩ := exists_reaches h
  obtain rfl := List.append_cancel_right (hs.symm.trans hsource)
  refine ⟨before, after, hs, rfl, hq, ?_⟩
  rw [hreach.read_end]
  rcases finish_cases ⟨done, pending'⟩ with ⟨-, hok⟩ | ⟨o, outer, -, herr⟩
  · exact .inl ⟨_, hok⟩
  · exact .inr ⟨_, _, herr⟩

/-- With a closing for each open list, and no more, the source can be read. -/
theorem read_closedBy (h : Reaches source.toList [] n) :
    (∃ rs, read (closedBy source n.pending.length) = .ok rs) ∧
      ∃ p, read (closedBy source (n.pending.length + 1)) = .error (.unmatchedClose p) := by
  have hline : ∀ closings, read (.ofList (source.toList ++ '\n' :: closings)) =
      n.consume ((Position.start.past source.toList).past ['\n']) closings >>= finish := by
    intro closings
    have hbreak : Token.cut '\n' closings = ⟨none, ['\n'], closings⟩ := cut_blank rfl
    rw [h.read (stopsAlike_newline [] closings), consume_cut hbreak rfl]
  have hclosed : ∀ count, closedBy source count =
      .ofList (source.toList ++ '\n' :: List.replicate count ')') := by
    intro count
    apply String.toList_injective
    simp [closedBy]
  constructor
  · obtain ⟨done, hdone⟩ := consume_closings n _ []
    rw [List.append_nil, consume_nil] at hdone
    rw [hclosed, hline, hdone]
    exact ⟨_, rfl⟩
  · obtain ⟨done, hdone⟩ := consume_closings n _ [')']
    rw [consume_stray] at hdone
    rw [hclosed, hline, List.replicate_succ', hdone]
    exact ⟨_, rfl⟩

/-- The innermost open list begins at the place it says, with the lists around it open there. -/
theorem exists_opening (hc : Nesting.empty.consume .start source.toList = .ok n)
    (hn : n.pending = o :: outer) :
    ∃ before after, source.toList = before ++ '(' :: after ∧ o.start = .following before ∧
      Spells o.items.reverse after [] ∧ Reaches before ('(' :: after) ⟨n.done, outer⟩ ∧
      Reaches source.toList [] n := by
  have hend := progress_consume (progress_start source.toList) hc
  rw [hn] at hend
  obtain ⟨after, houter, hafter⟩ := hend
  obtain ⟨before, outer', hs, -, hbefore⟩ := exists_reaches houter
  obtain ⟨inner, hinner, helse⟩ := hafter.elsewhere
  rw [List.append_nil] at hinner
  subst hinner
  have hwhole : Reaches source.toList [] ⟨n.done, ⟨.following before, o.items⟩ :: outer'⟩ := by
    rw [hs, ← Position.past_start]
    exact Reaches.opened (by simpa using hbefore) helse
  -- The reader ends in one nesting only, so the lists are those that the text leads to.
  have hread := hwhole [] (stopsAlike_end [])
  rw [List.append_nil, hc, consume_nil] at hread
  have hsame := Except.ok.inj hread
  obtain ⟨ho, rfl⟩ := List.cons.inj (hn.symm.trans (congrArg Nesting.pending hsame))
  rw [← hsame] at hwhole
  exact ⟨before, after, hs, congrArg OpenList.start ho, hafter, hbefore, hwhole⟩

theorem explains_unclosedList (hc : Nesting.empty.consume .start source.toList = .ok n)
    (hn : n.pending = o :: outer) :
    (ReadFault.unclosedList (outer.length + 1) o.start).Explains source := by
  obtain ⟨before, after, hs, hplace, hafter, hbefore, hwhole⟩ := exists_opening hc hn
  have hread : read (.ofList after) = .ok o.items.reverse := by
    apply read_of_document
    rwa [Document, String.toList_ofList]
  have hclosed := read_closedBy hwhole
  rw [hn] at hclosed
  refine ⟨by simp, ⟨before, after, hs, hplace, ⟨_, hread⟩, ?_, ?_⟩, hclosed⟩
  · intro hone
    obtain rfl : outer = [] := by simpa using hone
    exact ⟨_, hbefore.read_end⟩
  · intro hmore
    cases outer with
    | nil => simp at hmore
    | cons o' outer => exact ⟨_, hbefore.read_end⟩

/-- A source that cannot be read is at fault where it is said to be. -/
theorem read_error_explains (h : read source = .error e) : e.Explains source := by
  unfold read at h
  cases hc : Nesting.empty.consume .start source.toList with
  | error e' =>
    rw [hc] at h
    obtain rfl := Except.error.inj h
    obtain ⟨m, before, c, after, hs, hm, hfail⟩ := consume_error (progress_start _) hc
    have hcut := cuts_cut c after
    rw [Position.past_start] at hfail
    rcases acceptRun_error hfail with ⟨ht, hp, rfl⟩ | ⟨ht, rfl⟩
    · rw [ht] at hcut
      obtain ⟨rfl, -⟩ := List.cons.inj hcut
      rw [hp] at hm
      exact explains_unmatchedClose hs hm
    · rw [ht] at hcut
      obtain ⟨-, text, hq, hnone⟩ := hcut
      obtain ⟨rfl, rfl⟩ := List.cons.inj hq
      exact explains_unterminatedText hs hnone hm
  | ok n =>
    rw [hc] at h
    change n.finish = .error e at h
    rcases finish_cases n with ⟨-, hok⟩ | ⟨o, outer, hn, herr⟩
    · cases hok.symm.trans h
    · obtain rfl := Except.error.inj (herr.symm.trans h)
      exact explains_unclosedList hc hn

/-- A closing after one in a comment, a quote right after a number, and a list left open inside
another, with a closing in a text over two lines and an opening in a comment. -/
theorem read_error_explains_mixed :
    let stray := "(a ;)\n) é)"
    let quote := "(x \"a\" +\n1\"é"
    let unclosed := "é(a \"x\n)\" ; (\n (b"
    (read stray = .error (.unmatchedClose ⟨2, 4⟩) ∧
      (ReadFault.unmatchedClose ⟨2, 4⟩).Explains stray) ∧
    (read quote = .error (.unterminatedText ⟨2, 2⟩) ∧
      (ReadFault.unterminatedText ⟨2, 2⟩).Explains quote) ∧
    read unclosed = .error (.unclosedList 2 ⟨3, 2⟩) ∧
      (ReadFault.unclosedList 2 ⟨3, 2⟩).Explains unclosed := by
  intro stray quote unclosed
  have hstray : read stray = .error (.unmatchedClose ⟨2, 4⟩) := by decide +kernel
  have hquote : read quote = .error (.unterminatedText ⟨2, 2⟩) := by decide +kernel
  have hunclosed : read unclosed = .error (.unclosedList 2 ⟨3, 2⟩) := by decide +kernel
  exact ⟨⟨hstray, read_error_explains hstray⟩, ⟨hquote, read_error_explains hquote⟩, hunclosed,
    read_error_explains hunclosed⟩

end Record
end DefsGlue
