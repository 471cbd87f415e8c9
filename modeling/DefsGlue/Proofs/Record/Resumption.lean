import DefsGlue.Proofs.Record.Faults

/-! Reading resumes at a line break. After records that end before it, a text is read as a source of
its own is, and its faults are the same, further down. -/
namespace DefsGlue

namespace Position

def down (p : Position) (lines : Nat) : Position := { p with line := p.line + lines }

theorem next_down (p : Position) (lines : Nat) (c : Char) :
    (p.down lines).next c = (p.next c).down lines := by
  by_cases hc : c = '\n'
  · simp [next, down, hc]
    omega
  · simp [next, down, hc]

theorem past_down (p : Position) (lines : Nat) (cs : List Char) :
    (p.down lines).past cs = (p.past cs).down lines := by
  induction cs generalizing p with
  | nil => rfl
  | cons c cs ih =>
    have h := ih (p.next c)
    rw [← next_down] at h
    exact h

/-- The line after a text and a line break. -/
theorem past_newline (before : List Char) :
    (start.past before).past ['\n'] = start.down (before.count '\n' + 1) := by
  rw [past_start]
  simp [past, next, following, down, start]
  omega

end Position

/-- The same fault in a source that has more lines in front. -/
def ReadFault.down (lines : Nat) : ReadFault → ReadFault
  | unmatchedClose p => unmatchedClose (p.down lines)
  | unclosedList depth p => unclosedList depth (p.down lines)
  | unterminatedText p => unterminatedText (p.down lines)

def OpenList.down (lines : Nat) (o : OpenList) : OpenList :=
  { o with start := o.start.down lines }

namespace Nesting

open Grammar

variable {n m : Nesting} {p : Position} {c : Char} {cs before : List Char}

/-- The same nesting in a source that has more records and lines in front. -/
def below (earlier : List Record) (lines : Nat) (n : Nesting) : Nesting :=
  ⟨n.done ++ earlier, n.pending.map (OpenList.down lines)⟩

/-- What comes of reading below other records. -/
def resultBelow (earlier : List Record) (lines : Nat) (x : Except ReadFault Nesting) :
    Except ReadFault Nesting :=
  (x.map (below earlier lines)).mapError (ReadFault.down lines)

theorem add_below (earlier : List Record) (lines : Nat) (n : Nesting) (r : Record) :
    (n.below earlier lines).add r = (n.add r).below earlier lines := by
  obtain ⟨done, pending⟩ := n
  cases pending <;> rfl

theorem accept_below (earlier : List Record) (lines : Nat) (n : Nesting) (p : Position)
    (t : Token) : (n.below earlier lines).accept (p.down lines) t =
      resultBelow earlier lines (n.accept p t) := by
  cases t with
  | opening => rfl
  | closing =>
    obtain ⟨done, pending⟩ := n
    cases pending with
    | nil => rfl
    | cons o outer =>
      exact congrArg Except.ok (add_below earlier lines ⟨done, outer⟩ (.list o.items.reverse))
  | scalar s => exact congrArg Except.ok (add_below earlier lines n (.leaf s))
  | openQuote => rfl

theorem acceptRun_below (earlier : List Record) (lines : Nat) (n : Nesting) (p : Position)
    (t? : Option Token) : (n.below earlier lines).acceptRun (p.down lines) t? =
      resultBelow earlier lines (n.acceptRun p t?) := by
  cases t? with
  | none => rfl
  | some t => exact accept_below earlier lines n p t

theorem consume_run (ha : n.acceptRun p (Token.cut c cs).token? = .ok m) :
    n.consume p (c :: cs) = m.consume (p.past (Token.cut c cs).run) (Token.cut c cs).rest := by
  -- Only on the left: what is read of the rest stays folded.
  conv =>
    lhs
    unfold consume
  rw [ha]

theorem consume_refused {e : ReadFault}
    (ha : n.acceptRun p (Token.cut c cs).token? = .error e) :
    n.consume p (c :: cs) = .error e := by
  unfold consume
  rw [ha]

/-- The reader looks at neither the records it has finished nor the lines above. -/
theorem consume_below (earlier : List Record) (lines : Nat) (n : Nesting) (p : Position)
    (cs : List Char) : (n.below earlier lines).consume (p.down lines) cs =
      resultBelow earlier lines (n.consume p cs) := by
  fun_induction consume n p cs with
  | case1 n p =>
    rw [consume_nil]
    rfl
  | case2 n p c cs e ha =>
    have hb := acceptRun_below earlier lines n p (Token.cut c cs).token?
    rw [ha] at hb
    exact consume_refused hb
  | case3 n p c cs m ha ih =>
    have hb := acceptRun_below earlier lines n p (Token.cut c cs).token?
    rw [ha] at hb
    rw [consume_run hb, Position.past_down, ih]

theorem finish_below (earlier : List Record) (lines : Nat) (n : Nesting) :
    (n.below earlier lines).finish =
      (n.finish.map (earlier.reverse ++ ·)).mapError (ReadFault.down lines) := by
  obtain ⟨done, pending⟩ := n
  cases pending with
  | nil => simp [below, finish, Except.map, Except.mapError]
  | cons o outer => simp [below, finish, Except.map, Except.mapError, OpenList.down, ReadFault.down]

theorem finish_resultBelow (earlier : List Record) (lines : Nat) (x : Except ReadFault Nesting) :
    resultBelow earlier lines x >>= finish =
      ((x >>= finish).map (earlier.reverse ++ ·)).mapError (ReadFault.down lines) := by
  cases x with
  | error e => rfl
  | ok n => exact finish_below earlier lines n

/-- After a source without open lists, a line break leads to where a source begins, further down. -/
theorem Reaches.newline {done : List Record} (h : Reaches before [] ⟨done, []⟩)
    (text : List Char) : Record.read (.ofList (before ++ '\n' :: text)) =
      (empty.below done (before.count '\n' + 1)).consume
        (Position.start.down (before.count '\n' + 1)) text >>= finish := by
  have hbreak : Token.cut '\n' text = ⟨none, ['\n'], text⟩ := cut_blank rfl
  rw [h.read (stopsAlike_newline [] text), consume_cut hbreak rfl, Position.past_newline]
  rfl

end Nesting

namespace Record

open Nesting

variable {a : String} {ra : List Record}

/-- An accepted source leaves the reader with its records and no open list. -/
theorem reaches_of_read (h : read a = .ok ra) : Reaches a.toList [] ⟨ra.reverse, []⟩ := by
  have hprogress : Progress a.toList ra.reverse [] [] := by
    rw [Progress, List.reverse_reverse]
    exact document_of_read h
  obtain ⟨before, pending, ha, hitems, hreach⟩ := exists_reaches hprogress
  obtain rfl : pending = [] := by simpa using hitems
  rwa [ha, List.append_nil]

/-- What is in front of a line break decides no more than which records come first and in which line
reading goes on. -/
theorem read_newline (h : read a = .ok ra) (b : String) : read (a ++ "\n" ++ b) =
    ((read b).map (ra ++ ·)).mapError (ReadFault.down (a.toList.count '\n' + 1)) := by
  have hsource : a ++ "\n" ++ b = .ofList (a.toList ++ '\n' :: b.toList) := by
    apply String.toList_injective
    simp
  rw [hsource, (reaches_of_read h).newline, consume_below, finish_resultBelow,
    List.reverse_reverse]
  rfl

/-- An accepted source may be read on in a new line. What follows gives the records that it gives
alone, or the fault that it has alone, in a line as much lower as there are lines in front. -/
theorem read_resumes_after_newline (h : read a = .ok ra) (b : String) :
    (∀ rb, read b = .ok rb → read (a ++ "\n" ++ b) = .ok (ra ++ rb)) ∧
    ∀ e, read b = .error e →
      read (a ++ "\n" ++ b) = .error (e.down (a.toList.count '\n' + 1)) := by
  have hread := read_newline h b
  constructor
  · intro rb hb
    rw [hread, hb]
    rfl
  · intro e he
    rw [hread, he]
    rfl

/-- The first source ends in a comment that opens a list, and right after a number. -/
theorem read_resumes_after_open_comment :
    let a := "(x \"\n\")\n-1.5;("
    let ra : List Record := [.list [.leaf (.atom "x"), .leaf (.quoted "\n")],
      .leaf (.number (.ofDecimal ⟨true, 15, 1⟩) "-1.5")]
    read a = .ok ra ∧
    read (a ++ "\n" ++ "2\n(é)") = .ok (ra ++
      [.leaf (.number (.ofDecimal ⟨false, 2, 0⟩) "2"), .list [.leaf (.atom "é")]]) ∧
    read (a ++ "\n" ++ "(é\n (y") = .error (.unclosedList 2 ⟨5, 2⟩) ∧
    read (a ++ "\n" ++ "\té)") = .error (.unmatchedClose ⟨4, 3⟩) ∧
    read (a ++ "\n" ++ "(\n\"") = .error (.unterminatedText ⟨5, 1⟩) := by
  intro a ra
  have ha : read a = .ok ra := by decide +kernel
  have hlines : a.toList.count '\n' = 2 := by decide +kernel
  have hresumes := read_resumes_after_newline ha
  rw [hlines] at hresumes
  exact ⟨ha, (hresumes _).1 _ (by decide +kernel),
    (hresumes "(é\n (y").2 (.unclosedList 2 ⟨2, 2⟩) (by decide +kernel),
    (hresumes "\té)").2 (.unmatchedClose ⟨1, 3⟩) (by decide +kernel),
    (hresumes "(\n\"").2 (.unterminatedText ⟨2, 1⟩) (by decide +kernel)⟩

end Record
end DefsGlue
