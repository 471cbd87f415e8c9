import Mathlib.Data.List.TakeWhile

/-! Longest matches: runs of one class of characters that the text after them does not extend. -/
namespace DefsGlue.Text

structure Longest (p : Char → Prop) (run rest : List Char) : Prop where
  within : ∀ c ∈ run, p c
  stop : ∀ c ∈ rest.head?, ¬ p c

variable {p : Char → Prop} {q : Char → Bool} {c : Char} {run rest : List Char}

/-- What the cut of a text by a class of characters yields. -/
theorem longest_takeWhile (hq : ∀ c, q c = true ↔ p c) (cs : List Char) :
    Longest p (cs.takeWhile q) (cs.dropWhile q) := by
  constructor
  · intro c hc
    exact (hq c).mp (List.mem_takeWhile_imp hc)
  · intro c hc hp
    have hn := List.head?_dropWhile_not q cs
    rw [Option.mem_def.mp hc] at hn
    simp [(hq c).mpr hp] at hn

theorem Longest.takeWhile_eq (h : Longest p run rest) (hq : ∀ c, q c = true ↔ p c) :
    (run ++ rest).takeWhile q = run := by
  rw [List.takeWhile_append_of_pos (fun c hc => (hq c).mpr (h.within c hc))]
  cases rest with
  | nil => simp
  | cons c rest =>
    have hc : ¬ q c = true := fun hc => h.stop c (by simp) ((hq c).mp hc)
    simp [hc]

theorem Longest.dropWhile_eq (h : Longest p run rest) (hq : ∀ c, q c = true ↔ p c) :
    (run ++ rest).dropWhile q = rest := by
  rw [List.dropWhile_append_of_pos (fun c hc => (hq c).mpr (h.within c hc))]
  cases rest with
  | nil => simp
  | cons c rest =>
    have hc : ¬ q c = true := fun hc => h.stop c (by simp) ((hq c).mp hc)
    simp [hc]

theorem Longest.tail (h : Longest p (c :: run) rest) : Longest p run rest :=
  ⟨fun x hx => h.within x (List.mem_cons_of_mem _ hx), h.stop⟩

theorem Longest.cons (hc : p c) (h : Longest p run rest) : Longest p (c :: run) rest := by
  refine ⟨?_, h.stop⟩
  intro x hx
  rcases List.mem_cons.mp hx with rfl | hx
  · exact hc
  · exact h.within x hx

end DefsGlue.Text
