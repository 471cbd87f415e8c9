import DefsGlue.Proofs.Text.Longest
import DefsGlue.Proofs.TypeName.Words

/-! The words of a name as its one decomposition. Where a word ends is settled from the left: it
takes a second capital whenever one follows the first, so that only the last word can be a lone
capital. -/
namespace DefsGlue.TypeName

open Text (Longest)

/-- One or two capitals, then any number of characters that are none. -/
def Headed (word : List Char) : Prop :=
  ∃ head tail, word = head ++ tail ∧ (head.length = 1 ∨ head.length = 2) ∧
    (∀ c ∈ head, isCapital c = true) ∧ ∀ c ∈ tail, isCapital c = false

/-- A capital with nothing after it. -/
def Lone (word : List Char) : Prop := ∃ c, isCapital c = true ∧ word = [c]

/-- Headed words that make up a name from its first capital on. A lone capital would pair with the
head of a word after it, so only the last word may be one. -/
structure Decomposes (name : List Char) (ws : List (List Char)) : Prop where
  joined : ws.flatten = name.dropWhile isTail
  headed : ∀ w ∈ ws, Headed w
  paired : ∀ w ∈ ws.dropLast, ¬ Lone w

variable {c d : Char} {cs tail word : List Char} {ws : List (List Char)}

theorem isTail_iff : isTail c = true ↔ isCapital c = false := by simp [isTail]

/-- The character after the first capital of a word may be anything. -/
theorem headed_cons (hc : isCapital c = true) (ht : ∀ x ∈ tail, isCapital x = false) :
    Headed (c :: d :: tail) := by
  cases hd : isCapital d with
  | true => exact ⟨[c, d], tail, rfl, .inr rfl, by simp [hc, hd], ht⟩
  | false => exact ⟨[c], d :: tail, rfl, .inl rfl, by simp [hc], by simpa [hd] using ht⟩

theorem Headed.cases (h : Headed word) : Lone word ∨ ∃ c d tail, word = c :: d :: tail ∧
    isCapital c = true ∧ ∀ x ∈ tail, isCapital x = false := by
  obtain ⟨head, tail, rfl, hlen | hlen, hhead, htail⟩ := h
  · obtain ⟨c, rfl⟩ := List.length_eq_one_iff.mp hlen
    have hc : isCapital c = true := hhead c (by simp)
    cases tail with
    | nil => exact .inl ⟨c, hc, rfl⟩
    | cons d tail => exact .inr ⟨c, d, tail, rfl, hc, fun x hx => htail x (by simp [hx])⟩
  · obtain ⟨c, d, rfl⟩ := List.length_eq_two.mp hlen
    exact .inr ⟨c, d, tail, rfl, hhead c (by simp), htail⟩

theorem Headed.exists_cons (h : Headed word) : ∃ c cs, word = c :: cs ∧ isCapital c = true := by
  obtain ⟨c, hc, rfl⟩ | ⟨c, d, tail, rfl, hc, -⟩ := h.cases
  · exact ⟨c, [], rfl, hc⟩
  · exact ⟨c, d :: tail, rfl, hc⟩

/-- Words with nothing before them begin with a capital, if with anything. -/
theorem isTail_flatten (h : ∀ w ∈ ws, Headed w) : ∀ c ∈ ws.flatten.head?, ¬ isTail c = true := by
  cases ws with
  | nil => simp
  | cons w ws =>
    obtain ⟨x, xs, rfl, hx⟩ := (h w List.mem_cons_self).exists_cons
    simp [isTail, hx]

theorem split_cons (hc : isCapital c = true) (h : Longest (isTail · = true) tail cs) :
    split (c :: d :: (tail ++ cs)) = (c :: d :: tail) :: split cs := by
  rw [split, if_pos hc, h.takeWhile_eq fun _ => Iff.rfl, h.dropWhile_eq fun _ => Iff.rfl]

/-- What stands before the first capital does not matter. -/
theorem split_dropWhile (cs : List Char) : split (cs.dropWhile isTail) = split cs := by
  induction cs with
  | nil => rfl
  | cons c cs ih =>
    cases hc : isCapital c with
    | true =>
      have hstop : ¬ isTail c = true := by simp [isTail, hc]
      rw [List.dropWhile_cons_of_neg hstop]
    | false =>
      rw [List.dropWhile_cons_of_pos (isTail_iff.mpr hc), ih]
      cases cs with
      | nil => simp [split, hc]
      | cons d cs => simp [split, hc]

/-- Words that are headed and paired are found again where they are joined. -/
theorem split_flatten (hh : ∀ w ∈ ws, Headed w) (hp : ∀ w ∈ ws.dropLast, ¬ Lone w) :
    split ws.flatten = ws := by
  induction ws with
  | nil => simp [split]
  | cons w ws ih =>
    obtain ⟨hw, hws⟩ := List.forall_mem_cons.mp hh
    have hlast : Lone w → ws = [] := by
      intro hlone
      by_contra hne
      exact hp w (by simp [List.dropLast_cons_of_ne_nil hne]) hlone
    have ih' : split ws.flatten = ws := by
      apply ih hws
      intro v hv
      have hne : ws ≠ [] := by
        rintro rfl
        cases hv
      exact hp v (by simp [List.dropLast_cons_of_ne_nil hne, hv])
    rcases hw.cases with hlone | ⟨c, d, tail, rfl, hc, htail⟩
    · obtain rfl := hlast hlone
      obtain ⟨c, hc, rfl⟩ := hlone
      simp [split, hc]
    · have hlong : Longest (isTail · = true) tail ws.flatten :=
        ⟨fun x hx => isTail_iff.mpr (htail x hx), isTail_flatten hws⟩
      rw [List.flatten_cons, List.cons_append, List.cons_append, split_cons hc hlong, ih']

theorem headed_of_mem_split (h : word ∈ split cs) : Headed word := by
  fun_induction split cs with
  | case1 => cases h
  | case2 c hc =>
    obtain rfl := List.mem_singleton.mp h
    exact ⟨[c], [], rfl, .inl rfl, by simp [hc], by simp⟩
  | case3 => cases h
  | case4 c d cs hc ih =>
    rcases List.mem_cons.mp h with rfl | h
    · exact headed_cons hc fun x hx => isTail_iff.mp (List.mem_takeWhile_imp hx)
    · exact ih h
  | case5 c d cs _ ih => exact ih h

/-- Only at the end of a name does a capital find no character to take along. -/
theorem not_lone_of_mem_dropLast_split (h : word ∈ (split cs).dropLast) : ¬ Lone word := by
  fun_induction split cs with
  | case1 => cases h
  | case2 => cases h
  | case3 => cases h
  | case4 c d cs hc ih =>
    cases hrest : split (cs.dropWhile isTail) with
    | nil => simp [hrest] at h
    | cons v vs =>
      rw [hrest, List.dropLast_cons_of_ne_nil (by simp), List.mem_cons] at h
      rcases h with rfl | h
      · rintro ⟨x, -, hx⟩
        simp at hx
      · exact ih (hrest ▸ h)
  | case5 c d cs _ ih => exact ih h

theorem decomposes_split (cs : List Char) : Decomposes cs (split cs) :=
  ⟨flatten_split cs, fun _ => headed_of_mem_split, fun _ => not_lone_of_mem_dropLast_split⟩

theorem Decomposes.eq_split (h : Decomposes cs ws) : ws = split cs := by
  rw [← split_dropWhile cs, ← h.joined, split_flatten h.headed h.paired]

/-- The words of a name are its only decomposition, and there are none exactly if it has no
capital. -/
theorem words_unique (name : String) :
    (∀ ws, ws = words name ↔ Decomposes name.toList (ws.map String.toList)) ∧
    (words name = [] ↔ ∀ c ∈ name.toList, isCapital c = false) := by
  have hwords : (words name).map String.toList = split name.toList := by simp [words]
  refine ⟨fun ws => ⟨?_, ?_⟩, ?_⟩
  · rintro rfl
    rw [hwords]
    exact decomposes_split name.toList
  · intro h
    have hsame := h.eq_split
    rw [← hwords] at hsame
    exact List.map_injective_iff.mpr (fun _ _ => String.toList_injective) hsame
  · constructor
    · intro hnone c hc
      by_contra hcapital
      exact words_ne_nil ⟨c, hc, by simpa using hcapital⟩ hnone
    · intro hnone
      have hdrop : name.toList.dropWhile isTail = [] :=
        List.dropWhile_eq_nil_iff.mpr fun c hc => isTail_iff.mpr (hnone c hc)
      have hsplit : split name.toList = [] := by rw [← split_dropWhile, hdrop, split]
      rw [words, hsplit, List.map_nil]

end DefsGlue.TypeName
