import DefsGlue.Proofs.Text.Casing
import DefsGlue.TypeName
import Mathlib.Data.List.DropRight
import Mathlib.Data.List.TakeWhile

/-! The words of a name and the macro name made of them. The words are what the name holds from its
first capital on, and the macro name is their upper case with an underscore between them. -/
namespace DefsGlue.TypeName

variable {name word : String} {c : Char}

/-- Nothing of a name is lost from its first capital on. -/
theorem flatten_split (cs : List Char) : (split cs).flatten = cs.dropWhile isTail := by
  fun_induction split cs with
  | case1 => rfl
  | case2 c hc => simp [isTail, hc]
  | case3 c hc => simp [isTail, hc]
  | case4 c d cs hc ih =>
    have hstop : ¬ isTail c = true := by simp [isTail, hc]
    rw [List.flatten_cons, ih, List.dropWhile_idempotent, List.dropWhile_cons_of_neg hstop]
    simp [List.takeWhile_append_dropWhile]
  | case5 c d cs hc ih =>
    have hskip : isTail c = true := by simp [isTail, hc]
    rw [ih, List.dropWhile_cons_of_pos hskip]

theorem words_ne_nil (h : ∃ c ∈ name.toList, isCapital c = true) : words name ≠ [] := by
  intro hwords
  have hsplit : split name.toList = [] := List.map_eq_nil_iff.mp hwords
  have hflat := flatten_split name.toList
  rw [hsplit, List.flatten_nil, eq_comm, List.dropWhile_eq_nil_iff] at hflat
  obtain ⟨c, hc, hcapital⟩ := h
  simpa [isTail, hcapital] using hflat c hc

/-- The characters of the words stand in the name, none of them before its first capital. -/
theorem mem_of_mem_words (hw : word ∈ words name) (hc : c ∈ word.toList) :
    c ∈ name.toList.dropWhile isTail := by
  obtain ⟨cs, hcs, rfl⟩ := List.mem_map.mp hw
  rw [← flatten_split]
  exact List.mem_flatten.mpr ⟨cs, hcs, by simpa using hc⟩

theorem macroName_eq (name : String) :
    macroName name = "_".intercalate ((words name).map Text.uppercase) :=
  Text.uppercase_intercalate (by decide) _

end DefsGlue.TypeName
