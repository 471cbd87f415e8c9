import DefsGlue.Proofs.Catalogue.Unknown

/-! Heads and the keywords they are taken for. A key blurs every character that no identifier has
into an underscore, but no keyword has an underscore, so that only its own spelling leads to it. -/
namespace DefsGlue

namespace Keyword

/-- A digit, a letter or an underscore of ASCII. -/
def KeyChar (c : Char) : Prop :=
  (48 ≤ c.toNat ∧ c.toNat ≤ 57) ∨ (65 ≤ c.toNat ∧ c.toNat ≤ 90) ∨
    (97 ≤ c.toNat ∧ c.toNat ≤ 122) ∨ c = '_'

variable {c : Char} {head : String} {keyword : Keyword}

theorem isKeyChar_iff : isKeyChar c = true ↔ KeyChar c := by
  delta isKeyChar Char.isAlphanum Char.isAlpha Char.isUpper Char.isLower Char.isDigit
  simp only [Bool.or_eq_true, Bool.and_eq_true, decide_eq_true_eq, beq_iff_eq,
    UInt32.le_iff_toNat_le, Char.toNat_val, ge_iff_le, KeyChar, Char.reduceVal, UInt32.reduceToNat]
  tauto

theorem isKeyChar_of_mem_key (h : c ∈ (key head).toList) : isKeyChar c = true := by
  rw [key, String.toList_ofList, List.mem_map] at h
  obtain ⟨x, -, rfl⟩ := h
  split
  · assumption
  · rfl

theorem key_eq_self (h : ∀ c ∈ head.toList, isKeyChar c = true) : key head = head := by
  apply String.toList_injective
  rw [key, String.toList_ofList]
  calc head.toList.map (fun c => if isKeyChar c then c else '_')
      = head.toList.map id := List.map_congr_left fun c hc => if_pos (h c hc)
    _ = head.toList := List.map_id _

theorem length_key (head : String) : (key head).length = head.length := by
  rw [key, String.length_ofList, List.length_map, String.length_toList]

theorem ofHead_label (h : keyword ≠ unknown) : ofHead keyword.label = keyword := by
  cases keyword with
  | definition kind =>
    cases kind with
    | enumeration form => cases form <;> decide
    | _ => decide
  | inclusion => decide
  | unknown => exact absurd rfl h

theorem label_ofHead (h : head ∈ words) : (ofHead head).label = head := by
  have hall : ∀ word ∈ words, (ofHead word).label = word := by decide
  exact hall head h

theorem ofHead_eq_iff (h : keyword ≠ unknown) : ofHead head = keyword ↔ head = keyword.label := by
  constructor
  · rintro rfl
    have hword : head ∈ words := by
      by_contra hno
      exact h (ofHead_of_not_mem hno)
    exact (label_ofHead hword).symm
  · rintro rfl
    exact ofHead_label h

/-- A keyword has no character that its key would not keep. -/
theorem ofHead_of_not_keyChar (hc : c ∈ head.toList) (h : ¬ KeyChar c) : ofHead head = unknown := by
  apply ofHead_of_not_mem
  intro hword
  have hall : ∀ word ∈ words, word.toList.all isKeyChar = true := by decide
  exact h (isKeyChar_iff.mp (List.all_eq_true.mp (hall head hword) c hc))

/-- A head is taken for a keyword exactly if it is that keyword's spelling. Its key is as long as
the head, has only digits, letters and underscores of ASCII, and is its own key; a head with any
other character begins no record that asks for something. -/
theorem ofHead_exact (head : String) :
    (∀ keyword, keyword ≠ unknown → (ofHead head = keyword ↔ head = keyword.label)) ∧
    (key head).length = head.length ∧ (∀ c ∈ (key head).toList, KeyChar c) ∧
    key (key head) = key head ∧
    ((∃ c ∈ head.toList, ¬ KeyChar c) → ofHead head = unknown ∧
      ∀ source first args, first.name? = some head →
        Directive.ofRecord source (.list (first :: args)) = .skip) := by
  refine ⟨fun _ => ofHead_eq_iff, length_key head, fun c hc => ?_, ?_, ?_⟩
  · exact isKeyChar_iff.mp (isKeyChar_of_mem_key hc)
  · exact key_eq_self fun c => isKeyChar_of_mem_key
  · rintro ⟨c, hc, hno⟩
    have hhead := ofHead_of_not_keyChar hc hno
    refine ⟨hhead, fun source first args hname => ?_⟩
    simp [Directive.ofRecord, hname, hhead, Directive.ofKeyword]

/-- A dash, a blank, a point and a letter beyond ASCII keep a head from being the keyword that it
resembles, though its key may be that keyword's but for underscores. -/
theorem ofHead_exact_lookalikes :
    ofHead "flags" = .definition (.enumeration .flags) ∧
    (∀ head ∈ ["-object", "enum ", "include.", "méthod"], ofHead head = unknown ∧
      ∀ source args, Directive.ofRecord source (.list (.leaf (.atom head) :: args)) = .skip) ∧
    (∀ c ∈ (key "méthod").toList, KeyChar c) ∧ key "méthod" = "m_thod" := by
  refine ⟨((ofHead_exact "flags").1 _ (by decide)).mpr rfl, ?_,
    (ofHead_exact "méthod").2.2.1, by decide⟩
  have hforeign : ∀ head ∈ ["-object", "enum ", "include.", "méthod"],
      head.toList.all isKeyChar = false := by decide
  intro head hmem
  obtain ⟨c, hc, hno⟩ := List.all_eq_false.mp (hforeign head hmem)
  have hkey : ¬ KeyChar c := fun hkeep => hno (isKeyChar_iff.mpr hkeep)
  obtain ⟨hhead, hskip⟩ := (ofHead_exact head).2.2.2.2 ⟨c, hc, hkey⟩
  exact ⟨hhead, fun source args => hskip source _ args rfl⟩

end Keyword
end DefsGlue
