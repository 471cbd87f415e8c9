import DefsGlue.Text.Casing
import Mathlib.Tactic.SplitIfs

/-! Upper case of texts made from parts, and texts up to case. An ASCII text is put in upper case
character by character, and two of them agree in upper case just if they agree in lower case. -/
namespace DefsGlue.Text

/-- A text of ASCII characters. -/
def IsAscii (s : String) : Prop := ∀ c ∈ s.toList, c.toNat < 0x80

instance (s : String) : Decidable (IsAscii s) :=
  List.decidableBAll (fun c : Char => c.toNat < 0x80) s.toList

variable {s t sep : String}

theorem uppercase_append (s t : String) : uppercase (s ++ t) = uppercase s ++ uppercase t := by
  simp [uppercase, String.ofList_append]

theorem uppercase_intercalate (h : uppercase sep = sep) (ss : List String) :
    uppercase (sep.intercalate ss) = sep.intercalate (ss.map uppercase) := by
  induction ss with
  | nil => rfl
  | cons s ss ih =>
    cases ss with
    | nil => simp
    | cons s' ss =>
      rw [List.map_cons, List.map_cons, String.intercalate_cons_cons,
        String.intercalate_cons_cons, uppercase_append, uppercase_append, h, ih, List.map_cons]

theorem flatMap_upper_ascii {cs : List Char} (h : ∀ c ∈ cs, c.toNat < 0x80) :
    cs.flatMap upper = cs.map Char.toUpper := by
  induction cs with
  | nil => rfl
  | cons c cs ih =>
    rw [List.forall_mem_cons] at h
    simp [upper, h.1, ih h.2]

theorem uppercase_ascii (h : IsAscii s) : uppercase s = s.toUpper := by
  apply String.toList_injective
  simp [uppercase, flatMap_upper_ascii h, String.toUpper]

theorem toNat_toUpper (c : Char) :
    c.toUpper.toNat = if 97 ≤ c.toNat ∧ c.toNat ≤ 122 then c.toNat - 32 else c.toNat := by
  have hrange : ('a'.val ≤ c.val ∧ c.val ≤ 'z'.val) ↔ 97 ≤ c.toNat ∧ c.toNat ≤ 122 := by
    simp [UInt32.le_iff_toNat_le, ← Char.toNat_val]
  -- The distance is negative, so it is added modulo the width of a character.
  have hshift : ('A'.val - 'a'.val).toNat = 2 ^ 32 - 32 := by decide
  delta Char.toUpper
  simp only [hrange]
  split
  · rw [← Char.toNat_val, UInt32.toNat_add, hshift, Char.toNat_val]
    omega
  · rfl

theorem toNat_toLower (c : Char) :
    c.toLower.toNat = if 65 ≤ c.toNat ∧ c.toNat ≤ 90 then c.toNat + 32 else c.toNat := by
  have hrange : (c.val ≥ 'A'.val ∧ c.val ≤ 'Z'.val) ↔ 65 ≤ c.toNat ∧ c.toNat ≤ 90 := by
    simp [UInt32.le_iff_toNat_le, ← Char.toNat_val]
  have hshift : ('a'.val - 'A'.val).toNat = 32 := by decide
  delta Char.toLower
  simp only [hrange]
  split
  · rw [← Char.toNat_val, UInt32.toNat_add, hshift, Char.toNat_val]
    omega
  · rfl

theorem toLower_comp_toUpper : Char.toLower ∘ Char.toUpper = Char.toLower := by
  funext c
  apply Char.toNat_inj.mp
  rw [Function.comp_apply, toNat_toLower, toNat_toLower, toNat_toUpper]
  split_ifs <;> omega

theorem toUpper_comp_toLower : Char.toUpper ∘ Char.toLower = Char.toUpper := by
  funext c
  apply Char.toNat_inj.mp
  rw [Function.comp_apply, toNat_toUpper, toNat_toUpper, toNat_toLower]
  split_ifs <;> omega

/-- Texts agree in upper case just if they do in lower case. -/
theorem toUpper_eq_iff :
    s.toUpper = t.toUpper ↔ s.toList.map Char.toLower = t.toList.map Char.toLower := by
  rw [← String.toList_inj, String.toUpper, String.toUpper, String.toList_map, String.toList_map]
  constructor
  · intro h
    simpa [toLower_comp_toUpper] using congrArg (List.map Char.toLower) h
  · intro h
    simpa [toUpper_comp_toLower] using congrArg (List.map Char.toUpper) h

/-- Only the underscore itself is an underscore in upper case. -/
theorem toUpper_eq_underscore_iff {c : Char} : c.toUpper = '_' ↔ c = '_' := by
  have hmark : '_'.toNat = 95 := rfl
  rw [← Char.toNat_inj, ← Char.toNat_inj, toNat_toUpper, hmark]
  split_ifs <;> omega

end DefsGlue.Text
