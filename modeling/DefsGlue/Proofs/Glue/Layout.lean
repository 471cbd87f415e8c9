import DefsGlue.Glue.Layout
import DefsGlue.Proofs.Json

/-! The written form of a bundle says all that the bundle holds. Keys that are left out can be told
from keys that are there, and no text inside it can pass for a part of the layout. -/
namespace DefsGlue

@[simp] theorem Role.label_inj {role role' : Role} : role.label = role'.label ↔ role = role' := by
  cases role <;> cases role' <;> simp [label]

namespace Json

@[simp] theorem texts_inj {ss ss' : List String} : texts ss = texts ss' ↔ ss = ss' := by
  have h : Function.Injective (List.map text) := List.map_injective_iff.mpr fun _ _ => text.inj
  simp [texts, h.eq_iff]

@[simp] theorem bools_inj {bs bs' : List Bool} : bs.map bool = bs'.map bool ↔ bs = bs' := by
  have h : Function.Injective (List.map bool) := List.map_injective_iff.mpr fun _ _ => bool.inj
  exact h.eq_iff

end Json

/-- With and without the type that a method belongs to, a fragment has another number of fields. -/
theorem Fragment.toJson_injective : Function.Injective toJson := by
  intro f f' h
  have hfields := Json.object.inj h
  cases hf : f.ofObject? with
  | none =>
    cases hf' : f'.ofObject? with
    | none =>
      simp only [hf, hf'] at hfields
      cases f
      cases f'
      simp_all
    | some type' => simp [hf, hf'] at hfields
  | some type =>
    cases hf' : f'.ofObject? with
    | none => simp [hf, hf'] at hfields
    | some type' =>
      simp only [hf, hf'] at hfields
      cases f
      cases f'
      simp_all

namespace Bundle

/-- A key for the names left out is there just when there are such names. -/
theorem toJson_injective : Function.Injective toJson := by
  intro b b' h
  obtain ⟨sources, callables, skipped⟩ := b
  obtain ⟨sources', callables', skipped'⟩ := b'
  have hfields := Json.object.inj h
  have hcallables : Function.Injective (List.map Fragment.toJson) :=
    List.map_injective_iff.mpr Fragment.toJson_injective
  cases skipped with
  | nil =>
    cases skipped' with
    | nil => simpa [hcallables.eq_iff] using hfields
    | cons name' names' => simp at hfields
  | cons name names =>
    cases skipped' with
    | nil => simp at hfields
    | cons name' names' => simpa [hcallables.eq_iff] using hfields

/-- Bundles are written alike only if they are alike in all they hold. -/
theorem render_eq_iff (b b' : Bundle) : b.render = b'.render ↔
    b.sources = b'.sources ∧ b.callables = b'.callables ∧ b.skipped = b'.skipped := by
  constructor
  · intro h
    have hlists := congrArg String.toList h
    simp only [render, String.toList_append] at hlists
    have htext := String.toList_injective (List.append_cancel_right hlists)
    obtain rfl := toJson_injective (Json.render_inj htext)
    exact ⟨rfl, rfl, rfl⟩
  · rintro ⟨hsources, hcallables, hskipped⟩
    obtain rfl : b = b' := by
      cases b
      cases b'
      simp_all
    rfl

end Bundle
end DefsGlue
