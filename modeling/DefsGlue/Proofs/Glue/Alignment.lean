import DefsGlue.Proofs.Glue.Parts
import DefsGlue.Proofs.Passing.Shape
import DefsGlue.Proofs.Text.Identifier

/-! The lists of a fragment line up. Specifiers, targets and write-back marks run over the same
slots, which stand together parameter by parameter, and the call has one argument for each. -/
namespace DefsGlue

open Strategy (Shape IsReference)

/-- A slot of a parameter with the character of the format that stands for it. -/
structure Extraction where
  parameter : Parameter
  specifier : Char
  slot : Slot

namespace Extraction

/-- The slots of a binding, each with its specifier. -/
def ofBinding (p : Parameter) (b : Binding) : List Extraction :=
  (b.specifier.toList.zip b.slots).map fun x => ⟨p, x.1, x.2⟩

/-- Whether the target of a slot is followed by the class that its value is checked against. -/
def NamesClass (target : String) : Prop :=
  ∃ place family, target = place ++ ", " ++ family ++ "_ce"

/-- Whether the specifier and the slot of an extraction are those of one strategy. -/
structure InStep (s : Strategy) (x : Extraction) : Prop where
  namesClass_iff : NamesClass x.slot.target ↔ x.specifier = 'O' ∨ x.specifier = 'N'
  byRef_iff : x.slot.byRef = true ↔ s.IsReference
  specifier_of_byRef : x.slot.byRef = true → x.specifier = 'V'

theorem not_namesClass {target : String} (h : ',' ∉ target.toList) : ¬ NamesClass target := by
  rintro ⟨place, family, rfl⟩
  simp at h

theorem namesClass_objectSlot (object place : String) :
    NamesClass (Strategy.objectSlot object place).target := by
  refine ⟨"&" ++ place, Text.lowercase (TypeName.macroName object), ?_⟩
  simp [Strategy.objectSlot, TypeName.classEntry, String.append_assoc]

end Extraction

open Extraction

/-- What the binding of a parameter keeps in step. -/
structure Aligned (p : Parameter) (s : Strategy) (b : Binding) : Prop where
  balanced : b.specifier.toList.length = b.slots.length
  unmarked : '|' ∉ b.specifier.toList
  width : b.slots.length = if s = .rectangle then 4 else 1
  argument : ∃ a, b.arguments = [a]
  inStep : ∀ x ∈ ofBinding p b, InStep s x

namespace Strategy

variable {p : Parameter} {s : Strategy} {b : Binding} {c : Char} {slot : Slot}

/-- A binding of one slot is in step when that slot is. -/
theorem aligned_one (hb : b.specifier.toList = [c]) (hs : b.slots = [slot]) (hbar : c ≠ '|')
    (hr : s ≠ .rectangle) (ha : ∃ a, b.arguments = [a]) (hx : InStep s ⟨p, c, slot⟩) :
    Aligned p s b where
  balanced := by simp [hb, hs]
  unmarked := by simpa [hb] using hbar.symm
  width := by simp [hs, hr]
  argument := ha
  inStep := by simpa [ofBinding, hb, hs] using hx

theorem comma_not_mem (hn : Text.isIdentifier p.name = true) : ',' ∉ p.name.toList :=
  Text.not_mem_of_isIdentifier hn (by decide)

theorem aligned_of_shape (h : Shape p s b) (hn : Text.isIdentifier p.name = true) :
    Aligned p s b := by
  have hcomma := comma_not_mem hn
  cases h with
  | direct hs hspec hc =>
    have hclass : ¬ NamesClass ("&" ++ p.name) := not_namesClass (by simp [hcomma])
    have hin : ∀ c, c ≠ 'O' → c ≠ 'N' → InStep s ⟨p, c, ⟨"&" ++ p.name, false⟩⟩ := by
      intro c hO hN
      refine ⟨by simp [hclass, hO, hN], ?_, by simp⟩
      rcases hs with rfl | rfl | rfl | rfl | rfl <;> simp [IsReference]
    have hr : s ≠ .rectangle := by rcases hs with rfl | rfl | rfl | rfl | rfl <;> simp
    simp only [List.mem_cons, List.not_mem_nil, or_false] at hc
    rcases hc with rfl | rfl | rfl | rfl | rfl <;>
      exact aligned_one hspec rfl (by simp) hr ⟨_, rfl⟩ (hin _ (by simp) (by simp))
  | reference hs =>
    have hclass : ¬ NamesClass ("&" ++ hostName p.name) :=
      not_namesClass (by simp [hostName, hcomma])
    have hr : s ≠ .rectangle := by rcases hs with rfl | rfl <;> simp
    exact aligned_one (c := 'V') (by simp [byReference]) rfl (by simp) hr ⟨_, rfl⟩
      ⟨by simp [hclass], by simp [hs], by simp⟩
  | rectangle =>
    have hclass : ∀ field ∈ ["x", "y", "width", "height"],
        ¬ NamesClass ("&(" ++ p.name ++ "." ++ field ++ ")") := by
      intro field hf
      refine not_namesClass ?_
      simp only [List.mem_cons, List.not_mem_nil, or_false] at hf
      rcases hf with rfl | rfl | rfl | rfl <;> simp [hcomma]
    refine ⟨by simp [bindRectangle], by simp [bindRectangle], rfl, ⟨_, rfl⟩, ?_⟩
    intro x hx
    obtain ⟨field, hf, rfl⟩ : ∃ field ∈ ["x", "y", "width", "height"],
        (⟨p, 'i', ⟨"&(" ++ p.name ++ "." ++ field ++ ")", false⟩⟩ : Extraction) = x := by
      simpa [ofBinding, bindRectangle, eq_comm] using hx
    exact ⟨by simp [hclass field hf], by simp [IsReference], by simp⟩
  | enumeration form type =>
    have hclass : ¬ NamesClass ("&" ++ hostName p.name) :=
      not_namesClass (by simp [hostName, hcomma])
    exact aligned_one (c := 'V') (by simp [bindEnumeration]) rfl (by simp) (by simp) ⟨_, rfl⟩
      ⟨by simp [hclass], by simp [IsReference], by simp⟩
  | object hspec hc =>
    simp only [List.mem_cons, List.not_mem_nil, or_false] at hc
    rcases hc with rfl | rfl <;>
      exact aligned_one hspec rfl (by simp) (by simp) ⟨_, rfl⟩
        ⟨by simp [namesClass_objectSlot], by simp [IsReference, objectSlot], by simp [objectSlot]⟩
  | bareObject =>
    exact aligned_one (c := 'O') (by simp) rfl (by simp) (by simp) ⟨_, rfl⟩
      ⟨by simp [namesClass_objectSlot], by simp [IsReference, objectSlot], by simp [objectSlot]⟩
  | boxed family =>
    have hclass : NamesClass ("&" ++ p.name ++ ", " ++ family ++ "_ce") :=
      ⟨"&" ++ p.name, family, rfl⟩
    exact aligned_one (c := 'O') (by simp [bindBoxed]) rfl (by simp) (by simp) ⟨_, rfl⟩
      ⟨by simp [hclass], by simp [IsReference], by simp⟩

end Strategy

namespace Registry

/-- The slots that a parameter is extracted into, each with its specifier. -/
def extractions (r : Registry) (p : Parameter) : List Extraction :=
  match r.binding p with
  | .ok b => ofBinding p b
  | .error _ => []

/-- Whether a parameter is passed on as the argument, and as no other. -/
def Passes (r : Registry) (p : Parameter) (argument : String) : Prop :=
  ∃ b, r.binding p = .ok b ∧ b.arguments = [argument]

variable {r : Registry} {p : Parameter} {b : Binding} {ps : List Parameter} {bs : List Binding}

theorem extractions_eq (h : r.binding p = .ok b) : r.extractions p = ofBinding p b := by
  simp [extractions, h]

theorem aligned_of_binding (h : r.binding p = .ok b) (hn : Text.isIdentifier p.name = true) :
    ∃ s, r.find? p.type = some s ∧ Aligned p s b := by
  obtain ⟨s, hs, hb⟩ := binding_ok h
  exact ⟨s, hs, Strategy.aligned_of_shape (Strategy.shape_of_bind hb) hn⟩

theorem parameter_of_mem {x : Extraction} (hx : x ∈ r.extractions p) : x.parameter = p := by
  unfold extractions at hx
  split at hx
  · obtain ⟨y, -, rfl⟩ := List.mem_map.mp hx
    rfl
  · cases hx

/-- The slots of all parameters, seen as the lists of which the fragment is made. -/
theorem map_extractions (h : List.Forall₂ (fun p b => r.binding p = .ok b) ps bs)
    (hn : ∀ p ∈ ps, Text.isIdentifier p.name = true) :
    (ps.flatMap r.extractions).map Extraction.specifier = bs.flatMap (·.specifier.toList) ∧
      (ps.flatMap r.extractions).map Extraction.slot = bs.flatMap Binding.slots := by
  induction h with
  | nil => exact ⟨rfl, rfl⟩
  | @cons p b ps bs hb _ ih =>
    obtain ⟨s, -, ha⟩ := aligned_of_binding hb (hn p List.mem_cons_self)
    obtain ⟨ihc, ihs⟩ := ih fun q hq => hn q (List.mem_cons_of_mem p hq)
    have hc : (ofBinding p b).map Extraction.specifier = b.specifier.toList := by
      rw [ofBinding, List.map_map]
      exact List.map_fst_zip (Nat.le_of_eq ha.balanced)
    have hs : (ofBinding p b).map Extraction.slot = b.slots := by
      rw [ofBinding, List.map_map]
      exact List.map_snd_zip (Nat.le_of_eq ha.balanced.symm)
    simp only [List.flatMap_cons, List.map_append, extractions_eq hb, hc, hs, ihc, ihs, and_self]

/-- Without its bar, the format is the specifiers one after another. -/
theorem unmarked_format (h : List.Forall₂ (fun p b => r.binding p = .ok b) ps bs)
    (hn : ∀ p ∈ ps, Text.isIdentifier p.name = true) (optional : Bool) :
    (Parts.marked optional ps bs).toList.filter (· ≠ '|') =
      bs.flatMap (·.specifier.toList) := by
  induction h generalizing optional with
  | nil => rfl
  | @cons p b ps bs hb _ ih =>
    obtain ⟨s, -, ha⟩ := aligned_of_binding hb (hn p List.mem_cons_self)
    have hrest := ih (fun q hq => hn q (List.mem_cons_of_mem p hq))
      (optional || p.default?.isSome)
    have hkeep : b.specifier.toList.filter (· ≠ '|') = b.specifier.toList := by
      refine List.filter_eq_self.mpr fun c hc => ?_
      have hne : c ≠ '|' := fun he => ha.unmarked (he ▸ hc)
      simpa using hne
    have hbar :
        (if p.default?.isSome && !optional then "|" else "").toList.filter (· ≠ '|') = [] := by
      split <;> simp
    rw [Parts.marked, String.toList_append, String.toList_append, List.filter_append,
      List.filter_append, hrest, hkeep, hbar]
    rfl

theorem passes_all (h : List.Forall₂ (fun p b => r.binding p = .ok b) ps bs)
    (hn : ∀ p ∈ ps, Text.isIdentifier p.name = true) :
    List.Forall₂ r.Passes ps (bs.flatMap Binding.arguments) := by
  induction h with
  | nil => exact .nil
  | @cons p b ps bs hb _ ih =>
    obtain ⟨s, -, ha⟩ := aligned_of_binding hb (hn p List.mem_cons_self)
    obtain ⟨a, harg⟩ := ha.argument
    rw [List.flatMap_cons, harg]
    exact .cons ⟨b, hb, harg⟩ (ih fun q hq => hn q (List.mem_cons_of_mem p hq))

end Registry

namespace Entrypoint

/-- What a call passes before its parameters: a method passes the object that it is called on. -/
def receiver : Entrypoint → List String
  | function _ => []
  | method m => [TypeName.macroName m.owner.type ++ "(PHP_GTK_GET(this_ptr))"]

theorem receiver_eq (e : Entrypoint) : (e.owner?.map Fragment.self).toList = e.receiver := by
  cases e with
  | function f => rfl
  | method m => simp [owner?, receiver, Fragment.self, Strategy.unwrapped, String.append_assoc]

variable {r : Registry} {e : Entrypoint} {fragment : Fragment}

/-- The format without its bar, the targets and the write-back marks run over the same slots, in the
order of the parameters and four for a rectangle. A target names a class exactly where the specifier
asks for an object, and a slot is written back exactly where the parameter is a reference. The call
passes one argument for each parameter in their order, after the object of a method. -/
theorem fragment_lines_up (h : e.fragment r = .ok fragment)
    (hn : ∀ p ∈ e.callable.parameters, Text.isIdentifier p.name = true) :
    let slots := e.callable.parameters.flatMap r.extractions
    fragment.format.toList.filter (· ≠ '|') = slots.map (·.specifier) ∧
    fragment.parseTargets = slots.map (·.slot.target) ∧
    fragment.byRef = slots.map (·.slot.byRef) ∧
    (∀ x ∈ slots, (NamesClass x.slot.target ↔ x.specifier = 'O' ∨ x.specifier = 'N') ∧
      (x.slot.byRef = true ↔ r.find? x.parameter.type = some .stringRef ∨
        r.find? x.parameter.type = some .intRef) ∧
      (x.slot.byRef = true → x.specifier = 'V')) ∧
    (∀ p ∈ e.callable.parameters,
      (r.extractions p).length = if r.find? p.type = some .rectangle then 4 else 1) ∧
    ∃ arguments, List.Forall₂ r.Passes e.callable.parameters arguments ∧
      fragment.call = e.cName ++ "(" ++ ", ".intercalate (e.receiver ++ arguments) ++ ")" := by
  intro slots
  obtain ⟨parts, hparts, rfl⟩ := fragment_ok h
  obtain ⟨hb, -⟩ := Registry.parts_ok hparts
  obtain ⟨hspec, hslot⟩ := Registry.map_extractions hb hn
  -- What holds slot by slot is known of the strategy that serves the slot's parameter.
  have haligned : ∀ p ∈ e.callable.parameters, ∃ s b, r.find? p.type = some s ∧
      r.extractions p = ofBinding p b ∧ Aligned p s b := by
    intro p hp
    obtain ⟨b, -, hb⟩ := exists_of_forall₂_mem hb hp
    obtain ⟨s, hs, ha⟩ := Registry.aligned_of_binding hb (hn p hp)
    exact ⟨s, b, hs, Registry.extractions_eq hb, ha⟩
  refine ⟨?_, ?_, ?_, ?_, ?_, _, Registry.passes_all hb hn, ?_⟩
  · exact (Registry.unmarked_format hb hn false).trans hspec.symm
  · simp [Parts.fragment, Parts.site, ← hslot, slots]
  · simp [Parts.fragment, Parts.site, ← hslot, slots]
  · intro x hx
    obtain ⟨p, hp, hx⟩ := List.mem_flatMap.mp hx
    obtain ⟨s, b, hs, hrows, ha⟩ := haligned p hp
    have hstep := ha.inStep x (hrows ▸ hx)
    rw [Registry.parameter_of_mem hx, hs, Option.some_inj, Option.some_inj]
    exact ⟨hstep.namesClass_iff, hstep.byRef_iff, hstep.specifier_of_byRef⟩
  · intro p hp
    obtain ⟨s, b, hs, hrows, ha⟩ := haligned p hp
    simp [hrows, hs, ofBinding, ha.balanced, ha.width]
  · simp [Parts.fragment, Parts.site, CallSite.call, receiver_eq, cName]

theorem fragment_lines_up_place :
    let ps : List Parameter := [⟨"GdkRectangle*", "area", none, false⟩,
      ⟨"gint*", "x", none, false⟩, ⟨"GtkWidget*", "child", some "NULL", true⟩]
    let r := Registry.builtin.addObject "GtkWidget"
    let e : Entrypoint :=
      .method ⟨⟨"place", "gtk_window_place", none, ps, false⟩, ⟨"Window", some "Gtk"⟩⟩
    let slots := ps.flatMap r.extractions
    (∀ p ∈ ps, Text.isIdentifier p.name = true) ∧
    ∃ fragment, e.fragment r = .ok fragment ∧ fragment.format = "iiiiV|N" ∧
      fragment.byRef = [false, false, false, false, true, false] ∧
      fragment.format.toList.filter (· ≠ '|') = slots.map (·.specifier) ∧
      fragment.parseTargets = slots.map (·.slot.target) ∧
      fragment.byRef = slots.map (·.slot.byRef) ∧
      (∀ p ∈ ps, (r.extractions p).length = if r.find? p.type = some .rectangle then 4 else 1) ∧
      e.receiver = ["GTK_WINDOW(PHP_GTK_GET(this_ptr))"] ∧
      ∃ arguments, List.Forall₂ r.Passes ps arguments ∧
        fragment.call = e.cName ++ "(" ++ ", ".intercalate (e.receiver ++ arguments) ++ ")" := by
  intro ps r e slots
  have hn : ∀ p ∈ ps, Text.isIdentifier p.name = true := by decide
  have heval : (fun f => (f.format, f.byRef)) <$> e.fragment r =
      .ok ("iiiiV|N", [false, false, false, false, true, false]) := by decide +kernel
  refine ⟨hn, ?_⟩
  cases h : e.fragment r with
  | error failure =>
    rw [h] at heval
    cases heval
  | ok fragment =>
    rw [h] at heval
    obtain ⟨hformat, hbyRef⟩ := Prod.mk.inj (Except.ok.inj heval)
    obtain ⟨hspec, htargets, hmarks, -, hwidth, arguments, hpasses, hcall⟩ := fragment_lines_up h hn
    exact ⟨fragment, rfl, hformat, hbyRef, hspec, htargets, hmarks, hwidth, by decide +kernel,
      arguments, hpasses, hcall⟩

end Entrypoint
end DefsGlue
