import DefsGlue.Proofs.Passing.Locals

/-! Optional parameters. The host may leave their arguments out, so what they are extracted into
needs a value from the start. -/
namespace DefsGlue

open Strategy (Shape initialized)
open Text (isIdentifier)

/-- Whether a local is declared under a name with a value to start with. -/
def Local.Initializes (l : Local) (name : String) : Prop :=
  ∃ value, l.declarator = name ++ " = " ++ value ∨ l.declarator = "*" ++ name ++ " = " ++ value

/-- Whether all that a binding extracts into is declared with a value. -/
def Binding.StartsFilled (b : Binding) : Prop :=
  ∀ slot ∈ b.slots, ∀ name, Addresses slot.target name → ∃ l ∈ b.locals, l.Initializes name

/-- The strategies that make nothing of the default of a parameter. -/
def Strategy.IgnoresDefault (s : Strategy) : Prop :=
  s = .rectangle ∨ ∃ family, s = .boxed family

namespace Local

variable {name declared : String}

theorem initializes_value (hd : declared = name ∨ declared = "*" ++ name) (type value : String) :
    (⟨type, initialized declared (some value)⟩ : Local).Initializes name := by
  refine ⟨value, ?_⟩
  rcases hd with rfl | rfl
  · exact .inl rfl
  · exact .inr rfl

/-- A declarator is shorter without a value than with any. -/
theorem not_initializes_bare (hd : declared = name ∨ declared = "*" ++ name) (type : String) :
    ¬ (⟨type, declared⟩ : Local).Initializes name := by
  have hmarks : "*".length = 1 ∧ " = ".length = 3 := ⟨rfl, rfl⟩
  rintro ⟨value, h | h⟩ <;>
  · have hlen := congrArg String.length h
    rcases hd with rfl | rfl <;>
    · simp only [String.length_append] at hlen
      omega

end Local

namespace Strategy

variable {p : Parameter} {s : Strategy} {b : Binding} {x : String}

/-- Where all slots address one name, it is the name that needs the value. -/
theorem startsFilled_iff (hne : b.slots ≠ []) (hx : ∀ slot ∈ b.slots, Addresses slot.target x) :
    b.StartsFilled ↔ ∃ l ∈ b.locals, l.Initializes x := by
  constructor
  · intro h
    obtain ⟨slot, hslot⟩ := List.exists_mem_of_ne_nil _ hne
    exact h slot hslot x (hx slot hslot)
  · intro h slot hslot y hy
    rwa [hy.unique (hx slot hslot)]

theorem startsFilled_of_shape (h : Shape p s b) (hn : isIdentifier p.name = true)
    (hd : p.default?.isSome = true) : b.StartsFilled ↔ ¬ s.IgnoresDefault := by
  have hh := isIdentifier_hostName hn
  have hnull : (nullHost p.name).Initializes (hostName p.name) :=
    Local.initializes_value (.inr rfl) _ _
  cases h with
  | @direct s _ type declared argument value? _ hs _ _ hdecl hv _ =>
    obtain ⟨value, rfl⟩ := Option.isSome_iff_exists.mp (hv.trans hd)
    have hvalue := Local.initializes_value hdecl type value
    refine iff_of_true ?_ ?_
    · refine (startsFilled_iff (by simp [direct]) ?_).mpr ⟨_, List.mem_singleton_self _, hvalue⟩
      simp [direct, Addresses.whole hn]
    · rcases hs with rfl | rfl | rfl | rfl | rfl <;> simp [IgnoresDefault]
  | reference hs =>
    refine iff_of_true ?_ ?_
    · refine (startsFilled_iff (by simp [byReference]) ?_).mpr ⟨_, List.mem_singleton_self _, hnull⟩
      simp [byReference, Addresses.whole hh]
    · rcases hs with rfl | rfl <;> simp [IgnoresDefault]
  | rectangle =>
    refine iff_of_false ?_ (by simp [IgnoresDefault])
    rw [startsFilled_iff (x := p.name) (by simp [bindRectangle])
      (by simp [bindRectangle, Addresses.member _ hn])]
    simpa [bindRectangle] using Local.not_initializes_bare (.inl rfl) (TypeName.pointee p.type)
  | enumeration form type =>
    refine iff_of_true ?_ (by simp [IgnoresDefault])
    refine (startsFilled_iff (x := hostName p.name) (by simp [bindEnumeration])
      (by simp [bindEnumeration, Addresses.whole hh])).mpr ⟨_, ?_, hnull⟩
    simp [bindEnumeration]
  | @object object _ value host? _ _ _ _ hhost =>
    obtain ⟨null, rfl⟩ := Option.isSome_iff_exists.mp (hhost hd)
    refine iff_of_true ?_ (by simp [IgnoresDefault])
    refine (startsFilled_iff (x := hostName p.name) (by simp)
      (by simp [objectSlot, Addresses.checked _ hh])).mpr
      ⟨_, ?_, Local.initializes_value (.inr rfl) "zval" null⟩
    simp
  | bareObject hnone => simp [hnone] at hd
  | boxed family =>
    refine iff_of_false ?_ (by simp [IgnoresDefault])
    rw [startsFilled_iff (x := p.name) (by simp [bindBoxed])
      (by simpa [bindBoxed, String.append_assoc] using Addresses.checked (family ++ "_ce") hn)]
    simpa [bindBoxed] using Local.not_initializes_bare (.inr rfl) "zval"

end Strategy

namespace Registry

variable {r : Registry} {p : Parameter} {site site' : CallSite} {specifier : String}

/-- A parameter with a default gives all that it is extracted into a value to start with, unless it
is a rectangle or a boxed value: these are declared bare, so that the native call reads whatever
stood there when the argument is left out. -/
theorem bind_startsFilled_iff (h : r.bind p site = .ok (specifier, site'))
    (hn : isIdentifier p.name = true) (hd : p.default?.isSome = true) :
    ∃ s b, r.find? p.type = some s ∧ s.bind p = .ok b ∧ specifier = b.specifier ∧
      site' = site.add b ∧ (b.StartsFilled ↔ ¬ s.IgnoresDefault) := by
  rw [bind_eq] at h
  cases hb : r.binding p with
  | error fault => simp [hb] at h
  | ok b =>
    obtain ⟨hspecifier, hsite⟩ : b.specifier = specifier ∧ site.add b = site' := by
      simpa [hb] using h
    obtain ⟨s, hs, hsb⟩ := binding_ok hb
    exact ⟨s, b, hs, hsb, hspecifier.symm, hsite.symm,
      Strategy.startsFilled_of_shape (Strategy.shape_of_bind hsb) hn hd⟩

theorem bind_startsFilled_iff_width :
    let p : Parameter := ⟨"gint", "width", some "-1", false⟩
    isIdentifier p.name = true ∧ p.default?.isSome = true ∧
    ∃ site, builtin.bind p .empty = .ok ("i", site) ∧
      ∃ s b, builtin.find? p.type = some s ∧ s.bind p = .ok b ∧ "i" = b.specifier ∧
        site = CallSite.empty.add b ∧ (b.StartsFilled ↔ ¬ s.IgnoresDefault) := by
  have h : builtin.bind ⟨"gint", "width", some "-1", false⟩ .empty =
      .ok ("i", ⟨⟨[("long", ["width = -1"])]⟩, [⟨"&width", false⟩], ["(gint)width"], []⟩) := by
    decide +kernel
  exact ⟨by decide, rfl, _, h, bind_startsFilled_iff h (by decide) rfl⟩

/-- A color with a default is extracted into a pointer that is declared without a value. -/
theorem bind_color_not_startsFilled :
    let p : Parameter := ⟨"GdkColor*", "color", some "NULL", false⟩
    isIdentifier p.name = true ∧ p.default?.isSome = true ∧
    ∃ b, builtin.bind p .empty = .ok ("O", CallSite.empty.add b) ∧
      b.locals = [⟨"zval", "*color"⟩] ∧ b.slots = [⟨"&color, gdk_color_ce", false⟩] ∧
      Addresses "&color, gdk_color_ce" "color" ∧ ¬ b.StartsFilled := by
  have hn : isIdentifier "color" = true := by decide
  have htarget : Addresses "&color, gdk_color_ce" "color" := .checked "gdk_color_ce" hn
  refine ⟨hn, rfl, Strategy.bindBoxed "gdk_color" ⟨"GdkColor*", "color", some "NULL", false⟩,
    by decide +kernel, rfl, rfl, htarget, fun h => ?_⟩
  obtain ⟨l, hl, hvalue⟩ := h _ (List.mem_singleton_self _) "color" htarget
  obtain rfl := List.mem_singleton.mp hl
  exact Local.not_initializes_bare (.inr rfl) "zval" hvalue

end Registry
end DefsGlue
