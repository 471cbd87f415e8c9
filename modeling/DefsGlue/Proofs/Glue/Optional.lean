import DefsGlue.Proofs.Glue.Parts
import DefsGlue.Proofs.Passing.Shape

/-! Where the optional part of a format begins. A bar stands before the specifiers of the first
parameter with a default, and nowhere else. -/
namespace DefsGlue

/-- A specifier has a character for each slot, and a bar is none of them. -/
theorem Strategy.specifier_of_shape {p : Parameter} {s : Strategy} {b : Binding}
    (h : Shape p s b) :
    b.specifier.toList.length = b.slots.length ∧ '|' ∉ b.specifier.toList := by
  have one : ∀ {specifier : String} {c : Char}, specifier.toList = [c] → '|' ≠ c →
      specifier.toList.length = 1 ∧ '|' ∉ specifier.toList := by
    intro specifier c hspec hbar
    simp [hspec, hbar]
  cases h with
  | direct _ hspec hc | object hspec hc => exact one hspec (by rintro rfl; simp at hc)
  | reference => simp [byReference]
  | rectangle => simp [bindRectangle]
  | enumeration => simp [bindEnumeration]
  | bareObject => simp
  | boxed => simp [bindBoxed]

/-- Of parameters with a default, one comes first. -/
theorem exists_first_default {ps : List Parameter}
    (h : ∃ p ∈ ps, p.default?.isSome = true) : ∃ required first rest,
      ps = required ++ first :: rest ∧ (∀ p ∈ required, p.default? = none) ∧
        first.default?.isSome = true := by
  obtain ⟨first, hfind⟩ := Option.isSome_iff_exists.mp (List.find?_isSome.mpr h)
  obtain ⟨hfirst, required, rest, hps, hrequired⟩ := List.find?_eq_some_iff_append.mp hfind
  exact ⟨required, first, rest, hps, by simpa using hrequired, hfirst⟩

namespace Parts

variable {R : Parameter → Binding → Prop} {ps : List Parameter} {bs : List Binding}

/-- After the bar there is none. -/
theorem marked_optional (h : List.Forall₂ R ps bs) :
    marked true ps bs = String.join (bs.map Binding.specifier) := by
  induction h with
  | nil => rfl
  | cons _ _ ih => simp [marked, ih]

theorem marked_first {p : Parameter} (h : List.Forall₂ R (p :: ps) bs)
    (hp : p.default?.isSome = true) :
    marked false (p :: ps) bs = "|" ++ String.join (bs.map Binding.specifier) := by
  cases h with
  | cons _ h => simp [marked, hp, marked_optional h, String.append_assoc]

/-- Parameters without a default stand before the bar. -/
theorem marked_append (h : List.Forall₂ R ps bs) (hps : ∀ p ∈ ps, p.default? = none)
    (qs : List Parameter) (cs : List Binding) :
    marked false (ps ++ qs) (bs ++ cs) =
      String.join (bs.map Binding.specifier) ++ marked false qs cs := by
  induction h with
  | nil => simp
  | cons _ _ ih =>
    rw [List.forall_mem_cons] at hps
    simp [marked, hps.1, ih hps.2, String.append_assoc]

end Parts

namespace Registry

variable {r : Registry} {ps : List Parameter} {bs : List Binding}

theorem specifiers_of_bindings (h : List.Forall₂ (fun p b => r.binding p = .ok b) ps bs) :
    (String.join (bs.map Binding.specifier)).length = (bs.flatMap Binding.slots).length ∧
      '|' ∉ (String.join (bs.map Binding.specifier)).toList := by
  induction h with
  | nil => simp
  | cons hb _ ih =>
    obtain ⟨s, -, hs⟩ := binding_ok hb
    obtain ⟨hlength, hbar⟩ := Strategy.specifier_of_shape (Strategy.shape_of_bind hs)
    rw [String.length_toList] at hlength
    rw [List.map_cons, String.join_cons, List.flatMap_cons, List.length_append,
      String.length_append, String.toList_append, List.mem_append, hlength, ih.1]
    exact ⟨rfl, not_or.mpr ⟨hbar, ih.2⟩⟩

/-- What parameters contribute can be read off empty sites, one for each. -/
theorem runs_of_bindings (h : List.Forall₂ (fun p b => r.binding p = .ok b) ps bs) :
    ∃ runs, List.Forall₂ (fun p run => r.bind p .empty = .ok run) ps runs ∧
      runs.map Prod.fst = bs.map Binding.specifier ∧
      runs.flatMap (·.2.slots) = bs.flatMap Binding.slots := by
  refine ⟨bs.map fun b => (b.specifier, CallSite.empty.add b), ?_, ?_, ?_⟩
  · rw [List.forall₂_map_right_iff]
    exact h.imp fun p b hb => by rw [bind_eq, hb]; rfl
  · simp
  · simp [List.flatMap_map, CallSite.add, CallSite.empty]

/-- Where the first default is, the specifiers are cut by one bar. -/
theorem marked_cut {required rest : List Parameter} {first : Parameter}
    (h : List.Forall₂ (fun p b => r.binding p = .ok b) (required ++ first :: rest) bs)
    (hrequired : ∀ p ∈ required, p.default? = none) (hfirst : first.default?.isSome = true) :
    ∃ before after, List.Forall₂ (fun p run => r.bind p .empty = .ok run) required before ∧
      List.Forall₂ (fun p run => r.bind p .empty = .ok run) (first :: rest) after ∧
      Parts.marked false (required ++ first :: rest) bs =
        String.join (before.map Prod.fst) ++ "|" ++ String.join (after.map Prod.fst) ∧
      (String.join (before.map Prod.fst)).length = (before.flatMap (·.2.slots)).length ∧
      '|' ∉ (String.join (before.map Prod.fst)).toList ∧
      '|' ∉ (String.join (after.map Prod.fst)).toList := by
  obtain ⟨bs, cs, rfl, hbs, hcs⟩ := exists_of_forall₂_append h
  obtain ⟨before, hbefore, hspecs, hslots⟩ := runs_of_bindings hbs
  obtain ⟨after, hafter, hspecs', -⟩ := runs_of_bindings hcs
  obtain ⟨hlength, hbar⟩ := specifiers_of_bindings hbs
  refine ⟨before, after, hbefore, hafter, ?_, ?_, ?_, ?_⟩
  · rw [Parts.marked_append hbs hrequired, Parts.marked_first hcs hfirst, hspecs, hspecs',
      String.append_assoc]
  · rw [hspecs, hslots, hlength]
  · rwa [hspecs]
  · rw [hspecs']
    exact (specifiers_of_bindings hcs).2

end Registry

namespace Entrypoint

variable {r : Registry} {e : Entrypoint} {fragment : Fragment}

/-- A format has a bar exactly if a parameter has a default, and then one. In front of it stands a
character for each slot of the parameters before the first with a default, and after it stand the
specifiers of that one and of all that follow. -/
theorem fragment_bar (h : e.fragment r = .ok fragment) :
    ('|' ∈ fragment.format.toList ↔ ∃ p ∈ e.callable.parameters, p.default?.isSome = true) ∧
    ∀ required first rest, e.callable.parameters = required ++ first :: rest →
      (∀ p ∈ required, p.default? = none) → first.default?.isSome = true →
      fragment.format.toList.count '|' = 1 ∧
      ∃ before after, List.Forall₂ (fun p run => r.bind p .empty = .ok run) required before ∧
        List.Forall₂ (fun p run => r.bind p .empty = .ok run) (first :: rest) after ∧
        fragment.format = String.join (before.map Prod.fst) ++ "|" ++
          String.join (after.map Prod.fst) ∧
        (String.join (before.map Prod.fst)).length = (before.flatMap (·.2.slots)).length := by
  obtain ⟨parts, hparts, rfl⟩ := fragment_ok h
  obtain ⟨hb, -⟩ := Registry.parts_ok hparts
  simp only [Parts.fragment]
  generalize e.callable.parameters = ps at hb ⊢
  refine ⟨⟨fun hbar => ?_, fun hsome => ?_⟩, ?_⟩
  · by_contra hnone
    have hrequired : ∀ p ∈ ps, p.default? = none := by simpa using hnone
    have hformat : Parts.marked false ps parts.bindings =
        String.join (parts.bindings.map Binding.specifier) := by
      simpa [Parts.marked] using Parts.marked_append hb hrequired [] []
    exact (Registry.specifiers_of_bindings hb).2 (hformat ▸ hbar)
  · obtain ⟨required, first, rest, rfl, hrequired, hfirst⟩ := exists_first_default hsome
    obtain ⟨before, after, -, -, hformat, -⟩ := Registry.marked_cut hb hrequired hfirst
    simp [hformat]
  · rintro required first rest rfl hrequired hfirst
    obtain ⟨before, after, hbefore, hafter, hformat, hlength, hbar, hbar'⟩ :=
      Registry.marked_cut hb hrequired hfirst
    refine ⟨?_, before, after, hbefore, hafter, hformat, hlength⟩
    rw [hformat, String.toList_append, String.toList_append, List.count_append,
      List.count_append, List.count_eq_zero.mpr hbar, List.count_eq_zero.mpr hbar']
    rfl

/-- The four slots of a rectangle stand in front, and a parameter without a default behind. -/
theorem fragment_bar_place :
    let required : List Parameter :=
      [⟨"GdkRectangle*", "area", none, false⟩, ⟨"gint*", "x", none, false⟩]
    let first : Parameter := ⟨"GtkWidget*", "child", some "NULL", true⟩
    let rest : List Parameter := [⟨"gint", "padding", none, false⟩]
    let r := Registry.builtin.addObject "GtkWidget"
    let e : Entrypoint :=
      .function ⟨⟨"place", "gtk_place", none, required ++ first :: rest, false⟩, none⟩
    (∀ p ∈ required, p.default? = none) ∧ first.default?.isSome = true ∧
    ∃ fragment, e.fragment r = .ok fragment ∧ fragment.format = "iiiiV|Ni" ∧
      '|' ∈ fragment.format.toList ∧ fragment.format.toList.count '|' = 1 ∧
      ∃ before after, List.Forall₂ (fun p run => r.bind p .empty = .ok run) required before ∧
        List.Forall₂ (fun p run => r.bind p .empty = .ok run) (first :: rest) after ∧
        fragment.format = String.join (before.map Prod.fst) ++ "|" ++
          String.join (after.map Prod.fst) ∧
        (String.join (before.map Prod.fst)).length = (before.flatMap (·.2.slots)).length := by
  intro required first rest r e
  have hrequired : ∀ p ∈ required, p.default? = none := by decide
  have heval : Fragment.format <$> e.fragment r = .ok "iiiiV|Ni" := by decide +kernel
  obtain ⟨fragment, h, hformat⟩ := exists_of_map_ok heval
  obtain ⟨hbar, hcut⟩ := fragment_bar h
  exact ⟨hrequired, rfl, fragment, h, hformat, hbar.mpr ⟨first, by decide, rfl⟩,
    hcut required first rest rfl hrequired rfl⟩

end Entrypoint
end DefsGlue
