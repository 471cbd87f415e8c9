import DefsGlue.Glue.Bundle

/-! Registries that other strategies may join. As long as none does, they make the bundles that a
registry of the provided strategies makes, so what is shown of that registry holds of them. -/
namespace DefsGlue

variable {σ τ : Type} [Strategies σ] [Strategies τ]

namespace Registry

/-- The registry among strategies of another type. -/
def provide (r : Registry) : Registry σ :=
  ⟨r.entries.map fun e => (e.1, Strategies.provided e.2)⟩

variable (r : Registry)

theorem find?_provide (type : String) :
    (r.provide : Registry σ).find? type = (r.find? type).map Strategies.provided := by
  obtain ⟨entries⟩ := r
  simp only [find?, provide]
  induction entries with
  | nil => rfl
  | cons e entries ih =>
    rw [List.map_cons, List.lookup_cons, List.lookup_cons, ih]
    split <;> rfl

theorem find_provide (type : String) :
    (r.provide : Registry σ).find type = Strategies.provided <$> r.find type := by
  rw [find, find, find?_provide]
  cases r.find? type <;> rfl

theorem bind_provide (p : Parameter) (site : CallSite) :
    (r.provide : Registry σ).bind p site = r.bind p site := by
  rw [bind, bind, find_provide]
  cases r.find p.type with
  | error fault => rfl
  | ok s => exact congrFun (congrFun (Strategies.bind_provided s) p) site

theorem convert_provide (type? : Option String) (site : CallSite) :
    (r.provide : Registry σ).convert type? site = r.convert type? site := by
  simp only [convert, find_provide]
  cases r.find (type?.getD "none") with
  | error fault => rfl
  | ok s => exact congrFun (congrFun (Strategies.convert_provided s) _) site

theorem bindAll_provide (optional : Bool) (site : CallSite) (ps : List Parameter) :
    (r.provide : Registry σ).bindAll optional site ps = r.bindAll optional site ps := by
  induction ps generalizing optional site with
  | nil => rfl
  | cons p ps ih => simp only [bindAll, bind_provide, ih]

theorem addCatalogue_provide (c : Catalogue) :
    (r.provide : Registry σ).addCatalogue c = (r.addCatalogue c).provide := by
  have hobject : ∀ (r : Registry) (o : ObjectType),
      (r.provide : Registry σ).addObject o.cName = (r.addObject o.cName).provide := fun _ _ => rfl
  have henumeration : ∀ (r : Registry) (e : EnumType),
      (r.provide : Registry σ).addEnumeration e.form e.cName =
        (r.addEnumeration e.form e.cName).provide := fun _ _ => rfl
  rw [addCatalogue, addCatalogue, List.foldl_hom provide hobject,
    List.foldl_hom provide henumeration]

end Registry

theorem Entrypoint.fragment_provide (r : Registry) (e : Entrypoint) :
    e.fragment (r.provide : Registry σ) = e.fragment r := by
  cases e <;> simp only [fragment, Fragment.ofFunction, Fragment.ofMethod, Fragment.make,
    Fragment.assemble, Registry.bindAll_provide, Registry.convert_provide]

namespace Bundle

theorem addAll_congr {r : Registry σ} {r' : Registry τ}
    (h : ∀ e : Entrypoint, e.fragment r = e.fragment r') (b : Bundle) (es : List Entrypoint) :
    addAll r b es = addAll r' b es := by
  induction es generalizing b with
  | nil => rfl
  | cons e es ih => simp only [addAll, h, ih]

/-- Among strategies of any type, a registry of provided ones serves a catalogue as it does
alone. -/
theorem generate_provide (c : Catalogue) (r : Registry) (object? : Option String) :
    generate c ((r.provide : Registry σ).addCatalogue c) object? =
      generate c (r.addCatalogue c) object? := by
  rw [Registry.addCatalogue_provide]
  unfold generate
  cases c.selected object? with
  | error failure => rfl
  | ok es => exact addAll_congr (Entrypoint.fragment_provide _) _ es

end Bundle
end DefsGlue
