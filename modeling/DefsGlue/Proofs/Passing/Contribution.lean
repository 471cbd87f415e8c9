import DefsGlue.Passing.Registry
import DefsGlue.Proofs.Effect

/-! What parameters and return values contribute to a call site. It does not depend on the site, and
a site only ever grows by it. -/
namespace DefsGlue

/-- Adds locals one after another. -/
def Declarations.addAll (d : Declarations) (ls : List Local) : Declarations :=
  ls.foldl (fun d l => d.add l.type l.declarator) d

namespace CallSite

variable {site : CallSite}

theorem declareAll_eq (site : CallSite) (ls : List Local) :
    site.declareAll ls = { site with declarations := site.declarations.addAll ls } := by
  induction ls generalizing site with
  | nil => rfl
  | cons l ls ih =>
    rw [declareAll, List.foldl_cons, ← declareAll, ih]
    rfl

/-- Bindings added one after another append what they hold, kind by kind. -/
theorem addAll_eq (site : CallSite) (bs : List Binding) : bs.foldl add site =
    { declarations := site.declarations.addAll (bs.flatMap Binding.locals)
      slots := site.slots ++ bs.flatMap Binding.slots
      arguments := site.arguments ++ bs.flatMap Binding.arguments
      statements := site.statements ++ bs.flatMap Binding.statements } := by
  induction bs generalizing site with
  | nil => simp [Declarations.addAll]
  | cons b bs ih =>
    rw [List.foldl_cons, ih]
    simp [add, declareAll_eq, Declarations.addAll, List.foldl_append]

end CallSite

namespace Registry

/-- What a parameter contributes, by the strategy that serves its type. -/
def binding (r : Registry) (p : Parameter) : Except PassingFault Binding := do
  let s ← r.find p.type
  s.bind p

/-- What a return value contributes; a call that declares no type returns none. -/
def conversion (r : Registry) (type? : Option String) :
    Except PassingFault Strategy.Conversion := do
  let s ← r.find (type?.getD "none")
  s.convert (type?.getD "none")

theorem bind_eq (r : Registry) (p : Parameter) (site : CallSite) :
    r.bind p site = (fun b => (b.specifier, site.add b)) <$> r.binding p := by
  simp [bind, binding, Strategies.bind, Strategy.bindAt]

theorem convert_eq (r : Registry) (type? : Option String) (site : CallSite) :
    r.convert type? site =
      (fun c => (c.form, site.declareAll c.locals)) <$> r.conversion type? := by
  simp [convert, conversion, Strategies.convert, Strategy.convertAt]

theorem find_ok_iff {σ : Type} {r : Registry σ} {type : String} {s : σ} :
    r.find type = .ok s ↔ r.find? type = some s := by
  unfold find
  split
  · next hs => simp [hs]
  · next hs => simp [hs]

theorem find_error_iff {σ : Type} {r : Registry σ} {type : String} {fault : PassingFault} :
    r.find type = .error fault ↔ r.find? type = none ∧ fault = .unknownType type := by
  unfold find
  split
  · next hs => simp [hs]
  · next hs => simp [hs, @eq_comm PassingFault fault]

theorem binding_ok {r : Registry} {p : Parameter} {b : Binding} (h : r.binding p = .ok b) :
    ∃ s, r.find? p.type = some s ∧ s.bind p = .ok b := by
  obtain ⟨s, hs, hb⟩ := exists_of_bind_ok h
  exact ⟨s, find_ok_iff.mp hs, hb⟩

theorem conversion_ok {r : Registry} {type? : Option String} {c : Strategy.Conversion}
    (h : r.conversion type? = .ok c) :
    ∃ s, r.find? (type?.getD "none") = some s ∧ s.convert (type?.getD "none") = .ok c := by
  obtain ⟨s, hs, hc⟩ := exists_of_bind_ok h
  exact ⟨s, find_ok_iff.mp hs, hc⟩

end Registry
end DefsGlue
