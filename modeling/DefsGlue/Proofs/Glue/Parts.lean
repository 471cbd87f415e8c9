import DefsGlue.Glue.Bundle
import DefsGlue.Proofs.Passing.Contribution

/-! A fragment as its parts: what each parameter contributes, in order, and then what the return
value does. -/
namespace DefsGlue

/-- What is collected for one call: a binding for each parameter, and the conversion of the return
value. -/
structure Parts where
  bindings : List Binding
  conversion : Strategy.Conversion

def Registry.parts (r : Registry) (f : Callable) : Except PassingFault Parts := do
  let bindings ← f.parameters.mapM r.binding
  let conversion ← r.conversion f.returnType?
  return { bindings, conversion }

namespace Parts

/-- The specifiers of bindings, with a bar before the first parameter that has a default. -/
def marked (optional : Bool) : List Parameter → List Binding → String
  | p :: ps, b :: bs =>
    (if p.default?.isSome && !optional then "|" else "") ++ b.specifier ++
      marked (optional || p.default?.isSome) ps bs
  | _, _ => ""

/-- The call site that parts make up. -/
def site (parts : Parts) (owner? : Option Owner) : CallSite where
  declarations := Declarations.empty.addAll
    (parts.bindings.flatMap Binding.locals ++ parts.conversion.locals)
  slots := parts.bindings.flatMap Binding.slots
  arguments := (owner?.map Fragment.self).toList ++ parts.bindings.flatMap Binding.arguments
  statements := parts.bindings.flatMap Binding.statements

/-- The fragment that parts make up. -/
def fragment (parts : Parts) (f : Callable) (role : Role) (owner? : Option Owner) : Fragment where
  cName := f.cName
  role
  ofObject? := owner?.map Owner.type
  declarations := (parts.site owner?).declarations.render
  format := marked false f.parameters parts.bindings
  parseTargets := (parts.site owner?).slots.map Slot.target
  byRef := (parts.site owner?).slots.map Slot.byRef
  extraCode := String.join (parts.site owner?).statements
  call := (parts.site owner?).call f.cName
  returnCode := parts.conversion.form.around ((parts.site owner?).call f.cName)

end Parts

namespace Registry

/-- A call has all its parts only if every parameter is bound and the return value converted. -/
theorem parts_ok {r : Registry} {f : Callable} {parts : Parts} (h : r.parts f = .ok parts) :
    List.Forall₂ (fun p b => r.binding p = .ok b) f.parameters parts.bindings ∧
      r.conversion f.returnType? = .ok parts.conversion := by
  obtain ⟨bs, hb, h⟩ := exists_of_bind_ok h
  obtain ⟨c, hc, h⟩ := exists_of_bind_ok h
  obtain rfl := Except.ok.inj h
  exact ⟨forall₂_of_mapM hb, hc⟩

theorem bindAll_eq (r : Registry) (optional : Bool) (site : CallSite) (ps : List Parameter) :
    r.bindAll optional site ps =
      (fun bs => (Parts.marked optional ps bs, bs.foldl CallSite.add site)) <$>
        ps.mapM r.binding := by
  induction ps generalizing optional site with
  | nil => rfl
  | cons p ps ih => simp [bindAll, bind_eq, ih, Parts.marked, String.append_assoc]

end Registry

namespace Fragment

/-- Where the parameters of a call leave its site. -/
theorem site_of_bindings (bs : List Binding) (owner? : Option Owner) (c : Strategy.Conversion) :
    (bs.foldl CallSite.add (opening owner?)).declareAll c.locals = Parts.site ⟨bs, c⟩ owner? := by
  rw [CallSite.addAll_eq, CallSite.declareAll_eq]
  cases owner? <;>
    simp [opening, CallSite.empty, CallSite.pass, Parts.site, Declarations.addAll,
      List.foldl_append]

/-- A fragment is assembled exactly when there are all its parts. -/
theorem assemble_eq (r : Registry) (f : Callable) (role : Role) (owner? : Option Owner) :
    assemble r f role owner? = (fun parts => parts.fragment f role owner?) <$> r.parts f := by
  simp [assemble, Registry.parts, Registry.bindAll_eq, Registry.convert_eq, site_of_bindings,
    Parts.fragment]

/-- The run that collects the parts of a call: it binds the parameters and converts the result. -/
theorem run_of_parts {r : Registry} {f : Callable} {parts : Parts} (h : r.parts f = .ok parts)
    (owner? : Option Owner) :
    ∃ bound, r.bindAll false (opening owner?) f.parameters =
        .ok (Parts.marked false f.parameters parts.bindings, bound) ∧
      r.convert f.returnType? bound = .ok (parts.conversion.form, parts.site owner?) := by
  obtain ⟨bs, hb, h⟩ := exists_of_bind_ok h
  obtain ⟨c, hc, h⟩ := exists_of_bind_ok h
  obtain rfl := Except.ok.inj h
  refine ⟨bs.foldl CallSite.add (opening owner?), ?_, ?_⟩
  · rw [Registry.bindAll_eq, hb]
    rfl
  · rw [Registry.convert_eq, hc, ← site_of_bindings]
    rfl

end Fragment

namespace Entrypoint

def role : Entrypoint → Role
  | function f => if f.isConstructor then .constructor else .function
  | method _ => .method

/-- The object that a method belongs to. -/
def owner? : Entrypoint → Option Owner
  | function _ => none
  | method m => some m.owner

theorem fragment_make {σ : Type} [Strategies σ] (r : Registry σ) (e : Entrypoint) :
    e.fragment r = Fragment.make r e.callable e.role e.owner? := by
  cases e <;> rfl

variable {r : Registry} {e : Entrypoint} {fragment : Fragment}

/-- An entry point has the fragment of its parts, or the fault of the first that is missing. -/
theorem fragment_eq (r : Registry) (e : Entrypoint) :
    e.fragment r = match r.parts e.callable with
      | .ok parts => .ok (parts.fragment e.callable e.role e.owner?)
      | .error fault => .error (.generate e.cName fault) := by
  rw [fragment_make, Fragment.make, Fragment.assemble_eq]
  cases r.parts e.callable <;> rfl

theorem fragment_ok (h : e.fragment r = .ok fragment) :
    ∃ parts, r.parts e.callable = .ok parts ∧
      fragment = parts.fragment e.callable e.role e.owner? := by
  rw [fragment_eq] at h
  split at h
  · next parts hparts => exact ⟨parts, hparts, (Except.ok.inj h).symm⟩
  · cases h

end Entrypoint
end DefsGlue
