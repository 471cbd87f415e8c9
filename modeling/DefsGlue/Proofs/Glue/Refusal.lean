import DefsGlue.Proofs.Glue.Parts

/-! Which calls have no fragment. Every type of a call needs a strategy that supports the way in
which its values go, and the first type that has none is named: parameters in their order, then the
result. -/
namespace DefsGlue

namespace Strategy

/-- Whether values of the strategy's types can be passed, or handed back. -/
def Supports (s : Strategy) : Direction → Prop
  | .parameter => s ≠ none
  | .result => s ≠ stringRef ∧ s ≠ intRef ∧ s ≠ rectangle

variable {s : Strategy} {p : Parameter} {type : String} {fault : PassingFault}

theorem exists_bind_iff : (∃ b, s.bind p = .ok b) ↔ s.Supports .parameter := by
  cases s <;> simp [bind, Supports]

theorem bind_error_iff : s.bind p = .error fault ↔
    ¬ s.Supports .parameter ∧ fault = .unsupported s.label .parameter p.type := by
  cases s <;> simp [bind, Supports, @eq_comm PassingFault fault]

theorem exists_convert_iff : (∃ c, s.convert type = .ok c) ↔ s.Supports .result := by
  cases s <;> simp [convert, Supports]

theorem convert_error_iff : s.convert type = .error fault ↔
    ¬ s.Supports .result ∧ fault = .unsupported s.label .result type := by
  cases s <;> simp [convert, Supports, @eq_comm PassingFault fault]

end Strategy

namespace Registry

/-- Whether a type is served by a strategy that supports the direction. -/
def Accepts (r : Registry) (direction : Direction) (type : String) : Prop :=
  ∃ s, r.find? type = some s ∧ s.Supports direction

/-- What is reported of a type that is not accepted. -/
inductive Refuses (r : Registry) (direction : Direction) (type : String) : PassingFault → Prop
  | unknown : r.find? type = none → Refuses r direction type (.unknownType type)
  | unsupported {s : Strategy} : r.find? type = some s → ¬ s.Supports direction →
      Refuses r direction type (.unsupported s.label direction type)

/-- What is reported of a call: the first of its types that is not accepted, where the result comes
after all parameters. -/
inductive RefusesCall (r : Registry) (f : Callable) : PassingFault → Prop
  | parameter {before after : List Parameter} {p : Parameter} {fault : PassingFault} :
      f.parameters = before ++ p :: after → (∀ q ∈ before, r.Accepts .parameter q.type) →
      r.Refuses .parameter p.type fault → RefusesCall r f fault
  | result {fault : PassingFault} : (∀ p ∈ f.parameters, r.Accepts .parameter p.type) →
      r.Refuses .result (f.returnType?.getD "none") fault → RefusesCall r f fault

variable {α : Type} {r : Registry} {p : Parameter} {f : Callable} {type : String}
  {type? : Option String} {direction : Direction} {fault : PassingFault}

section Lookup

variable {serve : Strategy → Except PassingFault α}

/-- Looking a type up and serving it succeeds where the strategy that is found supports it. -/
theorem exists_find_bind_iff (hok : ∀ s, (∃ x, serve s = .ok x) ↔ s.Supports direction) :
    (∃ x, r.find type >>= serve = .ok x) ↔ r.Accepts direction type := by
  simp only [exists_bind_ok_iff, find_ok_iff, hok, Accepts]

theorem find_bind_error_iff (herror : ∀ s, serve s = .error fault ↔
      ¬ s.Supports direction ∧ fault = .unsupported s.label direction type) :
    r.find type >>= serve = .error fault ↔ r.Refuses direction type fault := by
  simp only [bind_error_iff, find_error_iff, find_ok_iff, herror]
  constructor
  · rintro (⟨hs, rfl⟩ | ⟨s, hs, hno, rfl⟩)
    · exact .unknown hs
    · exact .unsupported hs hno
  · rintro (hs | ⟨hs, hno⟩)
    · exact .inl ⟨hs, rfl⟩
    · exact .inr ⟨_, hs, hno, rfl⟩

end Lookup

theorem exists_binding_iff : (∃ b, r.binding p = .ok b) ↔ r.Accepts .parameter p.type :=
  exists_find_bind_iff fun _ => Strategy.exists_bind_iff

theorem binding_error_iff : r.binding p = .error fault ↔ r.Refuses .parameter p.type fault :=
  find_bind_error_iff fun _ => Strategy.bind_error_iff

theorem exists_conversion_iff :
    (∃ c, r.conversion type? = .ok c) ↔ r.Accepts .result (type?.getD "none") :=
  exists_find_bind_iff fun _ => Strategy.exists_convert_iff

theorem conversion_error_iff :
    r.conversion type? = .error fault ↔ r.Refuses .result (type?.getD "none") fault :=
  find_bind_error_iff fun _ => Strategy.convert_error_iff

theorem exists_parts_iff : (∃ parts, r.parts f = .ok parts) ↔
    (∀ p ∈ f.parameters, r.Accepts .parameter p.type) ∧
      r.Accepts .result (f.returnType?.getD "none") := by
  simp only [← exists_binding_iff, ← exists_conversion_iff, ← exists_mapM_iff]
  simp only [parts, exists_bind_ok_iff]
  simp [pure, Except.pure]

theorem parts_error_iff : r.parts f = .error fault ↔ r.RefusesCall f fault := by
  have hall : (∃ bs, f.parameters.mapM r.binding = .ok bs) ↔
      ∀ p ∈ f.parameters, r.Accepts .parameter p.type := by
    simp only [exists_mapM_iff, exists_binding_iff]
  have hfirst : f.parameters.mapM r.binding = .error fault ↔
      ∃ before p after, f.parameters = before ++ p :: after ∧
        (∀ q ∈ before, r.Accepts .parameter q.type) ∧ r.Refuses .parameter p.type fault := by
    simp only [mapM_error_iff, exists_binding_iff, binding_error_iff]
  rw [parts, bind_error_iff, hfirst]
  constructor
  · rintro (⟨before, p, after, hps, hbefore, hp⟩ | ⟨bs, hb, h⟩)
    · exact .parameter hps hbefore hp
    · rcases bind_error_iff.mp h with hc | ⟨c, -, h⟩
      · exact .result (hall.mp ⟨bs, hb⟩) (conversion_error_iff.mp hc)
      · cases h
  · rintro (⟨hps, hbefore, hp⟩ | ⟨hps, hresult⟩)
    · exact .inl ⟨_, _, _, hps, hbefore, hp⟩
    · obtain ⟨bs, hb⟩ := hall.mpr hps
      exact .inr ⟨bs, hb, bind_error_iff.mpr (.inl (conversion_error_iff.mpr hresult))⟩

end Registry

namespace Entrypoint

variable {r : Registry} {e : Entrypoint}

/-- A fragment is made exactly if each parameter's type is served by a strategy other than that of
no value, and the result's, which is no value unless it is declared, by one that is neither a
reference nor a rectangle. If not, the failure has the native name and tells of the first type for
which this does not hold. -/
theorem fragment_refused_first (r : Registry) (e : Entrypoint) :
    ((∃ fragment, e.fragment r = .ok fragment) ↔
      (∀ p ∈ e.callable.parameters, ∃ s, r.find? p.type = some s ∧ s ≠ .none) ∧
      ∃ s, r.find? (e.callable.returnType?.getD "none") = some s ∧
        s ≠ .stringRef ∧ s ≠ .intRef ∧ s ≠ .rectangle) ∧
    ∀ failure, e.fragment r = .error failure ↔
      ∃ fault, failure = .generate e.cName fault ∧ r.RefusesCall e.callable fault := by
  rw [fragment_eq]
  constructor
  · refine Iff.trans ?_ Registry.exists_parts_iff
    cases r.parts e.callable <;> simp
  · intro failure
    simp only [← Registry.parts_error_iff]
    cases r.parts e.callable <;> simp [eq_comm]

/-- Only the first of several faults is reported, here that nothing can be passed as no value. -/
example :
    let ps : List Parameter := [⟨"gint", "n", none, false⟩, ⟨"none", "x", none, false⟩,
      ⟨"GMystery*", "m", none, false⟩]
    (function ⟨⟨"f", "g_f", some "gchar**", ps, false⟩, none⟩).fragment .builtin =
      .error (.generate "g_f" (.unsupported "none" .parameter "none")) := by
  decide +kernel

end Entrypoint
end DefsGlue
