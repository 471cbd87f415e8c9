import DefsGlue.Passing.Writing
import DefsGlue.Proofs.Passing.Grouping

/-! Writing at a call site that others write to. A parameter or a result that is refused leaves the
site alone, and what any other writes there does not depend on what there was. -/
namespace DefsGlue

namespace CallSite

/-- A site with all that stands at another one put after it. -/
def append (site other : CallSite) : CallSite where
  declarations := site.declarations.addAll other.declarations.locals
  slots := site.slots ++ other.slots
  arguments := site.arguments ++ other.arguments
  statements := site.statements ++ other.statements

/-- How an attempt ends that gives its site away only when it succeeds. -/
def settle {α : Type} (site : CallSite) :
    Except PassingFault (α × CallSite) → EStateM.Result PassingFault CallSite α
  | .ok (a, site') => .ok a site'
  | .error fault => .error fault site

/-- What is added to a site is what is appended from an empty one. -/
theorem add_eq_append (site : CallSite) (b : Binding) : site.add b = site.append (empty.add b) := by
  simp [add, append, empty, declareAll_eq, Declarations.addAll_locals]

theorem declareAll_eq_append (site : CallSite) (ls : List Local) :
    site.declareAll ls = site.append (empty.declareAll ls) := by
  simp [append, empty, declareAll_eq, Declarations.addAll_locals]

end CallSite

namespace Writing

/-- Whether work has one outcome at all sites. Where it is refused, it leaves the site as it was;
where it is not, it appends what it leaves at an empty site, and changes nothing before that. -/
structure Appends {α : Type} (w : Writing α) : Prop where
  refused {site site' : CallSite} {fault : PassingFault} : w.run site = .error fault site' →
    site' = site ∧ w.run .empty = .error fault .empty
  written {site site' : CallSite} {result : α} : w.run site = .ok result site' →
    ∃ trace, w.run .empty = .ok result trace ∧ site' = site.append trace ∧
      site.declarations.KeptIn site'.declarations

variable {α β : Type}

/-- Work on all elements of a list comes to what each of them adds in front of the rest. -/
theorem run_forM (step : β → Writing Unit) (grow : CallSite → List β → CallSite)
    (hnil : ∀ site, grow site [] = site)
    (hcons : ∀ site x xs, ∃ site', (step x).run site = .ok ⟨⟩ site' ∧
      grow site (x :: xs) = grow site' xs) (xs : List β) (site : CallSite) :
    (xs.forM step).run site = .ok ⟨⟩ (grow site xs) := by
  induction xs generalizing site with
  | nil =>
    rw [hnil]
    rfl
  | cons x xs ih =>
    obtain ⟨site', hstep, hgrow⟩ := hcons site x xs
    rw [List.forM, EStateM.run_bind, hstep, hgrow]
    exact ih site'

theorem run_declareAll (ls : List Local) (site : CallSite) :
    (ls.forM declare).run site = .ok ⟨⟩ (site.declareAll ls) :=
  run_forM declare CallSite.declareAll (fun _ => rfl) (fun _ _ _ => ⟨_, rfl, rfl⟩) ls site

theorem run_extractAll (slots : List Slot) (site : CallSite) :
    (slots.forM extract).run site = .ok ⟨⟩ { site with slots := site.slots ++ slots } :=
  run_forM extract (fun site slots => { site with slots := site.slots ++ slots }) (by simp)
    (fun _ _ _ => ⟨_, rfl, by simp [CallSite.extract]⟩) slots site

theorem run_passAll (arguments : List String) (site : CallSite) :
    (arguments.forM pass).run site =
      .ok ⟨⟩ { site with arguments := site.arguments ++ arguments } :=
  run_forM pass (fun site as => { site with arguments := site.arguments ++ as }) (by simp)
    (fun _ _ _ => ⟨_, rfl, by simp [CallSite.pass]⟩) arguments site

theorem run_prepareAll (statements : List String) (site : CallSite) :
    (statements.forM prepare).run site =
      .ok ⟨⟩ { site with statements := site.statements ++ statements } :=
  run_forM prepare (fun site ss => { site with statements := site.statements ++ ss }) (by simp)
    (fun _ _ _ => ⟨_, rfl, by simp [CallSite.prepare]⟩) statements site

theorem run_ofExcept_ok (a : α) (f : α → Writing β) (site : CallSite) :
    ((ofExcept (.ok a) : Writing α) >>= f).run site = (f a).run site :=
  rfl

/-- Work that settles its outcome first and then puts what it has to write at the site. -/
theorem appends_of_run {w : Writing α} {x : Except PassingFault β} {result : β → α}
    {put : CallSite → β → CallSite} (hput : ∀ site b, put site b = site.append (put .empty b))
    (hrun : ∀ site, w.run site = site.settle ((fun b => (result b, put site b)) <$> x)) :
    w.Appends := by
  cases x with
  | error fault =>
    refine ⟨fun {site _ _} h => ?_, fun {site _ _} h => ?_⟩
    · obtain ⟨rfl, rfl⟩ := EStateM.Result.error.inj ((hrun site).symm.trans h)
      exact ⟨rfl, hrun .empty⟩
    · cases (hrun site).symm.trans h
  | ok b =>
    refine ⟨fun {site _ _} h => ?_, fun {site _ _} h => ?_⟩
    · cases (hrun site).symm.trans h
    · obtain ⟨rfl, rfl⟩ := EStateM.Result.ok.inj ((hrun site).symm.trans h)
      refine ⟨put .empty b, hrun .empty, hput site b, ?_⟩
      rw [hput]
      exact Declarations.keptIn_addAll _ _

end Writing

namespace Binding

variable (b : Binding) (site : CallSite)

theorem run_write : b.write.run site = .ok b.specifier (site.add b) := by
  simp only [write, EStateM.run_bind, Writing.run_declareAll, Writing.run_extractAll,
    Writing.run_passAll, Writing.run_prepareAll, CallSite.add, CallSite.declareAll_eq]
  rfl

theorem run_writeStatementsFirst :
    b.writeStatementsFirst.run site = .ok b.specifier (site.add b) := by
  simp only [writeStatementsFirst, EStateM.run_bind, Writing.run_declareAll,
    Writing.run_extractAll, Writing.run_passAll, Writing.run_prepareAll, CallSite.add,
    CallSite.declareAll_eq]
  rfl

end Binding

namespace Strategy

variable (s : Strategy) (p : Parameter) (type : String) (site : CallSite)

/-- Whatever the order of its pieces, a parameter comes to what its binding adds at once. -/
theorem run_write : (s.write p).run site =
    site.settle ((fun b => (b.specifier, site.add b)) <$> s.bind p) := by
  cases s with
  | none => rfl
  | object name =>
    by_cases hnull : p.nullOk = true
    · simp only [write, hnull, if_true, Binding.run_writeStatementsFirst]
      simp [bind, hnull, CallSite.settle]
    · simp only [write, hnull, Bool.false_eq_true, if_false, Binding.run_write]
      simp [bind, hnull, CallSite.settle]
  | _ => exact (Writing.run_ofExcept_ok _ _ site).trans (Binding.run_write _ site)

theorem run_writeResult : (s.writeResult type).run site =
    site.settle ((fun c => (c.form, site.declareAll c.locals)) <$> s.convert type) := by
  rw [writeResult]
  cases s.convert type with
  | error fault => rfl
  | ok c =>
    rw [Writing.run_ofExcept_ok, EStateM.run_bind, Writing.run_declareAll]
    rfl

end Strategy

namespace Registry

variable (r : Registry) (p : Parameter) (type? : Option String) (site : CallSite)

/-- Written piece by piece, a parameter comes to what it is bound to at once. -/
theorem run_writeParameter : (r.writeParameter p).run site = site.settle (r.bind p site) := by
  rw [writeParameter, bind_eq, binding]
  cases r.find p.type with
  | error fault => rfl
  | ok s => exact Strategy.run_write s p site

theorem run_writeResult : (r.writeResult type?).run site = site.settle (r.convert type? site) := by
  rw [writeResult, convert_eq, conversion]
  cases r.find (type?.getD "none") with
  | error fault => rfl
  | ok s => exact Strategy.run_writeResult s _ site

theorem writeParameter_appends : (r.writeParameter p).Appends := by
  have hrun : ∀ site, (r.writeParameter p).run site =
      site.settle ((fun b => (b.specifier, site.add b)) <$> r.binding p) := by
    intro site
    rw [run_writeParameter, bind_eq]
  exact Writing.appends_of_run CallSite.add_eq_append hrun

theorem writeResult_appends : (r.writeResult type?).Appends := by
  have hrun : ∀ site, (r.writeResult type?).run site =
      site.settle ((fun c => (c.form, site.declareAll c.locals)) <$> r.conversion type?) := by
    intro site
    rw [run_writeResult, convert_eq]
  exact Writing.appends_of_run (fun site c => site.declareAll_eq_append c.locals) hrun

/-- A parameter or a result that is refused leaves the site as it was. Any other appends what it
writes at an empty site, with the same specifier or form, and what stood at the site stays. It is
all the same whether it is written piece by piece or at once. -/
theorem writing_appends (r : Registry) :
    (∀ p, (r.writeParameter p).Appends ∧
      ∀ site, (r.writeParameter p).run site = site.settle (r.bind p site)) ∧
    ∀ type?, (r.writeResult type?).Appends ∧
      ∀ site, (r.writeResult type?).run site = site.settle (r.convert type? site) :=
  ⟨fun p => ⟨r.writeParameter_appends p, r.run_writeParameter p⟩,
    fun type? => ⟨r.writeResult_appends type?, r.run_writeResult type?⟩⟩

end Registry
end DefsGlue
