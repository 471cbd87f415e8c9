import DefsGlue.Proofs.Catalogue.Loading
import DefsGlue.Proofs.Definition.Vocabulary

/-! What no reader knows is passed over, among the records of a file and inside its definitions. A
file that says more than is known loads like one that does not. -/
namespace DefsGlue

namespace Record

/-- Whether a record begins with a keyword. -/
def isKnown (r : Record) : Bool := r.isHeaded Keyword.words

/-- A definition record without what its kind does not know. -/
def pruneDefinition : Record → Record
  | list (head :: args) =>
    match head.name?.map Keyword.ofHead with
    | some (.definition kind) => list (head :: kind.pruneAll args)
    | _ => list (head :: args)
  | r => r

variable {r : Record}

theorem directive_of_unknown (h : r.isKnown = false) (source : String) :
    Directive.ofRecord source r = .skip := by
  cases r with
  | leaf s => rfl
  | list items =>
    cases items with
    | nil => rfl
    | cons head args =>
      cases hname : head.name? with
      | none => simp [Directive.ofRecord, hname]
      | some name =>
        have hword : name ∉ Keyword.words := by simpa [isKnown, isHeaded, head?, hname] using h
        simp [Directive.ofRecord, hname, Keyword.ofHead_of_not_mem hword, Directive.ofKeyword]

theorem directive_pruneDefinition (source : String) (r : Record) :
    Directive.ofRecord source r.pruneDefinition = Directive.ofRecord source r := by
  cases r with
  | leaf s => rfl
  | list items =>
    cases items with
    | nil => rfl
    | cons head args =>
      cases hname : head.name? with
      | none => simp [pruneDefinition, hname]
      | some name =>
        cases hk : Keyword.ofHead name with
        | definition kind =>
          simp [pruneDefinition, hname, hk, Directive.ofRecord, Directive.ofKeyword,
            Directive.define, Definition.build_pruneAll]
        | inclusion => simp [pruneDefinition, hname, hk]
        | unknown => simp [pruneDefinition, hname, hk]

end Record

namespace Catalogue

section Records

variable {stack : List Location} {source : String} {r r' : Record} {rs rs' : List Record}
  {follow : String → (c : Catalogue) → c.including = stack → Outcome stack}

theorem loadRecords_skip (h : Directive.ofRecord source r = .skip) (rs : List Record)
    (c : Catalogue) (hc : c.including = stack) :
    loadRecords follow source (r :: rs) c hc = loadRecords follow source rs c hc := by
  simp only [loadRecords]
  split <;> simp_all

/-- Loading looks at no more of a record than its directive. -/
theorem loadRecords_cons_congr (hd : Directive.ofRecord source r = Directive.ofRecord source r')
    (h : ∀ c hc, loadRecords follow source rs c hc = loadRecords follow source rs' c hc)
    (c : Catalogue) (hc : c.including = stack) :
    loadRecords follow source (r :: rs) c hc = loadRecords follow source (r' :: rs') c hc := by
  simp only [loadRecords, hd]
  split <;> simp [h]

theorem loadRecords_filter (rs : List Record) (c : Catalogue) (hc : c.including = stack) :
    loadRecords follow source (rs.filter Record.isKnown) c hc =
      loadRecords follow source rs c hc := by
  induction rs generalizing c with
  | nil => rfl
  | cons r rs ih =>
    cases hr : r.isKnown with
    | true =>
      rw [List.filter_cons_of_pos hr]
      exact loadRecords_cons_congr rfl ih c hc
    | false =>
      rw [List.filter_cons_of_neg (by simp [hr]), ih,
        loadRecords_skip (Record.directive_of_unknown hr source)]

theorem loadRecords_pruned (rs : List Record) (c : Catalogue) (hc : c.including = stack) :
    loadRecords follow source (rs.map Record.pruneDefinition) c hc =
      loadRecords follow source rs c hc := by
  induction rs generalizing c with
  | nil => rfl
  | cons r rs ih =>
    exact loadRecords_cons_congr (Record.directive_pruneDefinition source r) ih c hc

end Records

/-- Records that begin with no keyword change neither what a load leaves nor how it fails, and what
a kind does not know changes no definition and no fault. So it is for both at once. -/
theorem load_ignores_unknown :
    (∀ (t : FileTree) (source : String) (rs : List Record) (c : Catalogue),
      load t (.records source (rs.filter Record.isKnown)) c rfl =
        load t (.records source rs) c rfl) ∧
    (∀ (kind : DefinitionKind) (args : List Record),
      Definition.build kind (kind.prune args) = Definition.build kind args ∧
        Definition.build kind (kind.pruneAll args) = Definition.build kind args) ∧
    ∀ (t : FileTree) (source : String) (rs : List Record) (c : Catalogue),
      load t (.records source ((rs.filter Record.isKnown).map Record.pruneDefinition)) c rfl =
        load t (.records source rs) c rfl := by
  refine ⟨fun t source rs c => loadRecords_filter rs c rfl, ?_, ?_⟩
  · intro kind args
    exact ⟨Definition.build_prune kind args, Definition.build_pruneAll kind args⟩
  · intro t source rs c
    exact (loadRecords_pruned _ c rfl).trans (loadRecords_filter rs c rfl)

end Catalogue
end DefsGlue
