import DefsGlue.Proofs.Catalogue.Loading
import DefsGlue.Proofs.Catalogue.Registration

/-! What a load does, one action at a time: following a path to a file, registering a record, and
leaving a file. -/
namespace DefsGlue

namespace Record

/-- The keyword of a top-level record, with what stands after it. -/
def keyword? : Record → Option (Keyword × List Record)
  | list (head :: args) => head.name?.map fun name => (.ofHead name, args)
  | _ => none

/-- Where an include record leads: to its name, from the directory of the file it stands in. -/
def included? (source : String) (r : Record) : Option String :=
  match r.keyword? with
  | some (.inclusion, args) =>
    (args.head?.bind spelling?).map (Path.resolve (Path.parent source))
  | _ => none

/-- What a definition record builds. -/
def definition? (r : Record) : Option Definition :=
  match r.keyword? with
  | some (.definition kind, args) => (Definition.build kind args).toOption
  | _ => none

end Record

inductive Action where
  | follow (path : String)
  | record (source : String) (r : Record)
  | leave

namespace Action

/-- The file that an action visits. -/
def visited? : Action → Option String
  | follow path => some path
  | _ => none

def definition? : Action → Option Definition
  | record _ r => r.definition?
  | _ => none

/-- The definitions that actions register, in order. -/
def built (actions : List Action) : List Definition := actions.filterMap definition?

def visits (actions : List Action) : List String := actions.filterMap visited?

theorem built_append (xs ys : List Action) : built (xs ++ ys) = built xs ++ built ys :=
  List.filterMap_append

theorem visits_append (xs ys : List Action) : visits (xs ++ ys) = visits xs ++ visits ys :=
  List.filterMap_append

end Action

namespace Catalogue

/-- Registers a record of the file that `source` spells. An include leaves the catalogue as it is,
but has to name a file. -/
def register (c : Catalogue) (source : String) (r : Record) : Except Failure Catalogue :=
  match r.keyword? with
  | some (.definition kind, args) =>
    match Definition.build kind args with
    | .ok d => .ok (c.add d)
    | .error e => .error (.definition source kind e)
  | some (.inclusion, args) =>
    if (args.head?.bind Record.spelling?).isSome then .ok c else .error (.missingInclude source)
  | _ => .ok c

def perform (t : FileTree) (c : Catalogue) : Action → Except Failure Catalogue
  | .follow path =>
    match t.opening c.including path with
    | .ok (l, _) => .ok (c.enter path l)
    | .error f => .error f
  | .record source r => c.register source r
  | .leave => .ok c.leave

variable {t : FileTree} {path source : String} {c c' : Catalogue} {l : Location} {r : Record}
  {rs : List Record} {f : Failure} {d : Definition}

theorem perform_follow (h : t.opening c.including path = .ok (l, rs)) :
    c.perform t (.follow path) = .ok (c.enter path l) := by
  simp [perform, h]

theorem perform_follow_refused (h : t.opening c.including path = .error f) :
    c.perform t (.follow path) = .error f := by
  simp [perform, h]

theorem perform_record (h : c.register source r = .ok c') :
    c.perform t (.record source r) = .ok c' := h

/-- Each directive is told apart by where the record leads and by what registering it does. -/
theorem ofRecord_spec (source : String) (r : Record) (c : Catalogue) :
    match Directive.ofRecord source r with
    | .skip => r.included? source = none ∧ c.register source r = .ok c
    | .add d => r.included? source = none ∧ c.register source r = .ok (c.add d)
    | .reject f => r.included? source = none ∧ c.register source r = .error f
    | .follow path => r.included? source = some path ∧ c.register source r = .ok c := by
  cases r with
  | leaf s => exact ⟨rfl, rfl⟩
  | list items =>
    cases items with
    | nil => exact ⟨rfl, rfl⟩
    | cons head args =>
      cases hn : head.name? with
      | none => simp [Directive.ofRecord, Record.included?, register, Record.keyword?, hn]
      | some name =>
        simp only [Directive.ofRecord, Record.included?, register, Record.keyword?, hn,
          Option.map_some]
        cases Keyword.ofHead name with
        | unknown => exact ⟨rfl, rfl⟩
        | definition kind =>
          simp only [Directive.ofKeyword, Directive.define]
          cases Definition.build kind args with
          | ok d => simp
          | error e => simp
        | inclusion =>
          simp only [Directive.ofKeyword, Directive.includeFile]
          cases args.head?.bind Record.spelling? with
          | none => simp
          | some path => simp

theorem register_skip (h : Directive.ofRecord source r = .skip) (c : Catalogue) :
    r.included? source = none ∧ c.register source r = .ok c := by
  simpa only [h] using ofRecord_spec source r c

theorem register_add (h : Directive.ofRecord source r = .add d) (c : Catalogue) :
    r.included? source = none ∧ c.register source r = .ok (c.add d) := by
  simpa only [h] using ofRecord_spec source r c

theorem register_reject (h : Directive.ofRecord source r = .reject f) (c : Catalogue) :
    r.included? source = none ∧ c.register source r = .error f := by
  simpa only [h] using ofRecord_spec source r c

theorem register_follow (h : Directive.ofRecord source r = .follow path) (c : Catalogue) :
    r.included? source = some path ∧ c.register source r = .ok c := by
  simpa only [h] using ofRecord_spec source r c

/-- Registering a record adds the definition it builds, if it builds one. -/
theorem register_ok (h : c.register source r = .ok c') :
    c' = (r.definition?.map c.add).getD c := by
  unfold register at h
  unfold Record.definition?
  split at h
  · next kind args hk =>
    rw [hk]
    cases hb : Definition.build kind args with
    | ok d => simp_all [Except.toOption]
    | error e => simp [hb] at h
  · next args hk =>
    rw [hk]
    split at h
    · exact (Except.ok.inj h).symm
    · cases h
  · next hk hk' =>
    cases hr : r.keyword? with
    | none => exact (Except.ok.inj h).symm
    | some k =>
      obtain ⟨k, args⟩ := k
      cases k with
      | definition kind => exact (hk kind args hr).elim
      | inclusion => exact (hk' args hr).elim
      | unknown => exact (Except.ok.inj h).symm

/-- Performs actions in order, up to the first that fails. -/
def performAll (t : FileTree) (c : Catalogue) (actions : List Action) : Except Failure Catalogue :=
  actions.foldlM (perform t) c

variable {a : Action} {actions before after : List Action} {c₁ : Catalogue}

theorem performAll_cons (h : c.perform t a = .ok c₁) :
    c.performAll t (a :: actions) = c₁.performAll t actions := by
  simp only [performAll, List.foldlM_cons, h]
  rfl

theorem performAll_append (h : c.performAll t before = .ok c₁) :
    c.performAll t (before ++ after) = c₁.performAll t after := by
  unfold performAll at h ⊢
  rw [List.foldlM_append, h]
  rfl

theorem performAll_cons_ok (h : c.performAll t (a :: actions) = .ok c') :
    ∃ c₁, c.perform t a = .ok c₁ ∧ c₁.performAll t actions = .ok c' := by
  cases ha : c.perform t a with
  | ok c₁ => exact ⟨c₁, rfl, (performAll_cons ha).symm.trans h⟩
  | error f =>
    simp only [performAll, List.foldlM_cons, ha] at h
    cases h

/-- What actions contribute to the lists of a catalogue. -/
structure Extends (actions : List Action) (c c' : Catalogue) : Prop where
  objects : c'.objects = c.objects ++ (Action.built actions).filterMap Definition.object?
  functions : c'.functions =
    c.functions ++ (Action.built actions).filterMap Definition.plainFunction?
  constructors : c'.constructors =
    c.constructors ++ (Action.built actions).filterMap Definition.constructor?
  methods : c'.methods = c.methods ++ (Action.built actions).filterMap Definition.method?
  enumerations : c'.enumerations =
    c.enumerations ++ (Action.built actions).filterMap Definition.enumeration?
  cNames : c'.cNames = c.cNames ++ (Action.built actions).map Definition.cName
  sources : c'.sources = c.sources ++ Action.visits actions

theorem Extends.refl (c : Catalogue) : Extends [] c c := by
  constructor <;> simp [Action.built, Action.visits]

theorem Extends.trans (h : Extends before c c₁) (h' : Extends after c₁ c') :
    Extends (before ++ after) c c' := by
  constructor
  · rw [h'.objects, h.objects, Action.built_append, List.filterMap_append, List.append_assoc]
  · rw [h'.functions, h.functions, Action.built_append, List.filterMap_append, List.append_assoc]
  · rw [h'.constructors, h.constructors, Action.built_append, List.filterMap_append,
      List.append_assoc]
  · rw [h'.methods, h.methods, Action.built_append, List.filterMap_append, List.append_assoc]
  · rw [h'.enumerations, h.enumerations, Action.built_append, List.filterMap_append,
      List.append_assoc]
  · rw [h'.cNames, h.cNames, Action.built_append, List.map_append, List.append_assoc]
  · rw [h'.sources, h.sources, Action.visits_append, List.append_assoc]

/-- The lists do not depend on which files are being read. -/
theorem Extends.withIncluding (h : Extends actions c c') (reading : List Location) :
    Extends actions c { c' with including := reading } :=
  ⟨h.objects, h.functions, h.constructors, h.methods, h.enumerations, h.cNames, h.sources⟩

theorem filterMap_one {α β : Type} (f : α → Option β) (x : α) : [x].filterMap f = (f x).toList := by
  cases h : f x <;> simp [h]

theorem extends_add (source : String) (h : r.definition? = some d) :
    Extends [.record source r] c (c.add d) := by
  have hb : Action.built [.record source r] = [d] := by
    simp [Action.built, Action.definition?, h]
  have hv : Action.visits [.record source r] = [] := rfl
  constructor
  · rw [hb, filterMap_one, objects_add]
  · rw [hb, filterMap_one, functions_add]
  · rw [hb, filterMap_one, constructors_add]
  · rw [hb, filterMap_one, methods_add]
  · rw [hb, filterMap_one, enumerations_add]
  · rw [hb, cNames_add]
    rfl
  · rw [hv, List.append_nil, sources_add]

/-- An action without a definition leaves all lists but the sources as they are. -/
theorem extends_none (hb : a.definition? = none) (ho : c'.objects = c.objects)
    (hf : c'.functions = c.functions) (hk : c'.constructors = c.constructors)
    (hm : c'.methods = c.methods) (he : c'.enumerations = c.enumerations)
    (hn : c'.cNames = c.cNames) (hs : c'.sources = c.sources ++ a.visited?.toList) :
    Extends [a] c c' := by
  have hnone : Action.built [a] = [] := by simp [Action.built, hb]
  have hv : Action.visits [a] = a.visited?.toList := filterMap_one _ a
  constructor <;> simp [*]

theorem perform_extends (h : c.perform t a = .ok c') : Extends [a] c c' := by
  cases a with
  | follow path =>
    simp only [perform] at h
    split at h
    · cases h
      exact extends_none rfl rfl rfl rfl rfl rfl rfl rfl
    · cases h
  | record source r =>
    have hr := register_ok h
    cases hd : r.definition? with
    | none =>
      obtain rfl : c' = c := by simpa [hd] using hr
      exact extends_none hd rfl rfl rfl rfl rfl rfl (by simp [Action.visited?])
    | some d =>
      obtain rfl : c' = c.add d := by simpa [hd] using hr
      exact extends_add source hd
  | leave =>
    cases h
    exact extends_none rfl rfl rfl rfl rfl rfl rfl (by simp [Action.visited?, leave])

theorem performAll_extends (h : c.performAll t actions = .ok c') : Extends actions c c' := by
  induction actions generalizing c with
  | nil =>
    obtain rfl : c = c' := Except.ok.inj h
    exact Extends.refl c
  | cons a actions ih =>
    obtain ⟨c₁, ha, hs⟩ := performAll_cons_ok h
    exact (perform_extends ha).trans (ih hs)

end Catalogue
end DefsGlue
