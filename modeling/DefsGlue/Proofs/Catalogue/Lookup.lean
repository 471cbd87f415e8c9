import DefsGlue.Catalogue.Lookup
import DefsGlue.Proofs.Catalogue.Action

/-! Finding what belongs to an object, while definitions accumulate. A lookup gives the definition
that fits and was registered first. Since calls only register more behind, what is found once is
found ever after. -/
namespace DefsGlue

section Lists

variable {α : Type}

/-- The earliest element of a list that has a property. -/
def Earliest (p : α → Prop) (xs : List α) (x : α) : Prop :=
  p x ∧ ∃ before after, xs = before ++ x :: after ∧ ∀ y ∈ before, ¬ p y

theorem find?_eq_some_iff_earliest {p : α → Prop} {q : α → Bool} (h : ∀ x, q x = true ↔ p x)
    {xs : List α} {x : α} : xs.find? q = some x ↔ Earliest p xs x := by
  simp only [List.find?_eq_some_iff_append, Earliest, h, Bool.not_eq_true', Bool.eq_false_iff,
    ne_eq]

end Lists

namespace Definition

variable {d : Definition} {name : String} {o : ObjectType}

/-- Whether a definition is an object of the name or the native name. -/
def IsNamed (name : String) : Definition → Prop
  | object o => o.name = name ∨ o.cName = name
  | _ => False

/-- Whether a definition is a function that constructs the object, by its name or by that with the
framework's marker in front. -/
def Constructs (o : ObjectType) : Definition → Prop
  | function f => f.constructs? = some o.name ∨ f.constructs? = some ("Gtk" ++ o.name)
  | _ => False

/-- Whether a definition is an object of the name that the object declares for its parent. -/
def IsParentOf (o : ObjectType) : Definition → Prop
  | object parent => o.parent? = some parent.name
  | _ => False

end Definition

namespace Catalogue

/-- How definitions are registered, one after the other. Files may be entered and left between. -/
inductive Registers (c : Catalogue) : List Definition → Catalogue → Prop
  | none : Registers c [] c
  | add {ds : List Definition} {c' : Catalogue} (d : Definition) :
      Registers c ds c' → Registers c (ds ++ [d]) (c'.add d)
  | enter {ds : List Definition} {c' : Catalogue} (path : String) (l : Location) :
      Registers c ds c' → Registers c ds (c'.enter path l)
  | leave {ds : List Definition} {c' : Catalogue} : Registers c ds c' → Registers c ds c'.leave

/-- What calls make of a catalogue, one after the other and whether they fail or not. -/
inductive Later (c : Catalogue) : Catalogue → Prop
  | refl : Later c c
  | load {c' : Catalogue} (t : FileTree) (w : Work) :
      Later c c' → Later c (load t w c' rfl).catalogue
  | text {c' : Catalogue} (t : FileTree) (text source : String) :
      Later c c' → Later c (loadText t text source c').catalogue
  | add {c' : Catalogue} (d : Definition) : Later c c' → Later c (c'.add d)

/-- The answer of a lookup among registered definitions: the one that was registered first of those
that fit, and nothing exactly if none fits. -/
structure Answers {α : Type} (wrap : α → Definition) (p : Definition → Prop)
    (ds : List Definition) (answer : Option α) : Prop where
  some_iff : ∀ x, answer = some x ↔ Earliest p ds (wrap x)
  none_iff : answer = none ↔ ∀ d ∈ ds, ¬ p d

variable {c c' : Catalogue} {ds ds' : List Definition}

theorem Reachable.later (h : Reachable c) : Later .empty c := by
  induction h with
  | empty => exact .refl
  | load t w _ ih => exact .load t w ih
  | text t text source _ ih => exact .text t text source ih
  | add d _ ih => exact .add d ih

theorem Invariant.later {P : Catalogue → Prop} (hP : Invariant P) (h : Later c c') (hc : P c) :
    P c' := by
  induction h with
  | refl => exact hc
  | load t w _ ih => exact hP.loads (loads_load t w _) ih
  | text t text source _ ih => exact hP.loadText t text source ih
  | add d _ ih => exact hP.add _ d ih

theorem registers_invariant (c : Catalogue) : Invariant fun c' => ∃ ds, Registers c ds c' where
  add := by
    rintro c' d ⟨ds, h⟩
    exact ⟨_, .add d h⟩
  enter := by
    rintro c' path l ⟨ds, h⟩
    exact ⟨ds, .enter path l h⟩
  leave := by
    rintro c' ⟨ds, h⟩
    exact ⟨ds, .leave h⟩

/-- Calls register definitions and do nothing else to the lists. -/
theorem Later.registers (h : Later c c') : ∃ ds, Registers c ds c' :=
  (registers_invariant c).later h ⟨[], .none⟩

theorem Registers.trans {c₁ : Catalogue} (h : Registers c ds c₁) (h' : Registers c₁ ds' c') :
    Registers c (ds ++ ds') c' := by
  induction h' with
  | none => simpa using h
  | add d _ ih =>
    rw [← List.append_assoc]
    exact .add d ih
  | enter path l _ ih => exact .enter path l ih
  | leave _ ih => exact .leave ih

section Selections

variable {α : Type} {list : Catalogue → List α} {pick : Definition → Option α}
  {wrap : α → Definition} {fits : α → Bool} {p : Definition → Prop}

/-- A list to which each registration adds its pick holds the picks of all. -/
theorem Registers.picks (h : Registers c ds c')
    (hadd : ∀ c d, list (c.add d) = list c ++ (pick d).toList)
    (henter : ∀ c path l, list (c.enter path l) = list c) (hleave : ∀ c, list c.leave = list c) :
    list c' = list c ++ ds.filterMap pick := by
  induction h with
  | none => simp
  | add d _ ih => rw [hadd, ih, List.filterMap_append, filterMap_one, List.append_assoc]
  | enter path l _ ih => rw [henter, ih]
  | leave _ ih => rw [hleave, ih]

/-- The first fit in a list of picks answers for the definitions they are picked from. -/
theorem answers_find? (hwrap : Function.Injective wrap)
    (hpick : ∀ d x, pick d = some x → d = wrap x)
    (hfits : ∀ d, (pick d).any fits = true ↔ p d) (ds : List Definition) :
    Answers wrap p ds ((ds.filterMap pick).find? fits) := by
  constructor
  · intro x
    rw [List.find?_filterMap, Option.bind_eq_some_iff]
    constructor
    · rintro ⟨d, hd, hx⟩
      rw [← hpick d x hx]
      exact (find?_eq_some_iff_earliest hfits).mp hd
    · intro h
      have hany : (pick (wrap x)).any fits = true := (hfits _).mpr h.1
      obtain ⟨y, hy⟩ := Option.isSome_iff_exists.mp (Option.isSome_of_any hany)
      obtain rfl : x = y := hwrap (hpick _ y hy)
      exact ⟨wrap x, (find?_eq_some_iff_earliest hfits).mpr h, hy⟩
  · rw [List.find?_eq_none, List.forall_mem_filterMap]
    refine forall₂_congr fun d _ => ?_
    rw [← hfits d]
    cases pick d <;> simp

end Selections

theorem Registers.objects (h : Registers c ds c') :
    c'.objects = c.objects ++ ds.filterMap Definition.object? :=
  h.picks objects_add (fun _ _ _ => rfl) fun _ => rfl

theorem Registers.constructors (h : Registers c ds c') :
    c'.constructors = c.constructors ++ ds.filterMap Definition.constructor? :=
  h.picks constructors_add (fun _ _ _ => rfl) fun _ => rfl

theorem Registers.methods (h : Registers c ds c') :
    c'.methods = c.methods ++ ds.filterMap Definition.method? :=
  h.picks methods_add (fun _ _ _ => rfl) fun _ => rfl

theorem object_of_object? (d : Definition) (o : ObjectType) (h : d.object? = some o) :
    d = .object o := by
  cases d <;> simp_all [Definition.object?]

theorem parentOf?_eq (c : Catalogue) (o : ObjectType) :
    c.parentOf? o = c.objects.find? fun parent => o.parent? == some parent.name := by
  unfold parentOf?
  cases o.parent? with
  | none => simp [eq_comm (a := none)]
  | some name =>
    have hsame : (fun x : ObjectType => x.name == name) = fun x => some name == some x.name := by
      funext x
      rw [Bool.eq_iff_iff, beq_iff_eq, beq_iff_eq, Option.some_inj, eq_comm]
    rw [Option.bind_some, hsame]

section Registered

variable (h : Registers .empty ds c)
include h

theorem Registers.object? (name : String) :
    Answers .object (Definition.IsNamed name) ds (c.object? name) := by
  rw [Catalogue.object?, h.objects]
  refine answers_find? (fun _ _ => Definition.object.inj) object_of_object? (fun d => ?_) ds
  cases d <;> simp [Definition.object?, Definition.IsNamed]

theorem Registers.parentOf? (o : ObjectType) :
    Answers .object (Definition.IsParentOf o) ds (c.parentOf? o) := by
  rw [parentOf?_eq, h.objects]
  refine answers_find? (fun _ _ => Definition.object.inj) object_of_object? (fun d => ?_) ds
  cases d <;> simp [Definition.object?, Definition.IsParentOf]

theorem Registers.constructorOf? (o : ObjectType) :
    Answers .function (Definition.Constructs o) ds (c.constructorOf? o) := by
  rw [Catalogue.constructorOf?, h.constructors]
  refine answers_find? (fun _ _ => Definition.function.inj) (fun d f hf => ?_) (fun d => ?_) ds
  · cases d <;> simp_all [Definition.constructor?]
  · cases d with
    | function f =>
      cases hf : f.constructs? <;>
        simp [Definition.constructor?, NativeFunction.isConstructor, hf, Definition.Constructs,
          isTarget]
    | _ => simp [Definition.constructor?, Definition.Constructs]

end Registered

/-- What a lookup finds it finds ever after, and the methods of an object only become more behind
those it has. The answer is the definition that was registered first of all that fit, among those
of the calls before and those of the calls since. -/
theorem lookups_stable (hc : Reachable c) (h : Later c c') :
    (∀ name o, c.object? name = some o → c'.object? name = some o) ∧
    (∀ o f, c.constructorOf? o = some f → c'.constructorOf? o = some f) ∧
    (∀ o parent, c.parentOf? o = some parent → c'.parentOf? o = some parent) ∧
    (∀ o, c.methodsOf o <+: c'.methodsOf o) ∧
    ∃ ds ds', Registers .empty ds c ∧ Registers c ds' c' ∧
      (∀ name, Answers .object (Definition.IsNamed name) (ds ++ ds') (c'.object? name)) ∧
      (∀ o, Answers .function (Definition.Constructs o) (ds ++ ds') (c'.constructorOf? o)) ∧
      ∀ o, Answers .object (Definition.IsParentOf o) (ds ++ ds') (c'.parentOf? o) := by
  obtain ⟨ds, hds⟩ := hc.later.registers
  obtain ⟨ds', hds'⟩ := h.registers
  have hobjects : c.objects <+: c'.objects := ⟨_, hds'.objects.symm⟩
  have hconstructors : c.constructors <+: c'.constructors := ⟨_, hds'.constructors.symm⟩
  have hmethods : c.methods <+: c'.methods := ⟨_, hds'.methods.symm⟩
  have hall := hds.trans hds'
  refine ⟨?_, ?_, ?_, ?_, ds, ds', hds, hds', hall.object?, hall.constructorOf?, hall.parentOf?⟩
  · intro name o ho
    exact hobjects.find?_eq_some ho
  · intro o f hf
    exact hconstructors.find?_eq_some hf
  · intro o parent hparent
    rw [parentOf?_eq] at hparent ⊢
    exact hobjects.find?_eq_some hparent
  · intro o
    exact hmethods.filter _

/-- A file whose include constructs an object by its marked name, and then fails. -/
def markedFiles : FileTree where
  entries := [
    (["a.defs"], .file "(include \"d/b\")(object Late)".toUTF8),
    (["d"], .directory),
    (["d", "b"], .file ("(function f (is-constructor-of GtkA))(object A (c-name B) (parent C))" ++
      "(method m (of-object A))(object C (c-name D))(include \"e\")").toUTF8)]
  current := []

/-- Definitions that come later compete for every answer that the failed load left: a constructor by
the plain name, an object whose name is a native name that is taken, and another parent. -/
theorem lookups_stable_marked :
    let c := (load markedFiles (.file "a.defs") empty rfl).catalogue
    let c' := (loadText markedFiles "(include \"e\")" "text" (c
      |>.add (.function ⟨⟨"g", "g", none, [], false⟩, some "A"⟩)
      |>.add (.object ⟨"B", none, none, none, "B", []⟩)
      |>.add (.method ⟨⟨"n", "n", none, [], false⟩, ⟨"A", none⟩⟩)
      |>.add (.object ⟨"C", none, none, none, "E", []⟩))).catalogue
    let o : ObjectType := ⟨"A", none, some "C", none, "B", []⟩
    Reachable c ∧ Later c c' ∧ c'.object? "B" = some o ∧
    c'.constructorOf? o = some ⟨⟨"f", "f", none, [], false⟩, some "GtkA"⟩ ∧
    c'.parentOf? o = some ⟨"C", none, none, none, "D", []⟩ ∧
    [⟨⟨"m", "m", none, [], false⟩, ⟨"A", none⟩⟩] <+: c'.methodsOf o := by
  intro c c' o
  have hc : Reachable c := .load markedFiles (.file "a.defs") .empty
  have hlater : Later c c' := .text markedFiles _ _ (.add _ (.add _ (.add _ (.add _ .refl))))
  obtain ⟨hobject, hconstructor, hparent, hmethods, -⟩ := lookups_stable hc hlater
  have hfound : c.object? "B" = some o ∧
      c.constructorOf? o = some ⟨⟨"f", "f", none, [], false⟩, some "GtkA"⟩ ∧
      c.parentOf? o = some ⟨"C", none, none, none, "D", []⟩ ∧
      c.methodsOf o = [⟨⟨"m", "m", none, [], false⟩, ⟨"A", none⟩⟩] := by decide +kernel
  obtain ⟨ho, hf, hp, hm⟩ := hfound
  exact ⟨hc, hlater, hobject _ _ ho, hconstructor _ _ hf, hparent _ _ hp, hm ▸ hmethods o⟩

end Catalogue
end DefsGlue
