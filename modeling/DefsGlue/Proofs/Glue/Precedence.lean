import DefsGlue.Glue.Bundle
import DefsGlue.Proofs.Catalogue.Registration
import DefsGlue.Proofs.Passing.Contribution

/-! Which strategy a type finds when the types of a catalogue are served. An enumeration comes
before an object, among definitions of one kind the latest counts, and a type that the catalogue
does not name finds what it found before. -/
namespace DefsGlue

/-- The latest element of a list that has a property. -/
def Latest {α : Type} (p : α → Prop) (xs : List α) (x : α) : Prop :=
  p x ∧ ∃ before after, xs = before ++ x :: after ∧ ∀ y ∈ after, ¬ p y

theorem exists_latest {α : Type} (p : α → Prop) (xs : List α) :
    (∃ x, Latest p xs x) ∨ ∀ x ∈ xs, ¬ p x := by
  induction xs with
  | nil => exact .inr (by simp)
  | cons x xs ih =>
    rcases ih with ⟨y, hy, before, after, rfl, hafter⟩ | hnone
    · exact .inl ⟨y, hy, x :: before, after, rfl, hafter⟩
    · by_cases hx : p x
      · exact .inl ⟨x, hx, [], xs, rfl, hnone⟩
      · exact .inr (List.forall_mem_cons.mpr ⟨hx, hnone⟩)

/-- An object serves its native name and the pointer to it. -/
def ObjectType.Serves (o : ObjectType) (type : String) : Prop :=
  type = o.cName ∨ type = o.cName ++ "*"

namespace Registry

variable {α σ : Type} {r : Registry σ} {c : Catalogue} {type : String} {xs : List α} {x : α}
  {result : Except PassingFault σ}

theorem find?_add (r : Registry σ) (type other : String) (s : σ) :
    (r.add type s).find? other = if other = type then some s else r.find? other := by
  by_cases h : other = type
  · simp [find?, add, h]
  · have hkey : (other == type) = false := by simpa using h
    simp [find?, add, List.lookup_cons, h, hkey]

section Fold

variable {serve : Registry σ → α → Registry σ} {p : α → Prop} {s : α → σ}

theorem find?_foldl_none (hmiss : ∀ r x, ¬ p x → (serve r x).find? type = r.find? type)
    (h : ∀ x ∈ xs, ¬ p x) (r : Registry σ) : (xs.foldl serve r).find? type = r.find? type := by
  induction xs generalizing r with
  | nil => rfl
  | cons x xs ih =>
    rw [List.forall_mem_cons] at h
    rw [List.foldl_cons, ih h.2, hmiss r x h.1]

/-- After serving one by one, a type finds what the latest that serves it has put there. -/
theorem find?_foldl_latest (hhit : ∀ r x, p x → (serve r x).find? type = some (s x))
    (hmiss : ∀ r x, ¬ p x → (serve r x).find? type = r.find? type) (h : Latest p xs x)
    (r : Registry σ) : (xs.foldl serve r).find? type = some (s x) := by
  obtain ⟨hx, before, after, rfl, hafter⟩ := h
  rw [List.foldl_append, List.foldl_cons, find?_foldl_none hmiss hafter, hhit _ x hx]

end Fold

theorem find_congr {r r' : Registry σ} (h : r.find? type = r'.find? type) :
    r.find type = r'.find type := by
  simp [find, h]

variable [Strategies σ]

open Strategies (provided)

theorem find?_addObject (r : Registry σ) (o : ObjectType) (type : String) :
    (o.Serves type → (r.addObject o.cName).find? type = some (provided (.object o.cName))) ∧
      (¬ o.Serves type → (r.addObject o.cName).find? type = r.find? type) := by
  simp only [addObject, find?_add, ObjectType.Serves]
  constructor
  · rintro (h | h) <;> simp [h]
  · intro h
    rw [not_or] at h
    simp [h]

theorem find?_addEnumeration (r : Registry σ) (e : EnumType) (type : String) :
    (e.cName = type →
      (r.addEnumeration e.form e.cName).find? type =
        some (provided (.enumeration e.form e.cName))) ∧
      (e.cName ≠ type → (r.addEnumeration e.form e.cName).find? type = r.find? type) := by
  simp only [addEnumeration, find?_add]
  constructor
  · intro h
    simp [h]
  · intro h
    simp [h.symm]

/-- What a type finds once a catalogue is served. -/
inductive Finds (r : Registry σ) (c : Catalogue) (type : String) : Except PassingFault σ → Prop
  | enumeration {e : EnumType} : Latest (·.cName = type) c.enumerations e →
      Finds r c type (.ok (provided (.enumeration e.form e.cName)))
  | object {o : ObjectType} : (∀ e ∈ c.enumerations, e.cName ≠ type) →
      Latest (·.Serves type) c.objects o → Finds r c type (.ok (provided (.object o.cName)))
  | earlier : (∀ e ∈ c.enumerations, e.cName ≠ type) → (∀ o ∈ c.objects, ¬ o.Serves type) →
      Finds r c type (r.find type)

theorem Finds.find_eq (h : Finds r c type result) : (r.addCatalogue c).find type = result := by
  have hobject := fun (r : Registry σ) o => find?_addObject r o type
  have henumeration := fun (r : Registry σ) e => find?_addEnumeration r e type
  cases h with
  | enumeration he =>
    apply find_ok_iff.mpr
    exact find?_foldl_latest (fun r e => (henumeration r e).1)
      (fun r e => (henumeration r e).2) he _
  | object hnone ho =>
    apply find_ok_iff.mpr
    rw [addCatalogue, find?_foldl_none (fun r e => (henumeration r e).2) hnone]
    exact find?_foldl_latest (fun r o => (hobject r o).1) (fun r o => (hobject r o).2) ho r
  | earlier hnone hnone' =>
    apply find_congr
    rw [addCatalogue, find?_foldl_none (fun r e => (henumeration r e).2) hnone,
      find?_foldl_none (fun r o => (hobject r o).2) hnone']

theorem exists_finds (r : Registry σ) (c : Catalogue) (type : String) :
    ∃ result, Finds r c type result := by
  rcases exists_latest (fun e : EnumType => e.cName = type) c.enumerations with ⟨e, he⟩ | hnone
  · exact ⟨_, .enumeration he⟩
  · rcases exists_latest (fun o : ObjectType => o.Serves type) c.objects with ⟨o, ho⟩ | hnone'
    · exact ⟨_, .object hnone ho⟩
    · exact ⟨_, .earlier hnone hnone'⟩

theorem find_addCatalogue_iff :
    (r.addCatalogue c).find type = result ↔ Finds r c type result := by
  constructor
  · intro h
    obtain ⟨result', h'⟩ := exists_finds r c type
    obtain rfl := h'.find_eq.symm.trans h
    exact h'
  · exact Finds.find_eq

/-- Serving a catalogue again changes nothing. -/
theorem find_addCatalogue_twice (r : Registry σ) (c : Catalogue) (type : String) :
    ((r.addCatalogue c).addCatalogue c).find type = (r.addCatalogue c).find type := by
  obtain ⟨result, h⟩ := exists_finds r c type
  rw [h.find_eq, find_addCatalogue_iff]
  cases h with
  | enumeration he => exact .enumeration he
  | object hnone ho => exact .object hnone ho
  | earlier hnone hnone' =>
    have hfind : (r.addCatalogue c).find type = r.find type := (Finds.earlier hnone hnone').find_eq
    rw [← hfind]
    exact .earlier hnone hnone'

end Registry

namespace Catalogue

theorem objects_addAll (c : Catalogue) (ds : List Definition) :
    (ds.foldl add c).objects = c.objects ++ ds.filterMap Definition.object? := by
  induction ds generalizing c with
  | nil => simp
  | cons d ds ih =>
    rw [List.foldl_cons, ih, objects_add, List.append_assoc]
    cases h : d.object? <;> simp [h]

theorem enumerations_addAll (c : Catalogue) (ds : List Definition) :
    (ds.foldl add c).enumerations = c.enumerations ++ ds.filterMap Definition.enumeration? := by
  induction ds generalizing c with
  | nil => simp
  | cons d ds ih =>
    rw [List.foldl_cons, ih, enumerations_add, List.append_assoc]
    cases h : d.enumeration? <;> simp [h]

end Catalogue

namespace Registry

variable {σ : Type} [Strategies σ]

/-- Objects and enumerations are served each in their own order, however they came among each other
and among the rest. -/
theorem addCatalogue_interleaved {ds ds' : List Definition}
    (ho : ds.filterMap Definition.object? = ds'.filterMap Definition.object?)
    (he : ds.filterMap Definition.enumeration? = ds'.filterMap Definition.enumeration?)
    (r : Registry σ) (c : Catalogue) :
    r.addCatalogue (ds.foldl Catalogue.add c) = r.addCatalogue (ds'.foldl Catalogue.add c) := by
  simp only [addCatalogue, Catalogue.objects_addAll, Catalogue.enumerations_addAll, ho, he]

/-- A type finds the latest enumeration of its name, else the latest object that serves it, else
what it found before. How the two kinds were interleaved does not matter, nor does serving them
again. -/
theorem addCatalogue_precedence (r : Registry σ) (c : Catalogue) :
    (∀ type result, (r.addCatalogue c).find type = result ↔ Finds r c type result) ∧
    (∀ ds ds' : List Definition,
      ds.filterMap Definition.object? = ds'.filterMap Definition.object? →
      ds.filterMap Definition.enumeration? = ds'.filterMap Definition.enumeration? →
      ∀ type, (r.addCatalogue (ds.foldl Catalogue.add c)).find type =
        (r.addCatalogue (ds'.foldl Catalogue.add c)).find type) ∧
    ∀ type, ((r.addCatalogue c).addCatalogue c).find type = (r.addCatalogue c).find type := by
  refine ⟨fun _ _ => find_addCatalogue_iff, ?_, find_addCatalogue_twice r c⟩
  intro ds ds' ho he type
  rw [addCatalogue_interleaved ho he]

def plainObject (cName : String) : Definition := .object ⟨cName, none, none, none, cName, []⟩

def plainEnumeration (form : EnumForm) (cName : String) : Definition :=
  .enumeration ⟨form, cName, none, cName, []⟩

/-- Names that end in a star, a name of two kinds and two forms, and a type of the library. -/
def starredDefinitions : List Definition :=
  [plainEnumeration .flags "Bar", plainObject "Foo*", plainEnumeration .enum "Foo**",
    plainObject "GdkColor", plainObject "Foo", plainEnumeration .enum "Bar", plainObject "Bar"]

def starredDefinitionsApart : List Definition :=
  [plainObject "Foo*", plainObject "GdkColor", plainObject "Foo", plainObject "Bar",
    plainEnumeration .flags "Bar", plainEnumeration .enum "Foo**", plainEnumeration .enum "Bar"]

/-- The pointer to one object is the name of an earlier one. -/
theorem addCatalogue_precedence_starred :
    let c := starredDefinitions.foldl Catalogue.add .empty
    let r := builtin.addCatalogue c
    (r.find "Bar" = .ok (.enumeration .enum "Bar") ∧
      Finds builtin c "Bar" (.ok (.enumeration .enum "Bar"))) ∧
    (r.find "Foo*" = .ok (.object "Foo") ∧ Finds builtin c "Foo*" (.ok (.object "Foo"))) ∧
    (r.find "GdkColor*" = .ok (.object "GdkColor") ∧
      builtin.find "GdkColor*" ≠ r.find "GdkColor*") ∧
    (r.addCatalogue c).find "Foo**" = .ok (.enumeration .enum "Foo**") ∧
    ∀ type, (builtin.addCatalogue (starredDefinitionsApart.foldl Catalogue.add .empty)).find type =
      r.find type := by
  intro c r
  obtain ⟨hfind, -, htwice⟩ := addCatalogue_precedence builtin c
  obtain ⟨-, hinterleaved, -⟩ := addCatalogue_precedence builtin .empty
  have hbar : r.find "Bar" = .ok (.enumeration .enum "Bar") := by decide +kernel
  have hfoo : r.find "Foo*" = .ok (.object "Foo") := by decide +kernel
  exact ⟨⟨hbar, (hfind _ _).mp hbar⟩, ⟨hfoo, (hfind _ _).mp hfoo⟩, by decide +kernel,
    (htwice _).trans (by decide +kernel),
    hinterleaved starredDefinitionsApart starredDefinitions rfl rfl⟩

end Registry
end DefsGlue
