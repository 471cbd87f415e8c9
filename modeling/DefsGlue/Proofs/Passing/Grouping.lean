import DefsGlue.Proofs.Passing.Contribution
import Mathlib.Data.List.Induction

/-! Declarations as they grow. A local joins the group of its type, so that declarations taken over
from one place to another come out as if they had been added there one by one. -/
namespace DefsGlue.Declarations

/-- The declared locals, group by group. -/
def locals (d : Declarations) : List Local :=
  d.groups.flatMap fun group => group.2.map fun declarator => ⟨group.1, declarator⟩

/-- The types that have a group. -/
def types (d : Declarations) : List String :=
  d.groups.map Prod.fst

/-- No type has two groups, and no group is empty. -/
structure Grouped (d : Declarations) : Prop where
  distinct : d.types.Nodup
  nonempty : ∀ group ∈ d.groups, group.2 ≠ []

/-- Whether every group has kept its place and begins with all that it held. -/
def KeptIn (d d' : Declarations) : Prop :=
  ∀ (i : Nat) type ds, d.groups[i]? = some (type, ds) →
    ∃ ds', d'.groups[i]? = some (type, ds') ∧ ds <+: ds'

/-- What adding a local can do: its type has a group that grows, or gets one at the end. -/
inductive Adds (d : Declarations) (type declarator : String) : Declarations → Prop
  | joined {before after : List (String × List String)} {ds : List String} :
      d.groups = before ++ (type, ds) :: after →
      Adds d type declarator ⟨before ++ (type, ds ++ [declarator]) :: after⟩
  | opened : type ∉ d.types → Adds d type declarator ⟨d.groups ++ [(type, [declarator])]⟩

variable {d d' e : Declarations} {type type' declarator declarator' : String} {ls : List Local}

theorem adds (d : Declarations) (type declarator : String) :
    Adds d type declarator (d.add type declarator) := by
  obtain ⟨groups⟩ := d
  induction groups with
  | nil => exact .opened (by simp [types])
  | cons group groups ih =>
    obtain ⟨type', ds⟩ := group
    by_cases h : type' = type
    · subst h
      have hadd : add ⟨(type', ds) :: groups⟩ type' declarator =
          ⟨[] ++ (type', ds ++ [declarator]) :: groups⟩ := by
        simp [add, insert]
      rw [hadd]
      exact .joined rfl
    · have hadd : add ⟨(type', ds) :: groups⟩ type declarator =
          ⟨(type', ds) :: (add ⟨groups⟩ type declarator).groups⟩ := by
        simp [add, insert, h]
      rw [hadd]
      generalize add ⟨groups⟩ type declarator = d' at ih
      cases ih with
      | @joined before after joined hgroups =>
        obtain rfl := hgroups
        exact @Adds.joined _ _ _ ((type', ds) :: before) after joined rfl
      | opened hnew =>
        exact @Adds.opened ⟨(type', ds) :: groups⟩ _ _ (by simpa [types, Ne.symm h] using hnew)

theorem Adds.mem_types (h : Adds d type declarator d') :
    type' ∈ d'.types ↔ type' = type ∨ type' ∈ d.types := by
  cases h with
  | joined hgroups =>
    simp only [types, hgroups, List.map_append, List.map_cons, List.mem_append, List.mem_cons]
    tauto
  | opened => simp [types, or_comm]

theorem Adds.grouped (h : Adds d type declarator d') (hd : d.Grouped) : d'.Grouped := by
  cases h with
  | joined hgroups =>
    have hdistinct := hd.distinct
    have hnonempty := hd.nonempty
    simp only [types, hgroups] at hdistinct hnonempty
    refine ⟨by simpa [types] using hdistinct, ?_⟩
    intro group hgroup
    rcases List.mem_append.mp hgroup with hgroup | hgroup
    · exact hnonempty group (List.mem_append_left _ hgroup)
    · rcases List.mem_cons.mp hgroup with rfl | hgroup
      · simp
      · exact hnonempty group (List.mem_append_right _ (List.mem_cons_of_mem _ hgroup))
  | opened hnew =>
    constructor
    · have hapart : ∀ t ∈ d.types, t ≠ type := fun t ht he => hnew (he ▸ ht)
      have hdistinct := hd.distinct
      simp only [types] at hdistinct hapart ⊢
      rw [List.map_append, List.nodup_append]
      exact ⟨hdistinct, by simp, by simpa using hapart⟩
    · intro group hgroup
      rcases List.mem_append.mp hgroup with hgroup | hgroup
      · exact hd.nonempty group hgroup
      · simp [List.mem_singleton.mp hgroup]

theorem KeptIn.refl (d : Declarations) : d.KeptIn d :=
  fun _ _ ds h => ⟨ds, h, List.prefix_rfl⟩

theorem KeptIn.trans {d'' : Declarations} (h : d.KeptIn d') (h' : d'.KeptIn d'') :
    d.KeptIn d'' := by
  intro i type ds hi
  obtain ⟨ds', hi, hds⟩ := h i type ds hi
  obtain ⟨ds'', hi, hds'⟩ := h' i type ds' hi
  exact ⟨ds'', hi, hds.trans hds'⟩

theorem Adds.keptIn (h : Adds d type declarator d') : d.KeptIn d' := by
  intro i type' ds' hi
  cases h with
  | @joined before after ds hgroups =>
    rw [hgroups] at hi
    rcases Nat.lt_trichotomy i before.length with hlt | rfl | hgt
    · exact ⟨ds', by simpa [List.getElem?_append_left hlt] using hi, List.prefix_rfl⟩
    · obtain ⟨rfl, rfl⟩ : type = type' ∧ ds = ds' := by simpa using hi
      exact ⟨ds ++ [declarator], by simp, List.prefix_append _ _⟩
    · refine ⟨ds', ?_, List.prefix_rfl⟩
      rw [List.getElem?_append_right (Nat.le_of_lt hgt)] at hi ⊢
      obtain ⟨n, hn⟩ := Nat.exists_eq_add_of_lt hgt
      simpa [show i - before.length = n + 1 by omega] using hi
  | opened =>
    have hlt := (List.getElem?_eq_some_iff.mp hi).1
    exact ⟨ds', by simpa [List.getElem?_append_left hlt] using hi, List.prefix_rfl⟩

theorem addAll_append (d : Declarations) (ls ls' : List Local) :
    d.addAll (ls ++ ls') = (d.addAll ls).addAll ls' :=
  List.foldl_append

theorem mem_types_addAll :
    type ∈ (d.addAll ls).types ↔ (∃ l ∈ ls, l.type = type) ∨ type ∈ d.types := by
  induction ls generalizing d with
  | nil => simp [addAll]
  | cons l ls ih =>
    have hstep : type ∈ (d.add l.type l.declarator).types ↔ type = l.type ∨ type ∈ d.types :=
      (adds d l.type l.declarator).mem_types
    rw [addAll, List.foldl_cons, ← addAll, ih, hstep, List.exists_mem_cons_iff,
      @eq_comm String type, or_assoc, or_left_comm]

theorem type_mem_of_mem_locals {l : Local} (h : l ∈ d.locals) : l.type ∈ d.types := by
  obtain ⟨group, hgroup, hl⟩ := List.mem_flatMap.mp h
  obtain ⟨declarator, -, rfl⟩ := List.mem_map.mp hl
  exact List.mem_map_of_mem hgroup

theorem keptIn_addAll (d : Declarations) (ls : List Local) : d.KeptIn (d.addAll ls) := by
  induction ls generalizing d with
  | nil => exact .refl d
  | cons l ls ih => exact (adds d l.type l.declarator).keptIn.trans (ih _)

theorem grouped_empty : empty.Grouped :=
  ⟨List.nodup_nil, by simp [empty]⟩

theorem Grouped.addAll (h : d.Grouped) (ls : List Local) : (d.addAll ls).Grouped := by
  induction ls generalizing d with
  | nil => exact h
  | cons l ls ih => exact ih ((adds d l.type l.declarator).grouped h)

theorem add_comm (hne : type ≠ type') (h : type ∈ d.types) :
    (d.add type declarator).add type' declarator' =
      (d.add type' declarator').add type declarator := by
  obtain ⟨groups⟩ := d
  simp only [add, mk.injEq]
  induction groups with
  | nil => cases h
  | cons group groups ih =>
    by_cases ht : group.1 = type
    · simp [insert, ht, hne]
    · have hmem : type ∈ types ⟨groups⟩ := by simpa [types, Ne.symm ht] using h
      by_cases ht' : group.1 = type' <;> simp [insert, ht, ht', hne.symm, ih hmem]

theorem add_addAll (h : type ∈ d.types) (hls : ∀ l ∈ ls, l.type ≠ type) :
    (d.add type declarator).addAll ls = (d.addAll ls).add type declarator := by
  induction ls generalizing d with
  | nil => rfl
  | cons l ls ih =>
    rw [List.forall_mem_cons] at hls
    have hmem : type ∈ (d.add l.type l.declarator).types :=
      (adds d l.type l.declarator).mem_types.mpr (.inr h)
    calc (d.add type declarator).addAll (l :: ls)
        = ((d.add type declarator).add l.type l.declarator).addAll ls := rfl
      _ = ((d.add l.type l.declarator).add type declarator).addAll ls := by
          rw [add_comm hls.1.symm h]
      _ = (d.addAll (l :: ls)).add type declarator := ih hmem hls.2

/-- One more local comes last, also where the others are taken over group by group. -/
theorem addAll_locals_add (d : Declarations) (he : e.Grouped) (type declarator : String) :
    d.addAll (e.add type declarator).locals = (d.addAll e.locals).add type declarator := by
  have h := adds e type declarator
  generalize e.add type declarator = e' at h
  cases h with
  | @joined before after ds hgroups =>
    -- The local moves from the end of its group to the end of all; the groups between are of
    -- other types, and its own type is there before them.
    have hdistinct := he.distinct
    simp only [types, hgroups, List.map_append, List.map_cons] at hdistinct
    have hds : ds ≠ [] := he.nonempty (type, ds) (by simp [hgroups])
    have hafter : ∀ l ∈ locals ⟨after⟩, l.type ≠ type := by
      rintro l hl rfl
      have hnew := (List.nodup_cons.mp (List.nodup_append.mp hdistinct).2.1).1
      exact hnew (type_mem_of_mem_locals hl)
    have hmem : type ∈ (d.addAll (locals ⟨before ++ [(type, ds)]⟩)).types := by
      obtain ⟨first, rest, rfl⟩ := List.exists_cons_of_ne_nil hds
      exact mem_types_addAll.mpr (.inl ⟨⟨type, first⟩, by simp [locals], rfl⟩)
    have hlocals : e.locals = locals ⟨before ++ [(type, ds)]⟩ ++ locals ⟨after⟩ := by
      simp [locals, hgroups]
    have hlocals' : locals ⟨before ++ (type, ds ++ [declarator]) :: after⟩ =
        locals ⟨before ++ [(type, ds)]⟩ ++ ⟨type, declarator⟩ :: locals ⟨after⟩ := by
      simp [locals]
    rw [hlocals, hlocals', addAll_append, addAll_append]
    exact add_addAll hmem hafter
  | opened => simp [locals, addAll]

/-- Declarations taken over group by group are those that come of adding them in their order. -/
theorem addAll_locals (d : Declarations) (ls : List Local) :
    d.addAll (empty.addAll ls).locals = d.addAll ls := by
  induction ls using List.reverseRecOn with
  | nil => rfl
  | append_singleton ls l ih =>
    calc d.addAll (empty.addAll (ls ++ [l])).locals
        = d.addAll ((empty.addAll ls).add l.type l.declarator).locals := by
          rw [addAll_append]
          rfl
      _ = (d.addAll (empty.addAll ls).locals).add l.type l.declarator :=
          addAll_locals_add d (grouped_empty.addAll ls) l.type l.declarator
      _ = d.addAll (ls ++ [l]) := by
          rw [ih, addAll_append]
          rfl

end DefsGlue.Declarations
