import DefsGlue.Proofs.Passing.Grouping
import Mathlib.Data.Finset.Card

/-! What declarations come to, however the additions took turns: a line for each type, in the order
in which types first came up, and in the line all that was added under the type. -/
namespace DefsGlue.Declarations

/-- The types of locals, each where it first comes up. -/
def typesSeen (ls : List Local) : List String := (ls.map Local.type).eraseDups

/-- What is declared under a type, in order. -/
def declaratorsOf (type : String) (ls : List Local) : List String :=
  (ls.filter (·.type = type)).map Local.declarator

/-- Whether the groups hold the locals, one group for each type in the order of first appearance. -/
structure Collects (d : Declarations) (ls : List Local) : Prop where
  types : d.types = typesSeen ls
  declarators : ∀ group ∈ d.groups, group.2 = declaratorsOf group.1 ls

variable {d d' : Declarations} {l : Local} {ls ls' : List Local} {type declarator : String}

theorem mem_typesSeen : type ∈ typesSeen ls ↔ ∃ l ∈ ls, l.type = type := by
  simp [typesSeen]

theorem typesSeen_concat_of_mem (h : l.type ∈ typesSeen ls) :
    typesSeen (ls ++ [l]) = typesSeen ls := by
  have hseen : ∃ l' ∈ ls, l'.type = l.type := mem_typesSeen.mp h
  simp [typesSeen, List.eraseDups_append, List.removeAll, hseen]

theorem typesSeen_concat_of_not_mem (h : l.type ∉ typesSeen ls) :
    typesSeen (ls ++ [l]) = typesSeen ls ++ [l.type] := by
  have hnew : ¬ ∃ l' ∈ ls, l'.type = l.type := fun h' => h (mem_typesSeen.mpr h')
  simp [typesSeen, List.eraseDups_append, List.removeAll, hnew, List.eraseDups_cons]

theorem declaratorsOf_concat (type : String) (ls : List Local) (l : Local) :
    declaratorsOf type (ls ++ [l]) =
      declaratorsOf type ls ++ if l.type = type then [l.declarator] else [] := by
  by_cases h : l.type = type <;> simp [declaratorsOf, h]

theorem declaratorsOf_eq_nil (h : type ∉ typesSeen ls) : declaratorsOf type ls = [] := by
  simpa [declaratorsOf, mem_typesSeen] using h

theorem collects_empty : empty.Collects [] :=
  ⟨rfl, by simp [empty]⟩

/-- One more local goes to the end of its type's group; the other groups hold what they held. -/
theorem Adds.collects (h : Adds d l.type l.declarator d') (hd : d.Grouped) (hc : d.Collects ls) :
    d'.Collects (ls ++ [l]) := by
  have hkept : ∀ group ∈ d.groups, l.type ≠ group.1 →
      group.2 = declaratorsOf group.1 (ls ++ [l]) := by
    intro group hgroup hne
    rw [declaratorsOf_concat, if_neg hne, List.append_nil]
    exact hc.declarators group hgroup
  cases h with
  | @joined before after ds hgroups =>
    have hseen : l.type ∈ typesSeen ls := by simp [← hc.types, types, hgroups]
    have hdistinct := hd.distinct
    simp only [types, hgroups, List.map_append, List.map_cons, List.nodup_append,
      List.nodup_cons] at hdistinct
    obtain ⟨-, ⟨hafter, -⟩, hbefore⟩ := hdistinct
    constructor
    · rw [typesSeen_concat_of_mem hseen, ← hc.types]
      simp [types, hgroups]
    · intro group hgroup
      rcases List.mem_append.mp hgroup with hgroup | hgroup
      · refine hkept group (by simp [hgroups, hgroup]) ?_
        exact (hbefore group.1 (List.mem_map_of_mem hgroup) l.type (by simp)).symm
      · rcases List.mem_cons.mp hgroup with rfl | hgroup
        · have hheld := hc.declarators (l.type, ds) (by simp [hgroups])
          simp only at hheld
          rw [declaratorsOf_concat, if_pos rfl, ← hheld]
        · refine hkept group (by simp [hgroups, hgroup]) ?_
          intro he
          exact hafter (he ▸ List.mem_map_of_mem hgroup)
  | opened hnew =>
    have hunseen : l.type ∉ typesSeen ls := hc.types ▸ hnew
    constructor
    · rw [typesSeen_concat_of_not_mem hunseen, ← hc.types]
      simp [types]
    · intro group hgroup
      rcases List.mem_append.mp hgroup with hgroup | hgroup
      · refine hkept group hgroup ?_
        intro he
        exact hnew (he ▸ List.mem_map_of_mem hgroup)
      · obtain rfl := List.mem_singleton.mp hgroup
        rw [declaratorsOf_concat, if_pos rfl, declaratorsOf_eq_nil hunseen, List.nil_append]

theorem collects_addAll (ls : List Local) : (empty.addAll ls).Collects ls := by
  induction ls using List.reverseRecOn with
  | nil => exact collects_empty
  | append_singleton ls l ih =>
    rw [addAll_append]
    exact (adds (empty.addAll ls) l.type l.declarator).collects (grouped_empty.addAll ls) ih

theorem Collects.groups_eq (h : d.Collects ls) :
    d.groups = (typesSeen ls).map fun type => (type, declaratorsOf type ls) := by
  have hgroup : ∀ group ∈ d.groups, group = (group.1, declaratorsOf group.1 ls) := by
    intro group hgroup
    exact Prod.ext rfl (h.declarators group hgroup)
  calc d.groups = d.groups.map fun group => (group.1, declaratorsOf group.1 ls) :=
        (List.map_id' _).symm.trans (List.map_congr_left hgroup)
    _ = (typesSeen ls).map fun type => (type, declaratorsOf type ls) := by
        rw [← h.types, Declarations.types, List.map_map]
        rfl

theorem typesSeen_eq_nil_iff : typesSeen ls = [] ↔ ls = [] := by
  rw [List.eq_nil_iff_forall_not_mem, List.eq_nil_iff_forall_not_mem]
  simp [mem_typesSeen]

theorem isEmpty_addAll_iff : (empty.addAll ls).isEmpty = true ↔ ls = [] := by
  simp [isEmpty, (collects_addAll ls).groups_eq, typesSeen_eq_nil_iff]

theorem size_addAll (ls : List Local) :
    (empty.addAll ls).size = (ls.map Local.type).toFinset.card := by
  have hc := collects_addAll ls
  have hdistinct : (typesSeen ls).Nodup := hc.types ▸ (grouped_empty.addAll ls).distinct
  have hset : (ls.map Local.type).toFinset = (typesSeen ls).toFinset := by
    ext type
    simp [mem_typesSeen]
  rw [hset, List.toFinset_card_of_nodup hdistinct, size, hc.groups_eq, List.length_map]

theorem render_addAll (ls : List Local) :
    (empty.addAll ls).render = String.join ((typesSeen ls).map fun type =>
      "\t" ++ type ++ " " ++ ", ".intercalate (declaratorsOf type ls) ++ ";\n") ++
        if ls = [] then "" else "\n" := by
  rw [render, (collects_addAll ls).groups_eq, List.map_map]
  simp only [isEmpty_addAll_iff]
  rfl

theorem addAll_congr (htypes : typesSeen ls = typesSeen ls')
    (hdeclarators : ∀ type, declaratorsOf type ls = declaratorsOf type ls') :
    empty.addAll ls = empty.addAll ls' := by
  have hgroups : (empty.addAll ls).groups = (empty.addAll ls').groups := by
    simp only [(collects_addAll _).groups_eq, htypes, hdeclarators]
  exact congrArg mk hgroups

/-- Locals added to no declarations come out in one line for each type, in the order in which the
types first came up, and each line declares all that was added under its type, repetitions included,
in the order in which it was added. So nothing hangs on how the types took turns. -/
theorem addAll_renders_by_type (ls : List Local) :
    let d := empty.addAll ls
    d.size = (ls.map Local.type).toFinset.card ∧
    d.render = String.join ((typesSeen ls).map fun type =>
      "\t" ++ type ++ " " ++ ", ".intercalate (declaratorsOf type ls) ++ ";\n") ++
        (if ls = [] then "" else "\n") ∧
    (d.isEmpty = true ↔ ls = []) ∧ (d.render = "" ↔ ls = []) ∧
    ∀ ls', typesSeen ls = typesSeen ls' →
      (∀ type, declaratorsOf type ls = declaratorsOf type ls') →
      d.render = (empty.addAll ls').render := by
  refine ⟨size_addAll ls, render_addAll ls, isEmpty_addAll_iff, ?_, ?_⟩
  · constructor
    · intro h
      by_contra hls
      simp [render_addAll, hls] at h
    · rintro rfl
      rfl
  · intro ls' htypes hdeclarators
    rw [addAll_congr htypes hdeclarators]

/-- The second and the third local change places: each keeps its place within its type. -/
theorem addAll_renders_by_type_turned :
    let zval : Local := ⟨"zval", "*php_a = NULL"⟩
    let long : Local := ⟨"long", "b"⟩
    typesSeen [zval, long, zval] = typesSeen [zval, zval, long] ∧
    (∀ type, declaratorsOf type [zval, long, zval] = declaratorsOf type [zval, zval, long]) ∧
    (empty.addAll [zval, long, zval]).render =
      "\tzval *php_a = NULL, *php_a = NULL;\n\tlong b;\n\n" ∧
    (empty.addAll [zval, long, zval]).render = (empty.addAll [zval, zval, long]).render := by
  intro zval long
  have htypes : typesSeen [zval, long, zval] = typesSeen [zval, zval, long] := by decide +kernel
  have hdeclarators : ∀ type,
      declaratorsOf type [zval, long, zval] = declaratorsOf type [zval, zval, long] := by
    intro type
    by_cases h : "long" = type
    · subst h
      decide
    · simp [declaratorsOf, List.filter_cons, long, h]
  exact ⟨htypes, hdeclarators, by decide +kernel,
    (addAll_renders_by_type _).2.2.2.2 _ htypes hdeclarators⟩

end DefsGlue.Declarations
