import DefsGlue.Proofs.Catalogue.Loading
import DefsGlue.Proofs.Catalogue.Registration

/-! The index of native names. It holds the name of every definition in the order of registration,
and a name that it holds already is warned of. -/
namespace DefsGlue

section Lists

variable {κ α : Type} [DecidableEq κ] {parts parts' : κ → List α} {xs : List α}

/-- Whether a list is made of a family of lists, each in its own order. Every element has a label
that tells which of them it is from. -/
def Interleaves (parts : κ → List α) (xs : List α) : Prop :=
  ∃ labelled : List (κ × α), labelled.map Prod.snd = xs ∧
    ∀ k, (labelled.filter fun x => x.1 = k).map Prod.snd = parts k

theorem Interleaves.concat {k : κ} {x : α} (h : Interleaves parts xs)
    (hk : parts' k = parts k ++ [x]) (ho : ∀ j ≠ k, parts' j = parts j) :
    Interleaves parts' (xs ++ [x]) := by
  obtain ⟨labelled, hx, hp⟩ := h
  refine ⟨labelled ++ [(k, x)], by simp [hx], ?_⟩
  intro j
  by_cases hj : j = k
  · subst hj
    simp [hk, hp]
  · have hkj : k ≠ j := fun he => hj he.symm
    simp [ho j hj, hp, hkj]

variable [DecidableEq α]

/-- The elements of a list that stand in it before, in order. -/
def repeats (xs : List α) : List α :=
  (xs.zipIdx.filter fun x => x.1 ∈ xs.take x.2).map Prod.fst

theorem repeats_concat (xs : List α) (x : α) :
    repeats (xs ++ [x]) = repeats xs ++ if x ∈ xs then [x] else [] := by
  have hfront : xs.zipIdx.filter (fun y => y.1 ∈ (xs ++ [x]).take y.2) =
      xs.zipIdx.filter fun y => y.1 ∈ xs.take y.2 := by
    refine List.filter_congr fun y hy => ?_
    have hlt : y.2 < xs.length := List.snd_lt_of_mem_zipIdx hy
    rw [List.take_append_of_le_length (Nat.le_of_lt hlt)]
  rw [repeats, List.zipIdx_append, List.filter_append, List.map_append, hfront]
  by_cases hx : x ∈ xs <;> simp [repeats, hx]

end Lists

/-- The lists of a catalogue. -/
inductive Shelf where
  | objects
  | functions
  | constructors
  | methods
  | enumerations
deriving DecidableEq

/-- The list that a definition is added to. -/
def Definition.shelf : Definition → Shelf
  | object _ => .objects
  | function f => if f.isConstructor then .constructors else .functions
  | method _ => .methods
  | enumeration _ => .enumerations

theorem Definition.constructs_of_constructor {d : Definition} {f : NativeFunction}
    (h : d.constructor? = some f) : f.constructs?.isSome = true := by
  cases d with
  | function g =>
    simp only [constructor?, Option.ite_none_right_eq_some] at h
    obtain ⟨hg, he⟩ := h
    exact Option.some.inj he ▸ hg
  | _ => cases h

theorem Definition.constructs_of_plainFunction {d : Definition} {f : NativeFunction}
    (h : d.plainFunction? = some f) : f.constructs? = none := by
  cases d with
  | function g =>
    simp only [plainFunction?, Option.ite_none_left_eq_some] at h
    obtain ⟨hg, he⟩ := h
    obtain rfl := Option.some.inj he
    simpa [NativeFunction.isConstructor] using hg
  | _ => cases h

namespace Catalogue

/-- The native names of the definitions in one list. -/
def names (c : Catalogue) : Shelf → List String
  | .objects => c.objects.map (·.cName)
  | .functions => c.functions.map (·.cName)
  | .constructors => c.constructors.map (·.cName)
  | .methods => c.methods.map (·.cName)
  | .enumerations => c.enumerations.map (·.cName)

variable {c : Catalogue}

theorem names_add_self (c : Catalogue) (d : Definition) :
    (c.add d).names d.shelf = c.names d.shelf ++ [d.cName] := by
  cases d with
  | function f =>
    by_cases hf : f.isConstructor = true <;>
      simp [Definition.shelf, names, functions_add, constructors_add, Definition.plainFunction?,
        Definition.constructor?, Definition.cName, hf]
  | object o => simp [Definition.shelf, names, objects_add, Definition.object?, Definition.cName]
  | method m => simp [Definition.shelf, names, methods_add, Definition.method?, Definition.cName]
  | enumeration e =>
    simp [Definition.shelf, names, enumerations_add, Definition.enumeration?, Definition.cName]

theorem names_add_other (c : Catalogue) (d : Definition) {s : Shelf} (hs : s ≠ d.shelf) :
    (c.add d).names s = c.names s := by
  cases s with
  | objects => cases d <;> simp_all [Definition.shelf, names, objects_add, Definition.object?]
  | functions =>
    cases d <;> simp_all [Definition.shelf, names, functions_add, Definition.plainFunction?]
  | constructors =>
    cases d <;> simp_all [Definition.shelf, names, constructors_add, Definition.constructor?]
  | methods => cases d <;> simp_all [Definition.shelf, names, methods_add, Definition.method?]
  | enumerations =>
    cases d <;> simp_all [Definition.shelf, names, enumerations_add, Definition.enumeration?]

theorem warnings_add (c : Catalogue) (d : Definition) : (c.add d).warnings =
    c.warnings ++ if d.cName ∈ c.cNames then [.repeatedName d.cName] else [] := by
  cases d <;> simp [add, enlist, index]
  split <;> rfl

/-- A list made of the names in each of the lists is as long as they are together. -/
theorem length_of_interleaves {xs : List String} (h : Interleaves c.names xs) :
    xs.length = c.objects.length + c.functions.length + c.constructors.length +
      c.methods.length + c.enumerations.length := by
  obtain ⟨labelled, rfl, hp⟩ := h
  have hlen : ∀ s, (c.names s).length = (labelled.filter fun x => x.1 = s).length := by
    intro s
    rw [← hp s, List.length_map]
  have hsum : labelled.length = (c.names .objects).length + (c.names .functions).length +
      (c.names .constructors).length + (c.names .methods).length +
      (c.names .enumerations).length := by
    simp only [hlen]
    clear hp hlen
    induction labelled with
    | nil => rfl
    | cons x labelled ih =>
      obtain ⟨s, name⟩ := x
      cases s <;> simp [ih] <;> omega
  simpa [names] using hsum

/-- The index agrees with the lists, and the warnings with the index. -/
structure Indexed (c : Catalogue) : Prop where
  interleaved : Interleaves c.names c.cNames
  constructors : ∀ f ∈ c.constructors, f.constructs?.isSome = true
  functions : ∀ f ∈ c.functions, f.constructs? = none
  warnings : c.warnings = (repeats c.cNames).map .repeatedName

theorem indexed_empty : Indexed .empty where
  interleaved := by
    refine ⟨[], rfl, ?_⟩
    intro s
    cases s <;> rfl
  constructors := by simp [empty]
  functions := by simp [empty]
  warnings := rfl

theorem Indexed.add (h : Indexed c) (d : Definition) : Indexed (c.add d) where
  interleaved := by
    rw [cNames_add]
    exact h.interleaved.concat (names_add_self c d) fun s hs => names_add_other c d hs
  constructors := by
    intro f hf
    rw [constructors_add, List.mem_append, Option.mem_toList] at hf
    rcases hf with hf | hf
    · exact h.constructors f hf
    · exact Definition.constructs_of_constructor hf
  functions := by
    intro f hf
    rw [functions_add, List.mem_append, Option.mem_toList] at hf
    rcases hf with hf | hf
    · exact h.functions f hf
    · exact Definition.constructs_of_plainFunction hf
  warnings := by
    rw [warnings_add, cNames_add, repeats_concat, List.map_append, h.warnings]
    by_cases hd : d.cName ∈ c.cNames <;> simp [hd]

/-- Entering and leaving a file touch neither the lists nor the index. -/
theorem indexed_invariant : Invariant Indexed where
  add _ d h := h.add d
  enter _ _ _ h := ⟨h.interleaved, h.constructors, h.functions, h.warnings⟩
  leave _ h := ⟨h.interleaved, h.constructors, h.functions, h.warnings⟩

theorem Reachable.indexed (h : Reachable c) : Indexed c :=
  indexed_invariant.reachable indexed_empty h

/-- After any calls, failed ones included, the index is made of the names in the five lists, each in
its order; constructors are told from other functions; and the warnings are the names that the
index holds already when they are added. -/
theorem index_of_reachable (h : Reachable c) :
    Interleaves c.names c.cNames ∧
    c.cNames.length = c.objects.length + c.functions.length + c.constructors.length +
      c.methods.length + c.enumerations.length ∧
    (∀ f ∈ c.constructors, f.constructs?.isSome = true) ∧
    (∀ f ∈ c.functions, f.constructs? = none) ∧
    c.warnings = (repeats c.cNames).map .repeatedName := by
  have hi := h.indexed
  exact ⟨hi.interleaved, length_of_interleaves hi.interleaved, hi.constructors, hi.functions,
    hi.warnings⟩

/-- A file whose include registers a name again and then fails. -/
def doubledFiles : FileTree where
  entries := [
    (["top.defs"], .file "(object A (c-name a))(include \"d/part.defs\")(enum E)".toUTF8),
    (["d"], .directory),
    (["d", "part.defs"], .file
      "(function f (c-name a) (is-constructor-of A))(function g)(include \"gone.defs\")".toUTF8)]
  current := []

/-- The load fails inside the include. A text is loaded after it, and a method is added. -/
theorem index_after_failed_load :
    let failed := load doubledFiles (.file "top.defs") empty rfl
    let text := loadText doubledFiles "(flags a)(function g)" "text" failed.catalogue
    let c := text.catalogue.add (.method ⟨⟨"m", "b", none, [], false⟩, ⟨"A", none⟩⟩)
    failed.failure? = some (.access "d/gone.defs" .notFound) ∧ Reachable c ∧
    c.cNames = ["a", "a", "g", "a", "g", "b"] ∧ Interleaves c.names c.cNames ∧
    c.warnings = [.repeatedName "a", .repeatedName "a", .repeatedName "g"] := by
  intro failed text c
  have hfailed : Reachable failed.catalogue := .load doubledFiles (.file "top.defs") .empty
  have hc : Reachable c := .add _ (.text doubledFiles _ _ hfailed)
  obtain ⟨hnames, -, -, -, hwarn⟩ := index_of_reachable hc
  have hcNames : c.cNames = ["a", "a", "g", "a", "g", "b"] := by decide +kernel
  have hrepeats : repeats c.cNames = ["a", "a", "g"] := by
    rw [hcNames]
    decide
  refine ⟨by decide +kernel, hc, hcNames, hnames, ?_⟩
  rw [hwarn, hrepeats]
  rfl

end Catalogue
end DefsGlue
