import DefsGlue.Proofs.Definition.Malformed

/-! The order of attributes. A definition is read key by key, so only the order among attributes of
one key can matter, after the name as well as inside an attribute that becomes a member. -/
namespace DefsGlue

namespace Record

/-- The same records in another order, in which those of each key keep theirs. -/
structure Reordered (rs rs' : List Record) : Prop where
  perm : rs.Perm rs'
  keyed : ∀ key, keyed key rs = Record.keyed key rs'

/-- The keys of attributes that hold attributes of their own. -/
def nestedKeys : List String := ["parameter", "field", "value"]

/-- An attribute before and after what it holds is reordered. -/
inductive Rearranged : Record → Record → Prop
  | same (r : Record) : Rearranged r r
  | inside {first : Record} {key : String} {inner inner' : List Record} :
      first.name? = some key → key ∈ nestedKeys → Reordered inner inner' →
      Rearranged (.list (first :: inner)) (.list (first :: inner'))

variable {a b r r' : Record} {rs rs' : List Record}

theorem reordered_swap (h : a.head? ≠ b.head?) (before after : List Record) :
    Reordered (before ++ a :: b :: after) (before ++ b :: a :: after) where
  perm := (List.Perm.swap b a after).append_left before
  keyed := by
    -- At most one of the two has the key, so the filter does not see them change places.
    intro key
    by_cases ha : a.head? = some key
    · have hb : b.head? ≠ some key := fun hb => h (ha.trans hb.symm)
      simp [Record.keyed, ha, hb]
    · simp [Record.keyed, List.filter_cons, ha]

theorem Rearranged.head_eq (h : Rearranged r r') : r.head? = r'.head? := by
  cases h <;> rfl

end Record

namespace Attribute

open Record

/-- What the attributes of one key hold, where it is told apart at most by the order of keys. -/
def Agree (key : String) (vs vs' : List Record) : Prop :=
  vs = vs' ∨ key ∈ nestedKeys ∧ ∀ k, keyed k vs = keyed k vs'

/-- Attributes that no reader tells apart. -/
def ReadAlike (as as' : List Attribute) : Prop :=
  ∀ key, List.Forall₂ (Agree key) (all key as) (all key as')

variable {rs rs' : List Record} {as as' : List Attribute} {key : String}

theorem readAlike_of_reordered (h : Reordered rs rs') :
    ReadAlike (ofRecords rs) (ofRecords rs') := by
  intro key
  rw [all_ofRecords, all_ofRecords, h.keyed]
  exact List.forall₂_same.mpr fun _ _ => .inl rfl

theorem readAlike_of_rearranged (h : List.Forall₂ Rearranged rs rs') :
    ReadAlike (ofRecords rs) (ofRecords rs') := by
  intro key
  rw [all_ofRecords, all_ofRecords]
  induction h with
  | nil => exact .nil
  | @cons r r' rs rs' hr _ ih =>
    have hhead := hr.head_eq
    by_cases hk : r.head? = some key
    · have hk' : r'.head? = some key := hhead ▸ hk
      have hagree : Agree key r.body r'.body := by
        cases hr with
        | same => exact .inl rfl
        | inside hname hkey hinner =>
          obtain rfl := Option.some.inj (hname.symm.trans hk)
          exact .inr ⟨hkey, hinner.keyed⟩
      rw [keyed_cons_of_head hk, keyed_cons_of_head hk']
      exact .cons hagree ih
    · have hk' : r'.head? ≠ some key := hhead ▸ hk
      rw [keyed_cons_of_not_head hk, keyed_cons_of_not_head hk']
      exact ih

theorem ReadAlike.all_eq (h : ReadAlike as as') (hkey : key ∉ nestedKeys) :
    all key as = all key as' := by
  rw [← List.forall₂_eq_eq_eq]
  refine (h key).imp fun vs vs' hvs => ?_
  rcases hvs with rfl | ⟨hmem, -⟩
  · rfl
  · exact (hkey hmem).elim

end Attribute

namespace Build

open Attribute Record

variable {α : Type} {kind : DefinitionKind} {read : List Record → Option α}
  {as as' : List Attribute} {vs vs' : List Record}

theorem readAll_alike (kind : DefinitionKind) (name key : String) (h : ReadAlike as as')
    (hread : ∀ vs vs', (∀ k, keyed k vs = keyed k vs') → read vs = read vs') :
    readAll kind name key read as = readAll kind name key read as' := by
  have hmap : (all key as).mapM read = (all key as').mapM read := by
    have hall := h key
    generalize all key as = xs at hall ⊢
    generalize all key as' = xs' at hall ⊢
    induction hall with
    | nil => rfl
    | @cons vs vs' _ _ hvs _ ih =>
      have hvs' : read vs = read vs' := by
        rcases hvs with rfl | ⟨-, hkeyed⟩
        · rfl
        · exact hread vs vs' hkeyed
      rw [List.mapM_cons, List.mapM_cons, hvs', ih]
  rw [readAll, readAll, hmap]

section Readers

variable (h : ∀ k, keyed k vs = keyed k vs')
include h

theorem field?_alike : field? vs = field? vs' := by
  simp only [field?, typedName?, first?, all_ofRecords, h]

theorem parameter?_alike : parameter? vs = parameter? vs' := by
  simp only [parameter?, typedName?, first?, lastText?, last?, has, all_ofRecords, h]

theorem enumMember?_alike : enumMember? vs = enumMember? vs' := by
  simp only [enumMember?, lastText?, last?, all_ofRecords, h]

end Readers

section Kinds

variable {rest rest' : List Record} (h : ReadAlike (ofRecords rest) (ofRecords rest'))

theorem heading_alike {build : String × List Attribute → Except BuildFault α}
    (hb : ∀ name, build (name, ofRecords rest) = build (name, ofRecords rest')) (first : Record) :
    heading kind (first :: rest) >>= build = heading kind (first :: rest') >>= build := by
  cases hname : first.spelling? with
  | none => simp [heading, hname]
  | some name =>
    simp only [heading, hname]
    exact hb name

include h

theorem object_alike (first : Record) : object (first :: rest) = object (first :: rest') := by
  apply heading_alike
  intro name
  have hfields := readAll_alike .object name "field" h fun _ _ => field?_alike
  simp only [hfields, lastText?, last?, lastGivenText?,
    h.all_eq (show "in-module" ∉ nestedKeys by decide),
    h.all_eq (show "parent" ∉ nestedKeys by decide),
    h.all_eq (show "c-name" ∉ nestedKeys by decide)]

theorem callable_alike (kind : DefinitionKind) (name : String) :
    callable kind name (ofRecords rest) = callable kind name (ofRecords rest') := by
  have hparameters := readAll_alike kind name "parameter" h fun _ _ => parameter?_alike
  simp only [callable, hparameters, lastText?, last?, has,
    h.all_eq (show "c-name" ∉ nestedKeys by decide),
    h.all_eq (show "return-type" ∉ nestedKeys by decide),
    h.all_eq (show "varargs" ∉ nestedKeys by decide)]

theorem function_alike (first : Record) :
    Build.function (first :: rest) = Build.function (first :: rest') := by
  apply heading_alike
  intro name
  simp only [callable_alike h, first?, h.all_eq (show "is-constructor-of" ∉ nestedKeys by decide)]

theorem method_alike (first : Record) : method (first :: rest) = method (first :: rest') := by
  apply heading_alike
  intro name
  simp only [callable_alike h, first?, h.all_eq (show "of-object" ∉ nestedKeys by decide)]

theorem enumeration_alike (form : EnumForm) (first : Record) :
    enumeration form (first :: rest) = enumeration form (first :: rest') := by
  apply heading_alike
  intro name
  have hvalues := readAll_alike (.enumeration form) name "value" h fun _ _ => enumMember?_alike
  simp only [hvalues, lastText?, last?, lastGivenText?,
    h.all_eq (show "in-module" ∉ nestedKeys by decide),
    h.all_eq (show "c-name" ∉ nestedKeys by decide)]

end Kinds

end Build

namespace Definition

open Record

/-- What is built depends on the attributes only by what readers see of them. -/
theorem build_alike {rest rest' : List Record}
    (h : Attribute.ReadAlike (Attribute.ofRecords rest) (Attribute.ofRecords rest'))
    (kind : DefinitionKind) (first : Record) :
    build kind (first :: rest) = build kind (first :: rest') := by
  cases kind with
  | object => simp only [build, Build.object_alike h]
  | function => simp only [build, Build.function_alike h]
  | method => simp only [build, Build.method_alike h]
  | enumeration form => simp only [build, Build.enumeration_alike h]

theorem build_reordered {rest rest' : List Record} (h : Reordered rest rest')
    (kind : DefinitionKind) (first : Record) :
    build kind (first :: rest) = build kind (first :: rest') :=
  build_alike (Attribute.readAlike_of_reordered h) kind first

theorem build_rearranged {rest rest' : List Record} (h : List.Forall₂ Rearranged rest rest')
    (kind : DefinitionKind) (first : Record) :
    build kind (first :: rest) = build kind (first :: rest') :=
  build_alike (Attribute.readAlike_of_rearranged h) kind first

/-- Neighbours that begin with different keys can change places, after the name of a definition and
inside an attribute that holds others. So a definition and its faults stay the same when what stands
after the name is put into any order, and what stands in such attributes too, as long as attributes
of one key keep theirs. -/
theorem build_order (kind : DefinitionKind) (name : Record) :
    (∀ before a b after, a.head? ≠ b.head? →
      build kind (name :: (before ++ a :: b :: after)) =
        build kind (name :: (before ++ b :: a :: after))) ∧
    (∀ before first key inner a b inner' after, first.name? = some key → key ∈ nestedKeys →
      a.head? ≠ b.head? →
      build kind (name :: (before ++ .list (first :: (inner ++ a :: b :: inner')) :: after)) =
        build kind (name :: (before ++ .list (first :: (inner ++ b :: a :: inner')) :: after))) ∧
    ∀ rest between rest', Reordered rest between → List.Forall₂ Rearranged between rest' →
      build kind (name :: rest) = build kind (name :: rest') := by
  refine ⟨?_, ?_, ?_⟩
  · intro before a b after h
    exact build_reordered (reordered_swap h before after) kind name
  · intro before first key inner a b inner' after hfirst hkey h
    have hinner := Rearranged.inside hfirst hkey (reordered_swap h inner inner')
    have hsame : ∀ rs, List.Forall₂ Rearranged rs rs :=
      fun rs => List.forall₂_same.mpr fun r _ => .same r
    apply build_rearranged
    exact List.rel_append (hsame before) (.cons hinner (hsame after))
  · intro rest between rest' h h'
    exact (build_reordered h kind name).trans (build_rearranged h' kind name)

/-- The attributes of a method, where the last native name is no scalar and hides the one before. -/
def methodAttributes : List Record := [
  .list [.leaf (.atom "of-object"), .leaf (.atom "A")],
  .list [.leaf (.atom "parameter"), .list [.leaf (.atom "default"), .leaf (.atom "x")],
    .list [.leaf (.atom "type-and-name"), .leaf (.atom "int"), .leaf (.atom "n")]],
  .list [.leaf (.atom "c-name"), .leaf (.atom "a_m")],
  .list [.leaf (.atom "c-name"), .list []]]

/-- The same attributes turned round, except that the native names keep their order. -/
def methodAttributesTurned : List Record := [
  .list [.leaf (.atom "c-name"), .leaf (.atom "a_m")],
  .list [.leaf (.atom "c-name"), .list []],
  .list [.leaf (.atom "parameter"), .list [.leaf (.atom "default"), .leaf (.atom "x")],
    .list [.leaf (.atom "type-and-name"), .leaf (.atom "int"), .leaf (.atom "n")]],
  .list [.leaf (.atom "of-object"), .leaf (.atom "A")]]

theorem methodAttributes_reordered : Reordered methodAttributes methodAttributesTurned where
  perm := by decide
  keyed := by
    intro key
    by_cases hknown : key ∈ ["of-object", "parameter", "c-name"]
    · simp only [List.mem_cons, List.not_mem_nil, or_false] at hknown
      rcases hknown with rfl | rfl | rfl <;> decide
    · simp only [List.mem_cons, List.not_mem_nil, or_false, not_or] at hknown
      obtain ⟨howner, hparameter, hname⟩ := hknown
      simp [Record.keyed, methodAttributes, methodAttributesTurned, head?, name?, scalar?,
        Scalar.name?, Ne.symm howner, Ne.symm hparameter, Ne.symm hname]

/-- Turned round, and with what the parameter holds turned round as well, the attributes still make
the method that goes by its plain name. -/
theorem build_order_method :
    let first : Record := .leaf (.atom "m")
    let parameter : Record := .leaf (.atom "parameter")
    let default : Record := .list [.leaf (.atom "default"), .leaf (.atom "x")]
    let typed : Record :=
      .list [.leaf (.atom "type-and-name"), .leaf (.atom "int"), .leaf (.atom "n")]
    build .method (first :: methodAttributes) = .ok (.method
      ⟨⟨"m", "m", none, [⟨"int", "n", some "x", false⟩], false⟩, ⟨"A", none⟩⟩) ∧
    Reordered methodAttributes methodAttributesTurned ∧
    build .method (first :: methodAttributes) = build .method (first :: methodAttributesTurned) ∧
    default.head? ≠ typed.head? ∧
    build .method [first, .list [parameter, default, typed]] =
      build .method [first, .list [parameter, typed, default]] ∧
    (Record.list [parameter]).head? ≠ default.head? ∧
    build .function [first, .list [parameter], default] =
      build .function [first, default, .list [parameter]] := by
  intro first parameter default typed
  obtain ⟨hswap, -, -⟩ := build_order .function first
  obtain ⟨-, hinside, hall⟩ := build_order .method first
  have hsame : List.Forall₂ Rearranged methodAttributesTurned methodAttributesTurned :=
    List.forall₂_same.mpr fun r _ => .same r
  have hparts : default.head? ≠ typed.head? := by decide
  have hneighbours : (Record.list [parameter]).head? ≠ default.head? := by decide
  exact ⟨rfl, methodAttributes_reordered, hall _ _ _ methodAttributes_reordered hsame, hparts,
    hinside [] parameter "parameter" [] default typed [] [] rfl (by decide) hparts, hneighbours,
    hswap [] _ _ [] hneighbours⟩

end Definition

end DefsGlue
