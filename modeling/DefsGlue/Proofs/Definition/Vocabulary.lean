import DefsGlue.Definition.Build
import DefsGlue.Definition.Keyword
import Mathlib.Data.List.Basic

/-! The words that definition files are made of: the keywords of top-level records, and the keys
that each kind of definition knows. Whatever else stands among the attributes is passed over, since
every reader looks only at the attributes of keys it knows. -/
namespace DefsGlue

namespace Keyword

variable {head keyword : String}

def words : List String := ["object", "function", "method", "enum", "flags", "include"]

/-- No other head is taken for a word without underscores. -/
theorem eq_of_key_eq (h : key head = keyword) (hk : '_' ∉ keyword.toList) : head = keyword := by
  have hmap : head.toList.map (fun c => if isKeyChar c then c else '_') = keyword.toList := by
    rw [← h, key, String.toList_ofList]
  -- A character that is replaced would leave an underscore in the keyword.
  have hkept : ∀ c ∈ head.toList, (if isKeyChar c then c else '_') = c := by
    intro c hc
    split
    · rfl
    · next hno =>
      have hmem := List.mem_map_of_mem (f := fun c => if isKeyChar c then c else '_') hc
      rw [hmap, if_neg hno] at hmem
      exact (hk hmem).elim
  apply String.toList_injective
  rw [← hmap, List.map_congr_left hkept, List.map_id']

theorem ofHead_of_not_mem (h : head ∉ words) : ofHead head = unknown := by
  have hplain : ∀ word ∈ words, '_' ∉ word.toList := by decide
  have hkey : key head ∉ words := by
    intro hw
    have hhead := eq_of_key_eq rfl (hplain _ hw)
    exact h (hhead ▸ hw)
  unfold ofHead
  split <;> simp_all [words]

end Keyword

/-- Whether a record is a list that begins with one of the names. -/
def Record.isHeaded (names : List String) (r : Record) : Bool := r.head?.any (· ∈ names)

namespace DefinitionKind

/-- The keys of functions and methods alike. -/
def callableKeys : List (String × Option (List String)) :=
  [("c-name", none), ("return-type", none), ("varargs", none),
    ("parameter", some ["type-and-name", "default", "null-ok"])]

/-- The keys that a kind knows. An attribute that holds attributes of its own comes with the keys
that are known inside it. -/
def keys : DefinitionKind → List (String × Option (List String))
  | object => [("in-module", none), ("parent", none), ("c-name", none),
      ("field", some ["type-and-name"])]
  | function => ("is-constructor-of", none) :: callableKeys
  | method => ("of-object", none) :: callableKeys
  | enumeration _ => [("in-module", none), ("c-name", none), ("value", some ["name", "c-name"])]

/-- The attributes that a kind knows, among what stands after the name. -/
def known (kind : DefinitionKind) (rest : List Record) : List Record :=
  rest.filter (Record.isHeaded (kind.keys.map Prod.fst))

/-- The values of an attribute, without what is not known inside it. -/
def knownValues (kind : DefinitionKind) (key : String) (values : List Record) : List Record :=
  match kind.keys.lookup key with
  | some (some names) => values.filter (Record.isHeaded names)
  | _ => values

/-- An attribute without what is not known inside it. -/
def knownInside (kind : DefinitionKind) : Record → Record
  | .list (first :: values) =>
    match first.name? with
    | some key => .list (first :: kind.knownValues key values)
    | none => .list (first :: values)
  | r => r

/-- What stands after a keyword, without what the kind does not know after the name. -/
def prune (kind : DefinitionKind) : List Record → List Record
  | [] => []
  | name :: rest => name :: kind.known rest

/-- What stands after a keyword, without what the kind does not know after the name and inside the
attributes. -/
def pruneAll (kind : DefinitionKind) : List Record → List Record
  | [] => []
  | name :: rest => name :: (kind.known rest).map kind.knownInside

theorem pruneAll_prune (kind : DefinitionKind) (args : List Record) :
    kind.pruneAll (kind.prune args) = kind.pruneAll args := by
  cases args with
  | nil => rfl
  | cons name rest => simp [prune, pruneAll, known]

end DefinitionKind

namespace Attribute

variable {kind : DefinitionKind} {name : String} {names : List String}

theorem head?_eq_key (r : Record) : r.head? = (ofRecord? r).map key := by
  cases r with
  | leaf s => rfl
  | list items =>
    cases items with
    | nil => rfl
    | cons first values => cases h : first.name? <;> simp [Record.head?, ofRecord?, h]

theorem ofRecords_filter (names : List String) (rs : List Record) :
    ofRecords (rs.filter (Record.isHeaded names)) = (ofRecords rs).filter (·.key ∈ names) := by
  rw [ofRecords, ofRecords, List.filterMap_filter, List.filter_filterMap]
  refine List.filterMap_congr fun r _ => ?_
  cases h : ofRecord? r <;> simp [Record.isHeaded, head?_eq_key, h, Option.filter]

/-- Without records of other keys, the attributes of a key are the same. -/
theorem all_filter (h : name ∈ names) (rs : List Record) :
    all name (ofRecords (rs.filter (Record.isHeaded names))) = all name (ofRecords rs) := by
  rw [ofRecords_filter, all, all, List.filter_filter]
  congr 1
  refine List.filter_congr fun a _ => ?_
  by_cases ha : a.key = name <;> simp [ha, h]

theorem ofRecord?_knownInside (kind : DefinitionKind) (r : Record) :
    ofRecord? (kind.knownInside r) =
      (ofRecord? r).map fun a => ⟨a.key, kind.knownValues a.key a.values⟩ := by
  cases r with
  | leaf s => rfl
  | list items =>
    cases items with
    | nil => rfl
    | cons first values =>
      cases h : first.name? <;> simp [DefinitionKind.knownInside, ofRecord?, h]

theorem all_knownInside (kind : DefinitionKind) (name : String) (rs : List Record) :
    all name (ofRecords (rs.map kind.knownInside)) =
      (all name (ofRecords rs)).map (kind.knownValues name) := by
  induction rs with
  | nil => rfl
  | cons r rs ih =>
    cases h : ofRecord? r with
    | none => simpa [ofRecords, ofRecord?_knownInside, h] using ih
    | some a =>
      by_cases ha : a.key = name
      · simpa [ofRecords, ofRecord?_knownInside, h, all, ha] using ih
      · simpa [ofRecords, ofRecord?_knownInside, h, all, ha] using ih

theorem mem_keys_of_lookup {inner? : Option (List String)}
    (h : kind.keys.lookup name = some inner?) : name ∈ kind.keys.map Prod.fst := by
  obtain ⟨before, after, hkeys, -⟩ := List.lookup_eq_some_iff.mp h
  simp [hkeys]

theorem all_pruned (h : kind.keys.lookup name = some none) (rest : List Record) :
    all name (ofRecords ((kind.known rest).map kind.knownInside)) = all name (ofRecords rest) := by
  have hplain : kind.knownValues name = id := by
    funext values
    simp [DefinitionKind.knownValues, h]
  rw [all_knownInside, hplain, List.map_id, DefinitionKind.known, all_filter (mem_keys_of_lookup h)]

theorem all_pruned_inner (h : kind.keys.lookup name = some (some names)) (rest : List Record) :
    all name (ofRecords ((kind.known rest).map kind.knownInside)) =
      (all name (ofRecords rest)).map (List.filter (Record.isHeaded names)) := by
  have hinner : kind.knownValues name = List.filter (Record.isHeaded names) := by
    funext values
    simp [DefinitionKind.knownValues, h]
  rw [all_knownInside, hinner, DefinitionKind.known, all_filter (mem_keys_of_lookup h)]

end Attribute

namespace Build

open Attribute

variable {kind : DefinitionKind} {key : String} {names : List String}

theorem typedName?_filter (h : "type-and-name" ∈ names) (values : List Record) :
    typedName? (values.filter (Record.isHeaded names)) = typedName? values := by
  simp only [typedName?, first?, all_filter h]

theorem field?_filter (values : List Record) :
    field? (values.filter (Record.isHeaded ["type-and-name"])) = field? values := by
  simp only [field?, typedName?_filter (List.mem_singleton_self _)]

theorem parameter?_filter (values : List Record) :
    parameter? (values.filter (Record.isHeaded ["type-and-name", "default", "null-ok"])) =
      parameter? values := by
  have hdefault := all_filter (show "default" ∈ ["type-and-name", "default", "null-ok"] by simp)
  have hnull := all_filter (show "null-ok" ∈ ["type-and-name", "default", "null-ok"] by simp)
  simp only [parameter?, typedName?_filter List.mem_cons_self, lastText?, last?, has, hdefault,
    hnull]

theorem enumMember?_filter (values : List Record) :
    enumMember? (values.filter (Record.isHeaded ["name", "c-name"])) = enumMember? values := by
  have hname := all_filter (show "name" ∈ ["name", "c-name"] by simp)
  have hcName := all_filter (show "c-name" ∈ ["name", "c-name"] by simp)
  simp only [enumMember?, lastText?, last?, hname, hcName]

/-- A reader that looks at known keys reads the same when only they are left. -/
theorem readAll_pruned {α : Type} {read : List Record → Option α}
    (h : kind.keys.lookup key = some (some names))
    (hread : ∀ values, read (values.filter (Record.isHeaded names)) = read values) (name : String)
    (rest : List Record) :
    readAll kind name key read (ofRecords ((kind.known rest).map kind.knownInside)) =
      readAll kind name key read (ofRecords rest) := by
  have hcomp : read ∘ List.filter (Record.isHeaded names) = read := funext hread
  simp only [readAll, all_pruned_inner h, List.mapM_map, hcomp]

/-- What goes on from the name and the attributes goes on from the known ones. -/
theorem heading_pruneAll {α : Type} {build : String × List Attribute → Except BuildFault α}
    (h : ∀ name rest, build (name, ofRecords ((kind.known rest).map kind.knownInside)) =
      build (name, ofRecords rest)) (args : List Record) :
    heading kind (kind.pruneAll args) >>= build = heading kind args >>= build := by
  cases args with
  | nil => rfl
  | cons first rest =>
    cases hname : first.spelling? with
    | none => simp [heading, DefinitionKind.pruneAll, hname]
    | some name =>
      simp only [heading, DefinitionKind.pruneAll, hname]
      exact h name rest

theorem object_pruneAll (args : List Record) :
    object (DefinitionKind.object.pruneAll args) = object args := by
  apply heading_pruneAll
  intro name rest
  have hplain := fun key (h : DefinitionKind.object.keys.lookup key = some none) =>
    all_pruned h rest
  have hfields := readAll_pruned (show DefinitionKind.object.keys.lookup "field" = _ from rfl)
    field?_filter name rest
  simp only [hfields, lastText?, last?, lastGivenText?, hplain "in-module" rfl,
    hplain "parent" rfl, hplain "c-name" rfl]

/-- Functions and methods read the keys they share alike. -/
theorem callable_pruned (h : kind = .function ∨ kind = .method) (name : String)
    (rest : List Record) :
    callable kind name (ofRecords ((kind.known rest).map kind.knownInside)) =
      callable kind name (ofRecords rest) := by
  have hplain : ∀ key ∈ ["c-name", "return-type", "varargs"], kind.keys.lookup key = some none := by
    rcases h with rfl | rfl <;> decide
  have hparameter : kind.keys.lookup "parameter" =
      some (some ["type-and-name", "default", "null-ok"]) := by
    rcases h with rfl | rfl <;> rfl
  simp only [callable, readAll_pruned hparameter parameter?_filter, lastText?, last?, has,
    all_pruned (hplain "c-name" (by simp)), all_pruned (hplain "return-type" (by simp)),
    all_pruned (hplain "varargs" (by simp))]

theorem function_pruneAll (args : List Record) :
    function (DefinitionKind.function.pruneAll args) = function args := by
  apply heading_pruneAll
  intro name rest
  have hmark := all_pruned
    (show DefinitionKind.function.keys.lookup "is-constructor-of" = some none from rfl) rest
  simp only [callable_pruned (.inl rfl), first?, hmark]

theorem method_pruneAll (args : List Record) :
    method (DefinitionKind.method.pruneAll args) = method args := by
  apply heading_pruneAll
  intro name rest
  have howner := all_pruned
    (show DefinitionKind.method.keys.lookup "of-object" = some none from rfl) rest
  simp only [callable_pruned (.inr rfl), first?, howner]

theorem enumeration_pruneAll (form : EnumForm) (args : List Record) :
    enumeration form ((DefinitionKind.enumeration form).pruneAll args) = enumeration form args := by
  apply heading_pruneAll
  intro name rest
  have hplain := fun key (h : (DefinitionKind.enumeration form).keys.lookup key = some none) =>
    all_pruned h rest
  have hvalues := readAll_pruned
    (show (DefinitionKind.enumeration form).keys.lookup "value" = _ from rfl) enumMember?_filter
    name rest
  simp only [hvalues, lastText?, last?, lastGivenText?, hplain "in-module" rfl,
    hplain "c-name" rfl]

end Build

/-- What a kind does not know, after the name or inside the attributes, neither adds to a definition
nor makes it fail. -/
theorem Definition.build_pruneAll (kind : DefinitionKind) (args : List Record) :
    build kind (kind.pruneAll args) = build kind args := by
  cases kind with
  | object => simp only [build, Build.object_pruneAll]
  | function => simp only [build, Build.function_pruneAll]
  | method => simp only [build, Build.method_pruneAll]
  | enumeration form => simp only [build, Build.enumeration_pruneAll]

theorem Definition.build_prune (kind : DefinitionKind) (args : List Record) :
    build kind (kind.prune args) = build kind args := by
  rw [← build_pruneAll kind (kind.prune args), DefinitionKind.pruneAll_prune, build_pruneAll]

end DefsGlue
