import DefsGlue.Catalogue.Listing
import DefsGlue.Proofs.Catalogue.Determinacy
import DefsGlue.Proofs.Catalogue.Expansion
import DefsGlue.Proofs.Catalogue.Index
import DefsGlue.Proofs.Effect
import Mathlib.Data.List.Basic

/-! How records are arranged. Where none of them is an include, the order between definitions of
different kinds shows in the index and nowhere else. -/
namespace DefsGlue

/-- Whether functions or methods are kept in the list. -/
def Shelf.isCallable : Shelf → Bool
  | functions | constructors | methods => true
  | objects | enumerations => false

namespace Definition

variable {d : Definition}

theorem shelf_of_object {o : ObjectType} (h : d.object? = some o) : d.shelf = .objects := by
  cases d <;> simp_all [object?, shelf]

theorem shelf_of_plainFunction {f : NativeFunction} (h : d.plainFunction? = some f) :
    d.shelf = .functions := by
  cases d with
  | function g =>
    have hg : g.isConstructor = false ∧ g = f := by simpa [plainFunction?] using h
    simp [shelf, hg.1]
  | _ => cases h

theorem shelf_of_constructor {f : NativeFunction} (h : d.constructor? = some f) :
    d.shelf = .constructors := by
  cases d with
  | function g =>
    have hg : g.isConstructor = true ∧ g = f := by simpa [constructor?] using h
    simp [shelf, hg.1]
  | _ => cases h

theorem shelf_of_method {m : NativeMethod} (h : d.method? = some m) : d.shelf = .methods := by
  cases d <;> simp_all [method?, shelf]

theorem shelf_of_enumeration {e : EnumType} (h : d.enumeration? = some e) :
    d.shelf = .enumerations := by
  cases d <;> simp_all [enumeration?, shelf]

end Definition

namespace Record

def isInclude (r : Record) : Bool := r.keyword?.any (·.1 == .inclusion)

/-- Whether a record, if it is a definition, can be built. -/
def builds (r : Record) : Bool :=
  match r.keyword? with
  | some (.definition kind, args) => (Definition.build kind args).toOption.isSome
  | _ => true

/-- The list that the definition of a record is added to. -/
def shelf? (r : Record) : Option Shelf := r.definition?.map Definition.shelf

def isCallable (r : Record) : Bool := r.shelf?.any Shelf.isCallable

/-- Records in another order, which is kept within each list of definitions. -/
structure Rearranges (rs rs' : List Record) : Prop where
  perm : rs.Perm rs'
  order : ∀ s : Shelf, rs.filter (·.shelf? = some s) = rs'.filter (·.shelf? = some s)

/-- Functions and methods before the objects and enumerations that their types refer to. -/
def callablesFirst (rs : List Record) : List Record :=
  rs.filter isCallable ++ rs.filter fun r => !r.isCallable

variable {r : Record} {rs rs' : List Record} {source : String}

theorem rearranges_callablesFirst (rs : List Record) : Rearranges rs (callablesFirst rs) where
  perm := (List.filter_append_perm isCallable rs).symm
  order := by
    intro s
    -- The records of one list are all on the same side.
    have hside (p : Bool → Bool) : (rs.filter fun r => p r.isCallable).filter (·.shelf? = some s) =
        rs.filter fun r => r.shelf? = some s && p s.isCallable := by
      rw [List.filter_filter]
      refine List.filter_congr fun r _ => ?_
      by_cases hr : r.shelf? = some s <;> simp [isCallable, hr]
    have hcallable := hside id
    have hother := hside not
    simp only [id] at hcallable
    rw [callablesFirst, List.filter_append, hcallable, hother]
    cases s.isCallable <;> simp

/-- A record that is no include and can be built is added, or else passed over. -/
theorem directive_of_builds (hi : r.isInclude = false) (hb : r.builds = true) (source : String) :
    Directive.ofRecord source r = (r.definition?.map .add).getD .skip := by
  cases r with
  | leaf s => rfl
  | list items =>
    cases items with
    | nil => rfl
    | cons head args =>
      cases hn : head.name? with
      | none => simp [Directive.ofRecord, definition?, keyword?, hn]
      | some name =>
        simp only [isInclude, builds, Directive.ofRecord, definition?, keyword?, hn,
          Option.map_some] at hi hb ⊢
        cases hk : Keyword.ofHead name with
        | unknown => rfl
        | inclusion => simp [hk] at hi
        | definition kind =>
          simp only [hk, Directive.ofKeyword, Directive.define] at hb ⊢
          cases hd : Definition.build kind args with
          | ok d => rfl
          | error e => simp [hd, Except.toOption] at hb

theorem included_eq_none (h : r.isInclude = false) : r.included? source = none := by
  unfold isInclude at h
  unfold included?
  split
  · next args hk => simp [hk] at h
  · rfl

/-- What is selected from one list is selected from the records whose definitions it holds. -/
theorem filterMap_shelf {α : Type} {select : Definition → Option α} {s : Shelf}
    (hs : ∀ d x, select d = some x → d.shelf = s) (rs : List Record) :
    (rs.filterMap definition?).filterMap select =
      ((rs.filter (·.shelf? = some s)).filterMap definition?).filterMap select := by
  rw [List.filterMap_filterMap, List.filterMap_filterMap, List.filterMap_filter]
  refine List.filterMap_congr fun r _ => ?_
  cases hd : r.definition? with
  | none => simp
  | some d =>
    cases hx : select d with
    | none => simp [hx]
    | some x => simp [hx, shelf?, hd, hs d x hx]

end Record

namespace Catalogue

variable {t : FileTree} {source : String} {c c' : Catalogue} {rs rs' : List Record}

/-- Records that can be built and are no includes are loaded without a failure. -/
theorem exists_loads (hi : ∀ r ∈ rs, r.isInclude = false) (hb : ∀ r ∈ rs, r.builds = true)
    (t : FileTree) (source : String) (c : Catalogue) :
    ∃ c', Loads t (.records source rs) c c' none := by
  induction rs generalizing c with
  | nil => exact ⟨c, .nil⟩
  | cons r rs ih =>
    rw [List.forall_mem_cons] at hi hb
    have hd := Record.directive_of_builds hi.1 hb.1 source
    cases hr : r.definition? with
    | none =>
      obtain ⟨c', hc'⟩ := ih hi.2 hb.2 c
      exact ⟨c', .skip (by rw [hd, hr]; rfl) hc'⟩
    | some d =>
      obtain ⟨c', hc'⟩ := ih hi.2 hb.2 (c.add d)
      exact ⟨c', .add (by rw [hd, hr]; rfl) hc'⟩

theorem expansion_of_no_include (h : ∀ r ∈ rs, r.isInclude = false) (reading : List Location) :
    Work.expansion t reading (.records source rs) = rs.map (.record source) := by
  induction rs with
  | nil => rfl
  | cons r rs ih =>
    rw [List.forall_mem_cons] at h
    rw [expansion_record (Record.included_eq_none h.1), ih h.2, List.map_cons]

theorem built_records (source : String) (rs : List Record) :
    Action.built (rs.map (.record source)) = rs.filterMap Record.definition? := by
  simp [Action.built, List.filterMap_map, Function.comp_def, Action.definition?]

/-- Each list gets the same of rearranged records. -/
theorem built_rearranged {α : Type} {select : Definition → Option α} {s : Shelf}
    (h : Record.Rearranges rs rs') (hs : ∀ d x, select d = some x → d.shelf = s)
    (source : String) : (Action.built (rs.map (.record source))).filterMap select =
      (Action.built (rs'.map (.record source))).filterMap select := by
  rw [built_records, built_records, Record.filterMap_shelf hs rs, Record.filterMap_shelf hs rs',
    h.order s]

theorem visits_records (source : String) (rs : List Record) :
    Action.visits (rs.map (.record source)) = [] := by
  simp [Action.visits, Action.visited?]

/-- Such a load adds the definitions of its records in order. -/
theorem load_extends (hi : ∀ r ∈ rs, r.isInclude = false) (hb : ∀ r ∈ rs, r.builds = true)
    (t : FileTree) (source : String) (c : Catalogue) :
    (load t (.records source rs) c rfl).failure? = none ∧
      Extends (rs.map (.record source)) c (load t (.records source rs) c rfl).catalogue := by
  obtain ⟨c', hc'⟩ := exists_loads hi hb t source c
  obtain ⟨hcat, hfail⟩ := load_of_loads hc'
  have hends := hc'.ends
  rw [expansion_of_no_include hi] at hends
  rw [hcat]
  cases hends with
  | done hd => exact ⟨hfail, performAll_extends hd⟩

/-- Catalogues that differ in their index and their warnings at most. Whatever is made from them is
the same. -/
structure Interchangeable (c c' : Catalogue) : Prop extends SameDefinitions c c' where
  cNames : c.cNames.Perm c'.cNames
  bundle : ∀ {σ : Type} [Strategies σ] (r : Registry σ) (object? : Option String),
    Bundle.generate c (r.addCatalogue c) object? = Bundle.generate c' (r.addCatalogue c') object?
  listing : ∀ object? : Option String, c.listing object? = c'.listing object?

theorem SameDefinitions.generate_eq {σ : Type} [Strategies σ] (h : SameDefinitions c c')
    (hs : c.sources = c'.sources) (r : Registry σ) (object? : Option String) :
    Bundle.generate c (r.addCatalogue c) object? =
      Bundle.generate c' (r.addCatalogue c') object? := by
  obtain ⟨ho, hf, hk, hm, he⟩ := h
  cases c
  cases c'
  dsimp only at ho hf hk hm he hs
  subst ho hf hk hm he hs
  rfl

theorem SameDefinitions.listing_eq (h : SameDefinitions c c') (object? : Option String) :
    c.listing object? = c'.listing object? := by
  obtain ⟨ho, hf, hk, hm, he⟩ := h
  cases c
  cases c'
  dsimp only at ho hf hk hm he
  subst ho hf hk hm he
  rfl

/-- What rearranged records add to a catalogue. -/
theorem Extends.interchangeable {c₁ c₂ : Catalogue} (h : Record.Rearranges rs rs')
    (h₁ : Extends (rs.map (.record source)) c c₁) (h₂ : Extends (rs'.map (.record source)) c c₂) :
    Interchangeable c₁ c₂ := by
  have hsame : SameDefinitions c₁ c₂ := by
    constructor
    · rw [h₁.objects, h₂.objects, built_rearranged h fun _ _ => Definition.shelf_of_object]
    · rw [h₁.functions, h₂.functions,
        built_rearranged h fun _ _ => Definition.shelf_of_plainFunction]
    · rw [h₁.constructors, h₂.constructors,
        built_rearranged h fun _ _ => Definition.shelf_of_constructor]
    · rw [h₁.methods, h₂.methods, built_rearranged h fun _ _ => Definition.shelf_of_method]
    · rw [h₁.enumerations, h₂.enumerations,
        built_rearranged h fun _ _ => Definition.shelf_of_enumeration]
  have hsources : c₁.sources = c₂.sources := by
    rw [h₁.sources, h₂.sources, visits_records, visits_records]
  refine ⟨hsame, ?_, hsame.generate_eq hsources, hsame.listing_eq⟩
  rw [h₁.cNames, h₂.cNames, built_records, built_records]
  exact ((h.perm.filterMap _).map _).append_left c.cNames

/-- Where no record is an include and each can be built, the order between the kinds does not
matter: the same definitions are kept, the same names are indexed, and the same fragments and
listings are made. So callables may come before the types they refer to. -/
theorem rearranged_interchangeable (hi : ∀ r ∈ rs, r.isInclude = false)
    (hb : ∀ r ∈ rs, r.builds = true) (t : FileTree) (source : String) (c : Catalogue) :
    let loaded := fun rs => load t (.records source rs) c rfl
    (∀ rs', Record.Rearranges rs rs' →
      (loaded rs).failure? = none ∧ (loaded rs').failure? = none ∧
        Interchangeable (loaded rs).catalogue (loaded rs').catalogue) ∧
    Interchangeable (loaded rs).catalogue (loaded (Record.callablesFirst rs)).catalogue := by
  intro loaded
  have hall : ∀ rs', Record.Rearranges rs rs' →
      (loaded rs).failure? = none ∧ (loaded rs').failure? = none ∧
        Interchangeable (loaded rs).catalogue (loaded rs').catalogue := by
    intro rs' h
    obtain ⟨hfail, hextends⟩ := load_extends hi hb t source c
    obtain ⟨hfail', hextends'⟩ := load_extends (fun r hr => hi r (h.perm.mem_iff.mpr hr))
      (fun r hr => hb r (h.perm.mem_iff.mpr hr)) t source c
    exact ⟨hfail, hfail', hextends.interchangeable h hextends'⟩
  exact ⟨hall, (hall _ (Record.rearranges_callablesFirst rs)).2.2⟩

/-- A record of words alone. -/
def phrase (words : List String) : Record := .list (words.map fun w => .leaf (.atom w))

def entry (keyword name : String) (attributes : List (List String)) : Record :=
  .list (.leaf (.atom keyword) :: .leaf (.atom name) :: attributes.map phrase)

def menuObject (cName : String) : Record := entry "object" "Menu" [["c-name", cName]]

def sideEnum : Record := entry "enum" "Side" [["c-name", "menu_new"]]

def menuConstructor : Record :=
  entry "function" "menu_new" [["is-constructor-of", "GtkMenu"], ["return-type", "GtkMenu*"]]

def menuMethod : Record :=
  entry "method" "side" [["of-object", "Menu"], ["return-type", "menu_new"]]

def menuRecords : List Record :=
  [menuObject "GtkMenu", menuObject "GdkMenu", sideEnum, entry "later" "x" [],
    entry "function" "quit" [], menuConstructor, menuMethod]

/-- The same with both objects in their order, but late, and the enumeration last. -/
def menuRecordsMixed : List Record :=
  [menuMethod, menuObject "GtkMenu", entry "later" "x" [], menuConstructor, menuObject "GdkMenu",
    entry "function" "quit" [], sideEnum]

/-- The indexes differ and the bundles do not, with the types before the callables or after. -/
theorem rearranged_interchangeable_menu :
    let loaded := fun rs => (load ⟨[], []⟩ (.records "menu.defs" rs) empty rfl).catalogue
    let c := loaded menuRecords
    let c' := loaded menuRecordsMixed
    (∀ r ∈ menuRecords, r.isInclude = false) ∧ (∀ r ∈ menuRecords, r.builds = true) ∧
    Record.Rearranges menuRecords menuRecordsMixed ∧
    c.cNames = ["GtkMenu", "GdkMenu", "menu_new", "quit", "menu_new", "side"] ∧
    c'.cNames = ["side", "GtkMenu", "menu_new", "GdkMenu", "quit", "menu_new"] ∧
    (∃ b, (Bundle.generate c (Registry.builtin.addCatalogue c) (some "Menu")).2 = .ok b ∧
      b.callables.map Fragment.cName = ["menu_new", "side"] ∧
      (Bundle.generate c' (Registry.builtin.addCatalogue c') (some "Menu")).2 = .ok b) ∧
    c'.listing (some "GdkMenu") = .ok "  GdkMenu, new menu_new, 1 method(s)\n    side\n" ∧
    c'.listing none = c.listing none ∧
    Interchangeable c (loaded (Record.callablesFirst menuRecords)) := by
  intro loaded c c'
  have hi : ∀ r ∈ menuRecords, r.isInclude = false := by decide +kernel
  have hb : ∀ r ∈ menuRecords, r.builds = true := by decide +kernel
  have hrearranges : Record.Rearranges menuRecords menuRecordsMixed :=
    ⟨by decide +kernel, by intro s; cases s <;> decide +kernel⟩
  obtain ⟨hall, hfirst⟩ := rearranged_interchangeable hi hb ⟨[], []⟩ "menu.defs" empty
  obtain ⟨-, -, h⟩ := hall menuRecordsMixed hrearranges
  have hmade : (fun b => b.callables.map Fragment.cName) <$>
      (Bundle.generate c (Registry.builtin.addCatalogue c) (some "Menu")).2 =
        .ok ["menu_new", "side"] := by decide +kernel
  obtain ⟨b, hbundle, hnames⟩ := exists_of_map_ok hmade
  have hbundle' := congrArg Prod.snd (h.bundle Registry.builtin (some "Menu"))
  refine ⟨hi, hb, hrearranges, by decide +kernel, by decide +kernel,
    ⟨b, hbundle, hnames, hbundle'.symm.trans hbundle⟩, ?_, (h.listing none).symm, hfirst⟩
  decide +kernel

end Catalogue
end DefsGlue
