import DefsGlue.Proofs.Catalogue.Cycle
import DefsGlue.Proofs.Catalogue.Expansion
import DefsGlue.Proofs.Effect

/-! What a call leaves behind, also when it fails. Nothing that was registered is lost, every file
that was opened is left again, and a source that gives no records of its own changes nothing. -/
namespace DefsGlue.Catalogue

/-- A catalogue that is as another was, with more at the end of its lists. -/
structure Grows (c c' : Catalogue) : Prop where
  objects : c.objects <+: c'.objects
  functions : c.functions <+: c'.functions
  constructors : c.constructors <+: c'.constructors
  methods : c.methods <+: c'.methods
  enumerations : c.enumerations <+: c'.enumerations
  cNames : c.cNames <+: c'.cNames
  sources : c.sources <+: c'.sources

variable {t : FileTree} {path : String} {c c' : Catalogue} {w : Work} {f : Failure}
  {f? : Option Failure} {reading : List Location} {actions : List Action}

theorem Grows.refl (c : Catalogue) : Grows c c := by
  constructor <;> exact List.prefix_rfl

theorem Extends.grows (h : Extends actions c c') : Grows c c' where
  objects := ⟨_, h.objects.symm⟩
  functions := ⟨_, h.functions.symm⟩
  constructors := ⟨_, h.constructors.symm⟩
  methods := ⟨_, h.methods.symm⟩
  enumerations := ⟨_, h.enumerations.symm⟩
  cNames := ⟨_, h.cNames.symm⟩
  sources := ⟨_, h.sources.symm⟩

/-- What a load leaves is what the actions before its failure contribute. -/
theorem Loads.grows (h : Loads t w c c' f?) : Grows c c' := by
  have hends := h.ends
  cases hends with
  | done hd => exact (performAll_extends hd).grows
  | failed _ hb _ => exact ((performAll_extends hb).withIncluding _).grows

/-- While no file is being read, only a file that includes itself is refused as a cycle. -/
theorem Loads.cyclic {p : String} (h : Loads t (.file path) c c' (some (.includeCycle p)))
    (hc : c.including = []) : t.Cyclic path := by
  have hcl := h.closes rfl
  rw [hc] at hcl
  rcases hcl with ⟨_, _, _, _, _, hs⟩ | ⟨p, rfl, hcyc⟩
  · cases hs
  · exact hcyc

/-- A source to load: a file, or a text that does not stand in the file it is named for. -/
inductive Call where
  | file (path : String)
  | text (content source : String)

namespace Call

def load (t : FileTree) (c : Catalogue) : Call → Outcome c.including
  | .file path => loadFile t path c
  | .text content source => loadText t content source c

/-- Whether a path leads to a file that is being read. -/
def BeingRead (t : FileTree) (reading : List Location) (path : String) : Prop :=
  ∃ l ∈ reading, t.locate path = .ok l

/-- The failure of a call whose own source gives no records. A file that is being read is refused
before its text is looked at. -/
inductive Refused (t : FileTree) (reading : List Location) : Call → Failure → Prop
  | cycle {path : String} : BeingRead t reading path →
      Refused t reading (.file path) (.includeCycle path)
  | unreadable {path : String} {fault : FileFault} : ¬ BeingRead t reading path →
      t.read path = .error fault → Refused t reading (.file path) (.access path fault)
  | malformed {path text : String} {e : ReadFault} : ¬ BeingRead t reading path →
      t.read path = .ok text → Record.read text = .error e →
      Refused t reading (.file path) (.records path e)
  | malformedText {content source : String} {e : ReadFault} : Record.read content = .error e →
      Refused t reading (.text content source) (.records source e)

theorem opening_of_refused (h : Refused t reading (.file path) f) :
    t.opening reading path = .error f := by
  have hfree : ∀ l, ¬ BeingRead t reading path → t.locate path = .ok l → l ∉ reading := by
    intro l hread hpath hl
    exact hread ⟨l, hl, hpath⟩
  cases h with
  | cycle hread =>
    obtain ⟨l, hl, hpath⟩ := hread
    exact FileTree.opening_cycle_iff.mpr ⟨rfl, l, hpath, hl⟩
  | unreadable hread hr =>
    rw [FileTree.read] at hr
    cases hpath : t.locate path with
    | error fault =>
      rw [hpath] at hr
      obtain rfl := Except.error.inj hr
      simp [FileTree.opening, hpath]
    | ok l =>
      rw [hpath] at hr
      change t.textAt l = _ at hr
      simp [FileTree.opening, hpath, hfree l hread hpath, hr]
  | malformed hread hr he =>
    obtain ⟨l, hpath, hr⟩ := exists_of_bind_ok hr
    simp [FileTree.opening, hpath, hfree l hread hpath, hr, he]

/-- A call either is refused by its own source, and leaves all as it was, or does the work of
loading what the source holds. -/
theorem load_cases (t : FileTree) (c : Catalogue) (call : Call) :
    (call.load t c).catalogue = c ∨
      ∃ w, Loads t w c (call.load t c).catalogue (call.load t c).failure? := by
  cases call with
  | file path => exact .inr ⟨_, loads_file t path c⟩
  | text content source =>
    simp only [load, loadText]
    split
    · exact .inl rfl
    · next rs _ => exact .inr ⟨_, loads_load t (.records source rs) c⟩

theorem load_grows (t : FileTree) (c : Catalogue) (call : Call) :
    Grows c (call.load t c).catalogue := by
  rcases call.load_cases t c with hsame | ⟨w, hw⟩
  · rw [hsame]
    exact Grows.refl c
  · exact hw.grows

theorem load_refused {call : Call} (h : Refused t c.including call f) :
    (call.load t c).failure? = some f ∧ (call.load t c).catalogue = c := by
  cases call with
  | file path => simp [load, loadFile_refused (opening_of_refused h)]
  | text content source =>
    cases h with
    | malformedText he => simp [load, loadText, he]

end Call

/-- Whatever comes of a call, the files being read are those of before, so that a later load takes
no file for one that includes itself, and the lists only grow. A call that its own source refuses
changes nothing at all. -/
theorem call_leaves_consistent (t : FileTree) (c : Catalogue) (call : Call) :
    (call.load t c).catalogue.including = c.including ∧
    Grows c (call.load t c).catalogue ∧
    (∀ f, call.Refused t c.including f →
      (call.load t c).failure? = some f ∧ (call.load t c).catalogue = c) ∧
    (Reachable c → ∀ t' path p,
      (loadFile t' path (call.load t c).catalogue).failure? = some (.includeCycle p) →
        t'.Cyclic path) := by
  refine ⟨(call.load t c).including_eq, call.load_grows t c, fun f hf => Call.load_refused hf, ?_⟩
  intro hc t' path p hp
  have hload := loads_file t' path (call.load t c).catalogue
  rw [hp] at hload
  apply hload.cyclic
  rw [(call.load t c).including_eq, hc.including_eq]

/-- A file whose include runs into a cycle two levels down, after it registered something. -/
def tangledFiles : FileTree where
  entries := [
    (["top.defs"], .file "(object A (c-name a))(include \"d/mid.defs\")(enum Z)".toUTF8),
    (["d"], .directory),
    (["d", "mid.defs"], .file "(enum B (c-name b))(include \"../top.defs\")".toUTF8),
    (["open.defs"], .file "(object A (c-name a)".toUTF8)]
  current := []

/-- The load fails inside the include of an include and keeps what came before. A file that cannot
be read through is then refused, and so is the outer file while it is open. -/
theorem call_leaves_consistent_tangled :
    let failed := Call.load tangledFiles empty (.file "top.defs")
    let c := failed.catalogue
    failed.failure? = some (.includeCycle "d/../top.defs") ∧ Grows empty c ∧
    c.including = [] ∧ c.cNames = ["a", "b"] ∧ c.sources = ["top.defs", "d/mid.defs"] ∧
    (Call.load tangledFiles c (.file "open.defs")).catalogue = c ∧
    (∀ p, (loadFile tangledFiles "open.defs" c).failure? = some (.includeCycle p) →
      tangledFiles.Cyclic "open.defs") ∧
    let inner := c.enter "top.defs" ["top.defs"]
    (Call.load tangledFiles inner (.file "d/../top.defs")).catalogue = inner := by
  intro failed c
  have hfirst := call_leaves_consistent tangledFiles empty (.file "top.defs")
  obtain ⟨hincluding, hgrows, -, hlater⟩ := hfirst
  have hbare : ¬ Call.BeingRead tangledFiles c.including "open.defs" := by
    rintro ⟨l, hl, -⟩
    rw [show c.including = [] from hincluding] at hl
    cases hl
  have hopen : Call.Refused tangledFiles c.including (.file "open.defs")
      (.records "open.defs" (.unclosedList 1 ⟨1, 1⟩)) :=
    .malformed hbare (show _ = Except.ok "(object A (c-name a)" by decide +kernel)
      (by decide +kernel)
  have hcycle : Call.Refused tangledFiles (c.enter "top.defs" ["top.defs"]).including
      (.file "d/../top.defs") (.includeCycle "d/../top.defs") := by
    refine .cycle ⟨["top.defs"], ?_, by decide +kernel⟩
    simp
  obtain ⟨-, -, hrefused, -⟩ := call_leaves_consistent tangledFiles c (.file "open.defs")
  obtain ⟨-, -, hrefused', -⟩ :=
    call_leaves_consistent tangledFiles (c.enter "top.defs" ["top.defs"]) (.file "d/../top.defs")
  exact ⟨by decide +kernel, hgrows, hincluding, by decide +kernel, by decide +kernel,
    (hrefused _ hopen).2, fun p => hlater .empty tangledFiles "open.defs" p,
    (hrefused' _ hcycle).2⟩

end DefsGlue.Catalogue
