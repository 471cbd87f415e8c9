import DefsGlue.Proofs.Catalogue.Cycle
import DefsGlue.Proofs.Catalogue.Determinacy
import DefsGlue.Proofs.Effect

/-! A text gives the same definitions whether it is loaded from its file or directly. Loaded from
the file, it has the file among its sources and keeps it from being included; all else is equal. -/
namespace DefsGlue

namespace FileTree

variable {t : FileTree} {reading reading' : List Location} {path : String}

/-- Unless it is being read, a file opens the same with fewer files being read. -/
theorem opening_of_subset (hs : reading ⊆ reading')
    (h : ∀ p, t.opening reading' path ≠ .error (.includeCycle p)) :
    t.opening reading path = t.opening reading' path := by
  cases hl : t.locate path with
  | error fault => simp [opening, hl]
  | ok l =>
    have hfree : l ∉ reading' := fun hm => h path (opening_cycle_iff.mpr ⟨rfl, l, hl, hm⟩)
    have hfree' : l ∉ reading := fun hm => hfree (hs hm)
    simp [opening, hl, hfree, hfree']

/-- While no file is being read, what a file opens with is decided by its text. -/
theorem opening_of_read {text : String} (h : t.read path = .ok text) :
    ∃ l, t.opening [] path =
      match Record.read text with
      | .ok rs => .ok (l, rs)
      | .error e => .error (.records path e) := by
  obtain ⟨l, hl, ht⟩ := exists_of_bind_ok h
  exact ⟨l, by simp [opening, hl, ht]; cases Record.read text <;> rfl⟩

end FileTree

namespace Catalogue

variable {t : FileTree} {path text : String} {l l' : Location} {earlier : List String}
  {c c' d : Catalogue} {w : Work} {f? : Option Failure}

/-- A catalogue as it is inside a file that was opened after the earlier sources, beside what it
would be without that file. -/
def Inside (path : String) (l : Location) (earlier : List String) (c d : Catalogue) : Prop :=
  ∃ later, d.sources = earlier ++ later ∧
    c = { d with sources := earlier ++ path :: later, including := l :: d.including }

theorem inside_enter (hc : c.including = []) (path : String) (l : Location) :
    Inside path l c.sources (c.enter path l) c :=
  ⟨[], by simp, by simp [enter, hc]⟩

/-- A registration looks at neither the sources nor the files being read. -/
theorem add_with (d : Catalogue) (e : Definition) (sources : List String)
    (reading : List Location) :
    ({ d with sources := sources, including := reading } : Catalogue).add e =
      { d.add e with sources := sources, including := reading } := by
  cases e <;> simp [add, enlist, index]
  split <;> rfl

namespace Inside

theorem add (h : Inside path l earlier c d) (e : Definition) :
    Inside path l earlier (c.add e) (d.add e) := by
  obtain ⟨later, hs, rfl⟩ := h
  exact ⟨later, by rw [sources_add, hs], by rw [add_with, including_add]⟩

theorem enter (h : Inside path l earlier c d) (path' : String) (l' : Location) :
    Inside path l earlier (c.enter path' l') (d.enter path' l') := by
  obtain ⟨later, hs, rfl⟩ := h
  exact ⟨later ++ [path'], by simp [Catalogue.enter, hs], by simp [Catalogue.enter]⟩

theorem leave (h : Inside path l earlier c d) (hne : d.including ≠ []) :
    Inside path l earlier c.leave d.leave := by
  obtain ⟨later, hs, rfl⟩ := h
  exact ⟨later, hs, by simp [Catalogue.leave, List.dropLast_cons_of_ne_nil hne]⟩

theorem opening_eq {path' : String} {opened : Except Failure (Location × List Record)}
    (h : Inside path l earlier c d) (ha : t.opening c.including path' = opened)
    (hcycle : ∀ p, opened ≠ .error (.includeCycle p)) :
    t.opening d.including path' = opened := by
  obtain ⟨later, -, rfl⟩ := h
  subst ha
  exact FileTree.opening_of_subset (List.subset_cons_self l d.including) hcycle

end Inside

/-- What loads inside the file loads the same without it, unless it comes to a cycle. -/
theorem Loads.outside (h : Loads t w c c' f?) (hf : ∀ p, f? ≠ some (.includeCycle p))
    (hcd : Inside path l earlier c d) : ∃ d', Loads t w d d' f? ∧ Inside path l earlier c' d' := by
  induction h generalizing d with
  | refused ha =>
    have hopen := hcd.opening_eq ha (by simpa using hf)
    exact ⟨d, .refused hopen, hcd⟩
  | @opened path' _ _ l' _ _ ha _ ih =>
    have hopen := hcd.opening_eq ha (by simp)
    obtain ⟨d', hd', hcd'⟩ := ih hf (hcd.enter path' l')
    have hne : d'.including ≠ [] := by simp [hd'.including_eq]
    exact ⟨d'.leave, .opened hopen hd', hcd'.leave hne⟩
  | nil => exact ⟨d, .nil, hcd⟩
  | skip hr _ ih =>
    obtain ⟨d', hd', hcd'⟩ := ih hf hcd
    exact ⟨d', .skip hr hd', hcd'⟩
  | add hr _ ih =>
    obtain ⟨d', hd', hcd'⟩ := ih hf (hcd.add _)
    exact ⟨d', .add hr hd', hcd'⟩
  | reject hr => exact ⟨d, .reject hr, hcd⟩
  | follow hr _ _ ihf ih =>
    obtain ⟨d₁, hd₁, hcd₁⟩ := ihf (by simp) hcd
    obtain ⟨d', hd', hcd'⟩ := ih hf hcd₁
    exact ⟨d', .follow hr hd₁ hd', hcd'⟩
  | stop hr _ ih =>
    obtain ⟨d', hd', hcd'⟩ := ih hf hcd
    exact ⟨d', .stop hr hd', hcd'⟩

theorem loadText_of_read {source : String} {rs : List Record} (hr : Record.read text = .ok rs)
    (c : Catalogue) : loadText t text source c = load t (.records source rs) c rfl := by
  unfold loadText
  split
  · next hr' => cases hr.symm.trans hr'
  · next hr' =>
    obtain rfl := Except.ok.inj (hr.symm.trans hr')
    rfl

theorem loadText_of_unread {source : String} {e : ReadFault} (hr : Record.read text = .error e)
    (c : Catalogue) : loadText t text source c = ⟨c, some (.records source e), rfl⟩ := by
  unfold loadText
  split
  · next hr' =>
    obtain rfl := Except.error.inj (hr.symm.trans hr')
    rfl
  · next hr' => cases hr.symm.trans hr'

/-- A text whose file does not come to include itself is loaded directly as from the file. Only the
file is missing from the sources, and it is among them when its text can be read. -/
theorem loadText_agrees_with_file (hc : c.including = []) (hread : t.read path = .ok text)
    (hcycle : ∀ p, (loadFile t path c).failure? ≠ some (.includeCycle p)) :
    let file := loadFile t path c
    let direct := loadText t text path c
    direct.failure? = file.failure? ∧ SameDefinitions direct.catalogue file.catalogue ∧
    direct.catalogue.cNames = file.catalogue.cNames ∧
    direct.catalogue.warnings = file.catalogue.warnings ∧
    (∀ rs, Record.read text = .ok rs → ∃ later,
      file.catalogue.sources = c.sources ++ path :: later ∧
        direct.catalogue.sources = c.sources ++ later) ∧
    (∀ e, Record.read text = .error e → file.catalogue.sources = direct.catalogue.sources) ∧
    file.catalogue.including = [] ∧ direct.catalogue.including = [] := by
  intro file direct
  have hfile : file.catalogue.including = [] := file.including_eq.trans hc
  have hdirect : direct.catalogue.including = [] := direct.including_eq.trans hc
  obtain ⟨l, hopen⟩ := FileTree.opening_of_read hread
  rw [← hc] at hopen
  cases hr : Record.read text with
  | error e =>
    rw [hr] at hopen
    have hsame : direct = file := (loadText_of_unread hr c).trans (loadFile_refused hopen).symm
    rw [hsame]
    exact ⟨rfl, ⟨rfl, rfl, rfl, rfl, rfl⟩, rfl, rfl, by simp, fun _ _ => rfl, hfile, hfile⟩
  | ok rs =>
    rw [hr] at hopen
    have hloads : Loads t (.file path) c file.catalogue file.failure? := loads_file t path c
    rcases loads_file_cases hloads with ⟨f, hrefused, -⟩ | ⟨l', rs', c₁, hopen', hin, hleave⟩
    · cases hopen.symm.trans hrefused
    · obtain ⟨rfl, rfl⟩ := Prod.mk.inj (Except.ok.inj (hopen.symm.trans hopen'))
      obtain ⟨d, hout, later, hsources, rfl⟩ := hin.outside hcycle (inside_enter hc path l)
      obtain ⟨hd, hfail⟩ := load_of_loads hout
      rw [← loadText_of_read hr c] at hd hfail
      have hd' : direct.catalogue = d := hd
      rw [hd'] at hdirect ⊢
      rw [hleave] at hfile ⊢
      exact ⟨hfail, ⟨rfl, rfl, rfl, rfl, rfl⟩, rfl, rfl, fun _ _ => ⟨later, rfl, hsources⟩,
        by simp, hfile, hdirect⟩

/-- A file that includes another twice, once inside a file with a method of no object. -/
def listedFiles : FileTree where
  entries := [
    (["top.defs"], .file "(include \"leaf.defs\")(include \"d/part.defs\")(enum E)".toUTF8),
    (["d"], .directory),
    (["d", "part.defs"], .file "(include \"../leaf.defs\")(method m)".toUTF8),
    (["leaf.defs"], .file "(enum L)".toUTF8)]
  current := []

/-- The load of the text fails two files down, as that of the file. -/
theorem loadText_agrees_with_listed_file :
    let text := "(include \"leaf.defs\")(include \"d/part.defs\")(enum E)"
    let c := (empty.enter "old.defs" ["old.defs"]).leave
    let file := loadFile listedFiles "top.defs" c
    let direct := loadText listedFiles text "top.defs" c
    c.including = [] ∧ listedFiles.read "top.defs" = .ok text ∧
    (∀ p, file.failure? ≠ some (.includeCycle p)) ∧
    direct.failure? = some (.definition "d/part.defs" .method (.missingOwner "m")) ∧
    SameDefinitions direct.catalogue file.catalogue ∧ direct.catalogue.cNames = ["L", "L"] ∧
    file.catalogue.sources =
      ["old.defs", "top.defs", "leaf.defs", "d/part.defs", "d/../leaf.defs"] ∧
    direct.catalogue.sources = ["old.defs", "leaf.defs", "d/part.defs", "d/../leaf.defs"] := by
  intro text c file direct
  have hread : listedFiles.read "top.defs" = .ok text := by decide +kernel
  have hfile : (file.failure?, file.catalogue.cNames, file.catalogue.sources) =
      (some (.definition "d/part.defs" .method (.missingOwner "m")), ["L", "L"],
        ["old.defs", "top.defs", "leaf.defs", "d/part.defs", "d/../leaf.defs"]) := by
    decide +kernel
  obtain ⟨hfail, hrest⟩ := Prod.mk.inj hfile
  obtain ⟨hnames, hsources⟩ := Prod.mk.inj hrest
  have hcycle : ∀ p, file.failure? ≠ some (.includeCycle p) := by simp [hfail]
  obtain ⟨hsame, hdefinitions, hnames', -, hlater, -⟩ := loadText_agrees_with_file rfl hread hcycle
  have hrecords : (Record.read text).toOption.isSome = true := by decide +kernel
  obtain ⟨later, hinside, hdirect⟩ : ∃ later,
      file.catalogue.sources = "old.defs" :: "top.defs" :: later ∧
        direct.catalogue.sources = "old.defs" :: later := by
    cases hr : Record.read text with
    | error e => simp [hr, Except.toOption] at hrecords
    | ok rs => exact hlater rs hr
  rw [hsources] at hinside
  obtain rfl := (List.cons.inj (List.cons.inj hinside).2).2
  exact ⟨rfl, hread, hcycle, hsame.trans hfail, hdefinitions, hnames'.trans hnames, hsources,
    hdirect⟩

end Catalogue
end DefsGlue
