import DefsGlue.Catalogue.Load

/-! Loading as a relation between catalogues, free of the measure that ends the recursion. What is
proved of every load is proved by induction on it. -/
namespace DefsGlue

namespace FileTree

/-- What opening a file gives while others are being read: its place and its records. -/
def opening (t : FileTree) (reading : List Location) (path : String) :
    Except Failure (Location × List Record) :=
  match t.locate path with
  | .error fault => .error (.access path fault)
  | .ok l =>
    if reading.contains l then .error (.includeCycle path)
    else match t.textAt l with
      | .error fault => .error (.access path fault)
      | .ok text => match Record.read text with
        | .error e => .error (.records path e)
        | .ok rs => .ok (l, rs)

variable {t : FileTree} {reading : List Location} {path : String} {l : Location}
  {rs : List Record} {f : Failure}

theorem opening_ok (h : t.opening reading path = .ok (l, rs)) :
    t.locate path = .ok l ∧ l ∉ reading ∧
      ∃ text, t.textAt l = .ok text ∧ Record.read text = .ok rs := by
  unfold opening at h
  cases hl : t.locate path with
  | error fault => simp [hl] at h
  | ok l' =>
    simp only [hl] at h
    by_cases hs : l' ∈ reading
    · simp [hs] at h
    · have hno : reading.contains l' = false := by simpa using hs
      simp only [hno, Bool.false_eq_true, if_false] at h
      cases ht : t.textAt l' with
      | error fault => simp [ht] at h
      | ok text =>
        simp only [ht] at h
        cases hr : Record.read text with
        | error e => simp [hr] at h
        | ok rs' =>
          simp only [hr, Except.ok.injEq, Prod.mk.injEq] at h
          obtain ⟨rfl, rfl⟩ := h
          exact ⟨rfl, hs, text, ht, hr⟩

end FileTree

namespace Catalogue

/-- A file to load by its path, or the records of the file that `source` spells. -/
inductive Work where
  | file (path : String)
  | records (source : String) (rs : List Record)

/-- How work on a catalogue ends: with the catalogue it leaves and its failure, if it has one. -/
inductive Loads (t : FileTree) : Work → Catalogue → Catalogue → Option Failure → Prop
  | refused {path : String} {c : Catalogue} {f : Failure} :
      t.opening c.including path = .error f → Loads t (.file path) c c (some f)
  | opened {path : String} {c c' : Catalogue} {l : Location} {rs : List Record}
      {f? : Option Failure} : t.opening c.including path = .ok (l, rs) →
      Loads t (.records path rs) (c.enter path l) c' f? → Loads t (.file path) c c'.leave f?
  | nil {source : String} {c : Catalogue} : Loads t (.records source []) c c none
  | skip {source : String} {c c' : Catalogue} {r : Record} {rs : List Record}
      {f? : Option Failure} : Directive.ofRecord source r = .skip →
      Loads t (.records source rs) c c' f? → Loads t (.records source (r :: rs)) c c' f?
  | add {source : String} {c c' : Catalogue} {r : Record} {rs : List Record} {d : Definition}
      {f? : Option Failure} : Directive.ofRecord source r = .add d →
      Loads t (.records source rs) (c.add d) c' f? → Loads t (.records source (r :: rs)) c c' f?
  | reject {source : String} {c : Catalogue} {r : Record} {rs : List Record} {f : Failure} :
      Directive.ofRecord source r = .reject f → Loads t (.records source (r :: rs)) c c (some f)
  | follow {source path : String} {c c₁ c' : Catalogue} {r : Record} {rs : List Record}
      {f? : Option Failure} : Directive.ofRecord source r = .follow path →
      Loads t (.file path) c c₁ none → Loads t (.records source rs) c₁ c' f? →
      Loads t (.records source (r :: rs)) c c' f?
  | stop {source path : String} {c c' : Catalogue} {r : Record} {rs : List Record} {f : Failure} :
      Directive.ofRecord source r = .follow path → Loads t (.file path) c c' (some f) →
      Loads t (.records source (r :: rs)) c c' (some f)

/-- Loads a file, or records that were read already. -/
def load {reading : List Location} (t : FileTree) (w : Work) (c : Catalogue)
    (hc : c.including = reading) : Outcome reading :=
  match w with
  | .file path => (loadFile t path c).cast hc
  | .records source rs => loadRecords (fun p d hd => (loadFile t p d).cast hd) source rs c hc

/-- The catalogues that calls can lead to. Each load may find another tree of files. -/
inductive Reachable : Catalogue → Prop
  | empty : Reachable .empty
  | load {c : Catalogue} (t : FileTree) (w : Work) :
      Reachable c → Reachable (load t w c rfl).catalogue
  | text {c : Catalogue} (t : FileTree) (text source : String) :
      Reachable c → Reachable (loadText t text source c).catalogue
  | add {c : Catalogue} (d : Definition) : Reachable c → Reachable (c.add d)

variable {t : FileTree} {path source : String} {c c' : Catalogue} {l : Location}
  {rs : List Record} {f : Failure} {f? : Option Failure} {w : Work}

theorem loadFile_refused (h : t.opening c.including path = .error f) :
    loadFile t path c = ⟨c, some f, rfl⟩ := by
  unfold FileTree.opening at h
  unfold loadFile
  cases hl : t.locate path with
  | error fault => simp_all
  | ok l =>
    by_cases hs : l ∈ c.including
    · simp_all
    · simp only [hl, hs, dif_neg, not_false_eq_true] at h ⊢
      split
      · next fault ht => simp_all
      · next text ht =>
        split
        · next e hr => simp_all
        · next rs hr => simp_all

theorem loadFile_opened (h : t.opening c.including path = .ok (l, rs)) :
    let inner := loadRecords (fun p d hd => (loadFile t p d).cast hd) path rs (c.enter path l) rfl
    (loadFile t path c).catalogue = inner.catalogue.leave ∧
      (loadFile t path c).failure? = inner.failure? := by
  obtain ⟨hl, hs, text, ht, hr⟩ := FileTree.opening_ok h
  intro inner
  generalize hi : inner = inner'
  unfold loadFile
  simp only [hl, hs, dif_neg, not_false_eq_true]
  split
  · simp_all
  · next text' ht' =>
    obtain rfl : text = text' := Except.ok.inj (ht.symm.trans ht')
    split
    · simp_all
    · next rs' hr' =>
      obtain rfl : rs = rs' := Except.ok.inj (hr.symm.trans hr')
      subst hi
      exact ⟨rfl, rfl⟩

theorem loads_records {stack : List Location}
    {load : String → (c : Catalogue) → c.including = stack → Outcome stack}
    (hload : ∀ path c hc, Loads t (.file path) c (load path c hc).catalogue
      (load path c hc).failure?) (source : String) (rs : List Record) (c : Catalogue)
    (hc : c.including = stack) :
    Loads t (.records source rs) c (loadRecords load source rs c hc).catalogue
      (loadRecords load source rs c hc).failure? := by
  induction rs generalizing c with
  | nil => exact .nil
  | cons r rs ih =>
    unfold loadRecords
    split
    · next hd => exact .skip hd (ih c hc)
    · next d hd => exact .add hd (ih (c.add d) _)
    · next f hd => exact .reject hd
    · next path hd =>
      have hp := hload path c hc
      generalize load path c hc = inner at hp ⊢
      dsimp only
      split
      · next f hf =>
        rw [hf] at hp ⊢
        exact .stop hd hp
      · next hf =>
        rw [hf] at hp
        exact .follow hd hp (ih inner.catalogue inner.including_eq)

/-- Every load ends as the relation says. -/
theorem loads_file (t : FileTree) (path : String) (c : Catalogue) :
    Loads t (.file path) c (loadFile t path c).catalogue (loadFile t path c).failure? := by
  -- On what is not being read. Inside the file that is opened there is less of it.
  induction hn : t.unread c.including using Nat.strongRecOn generalizing path c with
  | ind n ih =>
    subst hn
    cases ha : t.opening c.including path with
    | error f =>
      rw [loadFile_refused ha]
      exact .refused ha
    | ok opened =>
      obtain ⟨l, rs⟩ := opened
      obtain ⟨hcat, hfail⟩ := loadFile_opened ha
      rw [hcat, hfail]
      apply Loads.opened ha
      apply loads_records
      intro p d hd
      obtain ⟨-, hs, text, ht, -⟩ := FileTree.opening_ok ha
      refine ih (t.unread d.including) ?_ p d rfl
      rw [hd]
      exact FileTree.unread_append_lt (FileTree.mem_of_textAt ht) hs

theorem loads_load (t : FileTree) (w : Work) (c : Catalogue) :
    Loads t w c (load t w c rfl).catalogue (load t w c rfl).failure? := by
  cases w with
  | file path => exact loads_file t path c
  | records source rs => exact loads_records (fun p d hd => loads_file t p d) source rs c rfl

theorem Loads.including_eq (h : Loads t w c c' f?) : c'.including = c.including := by
  induction h with
  | refused | nil | reject => rfl
  | opened _ _ ih => simp [leave, ih]
  | skip _ _ ih => exact ih
  | add _ _ ih => simpa using ih
  | follow _ _ _ ihf ih => exact ih.trans ihf
  | stop _ _ ih => exact ih

/-- What every change of a catalogue keeps: a registration, and entering or leaving a file. -/
structure Invariant (P : Catalogue → Prop) : Prop where
  add : ∀ c d, P c → P (c.add d)
  enter : ∀ c path l, P c → P (c.enter path l)
  leave : ∀ c, P c → P c.leave

variable {P : Catalogue → Prop}

theorem Invariant.loads (hP : Invariant P) (h : Loads t w c c' f?) (hc : P c) : P c' := by
  induction h with
  | refused | nil | reject => exact hc
  | opened _ _ ih => exact hP.leave _ (ih (hP.enter _ _ _ hc))
  | skip _ _ ih => exact ih hc
  | add _ _ ih => exact ih (hP.add _ _ hc)
  | follow _ _ _ ihf ih => exact ih (ihf hc)
  | stop _ _ ih => exact ih hc

theorem Invariant.loadText (hP : Invariant P) (t : FileTree) (text source : String) (hc : P c) :
    P (loadText t text source c).catalogue := by
  unfold Catalogue.loadText
  split
  · exact hc
  · next rs hr => exact hP.loads (loads_load t (.records source rs) c) hc

/-- What holds at first and is kept by every change holds after any calls, failed ones included. -/
theorem Invariant.reachable (hP : Invariant P) (hempty : P .empty) (h : Reachable c) : P c := by
  induction h with
  | empty => exact hempty
  | load t w _ ih => exact hP.loads (loads_load t w _) ih
  | text t text source _ ih => exact hP.loadText t text source ih
  | add d _ ih => exact hP.add _ d ih

/-- Between calls no file is being read. -/
theorem Reachable.including_eq (h : Reachable c) : c.including = [] := by
  induction h with
  | empty => rfl
  | load t w _ ih => exact (Catalogue.load t w _ rfl).including_eq.trans ih
  | text t text source _ ih => exact (loadText t text source _).including_eq.trans ih
  | add d _ ih => simpa using ih

end Catalogue
end DefsGlue
