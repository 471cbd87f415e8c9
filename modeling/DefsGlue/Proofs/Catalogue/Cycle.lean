import DefsGlue.Proofs.Catalogue.Run

/-! Include cycles. A load ends, and it reports a cycle exactly where it comes to a file that is
being read already. -/
namespace DefsGlue

namespace FileTree

/-- The paths that the file at a path includes, in order. -/
def included (t : FileTree) (path : String) : List String :=
  match t.read path with
  | .error _ => []
  | .ok text =>
    match Record.read text with
    | .error _ => []
    | .ok rs => rs.filterMap (Record.included? path)

def Includes (t : FileTree) (path path' : String) : Prop := path' ∈ t.included path

/-- Whether a file that a path leads to, through includes or at once, includes itself, through
others or at once. The two paths to it need not be spelled alike. -/
def Cyclic (t : FileTree) (path : String) : Prop :=
  ∃ p p' l, Relation.ReflTransGen t.Includes path p ∧ Relation.TransGen t.Includes p p' ∧
    t.locate p = .ok l ∧ t.locate p' = .ok l

variable {t : FileTree} {reading : List Location} {path path' : String} {l : Location}
  {r : Record} {rs : List Record}

theorem includes_of_opening (h : t.opening reading path = .ok (l, rs)) (hr : r ∈ rs)
    (hi : r.included? path = some path') : t.Includes path path' := by
  obtain ⟨hl, -, text, ht, hrs⟩ := opening_ok h
  have hread : t.read path = .ok text := by
    rw [read, hl]
    exact ht
  rw [Includes, included, hread]
  simp only [hrs, List.mem_filterMap]
  exact ⟨r, hr, hi⟩

theorem Cyclic.including (hi : t.Includes path path') (h : t.Cyclic path') : t.Cyclic path := by
  obtain ⟨p, p', l, hp, hp', hl, hl'⟩ := h
  exact ⟨p, p', l, .head hi hp, hp', hl, hl'⟩

theorem opening_cycle_iff {p : String} : t.opening reading path = .error (.includeCycle p) ↔
    p = path ∧ ∃ l, t.locate path = .ok l ∧ l ∈ reading := by
  unfold opening
  constructor
  · intro h
    split at h
    · cases h
    · next l hl =>
      split at h
      · next hs =>
        cases h
        exact ⟨rfl, l, hl, by simpa using hs⟩
      · split at h
        · cases h
        · split at h <;> cases h
  · rintro ⟨rfl, l, hl, hs⟩
    simp [hl, hs]

end FileTree

namespace Catalogue

variable {t : FileTree} {path source p q : String} {c c' : Catalogue} {l : Location} {w : Work}
  {r : Record} {rs : List Record} {f : Failure} {f? : Option Failure} {a : Action}

/-- Where work follows an include itself. -/
def Work.Follows : Work → String → Prop
  | .file path, p => p = path
  | .records source rs, p => ∃ r ∈ rs, r.included? source = some p

theorem Work.Follows.tail (h : Follows (.records source rs) p) :
    Follows (.records source (r :: rs)) p := by
  obtain ⟨r', hr, hi⟩ := h
  exact ⟨r', List.mem_cons_of_mem r hr, hi⟩

theorem Work.follows_head (hi : r.included? source = some p) :
    Follows (.records source (r :: rs)) p :=
  ⟨r, List.mem_cons_self, hi⟩

/-- Registering a record reports no cycle. -/
theorem register_ne_cycle : c.register source r ≠ .error (.includeCycle p) := by
  intro h
  unfold register at h
  split at h
  · split at h <;> cases h
  · split at h <;> cases h
  · cases h

/-- An action reports a cycle only when it follows a path to a file that is being read. -/
theorem perform_cycle_iff : c.perform t a = .error (.includeCycle p) ↔
    a = .follow p ∧ ∃ l, t.locate p = .ok l ∧ l ∈ c.including := by
  constructor
  · intro h
    cases a with
    | follow path =>
      simp only [perform] at h
      split at h
      · cases h
      · next f ha =>
        obtain rfl := Except.error.inj h
        obtain ⟨rfl, hl⟩ := FileTree.opening_cycle_iff.mp ha
        exact ⟨rfl, hl⟩
    | record source r => exact (register_ne_cycle h).elim
    | leave => cases h
  · rintro ⟨rfl, hl⟩
    exact perform_follow_refused (FileTree.opening_cycle_iff.mpr ⟨rfl, hl⟩)

/-- How work comes to a file that is being read: it was being read before, or it includes itself. -/
def Closes (t : FileTree) (w : Work) (reading : List Location) (q : String) : Prop :=
  (∃ p l, w.Follows p ∧ Relation.ReflTransGen t.Includes p q ∧ t.locate q = .ok l ∧ l ∈ reading) ∨
    ∃ p, w.Follows p ∧ t.Cyclic p

theorem Closes.mono {w' : Work} {reading : List Location} (h : Closes t w reading q)
    (hw : ∀ p, w.Follows p → w'.Follows p) : Closes t w' reading q := by
  cases h with
  | inl h =>
    obtain ⟨p, l, hp, hq, hl, hs⟩ := h
    exact .inl ⟨p, l, hw p hp, hq, hl, hs⟩
  | inr h =>
    obtain ⟨p, hp, hcyc⟩ := h
    exact .inr ⟨p, hw p hp, hcyc⟩

/-- Seen from outside a file, its own place is no longer among those being read. -/
theorem Closes.opened {reading : List Location} (ha : t.opening reading path = .ok (l, rs))
    (h : Closes t (.records path rs) (reading ++ [l]) q) : Closes t (.file path) reading q := by
  obtain ⟨hpath, -⟩ := FileTree.opening_ok ha
  cases h with
  | inl h =>
    obtain ⟨p, l', ⟨r, hr, hi⟩, hq, hl, hs⟩ := h
    have hinc := FileTree.includes_of_opening ha hr hi
    rcases List.mem_append.mp hs with hs | hs
    · exact .inl ⟨path, l', rfl, .head hinc hq, hl, hs⟩
    · obtain rfl := List.mem_singleton.mp hs
      exact .inr ⟨path, rfl, path, q, l', .refl, .head' hinc hq, hpath, hl⟩
  | inr h =>
    obtain ⟨p, ⟨r, hr, hi⟩, hcyc⟩ := h
    exact .inr ⟨path, rfl, hcyc.including (FileTree.includes_of_opening ha hr hi)⟩

theorem Loads.closes (h : Loads t w c c' f?) (hf : f? = some (.includeCycle q)) :
    Closes t w c.including q := by
  induction h with
  | refused ha =>
    obtain rfl := Option.some.inj hf
    obtain ⟨rfl, l, hl, hs⟩ := FileTree.opening_cycle_iff.mp ha
    exact .inl ⟨_, l, rfl, .refl, hl, hs⟩
  | opened ha _ ih => exact (ih hf).opened ha
  | nil => cases hf
  | skip _ _ ih => exact (ih hf).mono fun _ => Work.Follows.tail
  | add _ _ ih =>
    rw [including_add] at ih
    exact (ih hf).mono fun _ => Work.Follows.tail
  | @reject _ c _ _ _ hd =>
    obtain rfl := Option.some.inj hf
    obtain ⟨-, hr⟩ := register_reject hd c
    exact (register_ne_cycle hr).elim
  | follow _ hfile _ _ ih =>
    rw [hfile.including_eq] at ih
    exact (ih hf).mono fun _ => Work.Follows.tail
  | @stop _ _ c _ _ _ _ hd _ ih =>
    obtain ⟨hi, -⟩ := register_follow hd c
    refine (ih hf).mono ?_
    rintro p rfl
    exact Work.follows_head hi

/-- A load fails with a cycle exactly when its run comes to follow a path to a file being read. -/
theorem load_cycle_iff : (load t w c rfl).failure? = some (.includeCycle p) ↔
    ∃ c₁ agenda l, Run t ⟨c, w.agenda⟩ ⟨c₁, .follow p :: agenda⟩ ∧ t.locate p = .ok l ∧
      l ∈ c₁.including := by
  obtain ⟨s, hrun, hstuck, hfail, -⟩ := load_run t w c
  rw [← hfail]
  constructor
  · intro h
    obtain ⟨a, agenda, ha, hp⟩ := failure_eq_some h
    obtain ⟨rfl, l, hl, hs⟩ := perform_cycle_iff.mp hp
    rw [show s = ⟨s.catalogue, .follow p :: agenda⟩ by rw [← ha]] at hrun
    exact ⟨s.catalogue, agenda, l, hrun, hl, hs⟩
  · rintro ⟨c₁, agenda, l, hrun', hl, hs⟩
    have hp : c₁.perform t (.follow p) = .error (.includeCycle p) :=
      perform_cycle_iff.mpr ⟨rfl, l, hl, hs⟩
    rw [stuck_unique hrun hrun' hstuck (stuck_of_error hp)]
    exact failure_of_error hp

/-- One file is included twice under two spellings, and one includes itself. -/
def sharedFiles : FileTree where
  entries := [
    (["top.defs"], .file "(include \"./common.defs\")(include \"d/../common.defs\")".toUTF8),
    (["d"], .directory),
    (["common.defs"], .file "(enum Shared (c-name Shared))".toUTF8),
    (["loop.defs"], .file "(include \"d/../loop.defs\")".toUTF8)]
  current := []

theorem reach_leaf (h : t.included path = []) (hp : Relation.ReflTransGen t.Includes path p) :
    p = path := by
  cases hp.cases_head with
  | inl he => exact he.symm
  | inr hx =>
    obtain ⟨x, hx, -⟩ := hx
    rw [FileTree.Includes, h] at hx
    cases hx

theorem sharedFiles_top : ¬ sharedFiles.Cyclic "top.defs" := by
  have hleaf : ∀ x ∈ sharedFiles.included "top.defs", sharedFiles.included x = [] ∧
      sharedFiles.locate x ≠ sharedFiles.locate "top.defs" := by decide +kernel
  rintro ⟨p, p', l, hp, hp', hl, hl'⟩
  obtain ⟨x, hx, hxp⟩ := Relation.TransGen.head'_iff.mp hp'
  cases hp.cases_head with
  | inl he =>
    subst he
    obtain ⟨hnone, hne⟩ := hleaf x hx
    obtain rfl := reach_leaf hnone hxp
    exact hne (hl'.trans hl.symm)
  | inr hy =>
    obtain ⟨y, hy, hyp⟩ := hy
    obtain ⟨hnone, -⟩ := hleaf y hy
    obtain rfl := reach_leaf hnone hyp
    rw [FileTree.Includes, hnone] at hx
    cases hx

end Catalogue
end DefsGlue
