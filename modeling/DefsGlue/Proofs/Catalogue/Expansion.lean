import DefsGlue.Proofs.Catalogue.Action

/-! Includes are inlined depth first: loading a file performs its expansion, which is the list of
its records with each include replaced by the expansion of the file it leads to. -/
namespace DefsGlue

/-- The actions for one record, given those for the file that an include leads to. -/
def Record.expansion (file : String → List Action) (source : String) (r : Record) : List Action :=
  match r.included? source with
  | some path => file path
  | none => [.record source r]

namespace FileTree

/-- The expansion of a file while others are being read. What cannot be opened is followed and
expands to nothing more. -/
def expansion (t : FileTree) (reading : List Location) (path : String) : List Action :=
  .follow path ::
    match _h : t.opening reading path with
    | .error _ => []
    | .ok (l, rs) => rs.flatMap (Record.expansion (t.expansion (reading ++ [l])) path) ++ [.leave]
termination_by t.unread reading
decreasing_by
  obtain ⟨-, hs, text, ht, -⟩ := opening_ok _h
  exact unread_append_lt (mem_of_textAt ht) hs

variable {t : FileTree} {reading : List Location} {path : String} {l : Location}
  {rs : List Record} {f : Failure}

theorem expansion_refused (h : t.opening reading path = .error f) :
    t.expansion reading path = [.follow path] := by
  rw [expansion]
  split
  · rfl
  · simp_all

theorem expansion_opened (h : t.opening reading path = .ok (l, rs)) :
    t.expansion reading path =
      .follow path :: (rs.flatMap (Record.expansion (t.expansion (reading ++ [l])) path) ++
        [.leave]) := by
  rw [expansion]
  split
  · simp_all
  · next l' rs' h' =>
    obtain ⟨rfl, rfl⟩ := Prod.mk.inj (Except.ok.inj (h.symm.trans h'))
    rfl

end FileTree

namespace Catalogue

def Work.expansion (t : FileTree) (reading : List Location) : Work → List Action
  | .file path => t.expansion reading path
  | .records source rs => rs.flatMap (Record.expansion (t.expansion reading) source)

/-- How performing actions ends. The catalogue that a failing action leaves is the one before it,
once every file is left. -/
inductive Ends (t : FileTree) (actions : List Action) (c : Catalogue) :
    Catalogue → Option Failure → Prop
  | done {c' : Catalogue} : c.performAll t actions = .ok c' → Ends t actions c c' none
  | failed {c₁ : Catalogue} {before after : List Action} {a : Action} {f : Failure} :
      actions = before ++ a :: after → c.performAll t before = .ok c₁ →
      c₁.perform t a = .error f →
      Ends t actions c { c₁ with including := c.including } (some f)

variable {t : FileTree} {path source : String} {c c₁ c' : Catalogue} {l : Location} {w : Work}
  {r : Record} {rs : List Record} {f : Failure} {f? : Option Failure} {a : Action}
  {xs ys : List Action}

theorem Ends.stop (h : Ends t xs c c' (some f)) (ys : List Action) :
    Ends t (xs ++ ys) c c' (some f) := by
  cases h with
  | @failed _ before after a _ hx hb ha =>
    -- The actions after the failing one are never performed, so more of them change nothing.
    have hs : xs ++ ys = before ++ a :: (after ++ ys) := by simp [hx]
    exact .failed hs hb ha

theorem Ends.after (h : Ends t ys c₁ c' f?) (hx : c.performAll t xs = .ok c₁)
    (hc : c₁.including = c.including) : Ends t (xs ++ ys) c c' f? := by
  cases h with
  | done hd => exact .done ((performAll_append hx).trans hd)
  | @failed _ before after a _ hy hb ha =>
    have hs : xs ++ ys = (xs ++ before) ++ a :: after := by simp [hy]
    rw [hc]
    exact .failed hs ((performAll_append hx).trans hb) ha

theorem Ends.cons (h : Ends t ys c₁ c' f?) (ha : c.perform t a = .ok c₁)
    (hc : c₁.including = c.including) : Ends t (a :: ys) c c' f? := by
  have hx : c.performAll t [a] = .ok c₁ := performAll_cons ha
  exact h.after hx hc

/-- What is performed inside a file is performed between following its path and leaving it. -/
theorem Ends.opened (h : t.opening c.including path = .ok (l, rs))
    (hx : Ends t xs (c.enter path l) c' f?) :
    Ends t (.follow path :: (xs ++ [.leave])) c c'.leave f? := by
  have hf := perform_follow h
  cases hx with
  | done hd =>
    refine .done ?_
    rw [performAll_cons hf, performAll_append hd]
    rfl
  | @failed _ before after a _ hy hb ha =>
    have hs : Action.follow path :: (xs ++ [.leave]) =
        (.follow path :: before) ++ a :: (after ++ [.leave]) := by simp [hy]
    have hend := Ends.failed hs ((performAll_cons hf).trans hb) ha
    simpa [leave, enter] using hend

theorem expansion_record (hi : r.included? source = none) (reading : List Location) :
    Work.expansion t reading (.records source (r :: rs)) =
      .record source r :: Work.expansion t reading (.records source rs) := by
  simp [Work.expansion, Record.expansion, hi]

theorem expansion_follow (hi : r.included? source = some path) (reading : List Location) :
    Work.expansion t reading (.records source (r :: rs)) =
      t.expansion reading path ++ Work.expansion t reading (.records source rs) := by
  simp [Work.expansion, Record.expansion, hi]

/-- A load performs the expansion of its work. -/
theorem Loads.ends (h : Loads t w c c' f?) : Ends t (w.expansion t c.including) c c' f? := by
  induction h with
  | refused ha =>
    rw [Work.expansion, FileTree.expansion_refused ha]
    exact .failed (List.nil_append _).symm rfl (perform_follow_refused ha)
  | opened ha _ ih =>
    rw [Work.expansion, FileTree.expansion_opened ha]
    exact ih.opened ha
  | nil => exact .done rfl
  | @skip _ c _ _ _ _ hd _ ih =>
    obtain ⟨hi, hr⟩ := register_skip hd c
    rw [expansion_record hi]
    exact ih.cons (perform_record hr) rfl
  | @add _ c _ _ _ d _ hd _ ih =>
    obtain ⟨hi, hr⟩ := register_add hd c
    rw [including_add] at ih
    rw [expansion_record hi]
    exact ih.cons (perform_record hr) (including_add c d)
  | @reject _ c _ _ _ hd =>
    obtain ⟨hi, hr⟩ := register_reject hd c
    rw [expansion_record hi]
    exact .failed (List.nil_append _).symm rfl hr
  | @follow _ _ c _ _ _ _ _ hd hf _ ihf ih =>
    obtain ⟨hi, -⟩ := register_follow hd c
    rw [hf.including_eq] at ih
    rw [expansion_follow hi]
    cases ihf with
    | done hp => exact ih.after hp hf.including_eq
  | @stop _ _ c _ _ _ _ hd _ ih =>
    obtain ⟨hi, -⟩ := register_follow hd c
    rw [expansion_follow hi]
    exact Ends.stop ih _

/-- Loading a file inlines its includes where they stand. Without a failure every action of the
expansion is performed; otherwise those before the first that fails. -/
theorem loadFile_performs_expansion (t : FileTree) (path : String) (c : Catalogue)
    (hc : c.including = []) :
    ((loadFile t path c).failure? = none →
      c.performAll t (t.expansion [] path) = .ok (loadFile t path c).catalogue ∧
      Extends (t.expansion [] path) c (loadFile t path c).catalogue) ∧
    ∀ f, (loadFile t path c).failure? = some f →
      ∃ before a after c₁, t.expansion [] path = before ++ a :: after ∧
        c.performAll t before = .ok c₁ ∧ c₁.perform t a = .error f ∧
        Extends before c (loadFile t path c).catalogue := by
  have h := (loads_file t path c).ends
  generalize (loadFile t path c).catalogue = c' at h ⊢
  generalize (loadFile t path c).failure? = f? at h ⊢
  rw [hc, Work.expansion] at h
  cases h with
  | done hd => exact ⟨fun _ => ⟨hd, performAll_extends hd⟩, by simp⟩
  | @failed c₁ before after a f hs hb ha =>
    refine ⟨by simp, ?_⟩
    intro f' hf
    obtain rfl := Option.some.inj hf
    exact ⟨before, a, after, c₁, hs, hb, ha, (performAll_extends hb).withIncluding _⟩

/-- A file that includes its neighbour in a directory of their own, where the root has none of the
neighbour's name, and one that includes a missing file. -/
def nestedFiles : FileTree where
  entries := [
    (["all.defs"], .file "(object A (c-name A))(include \"x/b.defs\")(object D (c-name D))".toUTF8),
    (["x"], .directory),
    (["x", "b.defs"], .file "(include \"c.defs\")(object B (c-name B))".toUTF8),
    (["x", "c.defs"], .file "(object C (c-name C))".toUTF8),
    (["gap.defs"], .file "(include \"x/c.defs\")(include \"x/e.defs\")".toUTF8)]
  current := []

/-- What a file names is looked for beside the file, so the neighbour is read as that of the
directory. -/
theorem loadFile_performs_nested_expansion :
    (loadFile nestedFiles "all.defs" empty).catalogue.sources =
      ["all.defs", "x/b.defs", "x/c.defs"] ∧
    (loadFile nestedFiles "all.defs" empty).catalogue.cNames = ["A", "C", "B", "D"] ∧
    (empty.performAll nestedFiles (nestedFiles.expansion [] "all.defs") =
        .ok (loadFile nestedFiles "all.defs" empty).catalogue ∧
      Extends (nestedFiles.expansion [] "all.defs") empty
        (loadFile nestedFiles "all.defs" empty).catalogue) ∧
    (loadFile nestedFiles "gap.defs" empty).catalogue.sources = ["gap.defs", "x/c.defs"] ∧
    ∃ before a after c₁, nestedFiles.expansion [] "gap.defs" = before ++ a :: after ∧
      empty.performAll nestedFiles before = .ok c₁ ∧
      c₁.perform nestedFiles a = .error (.access "x/e.defs" .notFound) ∧
      Extends before empty (loadFile nestedFiles "gap.defs" empty).catalogue := by
  have hnone : (loadFile nestedFiles "all.defs" empty).failure? = none := by decide +kernel
  have hgap : (loadFile nestedFiles "gap.defs" empty).failure? =
      some (.access "x/e.defs" .notFound) := by decide +kernel
  exact ⟨by decide +kernel, by decide +kernel,
    (loadFile_performs_expansion nestedFiles "all.defs" empty rfl).1 hnone, by decide +kernel,
    (loadFile_performs_expansion nestedFiles "gap.defs" empty rfl).2 _ hgap⟩

end Catalogue
end DefsGlue
