import DefsGlue.File.Output
import DefsGlue.Proofs.Effect

/-! What writing a file does to the tree. Directories may appear on the way, but the only file that
changes is the one written, and only when all succeeds. -/
namespace DefsGlue

/-- A text that does not end in a slash has a last piece that is not empty. -/
theorem splitOn_concat {c : Char} (hc : c ≠ '/') (cs : List Char) :
    ∃ before last, (cs ++ [c]).splitOn '/' = before ++ [last ++ [c]] := by
  induction cs with
  | nil => exact ⟨[], [], by simp [List.splitOn_cons_eq_if_modifyHead, hc]⟩
  | cons x cs ih =>
    obtain ⟨before, last, h⟩ := ih
    rw [List.cons_append, List.splitOn_cons_eq_if_modifyHead, h]
    by_cases hx : x = '/'
    · exact ⟨[] :: before, last, by simp [hx]⟩
    · cases before with
      | nil => exact ⟨[], x :: last, by simp [hx]⟩
      | cons piece before => exact ⟨(x :: piece) :: before, last, by simp [hx]⟩

theorem pieces_of_not_slash {cs : List Char} (hne : cs ≠ []) (hs : cs.getLast? ≠ some '/') :
    ∃ before name, Path.pieces cs = before ++ [name] ∧ name ≠ "" := by
  obtain ⟨cs, c, rfl⟩ := (List.eq_nil_or_concat cs).resolve_left hne
  have hc : c ≠ '/' := by simpa using hs
  obtain ⟨before, last, h⟩ := splitOn_concat hc cs
  refine ⟨before.map .ofList, .ofList (last ++ [c]), ?_, ?_⟩
  · simp [Path.pieces, h]
  · intro hempty
    simpa using congrArg String.toList hempty

namespace FileTree

variable {t t' t'' : FileTree} {l l' here above : Location} {path name : String}
  {ps before : List String} {content : ByteArray}

theorem lookup_cons_ne (e : Entry) (entries : List (Location × Entry)) (h : l' ≠ l) :
    ((l, e) :: entries).lookup l' = entries.lookup l' := by
  have hne : (l' == l) = false := by simpa using h
  simp [List.lookup_cons, hne]

theorem lookup_filter_ne (entries : List (Location × Entry)) (h : l' ≠ l) :
    (entries.filter (·.1 != l)).lookup l' = entries.lookup l' := by
  induction entries with
  | nil => rfl
  | cons x entries ih =>
    obtain ⟨k, e⟩ := x
    by_cases hk : k = l
    · subst hk
      rw [lookup_cons_ne e entries h, ← ih]
      simp
    · simp [List.lookup_cons, ih, hk]

theorem lookup_set (hl : l ≠ []) (e : Entry) (l' : Location) :
    entry? (t.set l e) l' = if l' = l then some e else t.entry? l' := by
  by_cases h : l' = l
  · subst h
    simp [set, entry?, hl]
  · rw [if_neg h, entry?, entry?, set, lookup_cons_ne _ _ h, lookup_filter_ne _ h]

/-- The content of the file at a location, if one stands there. -/
def content? (t : FileTree) (l : Location) : Option ByteArray :=
  match t.entry? l with
  | some (.file content) => some content
  | _ => none

/-- Two trees that hold the same files. Their directories may differ. -/
def SameFiles (t t' : FileTree) : Prop :=
  ∀ l, t'.content? l = t.content? l

theorem SameFiles.refl (t : FileTree) : SameFiles t t := fun _ => rfl

theorem SameFiles.trans (h : SameFiles t t') (h' : SameFiles t' t'') : SameFiles t t'' :=
  fun l => (h' l).trans (h l)

theorem sameFiles_set_directory (hl : l ≠ []) (h : t.entry? l = none) :
    SameFiles t (t.set l .directory) := by
  intro l'
  by_cases hl' : l' = l
  · subst hl'
    simp [content?, lookup_set hl, h]
  · simp [content?, lookup_set hl, hl']

/-- A directory is created only where nothing stands. -/
theorem makeDirectory_ok (h : t.makeDirectory path = .ok t') :
    ∃ l, l ≠ [] ∧ t.entry? l = none ∧ t' = t.set l .directory := by
  obtain ⟨_, -, h⟩ := exists_of_bind_ok h
  split at h
  · cases h
  · next name before _ =>
    obtain ⟨above, -, h⟩ := exists_of_bind_ok h
    obtain ⟨-, h⟩ := of_guard_ok h
    obtain ⟨-, h⟩ := of_guard_ok h
    obtain ⟨hnone, h⟩ := of_guard_ok h
    exact ⟨above ++ [name], by simp, by simpa using hnone, (Except.ok.inj h).symm⟩

theorem sameFiles_makeDirectory (h : t.makeDirectory path = .ok t') : SameFiles t t' := by
  obtain ⟨l, hl, hnone, rfl⟩ := makeDirectory_ok h
  exact sameFiles_set_directory hl hnone

theorem sameFiles_ensureDirectory (t : FileTree) (path : String) :
    SameFiles t (t.ensureDirectory path).tree := by
  unfold ensureDirectory
  split
  · next h => exact sameFiles_makeDirectory h
  · exact SameFiles.refl t

theorem Attempt.sameFiles_andThen {a : Attempt} {next : FileTree → Attempt}
    (h : SameFiles t a.tree) (hnext : ∀ t', SameFiles t' (next t').tree) :
    SameFiles t (a.andThen next).tree := by
  unfold Attempt.andThen
  split
  · exact h.trans (hnext a.tree)
  · exact h

theorem sameFiles_ensureChain (t : FileTree) (paths : List String) :
    SameFiles t (t.ensureChain paths).tree := by
  induction paths with
  | nil => exact SameFiles.refl t
  | cons path above ih =>
    unfold ensureChain
    split
    · exact SameFiles.refl t
    · split
      · exact Attempt.sameFiles_andThen ih fun t' => sameFiles_ensureDirectory t' path
      · exact SameFiles.refl t
      · next h => exact sameFiles_makeDirectory h

/-- A path that a file can be written to: it ends in a name, what comes before the name leads to a
directory, and the name does not stand for a directory in there. -/
structure Writable (t : FileTree) (path : String) (before : List String) (name : String)
    (above : Location) : Prop where
  checked : checkPath path = .ok ()
  pieces : Path.pieces path.toList = before ++ [name]
  walks : t.walk (t.origin path) before = .ok above
  directory : t.isDirectory above = true
  not_idle : Path.isIdle name = false
  not_up : name ≠ ".."
  short : name.utf8ByteSize ≤ nameLimit
  free : t.isDirectory (above ++ [name]) = false

theorem not_empty_of_checkPath (h : checkPath path = .ok ()) : path.toList ≠ [] := by
  obtain ⟨-, h⟩ := of_guard_ok h
  obtain ⟨-, h⟩ := of_guard_ok h
  obtain ⟨hne, -⟩ := of_guard_ok h
  simpa using hne

theorem place_ok (h : t.place path ps = .ok l) :
    t.walk (t.origin path) ps = .ok l ∧ t.isDirectory l = true := by
  obtain ⟨here, hwalk, h⟩ := exists_of_bind_ok h
  split at h
  · next hdir =>
    obtain rfl := Except.ok.inj h
    exact ⟨hwalk, hdir⟩
  · cases h

theorem writable_of_fileLocation (h : t.fileLocation path = .ok l) :
    ∃ before name above, l = above ++ [name] ∧ t.Writable path before name above := by
  obtain ⟨_, hcheck, h⟩ := exists_of_bind_ok h
  split at h
  · cases h
  · next name before hpieces =>
    obtain ⟨above, habove, h⟩ := exists_of_bind_ok h
    obtain ⟨hdots, h⟩ := of_guard_ok h
    obtain ⟨hslash, h⟩ := of_guard_ok h
    obtain ⟨hlimit, h⟩ := of_guard_ok h
    obtain ⟨hdir, h⟩ := of_guard_ok h
    obtain rfl := Except.ok.inj h
    -- Only a slash at the end could leave empty pieces there.
    obtain ⟨front, last, hsplit, hlast⟩ :=
      pieces_of_not_slash (not_empty_of_checkPath hcheck) (by simpa using hslash)
    rw [hsplit, List.reverse_append, List.reverse_singleton, List.singleton_append,
      List.dropWhile_cons_of_neg (by simpa using hlast)] at hpieces
    obtain ⟨rfl, rfl⟩ := List.cons.inj hpieces
    obtain ⟨hwalk, habove⟩ := place_ok habove
    rw [List.reverse_reverse] at hwalk
    simp only [Bool.or_eq_true, beq_iff_eq, not_or] at hdots
    exact ⟨front, last, above, rfl, hcheck, hsplit, hwalk, habove,
      by simp [Path.isIdle, hlast, hdots.1], hdots.2, by omega, by simpa using hdir⟩

theorem isDirectory_set_file (hl : l ≠ []) (h : t.isDirectory l = false) (content : ByteArray)
    (l' : Location) : (t.set l (.file content)).isDirectory l' = t.isDirectory l' := by
  by_cases hl' : l' = l
  · subst hl'
    rw [h, isDirectory, lookup_set hl]
    simp
  · simp [isDirectory, lookup_set hl, hl']

/-- Where no directory stands, a file can be put without a step becoming impossible. -/
theorem step_set_file (hl : l ≠ []) (hfree : t.isDirectory l = false) (content : ByteArray)
    {piece : String} (h : t.step here piece = .ok l') :
    (t.set l (.file content)).step here piece = .ok l' := by
  have hthere : (FileTree.entry? (t.set l (.file content)) (here ++ [piece])).isNone = true →
      (t.entry? (here ++ [piece])).isNone = true := by
    rw [lookup_set hl]
    split <;> simp
  unfold step at h ⊢
  rw [isDirectory_set_file hl hfree]
  split_ifs at h ⊢ <;> simp_all

theorem walk_set_file (hl : l ≠ []) (hfree : t.isDirectory l = false) (content : ByteArray)
    (h : t.walk here ps = .ok l') : (t.set l (.file content)).walk here ps = .ok l' := by
  induction ps generalizing here with
  | nil => exact h
  | cons piece ps ih =>
    obtain ⟨next, hstep, h⟩ := exists_of_bind_ok h
    rw [walk, List.foldlM_cons, step_set_file hl hfree content hstep]
    exact ih h

theorem walk_concat (h : t.walk here ps = .ok l) (piece : String) :
    t.walk here (ps ++ [piece]) = t.step l piece := by
  rw [walk] at h ⊢
  rw [List.foldlM_append, h]
  change List.foldlM t.step l [piece] = _
  simp

/-- Once the file is written the path leads to it. -/
theorem Writable.locate (h : t.Writable path before name above) (content : ByteArray) :
    (t.set (above ++ [name]) (.file content)).locate path = .ok (above ++ [name]) := by
  have hl : above ++ [name] ≠ [] := by simp
  have hbefore := walk_set_file hl h.free content h.walks
  have hname : (t.set (above ++ [name]) (.file content)).step above name =
      .ok (above ++ [name]) := by
    simp [step, isDirectory_set_file hl h.free, h.directory, h.not_idle, h.not_up, lookup_set hl,
      Nat.not_lt.mpr h.short]
  rw [FileTree.locate, h.checked, h.pieces]
  exact (walk_concat hbefore name).trans hname

theorem content?_set_file (hl : l ≠ []) (content : ByteArray) (l' : Location) :
    (t.set l (.file content)).content? l' = if l' = l then some content else t.content? l' := by
  by_cases hl' : l' = l <;> simp [content?, lookup_set hl, hl']

/-- How an attempt to put a content at a path ends: the files are as they were, or the content
stands where the path leads to and no other file has changed. -/
inductive Attempt.Puts (t : FileTree) (path : String) (content : ByteArray) : Attempt → Prop
  | failed {t' : FileTree} {fault : FileFault} : SameFiles t t' →
      Puts t path content ⟨t', some fault⟩
  | done {t' : FileTree} {l : Location} : t'.locate path = .ok l → t'.content? l = some content →
      (∀ l' ≠ l, t'.content? l' = t.content? l') → Puts t path content ⟨t', none⟩

theorem Attempt.Puts.after {a : Attempt} (h : Attempt.Puts t' path content a)
    (hsame : SameFiles t t') : Attempt.Puts t path content a := by
  cases h with
  | failed h => exact .failed (hsame.trans h)
  | done hl hcontent hother =>
    exact .done hl hcontent fun l' hl' => (hother l' hl').trans (hsame l')

theorem writeFile_puts (t : FileTree) (path : String) (content : ByteArray) :
    Attempt.Puts t path content (t.writeFile path content) := by
  unfold writeFile
  split
  · next l h =>
    obtain ⟨before, name, above, rfl, hw⟩ := writable_of_fileLocation h
    have hl : above ++ [name] ≠ [] := by simp
    refine .done (hw.locate content) (by simp [content?_set_file hl]) ?_
    intro l' hl'
    rw [content?_set_file hl, if_neg hl']
  · exact .failed (SameFiles.refl t)

theorem Attempt.puts_andThen {made : Attempt} (h : SameFiles t made.tree) (path : String)
    (content : ByteArray) :
    Attempt.Puts t path content (made.andThen fun t' => t'.writeFile path content) := by
  unfold Attempt.andThen
  split
  · exact (writeFile_puts made.tree path content).after h
  · next fault hf =>
    obtain ⟨t', fault?⟩ := made
    subst hf
    exact .failed h

theorem write_puts (t : FileTree) (path : String) (content : ByteArray) :
    Attempt.Puts t path content (t.write path content) := by
  apply Attempt.puts_andThen
  split
  · exact SameFiles.refl t
  · exact sameFiles_ensureChain t _

end FileTree
end DefsGlue
