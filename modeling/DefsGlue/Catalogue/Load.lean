import DefsGlue.Catalogue.Basic
import DefsGlue.Catalogue.Directive

/-!
Loading definition files into a catalogue. An include is loaded where it stands, before the records
that follow it. A load that fails keeps what was registered before the failure.

The files being read form a stack. A file on the stack is never entered again, so the files of the
tree that are not on it become fewer with each include, and loading ends.
-/

namespace DefsGlue

namespace FileTree

/-- The entries of a tree that are not on a stack. -/
def unread (t : FileTree) (stack : List Location) : Nat :=
  (t.entries.filter fun e => decide (e.1 ∉ stack)).length

theorem unread_append_lt {t : FileTree} {stack : List Location} {l : Location}
    (hl : ∃ e ∈ t.entries, e.1 = l) (hs : l ∉ stack) :
    t.unread (stack ++ [l]) < t.unread stack := by
  obtain ⟨e, he, rfl⟩ := hl
  have hsplit : t.entries.filter (fun x => decide (x.1 ∉ stack ++ [e.1])) =
      (t.entries.filter fun x => decide (x.1 ∉ stack)).filter fun x => x.1 != e.1 := by
    rw [List.filter_filter]
    refine List.filter_congr fun x _ => ?_
    by_cases hx : x.1 ∈ stack <;> by_cases hxe : x.1 = e.1 <;> simp [hx, hxe]
  rw [unread, hsplit]
  exact List.length_filter_lt_length_iff_exists.mpr ⟨e, by simp [he, hs], by simp⟩

end FileTree

namespace Catalogue

/-- The end of a load: the catalogue it leaves and the failure that stopped it, if one did. The
files being read are afterwards those of before. -/
structure Outcome (stack : List Location) where
  catalogue : Catalogue
  failure? : Option Failure
  including_eq : catalogue.including = stack

namespace Outcome

def cast {s₁ s₂ : List Location} (o : Outcome s₁) (h : s₁ = s₂) : Outcome s₂ :=
  ⟨o.catalogue, o.failure?, o.including_eq.trans h⟩

end Outcome

/-- Loads the records of the file that `source` spells, up to the first that fails. Files that they
include are loaded by `load`, which keeps the stack. -/
def loadRecords {stack : List Location}
    (load : String → (c : Catalogue) → c.including = stack → Outcome stack) (source : String) :
    List Record → (c : Catalogue) → c.including = stack → Outcome stack
  | [], c, hc => ⟨c, none, hc⟩
  | r :: rs, c, hc =>
    match Directive.ofRecord source r with
    | .skip => loadRecords load source rs c hc
    | .add d => loadRecords load source rs (c.add d) (by simpa using hc)
    | .reject f => ⟨c, some f, hc⟩
    | .follow path =>
      let inner := load path c hc
      match inner.failure? with
      | some _ => inner
      | none => loadRecords load source rs inner.catalogue inner.including_eq

/-- Loads a file by its path, unless it is being read already. -/
def loadFile (t : FileTree) (path : String) (c : Catalogue) : Outcome c.including :=
  match t.locate path with
  | .error fault => ⟨c, some (.access path fault), rfl⟩
  | .ok l =>
    if hs : l ∈ c.including then ⟨c, some (.includeCycle path), rfl⟩
    else
      match ht : t.textAt l with
      | .error fault => ⟨c, some (.access path fault), rfl⟩
      | .ok text =>
        match Record.read text with
        | .error e => ⟨c, some (.records path e), rfl⟩
        | .ok rs =>
          let load := fun p (d : Catalogue) (hd : d.including = c.including ++ [l]) =>
            (loadFile t p d).cast hd
          let inner := loadRecords load path rs (c.enter path l) rfl
          ⟨inner.catalogue.leave, inner.failure?, by simp [leave, inner.including_eq]⟩
termination_by t.unread c.including
decreasing_by
  rw [hd]
  exact FileTree.unread_append_lt (FileTree.mem_of_textAt ht) hs

/-- Loads a text that does not stand in a file; its includes are found as if it did. -/
def loadText (t : FileTree) (text source : String) (c : Catalogue) : Outcome c.including :=
  match Record.read text with
  | .error e => ⟨c, some (.records source e), rfl⟩
  | .ok rs => loadRecords (fun p d hd => (loadFile t p d).cast hd) source rs c rfl

end Catalogue
end DefsGlue
