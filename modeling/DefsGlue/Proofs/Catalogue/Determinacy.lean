import DefsGlue.Proofs.Catalogue.Loading

/-! A load has one end: its work, the tree of files and the catalogue it starts from decide what it
leaves and whether it fails. So whatever follows the rules of loading is what loading does. -/
namespace DefsGlue.Catalogue

variable {t : FileTree} {path source : String} {c c' d' : Catalogue} {w : Work} {r : Record}
  {rs : List Record} {f? g? : Option Failure}

/-- What loading a file can do. -/
theorem loads_file_cases (h : Loads t (.file path) c c' f?) :
    (∃ f, t.opening c.including path = .error f ∧ c' = c ∧ f? = some f) ∨
      ∃ l rs c₁, t.opening c.including path = .ok (l, rs) ∧
        Loads t (.records path rs) (c.enter path l) c₁ f? ∧ c' = c₁.leave := by
  cases h with
  | refused ha => exact .inl ⟨_, ha, rfl, rfl⟩
  | opened ha hl => exact .inr ⟨_, _, _, ha, hl, rfl⟩

/-- What loading records can do, by the directive of the first. -/
theorem loads_cons_cases (h : Loads t (.records source (r :: rs)) c c' f?) :
    match Directive.ofRecord source r with
    | .skip => Loads t (.records source rs) c c' f?
    | .add d => Loads t (.records source rs) (c.add d) c' f?
    | .reject f => c' = c ∧ f? = some f
    | .follow path =>
      (∃ c₁, Loads t (.file path) c c₁ none ∧ Loads t (.records source rs) c₁ c' f?) ∨
        ∃ f, Loads t (.file path) c c' (some f) ∧ f? = some f := by
  cases h with
  | skip hd hl => rwa [hd]
  | add hd hl => rwa [hd]
  | reject hd =>
    rw [hd]
    exact ⟨rfl, rfl⟩
  | follow hd hf hl =>
    rw [hd]
    exact .inl ⟨_, hf, hl⟩
  | stop hd hf =>
    rw [hd]
    exact .inr ⟨_, hf, rfl⟩

theorem Loads.unique (h : Loads t w c c' f?) (h' : Loads t w c d' g?) : d' = c' ∧ g? = f? := by
  induction h generalizing d' g? with
  | refused ha =>
    rcases loads_file_cases h' with ⟨f, hb, rfl, rfl⟩ | ⟨_, _, _, hb, -⟩
    · obtain rfl := Except.error.inj (ha.symm.trans hb)
      exact ⟨rfl, rfl⟩
    · cases ha.symm.trans hb
  | opened ha _ ih =>
    rcases loads_file_cases h' with ⟨f, hb, -⟩ | ⟨_, _, _, hb, hl, rfl⟩
    · cases ha.symm.trans hb
    · obtain ⟨rfl, rfl⟩ := Prod.mk.inj (Except.ok.inj (ha.symm.trans hb))
      obtain ⟨rfl, rfl⟩ := ih hl
      exact ⟨rfl, rfl⟩
  | nil =>
    cases h'
    exact ⟨rfl, rfl⟩
  | skip hd _ ih =>
    have hrest := loads_cons_cases h'
    rw [hd] at hrest
    exact ih hrest
  | add hd _ ih =>
    have hrest := loads_cons_cases h'
    rw [hd] at hrest
    exact ih hrest
  | reject hd =>
    have hrest := loads_cons_cases h'
    rw [hd] at hrest
    exact hrest
  | follow hd _ _ ihf ih =>
    have hrest := loads_cons_cases h'
    rw [hd] at hrest
    rcases hrest with ⟨c₂, hfile, hrest⟩ | ⟨f, hfile, -⟩
    · obtain ⟨rfl, -⟩ := ihf hfile
      exact ih hrest
    · cases (ihf hfile).2
  | stop hd _ ih =>
    have hrest := loads_cons_cases h'
    rw [hd] at hrest
    rcases hrest with ⟨c₂, hfile, -⟩ | ⟨f, hfile, rfl⟩
    · cases (ih hfile).2
    · exact ih hfile

/-- Loading ends as any derivation of the relation says. -/
theorem load_of_loads (h : Loads t w c c' f?) :
    (load t w c rfl).catalogue = c' ∧ (load t w c rfl).failure? = f? :=
  h.unique (loads_load t w c)

end DefsGlue.Catalogue
