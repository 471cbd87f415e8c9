import DefsGlue.Program
import DefsGlue.Proofs.File.Writing

/-! A run is all or nothing. A run that fails shows nothing and changes no file; one that succeeds
puts a complete text in one place. -/
namespace DefsGlue.Program

/-- The catalogue of the input, when all of it loads. -/
def Loaded (o : Options) (t : FileTree) (c : Catalogue) : Prop :=
  let loaded := Catalogue.loadFile t o.input .empty
  loaded.failure? = none ∧ loaded.catalogue = c

/-- The whole text that the options ask for: the listing, or the bundle as a document that ends its
last line. -/
inductive Complete (o : Options) (t : FileTree) : String → Prop
  | listing {c : Catalogue} {text : String} : Loaded o t c → o.summary = true →
      c.listing o.object? = .ok text → Complete o t text
  | bundle {c : Catalogue} {b : Bundle} : Loaded o t c → o.summary = false →
      (Bundle.generate c (Registry.builtin.addCatalogue c) o.object?).2 = .ok b →
      Complete o t (b.toJson.render ++ "\n")

/-- How a run with its options understood ends. -/
inductive Ends (o : Options) (t : FileTree) : Run → Prop
  | failed {f : Failure} {warnings : List Warning} : (∀ text, ¬ Complete o t text) →
      Ends o t ⟨1, "", some f, warnings, t⟩
  | shown {text : String} {warnings : List Warning} : Complete o t text → o.out? = none →
      Ends o t ⟨0, text, none, warnings, t⟩
  | stored {text path : String} {t' : FileTree} {warnings : List Warning} : Complete o t text →
      o.out? = some path → t.write path text.toUTF8 = ⟨t', none⟩ →
      Ends o t ⟨0, "", none, warnings, t'⟩
  | unstored {text path : String} {t' : FileTree} {fault : FileFault} {warnings : List Warning} :
      Complete o t text → o.out? = some path → t.write path text.toUTF8 = ⟨t', some fault⟩ →
      Ends o t ⟨1, "", some (.access path fault), warnings, t'⟩

variable {o : Options} {t : FileTree} {c : Catalogue} {text : String} {r : Run}

theorem compile_of_loaded (h : Loaded o t c) : (compile o t).2 = (render o c).2 := by
  obtain ⟨hnone, rfl⟩ := h
  simp [compile, hnone]

theorem render_listing (h : o.summary = true) : (render o c).2 = c.listing o.object? := by
  simp [render, h]

theorem render_bundle (h : o.summary = false) : (render o c).2 =
    Bundle.render <$> (Bundle.generate c (Registry.builtin.addCatalogue c) o.object?).2 := by
  simp [render, h]

theorem compile_ok_iff : (compile o t).2 = .ok text ↔ Complete o t text := by
  constructor
  · intro h
    have hnone : (Catalogue.loadFile t o.input .empty).failure? = none := by
      cases hf : (Catalogue.loadFile t o.input .empty).failure? with
      | none => rfl
      | some f => simp [compile, hf] at h
    have hl : Loaded o t (Catalogue.loadFile t o.input .empty).catalogue := ⟨hnone, rfl⟩
    rw [compile_of_loaded hl] at h
    by_cases hs : o.summary = true
    · rw [render_listing hs] at h
      exact .listing hl hs h
    · have hs : o.summary = false := by simpa using hs
      rw [render_bundle hs] at h
      obtain ⟨b, hb, rfl⟩ := exists_of_map_ok h
      exact .bundle hl hs hb
  · intro h
    cases h with
    | listing hl hs hc => rw [compile_of_loaded hl, render_listing hs, hc]
    | bundle hl hs hb =>
      rw [compile_of_loaded hl, render_bundle hs, hb]
      rfl

theorem Complete.unique {text' : String} (h : Complete o t text) (h' : Complete o t text') :
    text = text' :=
  Except.ok.inj ((compile_ok_iff.mpr h).symm.trans (compile_ok_iff.mpr h'))

theorem runWith_ends (o : Options) (level? : Option LogLevel) (t : FileTree) :
    Ends o t (runWith o level? t) := by
  unfold runWith
  generalize hc : compile o t = compiled
  obtain ⟨warnings, result⟩ := compiled
  cases result with
  | error f =>
    have hnone : ∀ text, ¬ Complete o t text := by
      intro text h
      have hok := compile_ok_iff.mpr h
      rw [hc] at hok
      cases hok
    exact .failed hnone
  | ok text =>
    have htext : Complete o t text := compile_ok_iff.mp (by rw [hc])
    cases ho : o.out? with
    | none =>
      simp only [deliver, ho]
      exact .shown htext ho
    | some path =>
      simp only [deliver, ho]
      generalize hw : t.write path text.toUTF8 = attempt
      obtain ⟨t', fault?⟩ := attempt
      cases fault? with
      | none => exact .stored htext ho hw
      | some fault => exact .unstored htext ho hw

/-- A run that ends without success shows nothing, and its files are those of before. -/
theorem Ends.nothing (h : Ends o t r) (hr : r.exitCode ≠ 0) :
    r.stdout = "" ∧ t.SameFiles r.tree := by
  cases h with
  | failed _ => exact ⟨rfl, .refl t⟩
  | shown _ _ => exact absurd rfl hr
  | stored _ _ _ => exact absurd rfl hr
  | @unstored text path t' fault _ _ _ hw =>
    have hputs := t.write_puts path text.toUTF8
    rw [hw] at hputs
    cases hputs with
    | failed hsame => exact ⟨rfl, hsame⟩

/-- Where a text has come: to the output, or to the place that the path of a file leads to. -/
structure Delivered (o : Options) (t : FileTree) (text : String) (r : Run) : Prop where
  shown : o.out? = none → r.stdout = text ∧ t.SameFiles r.tree
  stored : ∀ path, o.out? = some path → r.stdout = "" ∧
    ∃ l, r.tree.locate path = .ok l ∧ r.tree.content? l = some text.toUTF8 ∧
      ∀ l' ≠ l, r.tree.content? l' = t.content? l'

theorem Ends.delivered (h : Ends o t r) (hr : r.exitCode = 0) :
    ∃ text, Complete o t text ∧ Delivered o t text r := by
  cases h with
  | failed _ => cases hr
  | unstored _ _ _ => cases hr
  | shown htext ho =>
    refine ⟨_, htext, fun _ => ⟨rfl, .refl t⟩, ?_⟩
    intro path hpath
    cases ho.symm.trans hpath
  | @stored text path t' _ htext ho hw =>
    refine ⟨text, htext, ?_, ?_⟩
    · intro hnone
      cases ho.symm.trans hnone
    · intro path' hpath
      obtain rfl : path = path' := Option.some.inj (ho.symm.trans hpath)
      have hputs := t.write_puts path text.toUTF8
      rw [hw] at hputs
      cases hputs with
      | done hl hcontent hother => exact ⟨rfl, _, hl, hcontent, hother⟩

/-- A run succeeds when its text is complete and, if it goes to a file, can be written. -/
theorem Ends.exitCode_eq_zero_iff (h : Ends o t r) : r.exitCode = 0 ↔
    ∃ text, Complete o t text ∧
      ∀ path, o.out? = some path → (t.write path text.toUTF8).fault? = none := by
  cases h with
  | failed hnone =>
    refine iff_of_false (by simp) ?_
    rintro ⟨text, htext, -⟩
    exact hnone text htext
  | shown htext ho => exact iff_of_true rfl ⟨_, htext, by simp [ho]⟩
  | stored htext ho hw =>
    refine iff_of_true rfl ⟨_, htext, ?_⟩
    intro path' hpath
    obtain rfl := Option.some.inj (ho.symm.trans hpath)
    rw [hw]
  | unstored htext ho hw =>
    refine iff_of_false (by simp) ?_
    rintro ⟨text', htext', hall⟩
    obtain rfl := htext.unique htext'
    have hfault := hall _ ho
    rw [hw] at hfault
    cases hfault

/-- A run that does not succeed shows nothing and changes no file. One that succeeds, other than by
showing the help, has the whole text in one place: on the output with all files as they were, or in
the file that was asked for, with nothing on the output and no other file changed. -/
theorem run_all_or_nothing (args : List String) (level? : Option LogLevel) (t : FileTree) :
    ((run args level? t).exitCode = 0 ↔ Options.parse args = .error .help ∨
      ∃ o text, Options.parse args = .ok o ∧ Complete o t text ∧
        ∀ path, o.out? = some path → (t.write path text.toUTF8).fault? = none) ∧
    ((run args level? t).exitCode ≠ 0 →
      (run args level? t).stdout = "" ∧ t.SameFiles (run args level? t).tree) ∧
    ((run args level? t).exitCode = 0 → Options.parse args ≠ .error .help →
      ∃ o text, Options.parse args = .ok o ∧ Complete o t text ∧
        Delivered o t text (run args level? t)) := by
  unfold run
  cases Options.parse args with
  | error e =>
    cases e with
    | help => exact ⟨by simp, fun hr => absurd rfl hr, fun _ hhelp => absurd rfl hhelp⟩
    | _ => exact ⟨by simp, fun _ => ⟨rfl, .refl t⟩, fun hr => by cases hr⟩
  | ok o =>
    have hends := runWith_ends o level? t
    refine ⟨?_, hends.nothing, fun hr _ => ?_⟩
    · rw [hends.exitCode_eq_zero_iff]
      simp
    · obtain ⟨text, htext, hdelivered⟩ := hends.delivered hr
      exact ⟨o, text, rfl, htext, hdelivered⟩

/-- An input that loads, one that does not, and a file where a directory would be needed. -/
def deskFiles : FileTree where
  entries := [
    (["in.defs"], .file "(function gtk_main (return-type none))".toUTF8),
    (["bad.defs"], .file "(function gtk_main (return-type GtkMystery))".toUTF8),
    (["blocker"], .file "".toUTF8)]
  current := []

/-- A listing is stored with the directories that its path lacks. Where a file stands in the way,
a directory may stay behind but no file, and a bundle that cannot be made leaves no trace. -/
theorem run_all_or_nothing_desk :
    let stored := run ["--summary", "in.defs", "-o", "new/../out/list"] none deskFiles
    let blocked := run ["in.defs", "-o", "new/../blocker/list"] none deskFiles
    let refused := run ["bad.defs", "--out=in.defs"] none deskFiles
    (stored.exitCode = 0 ∧ stored.stdout = "" ∧
      stored.tree.locate "new/../out/list" = .ok ["out", "list"] ∧
      stored.tree.content? ["out", "list"] =
        some "objects (0):\nfunctions (1):\n  gtk_main\nenums (0):\n".toUTF8 ∧
      ∀ l ≠ ["out", "list"], stored.tree.content? l = deskFiles.content? l) ∧
    (blocked.exitCode = 1 ∧ blocked.tree.isDirectory ["new"] = true ∧ blocked.stdout = "" ∧
      deskFiles.SameFiles blocked.tree) ∧
    (refused.exitCode = 1 ∧ refused.stdout = "" ∧ deskFiles.SameFiles refused.tree) := by
  intro stored blocked refused
  have hexit : stored.exitCode = 0 := by decide +kernel
  have hparse : Options.parse ["--summary", "in.defs", "-o", "new/../out/list"] =
      .ok ⟨"in.defs", some "new/../out/list", true, none, false, false⟩ := by decide +kernel
  have hplace : stored.tree.locate "new/../out/list" = .ok ["out", "list"] := by decide +kernel
  have hblocked : blocked.exitCode = 1 := by decide +kernel
  have hrefused : refused.exitCode = 1 := by decide +kernel
  obtain ⟨-, -, hstored⟩ :=
    run_all_or_nothing ["--summary", "in.defs", "-o", "new/../out/list"] none deskFiles
  obtain ⟨-, hnothing, -⟩ :=
    run_all_or_nothing ["in.defs", "-o", "new/../blocker/list"] none deskFiles
  obtain ⟨-, hnothing', -⟩ := run_all_or_nothing ["bad.defs", "--out=in.defs"] none deskFiles
  refine ⟨?_, ⟨hblocked, by decide +kernel, hnothing (by rw [hblocked]; decide)⟩,
    hrefused, hnothing' (by rw [hrefused]; decide)⟩
  obtain ⟨o, text, ho, -, hdelivered⟩ := hstored hexit (by rw [hparse]; simp)
  obtain rfl := Except.ok.inj (hparse.symm.trans ho)
  obtain ⟨hstdout, l, hl, -, hother⟩ := hdelivered.stored _ rfl
  obtain rfl := Except.ok.inj (hplace.symm.trans hl)
  exact ⟨hexit, hstdout, hplace, by decide +kernel, hother⟩

end DefsGlue.Program
