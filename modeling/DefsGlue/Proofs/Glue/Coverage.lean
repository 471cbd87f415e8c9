import DefsGlue.Proofs.Catalogue.Index
import DefsGlue.Proofs.Glue.Parts

/-! A bundle covers every callable once: with a fragment, or with its name among those left out.
What the strategies of the registry do at a call site does not matter to this. -/
namespace DefsGlue

variable {σ : Type} [Strategies σ]

/-- A fragment tells of the callable that it was asked for. -/
theorem Fragment.assemble_ok {r : Registry σ} {f : Callable} {role : Role} {owner? : Option Owner}
    {fragment : Fragment} (h : assemble r f role owner? = .ok fragment) :
    fragment.cName = f.cName ∧ fragment.role = role ∧
      fragment.ofObject? = owner?.map Owner.type := by
  obtain ⟨⟨format, bound⟩, -, h⟩ := exists_of_bind_ok h
  obtain ⟨⟨form, site⟩, -, h⟩ := exists_of_bind_ok h
  obtain rfl := Except.ok.inj h
  exact ⟨rfl, rfl, rfl⟩

namespace Entrypoint

variable {r : Registry σ} {e : Entrypoint} {fragment : Fragment} {f : Failure} {c : Catalogue}

/-- The fragment of an entry point has its name, its role, and the object that it belongs to. -/
theorem fragment_tells (h : e.fragment r = .ok fragment) :
    fragment.cName = e.cName ∧ fragment.role = e.role ∧
      fragment.ofObject? = e.owner?.map Owner.type := by
  rw [fragment_make, Fragment.make] at h
  split at h
  · next hmade =>
    obtain rfl := Except.ok.inj h
    exact Fragment.assemble_ok hmade
  · cases h

theorem role_of_fragment (h : e.fragment r = .ok fragment) : fragment.role = e.role :=
  (fragment_tells h).2.1

/-- An entry point fails under its own name. -/
theorem fragment_error (h : e.fragment r = .error f) : ∃ fault, f = .generate e.cName fault := by
  rw [fragment_make, Fragment.make] at h
  split at h
  · cases h
  · next fault _ => exact ⟨fault, (Except.error.inj h).symm⟩

theorem role_of_constructor (hc : c.Indexed) {g : NativeFunction} (hg : g ∈ c.constructors) :
    (function g).role = .constructor := by
  simp [role, NativeFunction.isConstructor, hc.constructors g hg]

theorem role_of_function (hc : c.Indexed) {g : NativeFunction} (hg : g ∈ c.functions) :
    (function g).role = .function := by
  simp [role, NativeFunction.isConstructor, hc.functions g hg]

end Entrypoint

namespace Catalogue

/-- Constructors come first, then other functions, then methods. -/
theorem entrypoints_roles {c : Catalogue} (hc : c.Indexed) : c.entrypoints.map Entrypoint.role =
    List.replicate c.constructors.length .constructor ++
      List.replicate c.functions.length .function ++ List.replicate c.methods.length .method := by
  have hmethods : ∀ m ∈ c.methods, (Entrypoint.method m).role = .method := fun _ _ => rfl
  simp only [entrypoints, List.map_append, List.map_map, Function.comp_def]
  rw [List.map_eq_replicate_iff.mpr fun _ hf => Entrypoint.role_of_constructor hc hf,
    List.map_eq_replicate_iff.mpr fun _ hf => Entrypoint.role_of_function hc hf,
    List.map_eq_replicate_iff.mpr hmethods]

end Catalogue

namespace Bundle

/-- The entry points that a fragment is made for. -/
def generated (es : List Entrypoint) : List Entrypoint :=
  es.filter fun e => !e.isVariadic

/-- The native names of the entry points that are left out. -/
def omitted (es : List Entrypoint) : List String :=
  (es.filter Entrypoint.isVariadic).map Entrypoint.cName

variable {r : Registry σ} {b : Bundle} {e : Entrypoint} {es : List Entrypoint} {c : Catalogue}
  {f : Failure}

theorem addAll_variadic (he : e.isVariadic = true) :
    (addAll r b (e :: es)).2 = (addAll r (b.skip e.cName) es).2 := by
  simp [addAll, he]

theorem addAll_fragment (he : ¬ e.isVariadic = true) :
    (addAll r b (e :: es)).2 = e.fragment r >>= fun f => (addAll r (b.addFragment f) es).2 := by
  simp only [addAll, he, Bool.false_eq_true, if_false]
  cases e.fragment r <;> rfl

/-- Adding entry points sorts them: those that are left out need not succeed. -/
theorem addAll_eq (r : Registry σ) (b : Bundle) (es : List Entrypoint) :
    (addAll r b es).2 =
      (fun fs => ⟨b.sources, b.callables ++ fs, b.skipped ++ omitted es⟩) <$>
        (generated es).mapM (Entrypoint.fragment r) := by
  induction es generalizing b with
  | nil => simp [addAll, generated, omitted, pure, Except.pure]
  | cons e es ih =>
    by_cases he : e.isVariadic = true
    · rw [addAll_variadic he, ih]
      simp [generated, omitted, he, skip]
    · rw [addAll_fragment he]
      simp [generated, omitted, he, ih, addFragment]

/-- What a bundle holds of entry points: the fragments of those that have one, each in the role of
its entry point, and the names of the others, both in order. -/
structure Covers (r : Registry σ) (es : List Entrypoint) (b : Bundle) : Prop where
  callables : List.Forall₂ (fun e f => e.fragment r = .ok f ∧ f.role = e.role) (generated es)
    b.callables
  skipped : b.skipped = omitted es

theorem mem_generated : e ∈ generated es ↔ e ∈ es ∧ e.isVariadic = false := by
  simp [generated]

theorem addAll_covers {sources : List String} (h : (addAll r ⟨sources, [], []⟩ es).2 = .ok b) :
    b.sources = sources ∧ Covers r es b := by
  rw [addAll_eq] at h
  obtain ⟨fs, hfs, rfl⟩ := exists_of_map_ok h
  refine ⟨rfl, (forall₂_of_mapM hfs).imp ?_, rfl⟩
  intro e f hf
  exact ⟨hf, Entrypoint.role_of_fragment hf⟩

theorem exists_addAll_iff : (∃ b', (addAll r b es).2 = .ok b') ↔
    ∀ e ∈ es, e.isVariadic = false → ∃ f, e.fragment r = .ok f := by
  have hall : (∃ fs, (generated es).mapM (Entrypoint.fragment r) = .ok fs) ↔
      ∀ e ∈ generated es, ∃ f, e.fragment r = .ok f := exists_mapM_iff
  simp only [mem_generated, and_imp] at hall
  rw [← hall, addAll_eq]
  cases (generated es).mapM (Entrypoint.fragment r) <;> simp

/-- The failure is that of the first entry point that fails and is not left out. -/
theorem addAll_error (h : (addAll r b es).2 = .error f) :
    ∃ before e after, es = before ++ e :: after ∧
      (∀ e' ∈ before, e'.isVariadic = false → ∃ f', e'.fragment r = .ok f') ∧
      e.isVariadic = false ∧ e.fragment r = .error f := by
  have hfail : (generated es).mapM (Entrypoint.fragment r) = .error f := by
    rw [addAll_eq] at h
    cases hall : (generated es).mapM (Entrypoint.fragment r) with
    | error f' => simpa [hall] using h
    | ok fs => simp [hall] at h
  -- The entry points that are left out stand somewhere between the others.
  obtain ⟨made, e, rest, hes, hmade, he⟩ := mapM_error_iff.mp hfail
  obtain ⟨front, back, rfl, rfl, hback⟩ := List.filter_eq_append_iff.mp hes
  obtain ⟨between, after, rfl, hbetween, hplain, -⟩ := List.filter_eq_cons_iff.mp hback
  refine ⟨front ++ between, e, after, by simp, ?_, by simpa using hplain, he⟩
  intro e' he' hplain'
  rcases List.mem_append.mp he' with hfront | hout
  · exact hmade e' (mem_generated.mpr ⟨hfront, hplain'⟩)
  · exact absurd (by simp [hplain']) (hbetween e' hout)

/-- The bundle of a catalogue comes about exactly when every callable of fixed length has a
fragment. It then holds these fragments, in their order and roles, and the names of the other
callables; if not, the failure names the first callable that has none. -/
theorem generate_covers_catalogue (hc : c.Reachable) (r : Registry σ) :
    ((∃ b, (generate c r none).2 = .ok b) ↔
      ∀ e ∈ c.entrypoints, e.isVariadic = false → ∃ f, e.fragment r = .ok f) ∧
    (∀ b, (generate c r none).2 = .ok b → b.sources = c.sources ∧ Covers r c.entrypoints b) ∧
    c.entrypoints.map Entrypoint.role =
      List.replicate c.constructors.length .constructor ++
        List.replicate c.functions.length .function ++
          List.replicate c.methods.length .method ∧
    ∀ f, (generate c r none).2 = .error f →
      ∃ before e after fault, c.entrypoints = before ++ e :: after ∧
        (∀ e' ∈ before, e'.isVariadic = false → ∃ f', e'.fragment r = .ok f') ∧
        e.isVariadic = false ∧ e.fragment r = .error f ∧ f = .generate e.cName fault := by
  have hgen : (generate c r none).2 = (addAll r ⟨c.sources, [], []⟩ c.entrypoints).2 := rfl
  rw [hgen]
  refine ⟨exists_addAll_iff, fun b hb => addAll_covers hb,
    Catalogue.entrypoints_roles hc.indexed, ?_⟩
  intro f hf
  obtain ⟨before, e, after, hes, hbefore, he, hfail⟩ := addAll_error hf
  obtain ⟨fault, hfault⟩ := Entrypoint.fragment_error hfail
  exact ⟨before, e, after, fault, hes, hbefore, he, hfail, hfault⟩

/-- A method, a function with a variable number of arguments and a type that is not served, and a
constructor. -/
def mixedCatalogue : Catalogue :=
  Catalogue.empty
    |>.add (.method ⟨⟨"hide", "gtk_widget_hide", none, [], false⟩, ⟨"Widget", some "Gtk"⟩⟩)
    |>.add (.function
      ⟨⟨"g_print", "g_print", none, [⟨"GMystery*", "m", none, false⟩], true⟩, none⟩)
    |>.add (.function
      ⟨⟨"gtk_window_new", "gtk_window_new", some "GtkWidget*", [], false⟩, some "GtkWindow"⟩)

/-- The function is left out whatever its type. Without the type that the constructor returns, the
failure is the constructor's, which comes first. -/
theorem generate_covers_mixed :
    mixedCatalogue.Reachable ∧
    mixedCatalogue.entrypoints.map Entrypoint.role = [.constructor, .function, .method] ∧
    (∃ b, (generate mixedCatalogue (Registry.builtin.addObject "GtkWidget") none).2 = .ok b ∧
      b.skipped = ["g_print"] ∧
      b.callables.map Fragment.cName = ["gtk_window_new", "gtk_widget_hide"] ∧
      Covers (Registry.builtin.addObject "GtkWidget") mixedCatalogue.entrypoints b) ∧
    ∃ f before e after fault, (generate mixedCatalogue .builtin none).2 = .error f ∧
      mixedCatalogue.entrypoints = before ++ e :: after ∧ e.isVariadic = false ∧
      f = .generate e.cName fault ∧ e.cName = "gtk_window_new" := by
  have hc : mixedCatalogue.Reachable := .add _ (.add _ (.add _ .empty))
  obtain ⟨-, hcovers, hroles, -⟩ :=
    generate_covers_catalogue hc (Registry.builtin.addObject "GtkWidget")
  obtain ⟨-, -, -, hfails⟩ := generate_covers_catalogue hc .builtin
  have hok : (fun b => (b.skipped, b.callables.map Fragment.cName)) <$>
      (generate mixedCatalogue (Registry.builtin.addObject "GtkWidget") none).2 =
        .ok (["g_print"], ["gtk_window_new", "gtk_widget_hide"]) := by decide +kernel
  have herror : (generate mixedCatalogue .builtin none).2 =
      .error (.generate "gtk_window_new" (.unknownType "GtkWidget*")) := by decide +kernel
  refine ⟨hc, hroles, ?_, ?_⟩
  · obtain ⟨b, hb, hnames⟩ := exists_of_map_ok hok
    obtain ⟨hskipped, hnames⟩ := Prod.mk.inj hnames
    exact ⟨b, hb, hskipped, hnames, (hcovers b hb).2⟩
  · obtain ⟨before, e, after, fault, hes, -, he, -, hf⟩ := hfails _ herror
    obtain ⟨hname, -⟩ := Failure.generate.inj hf
    exact ⟨_, before, e, after, fault, herror, hes, he, hf, hname.symm⟩

end Bundle
end DefsGlue
