import DefsGlue.Catalogue.Listing
import DefsGlue.Proofs.Glue.Restriction

/-! The listing of an object and its bundle tell of the same constructor and the same methods. In
the bundle, those with a variable number of arguments stand apart from the others. -/
namespace DefsGlue

variable {σ : Type} [Strategies σ]

theorem Entrypoint.cName_of_fragment {r : Registry σ} {e : Entrypoint} {fragment : Fragment}
    (h : e.fragment r = .ok fragment) : fragment.cName = e.cName :=
  (fragment_tells h).1

namespace Catalogue

variable {c : Catalogue} {o : ObjectType} {f : NativeFunction} {name missing : String}

theorem isConstructor_of_constructorOf (h : c.constructorOf? o = some f) :
    f.isConstructor = true := by
  unfold constructorOf? at h
  have htarget := List.find?_some h
  cases hf : f.constructs? with
  | none => simp [hf] at htarget
  | some target => simp [NativeFunction.isConstructor, hf]

theorem listing_unknown_iff : c.listing (some name) = .error (.unknownObject missing) ↔
    c.object? name = none ∧ name = missing := by
  cases ho : c.object? name <;> simp [listing, requireObject, ho]

/-- The line of an object with a constructor and methods of the given names, and a line for each of
the methods. -/
def overview (c : Catalogue) (o : ObjectType) (constructor? : Option String)
    (methods : List String) : String :=
  "  " ++ o.cName ++ c.parentNote o ++
    (match constructor? with
      | some constructor => ", new " ++ constructor
      | none => ", no constructor") ++
    ", " ++ toString methods.length ++ " method(s)\n" ++
    String.join (methods.map fun m => "    " ++ m ++ "\n")

theorem listing_of_object (ho : c.object? name = some o) : c.listing (some name) =
    .ok (c.overview o ((c.constructorOf? o).map (·.cName)) ((c.methodsOf o).map (·.cName))) := by
  cases hf : c.constructorOf? o <;>
    simp [listing, requireObject, ho, objectListing, objectEntry, constructorNote, hf, overview,
      Function.comp_def]

end Catalogue

namespace Bundle

/-- A bundle of methods alone. Its fragments and the names left out make up all their names. -/
structure OfMethods (names : List String) (b : Bundle) : Prop where
  roles : ∀ f ∈ b.callables, f.role = .method
  names : Interleaves (fun made : Bool => if made then b.callables.map Fragment.cName
    else b.skipped) names

/-- A bundle of a constructor, if there is one, and methods. The constructor comes first, among the
fragments or, with a variable number of arguments, among the names left out. -/
inductive OfObject (names : List String) : Option NativeFunction → Bundle → Prop
  | bare {b : Bundle} : OfMethods names b → OfObject names none b
  | made {f : NativeFunction} {fragment : Fragment} {b : Bundle} : f.variadic = false →
      fragment.cName = f.cName → fragment.role = .constructor → OfMethods names b →
      OfObject names (some f) { b with callables := fragment :: b.callables }
  | skipped {f : NativeFunction} {b : Bundle} : f.variadic = true → OfMethods names b →
      OfObject names (some f) { b with skipped := f.cName :: b.skipped }

variable {r : Registry σ} {b : Bundle} {e : Entrypoint} {es : List Entrypoint} {c : Catalogue}
  {ms : List NativeMethod} {o : ObjectType} {name missing : String}

theorem Covers.skip_first (h : Covers r (e :: es) b) (he : e.isVariadic = true) :
    ∃ b', b = { b' with skipped := e.cName :: b'.skipped } ∧ Covers r es b' := by
  obtain ⟨hcallables, hskipped⟩ := h
  have hgenerated : generated (e :: es) = generated es := by simp [generated, he]
  have homitted : omitted (e :: es) = e.cName :: omitted es := by simp [omitted, he]
  rw [hgenerated] at hcallables
  rw [homitted] at hskipped
  exact ⟨{ b with skipped := omitted es }, by rw [← hskipped], hcallables, rfl⟩

theorem Covers.fragment_first (h : Covers r (e :: es) b) (he : e.isVariadic = false) :
    ∃ fragment b', b = { b' with callables := fragment :: b'.callables } ∧
      e.fragment r = .ok fragment ∧ Covers r es b' := by
  obtain ⟨sources, callables, skipped⟩ := b
  obtain ⟨hcallables, hskipped⟩ := h
  have hgenerated : generated (e :: es) = e :: generated es := by simp [generated, he]
  have homitted : omitted (e :: es) = omitted es := by simp [omitted, he]
  rw [hgenerated] at hcallables
  rw [homitted] at hskipped
  cases hcallables with
  | @cons _ fragment _ fragments hfirst hrest =>
    exact ⟨fragment, ⟨sources, fragments, skipped⟩, rfl, hfirst.1, hrest, hskipped⟩

/-- The names of what is covered are those of the fragments and those left out, each in order. -/
theorem Covers.interleaves (h : Covers r es b) :
    Interleaves (fun made : Bool => if made then b.callables.map Fragment.cName else b.skipped)
      (es.map Entrypoint.cName) := by
  have hmade : (generated es).map Entrypoint.cName = b.callables.map Fragment.cName := by
    rw [← List.forall₂_eq_eq_eq, List.forall₂_map_left_iff, List.forall₂_map_right_iff]
    exact h.callables.imp fun _ _ hf => (Entrypoint.cName_of_fragment hf.1).symm
  refine ⟨es.map fun e => (!e.isVariadic, e.cName), by simp [Function.comp_def], ?_⟩
  intro made
  cases made with
  | true => simp [← hmade, generated, List.filter_map, Function.comp_def]
  | false => simp [h.skipped, omitted, List.filter_map, Function.comp_def]

theorem Covers.ofMethods (h : Covers r (ms.map .method) b) :
    OfMethods (ms.map (·.cName)) b where
  roles := by
    intro fragment hf
    obtain ⟨e, he, hmade⟩ := h.exists_entrypoint hf
    obtain ⟨m, -, rfl⟩ := List.mem_map.mp he
    exact Entrypoint.role_of_fragment hmade
  names := by
    have hnames := h.interleaves
    rwa [List.map_map] at hnames

theorem ofObject_of_generate (ho : c.object? name = some o)
    (h : (generate c r (some name)).2 = .ok b) :
    OfObject ((c.methodsOf o).map (·.cName)) (c.constructorOf? o) b := by
  rw [generate_some ho] at h
  have hcovers := (addAll_covers h).2
  unfold Catalogue.entrypointsOf at hcovers
  cases hf : c.constructorOf? o with
  | none =>
    rw [hf] at hcovers
    exact .bare hcovers.ofMethods
  | some f =>
    rw [hf] at hcovers
    change Covers r (.function f :: (c.methodsOf o).map .method) b at hcovers
    cases hv : f.variadic with
    | true =>
      obtain ⟨b', rfl, hmethods⟩ := hcovers.skip_first hv
      exact .skipped hv hmethods.ofMethods
    | false =>
      obtain ⟨fragment, b', rfl, hmade, hmethods⟩ := hcovers.fragment_first hv
      have hrole : (Entrypoint.function f).role = .constructor := by
        simp [Entrypoint.role, Catalogue.isConstructor_of_constructorOf hf]
      exact .made hv (Entrypoint.cName_of_fragment hmade)
        ((Entrypoint.role_of_fragment hmade).trans hrole) hmethods.ofMethods

theorem generate_unknown_iff : (generate c r (some name)).2 = .error (.unknownObject missing) ↔
    c.object? name = none ∧ name = missing := by
  cases ho : c.object? name with
  | none => simp [generate_unknown ho]
  | some o =>
    -- Any other failure is that of a callable.
    rw [generate_some ho]
    refine iff_of_false ?_ (by simp)
    intro h
    obtain ⟨-, e, -, -, -, -, hfail⟩ := addAll_error h
    obtain ⟨fault, hfault⟩ := Entrypoint.fragment_error hfail
    cases hfault

/-- The listing and the bundle of one object are refused for the same names. Otherwise the listing
tells of a constructor and of methods, and the bundle holds just these. -/
theorem listing_describes_bundle (c : Catalogue) (r : Registry σ) (name : String) :
    (∀ missing, c.listing (some name) = .error (.unknownObject missing) ↔
      (generate c r (some name)).2 = .error (.unknownObject missing)) ∧
    ∀ b, (generate c r (some name)).2 = .ok b →
      ∃ (o : ObjectType) (constructor? : Option NativeFunction) (methods : List String),
        c.FirstNamed name o ∧
        c.listing (some name) = .ok (c.overview o (constructor?.map (·.cName)) methods) ∧
        OfObject methods constructor? b := by
  constructor
  · intro missing
    rw [Catalogue.listing_unknown_iff, generate_unknown_iff]
  · intro b hb
    cases ho : c.object? name with
    | none =>
      rw [generate_unknown ho] at hb
      cases hb
    | some o =>
      exact ⟨o, _, _, Catalogue.object?_eq_some_iff.mp ho, Catalogue.listing_of_object ho,
        ofObject_of_generate ho hb⟩

/-- Two modules with an object of one name. Two constructors make the first, and the one that counts
takes a variable number of arguments; so does one of the methods. -/
def dialogCatalogue : Catalogue :=
  Catalogue.empty
    |>.add (.method ⟨⟨"run", "gtk_dialog_run", none, [], false⟩, ⟨"Dialog", some "Gtk"⟩⟩)
    |>.add (.object ⟨"Dialog", some "Gtk", some "Window", some "Gtk", "GtkDialog", []⟩)
    |>.add (.object ⟨"Dialog", some "Gdk", none, none, "GdkDialog", []⟩)
    |>.add (.object ⟨"Button", some "Gtk", some "Dialog", none, "GtkButton", []⟩)
    |>.add (.function ⟨⟨"dialog", "dialog_with", none, [], true⟩, some "Dialog"⟩)
    |>.add (.function ⟨⟨"gtk_dialog_new", "gtk_dialog_new", none, [], false⟩, some "GtkDialog"⟩)
    |>.add (.function ⟨⟨"gtk_button_new", "gtk_button_new", none, [], false⟩, some "GtkButton"⟩)
    |>.add (.method ⟨⟨"hide", "gdk_dialog_hide", none, [], false⟩, ⟨"Dialog", some "Gdk"⟩⟩)
    |>.add (.method ⟨⟨"add", "gtk_dialog_add", none, [], true⟩, ⟨"Dialog", some "Gtk"⟩⟩)
    |>.add (.method ⟨⟨"hide", "gtk_dialog_hide", none, [], false⟩, ⟨"Dialog", some "Gtk"⟩⟩)

/-- The constructor is listed, and left out of the bundle in front of the method. An object without
methods has its constructor as the one fragment. -/
theorem listing_describes_dialog_bundle :
    (dialogCatalogue.listing (some "Window") = .error (.unknownObject "Window") ∧
      (generate dialogCatalogue .builtin (some "Window")).2 = .error (.unknownObject "Window")) ∧
    (∃ b o constructor? methods,
      (generate dialogCatalogue .builtin (some "Dialog")).2 = .ok b ∧
      b.callables.map Fragment.cName = ["gtk_dialog_run", "gtk_dialog_hide"] ∧
      b.skipped = ["dialog_with", "gtk_dialog_add"] ∧ OfObject methods constructor? b ∧
      dialogCatalogue.overview o (constructor?.map (·.cName)) methods =
        "  GtkDialog : GtkWindow (undefined), new dialog_with, 3 method(s)\n" ++
          "    gtk_dialog_run\n    gtk_dialog_add\n    gtk_dialog_hide\n") ∧
    ∃ b o constructor? methods,
      (generate dialogCatalogue .builtin (some "GtkButton")).2 = .ok b ∧
      b.callables.map Fragment.cName = ["gtk_button_new"] ∧ b.skipped = [] ∧
      OfObject methods constructor? b ∧
      dialogCatalogue.overview o (constructor?.map (·.cName)) methods =
        "  GtkButton : GtkDialog, new gtk_button_new, 0 method(s)\n" := by
  have hdialog : (fun b => (b.callables.map Fragment.cName, b.skipped)) <$>
      (generate dialogCatalogue .builtin (some "Dialog")).2 =
        .ok (["gtk_dialog_run", "gtk_dialog_hide"], ["dialog_with", "gtk_dialog_add"]) := by
    decide +kernel
  have hbutton : (fun b => (b.callables.map Fragment.cName, b.skipped)) <$>
      (generate dialogCatalogue .builtin (some "GtkButton")).2 =
        .ok (["gtk_button_new"], []) := by decide +kernel
  have hdialogText : dialogCatalogue.listing (some "Dialog") =
      .ok ("  GtkDialog : GtkWindow (undefined), new dialog_with, 3 method(s)\n" ++
        "    gtk_dialog_run\n    gtk_dialog_add\n    gtk_dialog_hide\n") := by decide +kernel
  have hbuttonText : dialogCatalogue.listing (some "GtkButton") =
      .ok "  GtkButton : GtkDialog, new gtk_button_new, 0 method(s)\n" := by decide +kernel
  have hwindow : dialogCatalogue.listing (some "Window") = .error (.unknownObject "Window") := by
    decide +kernel
  obtain ⟨hrefused, -⟩ := listing_describes_bundle dialogCatalogue .builtin "Window"
  refine ⟨⟨hwindow, (hrefused _).mp hwindow⟩, ?_, ?_⟩
  · obtain ⟨b, hb, hnames⟩ := exists_of_map_ok hdialog
    obtain ⟨hcallables, hskipped⟩ := Prod.mk.inj hnames
    obtain ⟨-, hsame⟩ := listing_describes_bundle dialogCatalogue .builtin "Dialog"
    obtain ⟨o, constructor?, methods, -, htext, hof⟩ := hsame b hb
    exact ⟨b, o, constructor?, methods, hb, hcallables, hskipped, hof,
      Except.ok.inj (htext.symm.trans hdialogText)⟩
  · obtain ⟨b, hb, hnames⟩ := exists_of_map_ok hbutton
    obtain ⟨hcallables, hskipped⟩ := Prod.mk.inj hnames
    obtain ⟨-, hsame⟩ := listing_describes_bundle dialogCatalogue .builtin "GtkButton"
    obtain ⟨o, constructor?, methods, -, htext, hof⟩ := hsame b hb
    exact ⟨b, o, constructor?, methods, hb, hcallables, hskipped, hof,
      Except.ok.inj (htext.symm.trans hbuttonText)⟩

end Bundle
end DefsGlue
