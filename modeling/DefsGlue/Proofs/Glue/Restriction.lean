import DefsGlue.Proofs.Glue.Coverage

/-! The bundle of one object is a part of the bundle of all. It comes from the object's constructor
and its methods, in the order in which they were registered. -/
namespace DefsGlue

/-- Whether an object goes by a name. -/
def ObjectType.Answers (o : ObjectType) (name : String) : Prop :=
  o.name = name ∨ o.cName = name

namespace Catalogue

variable {c : Catalogue} {name : String} {o : ObjectType}

/-- The object is the earliest that goes by the name. -/
def FirstNamed (c : Catalogue) (name : String) (o : ObjectType) : Prop :=
  o.Answers name ∧ ∃ before after, c.objects = before ++ o :: after ∧
    ∀ o' ∈ before, ¬ o'.Answers name

theorem object?_eq_some_iff : c.object? name = some o ↔ c.FirstNamed name o := by
  simp [object?, List.find?_eq_some_iff_append, FirstNamed, ObjectType.Answers]

theorem object?_eq_none_iff : c.object? name = none ↔ ∀ o ∈ c.objects, ¬ o.Answers name := by
  simp [object?, ObjectType.Answers]

/-- The callables of an object are among all, in the same order. -/
theorem entrypointsOf_sublist (c : Catalogue) (o : ObjectType) :
    (c.entrypointsOf o).Sublist c.entrypoints := by
  have hconstructor : (c.constructorOf? o).toList.Sublist c.constructors := by
    cases h : c.constructorOf? o with
    | none => exact List.nil_sublist _
    | some f => exact List.singleton_sublist.mpr (List.mem_of_find?_eq_some h)
  have hmethods : (c.methodsOf o).Sublist c.methods := List.filter_sublist
  apply List.Sublist.append
  · exact (hconstructor.map _).trans (List.sublist_append_left _ _)
  · exact hmethods.map _

theorem methodsOf_eq (c : Catalogue) (o : ObjectType) :
    c.methodsOf o = c.methods.filter fun m => m.owner = ⟨o.name, o.module?⟩ := by
  refine List.filter_congr fun m _ => ?_
  obtain ⟨callable, name, module?⟩ := m
  rw [Bool.eq_iff_iff]
  simp

end Catalogue

namespace Bundle

variable {σ : Type} [Strategies σ] {r : Registry σ} {b : Bundle} {es es' : List Entrypoint}
  {c : Catalogue} {o : ObjectType} {name : String}

/-- Where all entry points can be added, some of them can, and they give a part of the bundle. -/
theorem Covers.restrict (h : Covers r es b) (hs : es'.Sublist es) (sources : List String) :
    ∃ b', (addAll r ⟨sources, [], []⟩ es').2 = .ok b' ∧ b'.callables.Sublist b.callables ∧
      b'.skipped.Sublist b.skipped := by
  have hgenerated : (generated es').Sublist (generated es) := hs.filter _
  obtain ⟨fs, hfs, hmade⟩ := forall₂_of_sublist h.callables hgenerated
  have hm : (generated es').mapM (Entrypoint.fragment r) = .ok fs :=
    mapM_of_forall₂ (hmade.imp fun _ _ hf => hf.1)
  refine ⟨⟨sources, fs, omitted es'⟩, ?_, hfs, ?_⟩
  · rw [addAll_eq, hm]
    rfl
  · rw [h.skipped]
    exact (hs.filter _).map _

theorem Covers.exists_entrypoint {fragment : Fragment} (h : Covers r es b)
    (hf : fragment ∈ b.callables) : ∃ e ∈ es, e.fragment r = .ok fragment := by
  obtain ⟨e, he, hmade, -⟩ := exists_of_forall₂_mem h.callables.flip hf
  exact ⟨e, (mem_generated.mp he).1, hmade⟩

theorem generate_some (h : c.object? name = some o) :
    generate c r (some name) = addAll r ⟨c.sources, [], []⟩ (c.entrypointsOf o) := by
  simp [generate, Catalogue.selected, Catalogue.requireObject, h]

theorem generate_unknown (h : c.object? name = none) :
    (generate c r (some name)).2 = .error (.unknownObject name) := by
  simp [generate, Catalogue.selected, Catalogue.requireObject, h]

/-- What is made for an object is its constructor or one of its methods, and a method's fragment
names the object's type. -/
theorem fragment_of_entrypointsOf {e : Entrypoint} {fragment : Fragment} (hc : c.Indexed)
    (he : e ∈ c.entrypointsOf o) (hf : e.fragment r = .ok fragment) :
    fragment.role ≠ .function ∧
      (fragment.role = .method → fragment.ofObject? = some (qualified o.module? o.name)) := by
  obtain ⟨-, hrole, hof⟩ := Entrypoint.fragment_tells hf
  rw [hrole, hof]
  rcases List.mem_append.mp he with he | he
  · obtain ⟨f, hmem, rfl⟩ := List.mem_map.mp he
    have hf : f ∈ c.constructors := List.mem_of_find?_eq_some (Option.mem_toList.mp hmem)
    simp [Entrypoint.role_of_constructor hc hf]
  · obtain ⟨m, hm, rfl⟩ := List.mem_map.mp he
    rw [Catalogue.methodsOf_eq, List.mem_filter, decide_eq_true_eq] at hm
    simp [Entrypoint.role, Entrypoint.owner?, hm.2, Owner.type]

/-- Where all callables can be bundled, so can those of one object, and only an unknown name fails.
The smaller bundle is a part of the full one, made from at most one constructor and all methods
that belong to the earliest object of the name. -/
theorem generate_object_restricts (hc : c.Reachable) (h : (generate c r none).2 = .ok b)
    (name : String) :
    ((generate c r (some name)).2 = .error (.unknownObject name) ↔
      ∀ o ∈ c.objects, ¬ o.Answers name) ∧
    ((generate c r (some name)).2 = .error (.unknownObject name) ∨
      ∃ o b', c.FirstNamed name o ∧ (generate c r (some name)).2 = .ok b' ∧
        b'.sources = b.sources ∧ b'.callables.Sublist b.callables ∧
        b'.skipped.Sublist b.skipped ∧
        (∃ constructor? : Option NativeFunction, (∀ f ∈ constructor?, f ∈ c.constructors) ∧
          Covers r (constructor?.toList.map .function ++
            (c.methods.filter fun m => m.owner = ⟨o.name, o.module?⟩).map .method) b') ∧
        ∀ f ∈ b'.callables, f.role ≠ .function ∧
          (f.role = .method → f.ofObject? = some (o.module?.getD "" ++ o.name))) := by
  obtain ⟨hsources, hcovers⟩ := addAll_covers h
  cases ho : c.object? name with
  | none =>
    have hnone := Catalogue.object?_eq_none_iff.mp ho
    exact ⟨iff_of_true (generate_unknown ho) hnone, .inl (generate_unknown ho)⟩
  | some o =>
    have hfirst := Catalogue.object?_eq_some_iff.mp ho
    obtain ⟨b', hb', hcallables, hskipped⟩ :=
      hcovers.restrict (c.entrypointsOf_sublist o) c.sources
    obtain ⟨hsources', hcovers'⟩ := addAll_covers hb'
    rw [generate_some ho, hb']
    constructor
    · refine iff_of_false (by simp) fun hnone => ?_
      obtain ⟨ha, before, after, hsplit, -⟩ := hfirst
      exact hnone o (by simp [hsplit]) ha
    · refine .inr ⟨o, b', hfirst, rfl, hsources'.trans hsources.symm, hcallables, hskipped,
        ⟨c.constructorOf? o, fun f hf => List.mem_of_find?_eq_some hf, ?_⟩, ?_⟩
      · rw [← c.methodsOf_eq o]
        exact hcovers'
      · intro f hf
        obtain ⟨e, he, hmade⟩ := hcovers'.exists_entrypoint hf
        exact fragment_of_entrypointsOf hc.indexed he hmade

/-- Two objects of one name in different modules, each with methods, and a free function. -/
def windowCatalogue : Catalogue :=
  Catalogue.empty
    |>.add (.object ⟨"Window", some "Gtk", none, none, "GtkWindow", []⟩)
    |>.add (.object ⟨"Window", some "Gdk", none, none, "GdkWindow", []⟩)
    |>.add (.method ⟨⟨"set", "gtk_window_set", none, [], true⟩, ⟨"Window", some "Gtk"⟩⟩)
    |>.add (.method ⟨⟨"raise", "gdk_window_raise", none, [], false⟩, ⟨"Window", some "Gdk"⟩⟩)
    |>.add (.method ⟨⟨"show", "gtk_window_show", none, [], false⟩, ⟨"Window", some "Gtk"⟩⟩)
    |>.add (.function ⟨⟨"gtk_main", "gtk_main", none, [], false⟩, none⟩)
    |>.add (.function ⟨⟨"gtk_window_new", "gtk_window_new", none, [], false⟩, some "GtkWindow"⟩)

/-- The name of both objects stands for the first, and a name that none goes by is refused. -/
theorem generate_object_restricts_window :
    windowCatalogue.Reachable ∧
    ∃ b, (generate windowCatalogue .builtin none).2 = .ok b ∧
      (∀ o ∈ windowCatalogue.objects, ¬ o.Answers "Button") ∧
      ∃ o b', windowCatalogue.FirstNamed "Window" o ∧
        (generate windowCatalogue .builtin (some "Window")).2 = .ok b' ∧
        b'.callables.Sublist b.callables ∧ b'.skipped.Sublist b.skipped ∧
        b'.callables.map (fun f => (f.cName, f.role, f.ofObject?)) =
          [("gtk_window_new", .constructor, none), ("gtk_window_show", .method, some "GtkWindow")] ∧
        b'.skipped = ["gtk_window_set"] ∧
        ∀ f ∈ b'.callables, f.role ≠ .function ∧
          (f.role = .method → f.ofObject? = some (o.module?.getD "" ++ o.name)) := by
  have hc : windowCatalogue.Reachable :=
    .add _ (.add _ (.add _ (.add _ (.add _ (.add _ (.add _ .empty))))))
  have hall : (fun b => b.callables.map Fragment.cName) <$>
      (generate windowCatalogue .builtin none).2 =
        .ok ["gtk_window_new", "gtk_main", "gdk_window_raise", "gtk_window_show"] := by
    decide +kernel
  have hpart : (fun b => (b.callables.map fun f => (f.cName, f.role, f.ofObject?), b.skipped)) <$>
      (generate windowCatalogue .builtin (some "Window")).2 =
        .ok ([("gtk_window_new", .constructor, none),
          ("gtk_window_show", .method, some "GtkWindow")], ["gtk_window_set"]) := by
    decide +kernel
  have hunknown : (generate windowCatalogue .builtin (some "Button")).2 =
      .error (.unknownObject "Button") := by decide +kernel
  obtain ⟨b, hb, -⟩ := exists_of_map_ok hall
  obtain ⟨hnone, -⟩ := generate_object_restricts hc hb "Button"
  obtain ⟨-, hwindow⟩ := generate_object_restricts hc hb "Window"
  obtain ⟨b₀, hb₀, hpart⟩ := exists_of_map_ok hpart
  obtain ⟨hcallables, hskipped⟩ := Prod.mk.inj hpart
  refine ⟨hc, b, hb, hnone.mp hunknown, ?_⟩
  rcases hwindow with herror | ⟨o, b', hfirst, hb', -, hsub, hsub', -, hroles⟩
  · cases hb₀.symm.trans herror
  · obtain rfl : b₀ = b' := Except.ok.inj (hb₀.symm.trans hb')
    exact ⟨o, b₀, hfirst, hb', hsub, hsub', hcallables, hskipped, hroles⟩

end Bundle
end DefsGlue
