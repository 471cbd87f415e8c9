import DefsGlue.Proofs.Glue.Parts
import DefsGlue.Proofs.Passing.Locals

/-! The locals of a fragment. The names that a parameter declares are made from its own, so where
the parameters are named apart, from each other and from the result, no name is declared twice. -/
namespace DefsGlue

open Strategy (hostName)
open Text (isIdentifier Mentions)

namespace Declarations

/-- The names that are declared, over all groups. -/
def names (d : Declarations) : List String :=
  d.groups.flatMap fun group => group.2.map declaredName

theorem names_insert (type declarator : String) (groups : List (String × List String)) :
    (names ⟨insert type declarator groups⟩).Perm (declaredName declarator :: names ⟨groups⟩) := by
  induction groups with
  | nil => rfl
  | cons group groups ih =>
    unfold insert
    split
    · simp only [names, List.flatMap_cons, List.map_append, List.append_assoc]
      exact List.perm_middle
    · exact (ih.append_left (group.2.map declaredName)).trans List.perm_middle

/-- Grouping loses no name and adds none. -/
theorem names_addAll (d : Declarations) (ls : List Local) :
    (d.addAll ls).names.Perm (ls.map Local.name ++ d.names) := by
  induction ls generalizing d with
  | nil => rfl
  | cons l ls ih =>
    exact ((ih (d.add l.type l.declarator)).trans
      ((names_insert l.type l.declarator d.groups).append_left _)).trans List.perm_middle

end Declarations

/-- The name of the local that holds a native return value. -/
def resultName : String := "ret"

/-- Whether there is a statement that assigns to a variable or to an element of it. -/
def ReturnForm.Assigns (f : ReturnForm) (name : String) : Prop :=
  ∃ before index after : List Char,
    f.text.toList = before ++ '\t' :: (name.toList ++ index ++ (" = ".toList ++ after)) ∧
      (index = [] ∨ ∃ inside, index = '[' :: (inside ++ [']']))

/-- Parameter names that leave the names made from them apart. -/
structure NamedApart (ps : List Parameter) : Prop where
  identifiers : ∀ p ∈ ps, isIdentifier p.name = true
  distinct : (ps.map Parameter.name).Nodup
  notResult : ∀ p ∈ ps, p.name ≠ resultName
  notHost : ∀ p ∈ ps, ¬ "php_".toList <+: p.name.toList

theorem NamedApart.tail {p : Parameter} {ps : List Parameter} (h : NamedApart (p :: ps)) :
    NamedApart ps where
  identifiers q hq := h.identifiers q (List.mem_cons_of_mem p hq)
  distinct := (List.nodup_cons.mp h.distinct).2
  notResult q hq := h.notResult q (List.mem_cons_of_mem p hq)
  notHost q hq := h.notHost q (List.mem_cons_of_mem p hq)

namespace Strategy

variable {name other : String}

theorem host_prefix (name : String) : "php_".toList <+: (hostName name).toList :=
  ⟨name.toList, by simp [hostName]⟩

theorem hostName_inj (h : hostName name = hostName other) : name = other := by
  have hlist := congrArg String.toList h
  simp only [hostName, String.toList_append, List.append_cancel_left_eq] at hlist
  exact String.toList_inj.mp hlist

theorem hostName_ne_result (name : String) : hostName name ≠ resultName := by
  intro h
  have hprefix := host_prefix name
  rw [h] at hprefix
  exact absurd hprefix (by decide)

end Strategy

namespace ReturnForm

variable {f : ReturnForm}

/-- A form that begins with an assignment to the result. -/
theorem assigns_of_prefix {index : List Char}
    (hi : index = [] ∨ ∃ inside, index = '[' :: (inside ++ [']']))
    (h : '\t' :: (resultName.toList ++ index ++ " = ".toList) <+: f.text.toList) :
    f.Assigns resultName := by
  obtain ⟨after, h⟩ := h
  exact ⟨[], index, after, by simp [← h], hi⟩

theorem not_assigns_of_not_mem (h : 'r' ∉ f.text.toList) : ¬ f.Assigns resultName := by
  rintro ⟨before, index, after, htext, -⟩
  exact h (by simp [htext, resultName])

end ReturnForm

namespace Strategy

variable {s : Strategy} {type : String} {c : Conversion}

theorem name_result (type : String) : (⟨type, "*ret"⟩ : Local).name = resultName :=
  (by decide : declaredName "*ret" = resultName)

/-- A conversion declares the local for the result exactly if one of its statements assigns to
it. -/
theorem convert_assigns (h : s.convert type = .ok c) :
    (c.locals.map Local.name = [resultName] ∧ c.form.Assigns resultName) ∨
      (c.locals = [] ∧ ¬ c.form.Assigns resultName) := by
  cases s with
  | none | int | bool | double | enumeration =>
    obtain rfl := Except.ok.inj h
    -- Beside the mark, these forms are capitals and blanks throughout.
    exact .inr ⟨rfl, ReturnForm.not_assigns_of_not_mem (by simp)⟩
  | string =>
    obtain rfl := Except.ok.inj h
    unfold convertString
    split <;>
      exact .inl ⟨by simp [name_result],
        ReturnForm.assigns_of_prefix (.inl rfl) (by simp [resultName])⟩
  | char =>
    obtain rfl := Except.ok.inj h
    have helement : '\t' :: (resultName.toList ++ "[0]".toList ++ " = ".toList) <+:
        "\tret[0] = %s;\n\tret[1] = '\\0';\n\tRETURN_STRINGL(ret, 1, 1);".toList := by
      simp [resultName]
    exact .inl ⟨by decide, ReturnForm.assigns_of_prefix (.inr ⟨['0'], rfl⟩) helement⟩
  | object name =>
    obtain rfl := Except.ok.inj h
    exact .inl ⟨by simp [name_result],
      ReturnForm.assigns_of_prefix (.inl rfl) (by simp [resultName])⟩
  | boxed family =>
    obtain rfl := Except.ok.inj h
    refine .inl ⟨by simp [name_result], ReturnForm.assigns_of_prefix (.inl rfl) ?_⟩
    simp only [String.toList_append, List.append_assoc]
    exact List.IsPrefix.trans (by simp [resultName]) (List.prefix_append _ _)
  | stringRef | intRef | rectangle => cases h

end Strategy

namespace SelfContained

variable {p : Parameter} {b : Binding} {x : String}

/-- What a parameter declares is its own name, or the name made from it, or both. -/
theorem name_of_mem (h : SelfContained p b) (hx : x ∈ b.locals.map Local.name) :
    x = p.name ∨ x = hostName p.name := by
  rcases h.names with hnames | hnames | hnames <;>
  · rw [hnames] at hx
    simp_all

theorem nodup (h : SelfContained p b) (hhost : ¬ "php_".toList <+: p.name.toList) :
    (b.locals.map Local.name).Nodup := by
  have hne : p.name ≠ hostName p.name := by
    intro he
    exact hhost (he ▸ Strategy.host_prefix p.name)
  rcases h.names with hnames | hnames | hnames <;> simp [hnames, hne]

end SelfContained

namespace Registry

variable {r : Registry} {p q : Parameter} {b : Binding} {ps : List Parameter} {bs : List Binding}
  {x : String}

theorem selfContained_of_binding (h : r.binding p = .ok b) (hn : isIdentifier p.name = true) :
    SelfContained p b := by
  obtain ⟨s, -, hb⟩ := binding_ok h
  exact Strategy.selfContained_of_shape (Strategy.shape_of_bind hb) hn

/-- The names that bindings declare, one binding after another. -/
theorem declared_of_mem (h : List.Forall₂ (fun p b => r.binding p = .ok b) ps bs)
    (hn : ∀ p ∈ ps, isIdentifier p.name = true)
    (hx : x ∈ (bs.flatMap Binding.locals).map Local.name) :
    ∃ p ∈ ps, x = p.name ∨ x = hostName p.name := by
  induction h with
  | nil => cases hx
  | @cons p b ps bs hb _ ih =>
    rw [List.flatMap_cons, List.map_append, List.mem_append] at hx
    rcases hx with hx | hx
    · have hself := selfContained_of_binding hb (hn p List.mem_cons_self)
      exact ⟨p, List.mem_cons_self, hself.name_of_mem hx⟩
    · obtain ⟨q, hq, hname⟩ := ih (fun q hq => hn q (List.mem_cons_of_mem p hq)) hx
      exact ⟨q, List.mem_cons_of_mem p hq, hname⟩

/-- Two parameters named apart have no name in common. -/
theorem apart_of_ne (hp : ¬ "php_".toList <+: p.name.toList)
    (hq : ¬ "php_".toList <+: q.name.toList) (hne : p.name ≠ q.name)
    (hx : x = p.name ∨ x = hostName p.name) : ¬ (x = q.name ∨ x = hostName q.name) := by
  rintro (h | h) <;> rcases hx with rfl | rfl
  · exact hne h
  · exact hq (h ▸ Strategy.host_prefix p.name)
  · exact hp (h ▸ Strategy.host_prefix q.name)
  · exact hne (Strategy.hostName_inj h)

theorem locals_nodup (h : List.Forall₂ (fun p b => r.binding p = .ok b) ps bs)
    (ha : NamedApart ps) : ((bs.flatMap Binding.locals).map Local.name).Nodup := by
  induction h with
  | nil => exact List.nodup_nil
  | @cons p b ps bs hb hrest ih =>
    have hself := selfContained_of_binding hb (ha.identifiers p List.mem_cons_self)
    have hhost := ha.notHost p List.mem_cons_self
    rw [List.flatMap_cons, List.map_append, List.nodup_append]
    refine ⟨hself.nodup hhost, ih ha.tail, ?_⟩
    rintro x hx _ hx' rfl
    obtain ⟨q, hq, hname⟩ := declared_of_mem hrest ha.tail.identifiers hx'
    have hne : p.name ≠ q.name := fun he =>
      (List.nodup_cons.mp ha.distinct).1 (he ▸ List.mem_map_of_mem hq)
    exact apart_of_ne hhost (ha.tail.notHost q hq) hne (hself.name_of_mem hx) hname

theorem result_not_declared (h : List.Forall₂ (fun p b => r.binding p = .ok b) ps bs)
    (ha : NamedApart ps) : resultName ∉ (bs.flatMap Binding.locals).map Local.name := by
  intro hx
  obtain ⟨p, hp, hname | hname⟩ := declared_of_mem h ha.identifiers hx
  · exact ha.notResult p hp hname.symm
  · exact Strategy.hostName_ne_result p.name hname.symm

/-- Whether an argument is the one that the call passes for a parameter, and mentions a name that
the same parameter declares. -/
def PassesOwn (r : Registry) (declared : List String) (p : Parameter) (argument : String) : Prop :=
  ∃ b, r.binding p = .ok b ∧ b.arguments = [argument] ∧
    ∃ l ∈ b.locals, l.name ∈ declared ∧ Mentions argument l.name

theorem passesOwn_all {declared : List String}
    (h : List.Forall₂ (fun p b => r.binding p = .ok b) ps bs)
    (hn : ∀ p ∈ ps, isIdentifier p.name = true)
    (hd : ∀ l ∈ bs.flatMap Binding.locals, l.name ∈ declared) :
    List.Forall₂ (r.PassesOwn declared) ps (bs.flatMap Binding.arguments) := by
  induction h with
  | nil => exact .nil
  | @cons p b ps bs hb _ ih =>
    rw [List.flatMap_cons] at hd
    obtain ⟨a, ha, l, hl, hmention⟩ :=
      (selfContained_of_binding hb (hn p List.mem_cons_self)).argument
    rw [List.flatMap_cons, ha]
    refine .cons ⟨b, hb, ha, l, hl, hd l (List.mem_append_left _ hl), hmention⟩ (ih ?_ ?_)
    · exact fun q hq => hn q (List.mem_cons_of_mem p hq)
    · exact fun l hl => hd l (List.mem_append_right _ hl)

end Registry

namespace Parts

variable {r : Registry} {parts : Parts} {ps : List Parameter} {type? : Option String}

/-- The names that a call declares: those of its parameters, and the result's if it has one. -/
theorem names_site (parts : Parts) (owner? : Option Owner) :
    (parts.site owner?).declarations.names.Perm
      ((parts.bindings.flatMap Binding.locals).map Local.name ++
        parts.conversion.locals.map Local.name) := by
  have h := Declarations.names_addAll .empty
    (parts.bindings.flatMap Binding.locals ++ parts.conversion.locals)
  have hempty : Declarations.empty.names = [] := rfl
  rw [List.map_append, hempty, List.append_nil] at h
  exact h

theorem names_site_nodup
    (hb : List.Forall₂ (fun p b => r.binding p = .ok b) ps parts.bindings)
    (hc : r.conversion type? = .ok parts.conversion) (ha : NamedApart ps)
    (owner? : Option Owner) : (parts.site owner?).declarations.names.Nodup := by
  obtain ⟨s, -, hs⟩ := Registry.conversion_ok hc
  have hlocals := Registry.locals_nodup hb ha
  rw [(parts.names_site owner?).nodup_iff]
  rcases Strategy.convert_assigns hs with ⟨hname, -⟩ | ⟨hnone, -⟩
  · rw [hname, List.nodup_append]
    refine ⟨hlocals, by simp, ?_⟩
    rintro x hx y hy rfl
    exact Registry.result_not_declared hb ha (List.mem_singleton.mp hy ▸ hx)
  · simpa [hnone] using hlocals

theorem result_mem_names_iff
    (hb : List.Forall₂ (fun p b => r.binding p = .ok b) ps parts.bindings)
    (hc : r.conversion type? = .ok parts.conversion) (ha : NamedApart ps)
    (owner? : Option Owner) :
    resultName ∈ (parts.site owner?).declarations.names ↔
      parts.conversion.form.Assigns resultName := by
  obtain ⟨s, -, hs⟩ := Registry.conversion_ok hc
  rw [(parts.names_site owner?).mem_iff, List.mem_append,
    or_iff_right (Registry.result_not_declared hb ha)]
  rcases Strategy.convert_assigns hs with ⟨hname, hassigns⟩ | ⟨hnone, hassigns⟩
  · simp [hname, hassigns]
  · simp [hnone, hassigns]

end Parts

namespace Entrypoint

variable {r : Registry} {e : Entrypoint} {fragment : Fragment}

/-- Where the parameters are named apart, the run that makes a fragment declares no name twice.
Every target is the address of a declared name, every argument mentions one that its own parameter
declares, and the name of the result is declared exactly if the conversion assigns to it. -/
theorem fragment_locals (h : e.fragment r = .ok fragment)
    (ha : NamedApart e.callable.parameters) :
    ∃ format bound form site,
      r.bindAll false (Fragment.opening e.owner?) e.callable.parameters = .ok (format, bound) ∧
      r.convert e.callable.returnType? bound = .ok (form, site) ∧
      fragment.declarations = site.declarations.render ∧
      fragment.call = site.call e.cName ∧ fragment.returnCode = form.around fragment.call ∧
      site.declarations.names.Nodup ∧
      (∀ target ∈ fragment.parseTargets,
        ∃ x ∈ site.declarations.names, Addresses target x ∧ ∀ y, Addresses target y → y = x) ∧
      (∃ arguments, site.arguments = (e.owner?.map Fragment.self).toList ++ arguments ∧
        List.Forall₂ (r.PassesOwn site.declarations.names) e.callable.parameters arguments) ∧
      (resultName ∈ site.declarations.names ↔ form.Assigns resultName) := by
  obtain ⟨parts, hparts, rfl⟩ := fragment_ok h
  obtain ⟨hb, hc⟩ := Registry.parts_ok hparts
  obtain ⟨bound, hbound, hconvert⟩ := Fragment.run_of_parts hparts e.owner?
  have hdeclared : ∀ l ∈ parts.bindings.flatMap Binding.locals,
      l.name ∈ (parts.site e.owner?).declarations.names := fun l hl =>
    (parts.names_site e.owner?).mem_iff.mpr (List.mem_append_left _ (List.mem_map_of_mem hl))
  refine ⟨_, bound, _, parts.site e.owner?, hbound, hconvert, rfl, rfl, rfl,
    Parts.names_site_nodup hb hc ha e.owner?, ?_,
    ⟨_, rfl, Registry.passesOwn_all hb ha.identifiers hdeclared⟩,
    Parts.result_mem_names_iff hb hc ha e.owner?⟩
  intro target htarget
  obtain ⟨slot, hslot, rfl⟩ := List.mem_map.mp htarget
  obtain ⟨b, hmem, hslot⟩ := List.mem_flatMap.mp hslot
  -- A target belongs to one parameter, and one of its own locals is addressed.
  obtain ⟨p, hp, hbind⟩ := exists_of_forall₂_mem hb.flip hmem
  obtain ⟨l, hl, haddr⟩ :=
    (Registry.selfContained_of_binding hbind (ha.identifiers p hp)).slots slot hslot
  exact ⟨l.name, hdeclared l (List.mem_flatMap.mpr ⟨b, hmem, hl⟩), haddr,
    fun y hy => hy.unique haddr⟩

theorem fragment_locals_label :
    let ps : List Parameter := [⟨"GtkFit", "fit", some "0", false⟩,
      ⟨"GdkColor*", "color", none, false⟩]
    let r := Registry.builtin.addEnumeration .flags "GtkFit"
    let e : Entrypoint :=
      .function ⟨⟨"gtk_fit_label", "gtk_fit_label", some "const-gchar*", ps, false⟩, none⟩
    NamedApart ps ∧
    ∃ (fragment : Fragment) (form : ReturnForm) (site : CallSite), e.fragment r = .ok fragment ∧
      fragment.declarations = site.declarations.render ∧
      fragment.declarations =
        "\tGtkFit fit = 0;\n\tzval *php_fit = NULL, *color;\n\tconst gchar *ret;\n\n" ∧
      fragment.call = site.call e.cName ∧ fragment.returnCode = form.around fragment.call ∧
      site.declarations.names.Nodup ∧
      (∀ target ∈ fragment.parseTargets,
        ∃ x ∈ site.declarations.names, Addresses target x ∧ ∀ y, Addresses target y → y = x) ∧
      (∃ arguments, site.arguments = arguments ∧
        List.Forall₂ (r.PassesOwn site.declarations.names) ps arguments) ∧
      (resultName ∈ site.declarations.names ↔ form.Assigns resultName) := by
  intro ps r e
  have ha : NamedApart ps := ⟨by decide, by decide, by decide, by decide⟩
  have heval : Fragment.declarations <$> e.fragment r =
      .ok "\tGtkFit fit = 0;\n\tzval *php_fit = NULL, *color;\n\tconst gchar *ret;\n\n" := by
    decide +kernel
  refine ⟨ha, ?_⟩
  cases h : e.fragment r with
  | error failure =>
    rw [h] at heval
    cases heval
  | ok fragment =>
    rw [h] at heval
    obtain ⟨-, -, form, site, -, -, hrender, hcall, hreturn, hnodup, htargets, hpasses, hresult⟩ :=
      fragment_locals h ha
    exact ⟨fragment, form, site, rfl, hrender, Except.ok.inj heval, hcall, hreturn, hnodup,
      htargets, hpasses, hresult⟩

end Entrypoint
end DefsGlue
