import DefsGlue.Proofs.Definition.Malformed

/-! The native name of a definition. Objects and enumerations go by the last native name that is a
scalar, and by their own name if there is none. Functions and methods look at the last native name
alone, so one that is no scalar hides those before it. -/
namespace DefsGlue

namespace Record

/-- The text of an attribute: the scalar right behind its key. -/
inductive Carries (r : Record) : String → Prop
  | first {s : Scalar} {more : List Record} : r.body = leaf s :: more → Carries r s.spelling

/-- An attribute without a text. -/
def Bare (r : Record) : Prop := ∀ text, ¬ r.Carries text

/-- The text of the last native name that has one, or the plain name if none has. -/
inductive NamedLast (name : String) (rest : List Record) : String → Prop
  | given {before after : List Record} {r : Record} {text : String} :
      keyed "c-name" rest = before ++ r :: after → r.Carries text → (∀ r' ∈ after, r'.Bare) →
      NamedLast name rest text
  | plain : (∀ r ∈ keyed "c-name" rest, r.Bare) → NamedLast name rest name

/-- The last native name has no text, and the one that counts is not the plain name. -/
structure Hidden (name : String) (rest : List Record) : Prop where
  last : ∃ before r, keyed "c-name" rest = before ++ [r] ∧ r.Bare
  other : ¬ NamedLast name rest name

end Record

/-- How a kind reads its native name. -/
def DefinitionKind.nativeText? : DefinitionKind → List Attribute → Option String
  | object, as | enumeration _, as => Attribute.lastGivenText? "c-name" as
  | function, as | method, as => Attribute.lastText? "c-name" as

namespace Attribute

open Record

variable {r : Record} {rest : List Record} {key name text : String}

theorem text?_eq_some_iff : text? r.body = some text ↔ r.Carries text := by
  constructor
  · intro h
    rcases text?_cases r.body with ⟨s, more, hbody, htext⟩ | ⟨-, htext⟩
    · obtain rfl := Option.some.inj (htext.symm.trans h)
      exact .first hbody
    · simp [htext] at h
  · rintro ⟨hbody⟩
    rw [hbody]
    rfl

theorem text?_eq_none_iff : text? r.body = none ↔ r.Bare := by
  simp only [Option.eq_none_iff_forall_ne_some, ne_eq, text?_eq_some_iff, Bare]

theorem lastGivenText?_eq_some_iff : lastGivenText? key (ofRecords rest) = some text ↔
    ∃ before r after, keyed key rest = before ++ r :: after ∧ r.Carries text ∧
      ∀ r' ∈ after, r'.Bare := by
  rw [lastGivenText?, all_ofRecords, List.filterMap_map, List.getLast?_filterMap,
    List.findSome?_eq_some_iff]
  -- Seen from the end, what comes after the attribute is what the search has passed over.
  constructor
  · rintro ⟨after, r, before, hkeyed, hr, hafter⟩
    refine ⟨before.reverse, r, after.reverse, ?_, text?_eq_some_iff.mp hr, ?_⟩
    · simpa using congrArg List.reverse hkeyed
    · intro r' hr'
      exact text?_eq_none_iff.mp (hafter r' (List.mem_reverse.mp hr'))
  · rintro ⟨before, r, after, hkeyed, hr, hafter⟩
    refine ⟨after.reverse, r, before.reverse, by simp [hkeyed], text?_eq_some_iff.mpr hr, ?_⟩
    intro r' hr'
    exact text?_eq_none_iff.mpr (hafter r' (List.mem_reverse.mp hr'))

theorem lastGivenText?_eq_none_iff :
    lastGivenText? key (ofRecords rest) = none ↔ ∀ r ∈ keyed key rest, r.Bare := by
  rw [lastGivenText?, all_ofRecords, List.filterMap_map, List.getLast?_filterMap,
    List.findSome?_eq_none_iff]
  simp [text?_eq_none_iff]

theorem namedLast_iff : NamedLast name rest text ↔
    (lastGivenText? "c-name" (ofRecords rest)).getD name = text := by
  constructor
  · intro h
    cases h with
    | given hkeyed hr hafter =>
      rw [lastGivenText?_eq_some_iff.mpr ⟨_, _, _, hkeyed, hr, hafter⟩]
      rfl
    | plain hbare =>
      rw [lastGivenText?_eq_none_iff.mpr hbare]
      rfl
  · rintro rfl
    cases h : lastGivenText? "c-name" (ofRecords rest) with
    | none => exact .plain (lastGivenText?_eq_none_iff.mp h)
    | some text =>
      obtain ⟨before, r, after, hkeyed, hr, hafter⟩ := lastGivenText?_eq_some_iff.mp h
      exact .given hkeyed hr hafter

/-- A last attribute with a text is the last that has one. -/
theorem lastText?_eq_of_not_bare (h : ∀ before r, keyed key rest = before ++ [r] → ¬ r.Bare) :
    lastText? key (ofRecords rest) = lastGivenText? key (ofRecords rest) := by
  rw [lastText?, last?, all_ofRecords]
  rcases List.eq_nil_or_concat (keyed key rest) with hkeyed | ⟨before, r, hkeyed⟩
  · rw [lastGivenText?_eq_none_iff.mpr (by simp [hkeyed])]
    simp [hkeyed]
  · rw [List.concat_eq_append] at hkeyed
    cases htext : text? r.body with
    | none => exact absurd (text?_eq_none_iff.mp htext) (h before r hkeyed)
    | some text =>
      have hgiven : lastGivenText? key (ofRecords rest) = some text :=
        lastGivenText?_eq_some_iff.mpr
          ⟨before, r, [], hkeyed, text?_eq_some_iff.mp htext, by simp⟩
      rw [hgiven, hkeyed]
      simpa using htext

theorem lastText?_eq_none_of_bare {before : List Record} (h : keyed key rest = before ++ [r])
    (hr : r.Bare) : lastText? key (ofRecords rest) = none := by
  rw [lastText?, last?, all_ofRecords, h]
  simpa using text?_eq_none_iff.mpr hr

end Attribute

namespace Definition

open Attribute Record Build

variable {kind : DefinitionKind} {form : EnumForm} {s : Scalar} {rest : List Record}
  {d o f m e : Definition}

/-- A definition that is built goes by the native name that its kind reads, or by its own. -/
theorem cName_of_build (h : build kind (.leaf s :: rest) = .ok d) :
    d.cName = (kind.nativeText? (ofRecords rest)).getD s.spelling := by
  cases kind with
  | object =>
    obtain ⟨o, ho, rfl⟩ := exists_of_map_ok h
    obtain ⟨fields, -, ho⟩ := exists_of_bind_ok (x := readAll _ _ _ _ _) ho
    cases ho
    rfl
  | function =>
    obtain ⟨f, hf, rfl⟩ := exists_of_map_ok h
    obtain ⟨shared, hshared, hf⟩ := exists_of_bind_ok (x := callable _ _ _) hf
    obtain ⟨parameters, -, hshared⟩ := exists_of_bind_ok hshared
    cases hshared
    cases hf
    rfl
  | method =>
    obtain ⟨m, hm, rfl⟩ := exists_of_map_ok h
    obtain ⟨shared, hshared, hm⟩ := exists_of_bind_ok (x := callable _ _ _) hm
    obtain ⟨parameters, -, hshared⟩ := exists_of_bind_ok hshared
    cases hshared
    split at hm
    · cases hm
      rfl
    · cases hm
  | enumeration form =>
    obtain ⟨e, he, rfl⟩ := exists_of_map_ok h
    obtain ⟨values, -, he⟩ := exists_of_bind_ok (x := readAll _ _ _ _ _) he
    cases he
    rfl

theorem cName_of_last_bare {before : List Record} {r : Record}
    (hf : build .function (.leaf s :: rest) = .ok f) (hkeyed : keyed "c-name" rest = before ++ [r])
    (hr : r.Bare) : f.cName = s.spelling := by
  rw [cName_of_build hf, DefinitionKind.nativeText?, lastText?_eq_none_of_bare hkeyed hr]
  rfl

/-- Where all kinds accept the same name and attributes, objects and enumerations go by the last
native name that is a scalar, or by their own name if there is none. Functions and methods go by it
as well, unless the last native name is no scalar and hides another than their own: then they go by
their own. -/
theorem cName_agrees_iff (ho : build .object (.leaf s :: rest) = .ok o)
    (hf : build .function (.leaf s :: rest) = .ok f) (hm : build .method (.leaf s :: rest) = .ok m)
    (he : build (.enumeration form) (.leaf s :: rest) = .ok e) :
    (∀ text, NamedLast s.spelling rest text ↔ o.cName = text) ∧ e.cName = o.cName ∧
    m.cName = f.cName ∧ (f.cName = o.cName ↔ ¬ Hidden s.spelling rest) ∧
    (Hidden s.spelling rest → f.cName = s.spelling) := by
  have hnamed : ∀ text, NamedLast s.spelling rest text ↔ o.cName = text := by
    intro text
    rw [namedLast_iff, cName_of_build ho]
    rfl
  have hhidden : Hidden s.spelling rest → f.cName = s.spelling := by
    rintro ⟨⟨before, r, hkeyed, hr⟩, -⟩
    exact cName_of_last_bare hf hkeyed hr
  refine ⟨hnamed, ?_, ?_, ⟨?_, ?_⟩, hhidden⟩
  · rw [cName_of_build he, cName_of_build ho]
    rfl
  · rw [cName_of_build hm, cName_of_build hf]
    rfl
  · intro hagree h
    exact h.other ((hnamed _).mpr (hagree.symm.trans (hhidden h)))
  · intro h
    by_cases hlast : ∃ before r, keyed "c-name" rest = before ++ [r] ∧ r.Bare
    · -- The last one is passed over by both, so both come to the plain name.
      obtain ⟨before, r, hkeyed, hr⟩ := hlast
      have hplain : NamedLast s.spelling rest s.spelling := by
        by_contra hother
        exact h ⟨⟨before, r, hkeyed, hr⟩, hother⟩
      exact (cName_of_last_bare hf hkeyed hr).trans ((hnamed _).mp hplain).symm
    · rw [cName_of_build hf, cName_of_build ho, DefinitionKind.nativeText?,
        DefinitionKind.nativeText?, lastText?_eq_of_not_bare]
      intro before r hkeyed hr
      exact hlast ⟨before, r, hkeyed, hr⟩

/-- The owner that a method has to name. -/
def ownerNamed : Record := .list [.leaf (.atom "of-object"), .leaf (.atom "A")]

/-- A native name that is no scalar. -/
def bareName : Record := .list [.leaf (.atom "c-name"), .list []]

def givenName : Record :=
  .list [.leaf (.atom "c-name"), .leaf (.quoted "a_w"), .leaf (.atom "b")]

theorem bareName_bare : bareName.Bare := by
  rintro text ⟨hbody⟩
  cases hbody

theorem givenName_carries : givenName.Carries "a_w" :=
  .first (s := .quoted "a_w") rfl

/-- A native name that comes after the one without a scalar counts for all kinds. -/
theorem cName_agrees_iff_given_last :
    let rest : List Record := [ownerNamed, bareName, givenName]
    ∃ o f m e, build .object (.leaf (.atom "w") :: rest) = .ok o ∧
      build .function (.leaf (.atom "w") :: rest) = .ok f ∧
      build .method (.leaf (.atom "w") :: rest) = .ok m ∧
      build (.enumeration .flags) (.leaf (.atom "w") :: rest) = .ok e ∧
      ¬ Hidden "w" rest ∧ o.cName = "a_w" ∧ e.cName = o.cName ∧ m.cName = f.cName ∧
      f.cName = o.cName := by
  intro rest
  have hshown : ¬ Hidden "w" rest := by
    rintro ⟨⟨before, r, hkeyed, hr⟩, -⟩
    have hlast : [bareName] ++ [givenName] = before ++ [r] := hkeyed
    obtain ⟨-, hr'⟩ := List.append_inj' hlast rfl
    obtain rfl := List.singleton_inj.mp hr'
    exact hr "a_w" givenName_carries
  obtain ⟨-, henumeration, hmethod, hfunction, -⟩ :=
    @cName_agrees_iff .flags (.atom "w") rest _ _ _ _ rfl rfl rfl rfl
  exact ⟨_, _, _, _, rfl, rfl, rfl, rfl, hshown, rfl, henumeration, hmethod, hfunction.mpr hshown⟩

/-- A last native name that is no scalar leaves functions and methods with their own name, although
objects and enumerations go by the native name before it. -/
theorem cName_hidden_by_bare :
    let rest : List Record := [ownerNamed, givenName, bareName]
    ∃ o f m e, build .object (.leaf (.atom "w") :: rest) = .ok o ∧
      build .function (.leaf (.atom "w") :: rest) = .ok f ∧
      build .method (.leaf (.atom "w") :: rest) = .ok m ∧
      build (.enumeration .enum) (.leaf (.atom "w") :: rest) = .ok e ∧
      NamedLast "w" rest "a_w" ∧
      o.cName = "a_w" ∧ e.cName = "a_w" ∧ f.cName = "w" ∧ m.cName = "w" := by
  intro rest
  have hkeyed : keyed "c-name" rest = [] ++ givenName :: [bareName] := rfl
  have hnamed : NamedLast "w" rest "a_w" :=
    .given hkeyed givenName_carries (by simpa using bareName_bare)
  exact ⟨_, _, _, _, rfl, rfl, rfl, rfl, hnamed, rfl, rfl, rfl, rfl⟩

end Definition

end DefsGlue
