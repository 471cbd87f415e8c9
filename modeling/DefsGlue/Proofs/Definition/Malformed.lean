import DefsGlue.Proofs.Definition.Vocabulary
import DefsGlue.Proofs.Effect

/-! Which records are no definition. A definition needs a name, each of the attributes that become
its members has to be well formed, and a method has to name its object. The faults come in this
order, and without one there is a member for each such attribute. -/
namespace DefsGlue

namespace Record

/-- What follows the first item of a list. -/
def body : Record → List Record
  | list (_ :: items) => items
  | _ => []

/-- The lists among records that begin with the key. -/
def keyed (key : String) (rs : List Record) : List Record := rs.filter fun r => r.head? = some key

/-- The type and the name that stand first in the first `(type-and-name ...)` of an attribute. -/
inductive Typed (r : Record) : String × String → Prop
  | first {inner : Record} {others more : List Record} {type name : Scalar} :
      keyed "type-and-name" r.body = inner :: others →
      inner.body = leaf type :: leaf name :: more → Typed r (type.spelling, name.spelling)

/-- An attribute without a `(type-and-name ...)`, or whose first one lacks a scalar for the type or
for the name. -/
inductive Untyped (r : Record) : Prop
  | absent : keyed "type-and-name" r.body = [] → Untyped r
  | noType {inner : Record} {others : List Record} :
      keyed "type-and-name" r.body = inner :: others →
      (∀ s more, inner.body ≠ leaf s :: more) → Untyped r
  | noName {inner : Record} {others : List Record} :
      keyed "type-and-name" r.body = inner :: others →
      (∀ type s more, inner.body ≠ type :: leaf s :: more) → Untyped r

/-- The scalar that the last `(key ...)` of an attribute begins with. -/
inductive Says (r : Record) (key : String) : String → Prop
  | last {inner : Record} {before more : List Record} {s : Scalar} :
      keyed key r.body = before ++ [inner] → inner.body = leaf s :: more → Says r key s.spelling

/-- An attribute without a `(key ...)`, or whose last one does not begin with a scalar. -/
inductive Silent (r : Record) (key : String) : Prop
  | absent : keyed key r.body = [] → Silent r key
  | last {inner : Record} {before : List Record} : keyed key r.body = before ++ [inner] →
      (∀ s more, inner.body ≠ leaf s :: more) → Silent r key

/-- No `(of-object ...)` among the attributes, or a first one that does not begin with a scalar. -/
inductive Ownerless (rest : List Record) : Prop
  | absent : keyed "of-object" rest = [] → Ownerless rest
  | first {owner : Record} {others : List Record} : keyed "of-object" rest = owner :: others →
      (∀ s more, owner.body ≠ leaf s :: more) → Ownerless rest

variable {r : Record} {rs : List Record} {key text : String} {m : String × String}

theorem keyed_cons_of_head (h : r.head? = some key) (rs : List Record) :
    keyed key (r :: rs) = r :: keyed key rs := by
  simp [keyed, h]

theorem keyed_cons_of_not_head (h : r.head? ≠ some key) (rs : List Record) :
    keyed key (r :: rs) = keyed key rs := by
  simp [keyed, h]

theorem Typed.not_untyped (h : r.Typed m) : ¬ r.Untyped := by
  obtain ⟨hr, hinner⟩ := h
  intro hu
  cases hu with
  | absent hr' => simp [hr] at hr'
  | noType hr' hno =>
    obtain ⟨rfl, -⟩ := List.cons.inj (hr.symm.trans hr')
    exact hno _ _ hinner
  | noName hr' hno =>
    obtain ⟨rfl, -⟩ := List.cons.inj (hr.symm.trans hr')
    exact hno _ _ _ hinner

theorem Says.not_silent (h : r.Says key text) : ¬ r.Silent key := by
  obtain ⟨hr, hinner⟩ := h
  intro hs
  cases hs with
  | absent hr' => simp [hr] at hr'
  | last hr' hno =>
    obtain ⟨-, hlast⟩ := List.append_inj' (hr.symm.trans hr') rfl
    obtain ⟨rfl, -⟩ := List.cons.inj hlast
    exact hno _ _ hinner

end Record

namespace DefinitionKind

/-- The key of the attributes that become members. -/
def memberKey : DefinitionKind → String
  | object => "field"
  | function | method => "parameter"
  | enumeration _ => "value"

/-- Whether an attribute cannot become a member. -/
def Malformed : DefinitionKind → Record → Prop
  | enumeration _, r => r.Silent "name" ∨ r.Silent "c-name"
  | _, r => r.Untyped

/-- What the member of an attribute is: its type and name, or its name and native name. -/
def Entry : DefinitionKind → Record → String × String → Prop
  | enumeration _, r, m => r.Says "name" m.1 ∧ r.Says "c-name" m.2
  | _, r, m => r.Typed m

theorem Entry.not_malformed {kind : DefinitionKind} {r : Record} {m : String × String}
    (h : kind.Entry r m) : ¬ kind.Malformed r := by
  cases kind with
  | enumeration form => exact not_or.mpr ⟨h.1.not_silent, h.2.not_silent⟩
  | object | function | method => exact Record.Typed.not_untyped h

end DefinitionKind

/-- The members of a definition, by type and name, or by name and native name. -/
def Definition.members : Definition → List (String × String)
  | object o => o.fields.map fun f => (f.type, f.name)
  | function f => f.parameters.map fun p => (p.type, p.name)
  | method m => m.parameters.map fun p => (p.type, p.name)
  | enumeration e => e.values.map fun v => (v.name, v.cName)

namespace Attribute

open Record

variable {r : Record} {vs : List Record} {key : String}

theorem ofRecord?_eq (r : Record) : ofRecord? r = r.head?.map (⟨·, r.body⟩) := by
  cases r with
  | leaf s => rfl
  | list items => cases items <;> rfl

theorem all_ofRecords (key : String) (rs : List Record) :
    all key (ofRecords rs) = (keyed key rs).map body := by
  induction rs with
  | nil => rfl
  | cons r rs ih =>
    by_cases hr : r.head? = some key
    · rw [keyed_cons_of_head hr, List.map_cons, ← ih]
      simp [all, ofRecords, ofRecord?_eq, hr]
    · rw [keyed_cons_of_not_head hr, ← ih]
      cases hk : r.head? with
      | none => simp [ofRecords, ofRecord?_eq, hk]
      | some k =>
        have hne : k ≠ key := by simpa [hk] using hr
        simp [all, ofRecords, ofRecord?_eq, hk, hne]

/-- A text is the scalar that the values begin with. -/
theorem text?_cases (vs : List Record) :
    (∃ s more, vs = leaf s :: more ∧ text? vs = some s.spelling) ∨
      (∀ s more, vs ≠ leaf s :: more) ∧ text? vs = none := by
  cases vs with
  | nil => exact .inr ⟨by simp, rfl⟩
  | cons v vs =>
    cases v with
    | leaf s => exact .inl ⟨s, vs, rfl, rfl⟩
    | list items => exact .inr ⟨by simp, rfl⟩

theorem typedName?_cases (r : Record) :
    (∃ m, typedName? r.body = some m ∧ r.Typed m) ∨ typedName? r.body = none ∧ r.Untyped := by
  simp only [typedName?, first?, all_ofRecords]
  cases hr : keyed "type-and-name" r.body with
  | nil => exact .inr ⟨rfl, .absent hr⟩
  | cons inner others =>
    rcases text?_cases inner.body with ⟨type, more, hinner, htype⟩ | ⟨hno, htype⟩
    · rw [hinner] at htype
      rcases text?_cases more with ⟨name, more, rfl, hname⟩ | ⟨hno, hname⟩
      · refine .inl ⟨(type.spelling, name.spelling), ?_, .first hr hinner⟩
        simp [htype, hname, hinner]
      · refine .inr ⟨?_, .noName hr ?_⟩
        · simp [hname, hinner]
        · intro type' s more' hinner'
          obtain ⟨-, rfl⟩ := List.cons.inj (hinner.symm.trans hinner')
          exact hno s more' rfl
    · exact .inr ⟨by simp [htype], .noType hr hno⟩

theorem lastText?_cases (r : Record) (key : String) :
    (∃ text, lastText? key (ofRecords r.body) = some text ∧ r.Says key text) ∨
      lastText? key (ofRecords r.body) = none ∧ r.Silent key := by
  simp only [lastText?, last?, all_ofRecords]
  rcases List.eq_nil_or_concat (keyed key r.body) with hr | ⟨before, inner, hr⟩
  · exact .inr ⟨by simp [hr], .absent hr⟩
  · rw [List.concat_eq_append] at hr
    rcases text?_cases inner.body with ⟨s, more, hinner, htext⟩ | ⟨hno, htext⟩
    · exact .inl ⟨s.spelling, by simp [hr, htext], .last hr hinner⟩
    · exact .inr ⟨by simp [hr, htext], .last hr hno⟩

theorem owner?_cases (rest : List Record) :
    (∃ owner, (first? "of-object" (ofRecords rest)).bind Build.owner? = some owner ∧
      ¬ Ownerless rest) ∨
    (first? "of-object" (ofRecords rest)).bind Build.owner? = none ∧ Ownerless rest := by
  simp only [first?, all_ofRecords]
  cases hr : keyed "of-object" rest with
  | nil => exact .inr ⟨rfl, .absent hr⟩
  | cons owner others =>
    rcases text?_cases owner.body with ⟨s, more, howner, htext⟩ | ⟨hno, htext⟩
    · refine .inl ⟨⟨s.spelling, module? owner.body⟩, by simp [Build.owner?, htext], ?_⟩
      intro ho
      cases ho with
      | absent hr' => simp [hr] at hr'
      | first hr' hno =>
        obtain ⟨rfl, -⟩ := List.cons.inj (hr.symm.trans hr')
        exact hno _ _ howner
    · exact .inr ⟨by simp [Build.owner?, htext], .first hr hno⟩

end Attribute

theorem not_malformed_of_entries {kind : DefinitionKind} {rs : List Record}
    {ms : List (String × String)} (h : List.Forall₂ kind.Entry rs ms) :
    ∀ r ∈ rs, ¬ kind.Malformed r := by
  intro r hr
  obtain ⟨m, -, hm⟩ := exists_of_forall₂_mem h hr
  exact hm.not_malformed

/-- What building a definition of a kind comes to once it has a name. -/
inductive Judged (kind : DefinitionKind) (name : String) (rest : List Record) :
    Except BuildFault Definition → Prop
  | malformed : (∃ r ∈ Record.keyed kind.memberKey rest, kind.Malformed r) →
      Judged kind name rest (.error (.badAttribute kind name kind.memberKey))
  | ownerless : kind = .method →
      (∀ r ∈ Record.keyed kind.memberKey rest, ¬ kind.Malformed r) → Record.Ownerless rest →
      Judged kind name rest (.error (.missingOwner name))
  | built {d : Definition} : (kind = .method → ¬ Record.Ownerless rest) →
      List.Forall₂ kind.Entry (Record.keyed kind.memberKey rest) d.members →
      Judged kind name rest (.ok d)

namespace Judged

variable {kind : DefinitionKind} {name : String} {rest : List Record}
  {result : Except BuildFault Definition}

theorem badAttribute_iff (h : Judged kind name rest result) :
    result = .error (.badAttribute kind name kind.memberKey) ↔
      ∃ r ∈ Record.keyed kind.memberKey rest, kind.Malformed r := by
  cases h with
  | malformed hbad => exact iff_of_true rfl hbad
  | ownerless _ hgood _ =>
    refine iff_of_false (by simp) ?_
    rintro ⟨r, hr, hm⟩
    exact hgood r hr hm
  | built _ hms =>
    refine iff_of_false (by simp) ?_
    rintro ⟨r, hr, hm⟩
    exact not_malformed_of_entries hms r hr hm

theorem missingOwner_iff (h : Judged kind name rest result) :
    result = .error (.missingOwner name) ↔ kind = .method ∧
      (∀ r ∈ Record.keyed kind.memberKey rest, ¬ kind.Malformed r) ∧ Record.Ownerless rest := by
  cases h with
  | malformed hbad =>
    obtain ⟨r, hr, hm⟩ := hbad
    refine iff_of_false (by simp) ?_
    rintro ⟨-, hgood, -⟩
    exact hgood r hr hm
  | ownerless hkind hgood hno => exact iff_of_true rfl ⟨hkind, hgood, hno⟩
  | built howned _ =>
    refine iff_of_false (by simp) ?_
    rintro ⟨hkind, -, hno⟩
    exact howned hkind hno

theorem built_iff (h : Judged kind name rest result) :
    (∃ d, result = .ok d ∧
        List.Forall₂ kind.Entry (Record.keyed kind.memberKey rest) d.members) ↔
      (∀ r ∈ Record.keyed kind.memberKey rest, ¬ kind.Malformed r) ∧
        (kind = .method → ¬ Record.Ownerless rest) := by
  cases h with
  | malformed hbad =>
    obtain ⟨r, hr, hm⟩ := hbad
    refine iff_of_false (by simp) ?_
    rintro ⟨hgood, -⟩
    exact hgood r hr hm
  | ownerless hkind _ hno =>
    refine iff_of_false (by simp) ?_
    rintro ⟨-, howned⟩
    exact howned hkind hno
  | @built d howned hms => exact iff_of_true ⟨d, rfl, hms⟩ ⟨not_malformed_of_entries hms, howned⟩

end Judged

namespace Build

open Attribute

/-- A reader of the attributes that become members takes those that are well formed. -/
def Reads {α : Type} (kind : DefinitionKind) (read : List Record → Option α)
    (entry : α → String × String) : Prop :=
  ∀ r : Record, (∃ x, read r.body = some x ∧ kind.Entry r (entry x)) ∨
    read r.body = none ∧ kind.Malformed r

variable {α : Type} {kind : DefinitionKind} {read : List Record → Option α}
  {entry : α → String × String} {name key : String} {rs : List Record}

theorem Reads.mapM (h : Reads kind read entry) (rs : List Record) :
    (∃ xs, (rs.map Record.body).mapM read = some xs ∧
      List.Forall₂ kind.Entry rs (xs.map entry)) ∨
    (rs.map Record.body).mapM read = none ∧ ∃ r ∈ rs, kind.Malformed r := by
  induction rs with
  | nil => exact .inl ⟨[], rfl, .nil⟩
  | cons r rs ih =>
    rw [List.map_cons, List.mapM_cons]
    rcases h r with ⟨x, hx, hr⟩ | ⟨hx, hr⟩
    · rcases ih with ⟨xs, hxs, hrs⟩ | ⟨hxs, r', hr', hbad⟩
      · exact .inl ⟨x :: xs, by simp [hx, hxs], .cons hr hrs⟩
      · exact .inr ⟨by simp [hx, hxs], r', List.mem_cons_of_mem r hr', hbad⟩
    · exact .inr ⟨by simp [hx], r, List.mem_cons_self, hr⟩

theorem Reads.judged (h : Reads kind read entry) {rest : List Record}
    {finish : List α → Except BuildFault Definition}
    (hfinish : ∀ xs, List.Forall₂ kind.Entry (Record.keyed kind.memberKey rest) (xs.map entry) →
      Judged kind name rest (finish xs)) :
    Judged kind name rest
      (readAll kind name kind.memberKey read (ofRecords rest) >>= finish) := by
  rw [readAll, all_ofRecords]
  rcases h.mapM (Record.keyed kind.memberKey rest) with ⟨xs, hxs, hentries⟩ | ⟨hxs, hbad⟩
  · rw [hxs]
    exact hfinish xs hentries
  · rw [hxs]
    exact .malformed hbad

theorem reads_field : Reads .object field? fun f => (f.type, f.name) := by
  intro r
  rcases typedName?_cases r with ⟨m, hm, hr⟩ | ⟨hm, hr⟩
  · exact .inl ⟨⟨m.1, m.2⟩, by simp [field?, hm], hr⟩
  · exact .inr ⟨by simp [field?, hm], hr⟩

theorem reads_parameter (h : kind = .function ∨ kind = .method) :
    Reads kind parameter? fun p => (p.type, p.name) := by
  intro r
  have hkind : kind.Entry r = r.Typed ∧ kind.Malformed r = r.Untyped := by
    rcases h with rfl | rfl <;> exact ⟨rfl, rfl⟩
  rw [hkind.1, hkind.2]
  rcases typedName?_cases r with ⟨m, hm, hr⟩ | ⟨hm, hr⟩
  · exact .inl ⟨_, by simp only [parameter?, hm]; rfl, hr⟩
  · exact .inr ⟨by simp [parameter?, hm], hr⟩

theorem reads_enumMember (form : EnumForm) :
    Reads (.enumeration form) enumMember? fun v => (v.name, v.cName) := by
  intro r
  rcases lastText?_cases r "name" with ⟨name, hname, hr⟩ | ⟨hname, hr⟩
  · rcases lastText?_cases r "c-name" with ⟨cName, hcName, hr'⟩ | ⟨hcName, hr'⟩
    · exact .inl ⟨⟨name, cName⟩, by simp [enumMember?, hname, hcName], hr, hr'⟩
    · exact .inr ⟨by simp [enumMember?, hname, hcName], .inr hr'⟩
  · exact .inr ⟨by simp [enumMember?, hname], .inl hr⟩

end Build

open Attribute Build

/-- A definition lacks its name if there is nothing, or a list, where it should stand. -/
theorem Definition.build_nameless (kind : DefinitionKind) {args : List Record}
    (h : args = [] ∨ ∃ items rest, args = .list items :: rest) :
    build kind args = .error (.missingName kind) := by
  rcases h with rfl | ⟨items, rest, rfl⟩ <;> cases kind <;> rfl

/-- Behind its name, a definition comes to what the judgment says. -/
theorem Definition.build_judged (kind : DefinitionKind) (s : Scalar) (rest : List Record) :
    Judged kind s.spelling rest (build kind (.leaf s :: rest)) := by
  -- Each kind reads its members before anything else can fail.
  cases kind with
  | object =>
    change Judged _ _ _ (_ <$> (readAll _ _ _ _ _ >>= _))
    rw [map_bind]
    exact reads_field.judged fun fields hfields => .built (by simp) hfields
  | function =>
    change Judged _ _ _ (_ <$> ((readAll _ _ _ _ _ >>= _) >>= _))
    rw [bind_assoc, map_bind]
    exact (reads_parameter (.inl rfl)).judged fun ps hps => .built (by simp) hps
  | method =>
    change Judged _ _ _ (_ <$> ((readAll _ _ _ _ _ >>= _) >>= _))
    rw [bind_assoc, map_bind]
    refine (reads_parameter (.inr rfl)).judged fun ps hps => ?_
    rcases owner?_cases rest with ⟨owner, ho, howned⟩ | ⟨ho, hno⟩
    · simp only [pure_bind, ho]
      exact .built (fun _ => howned) hps
    · simp only [pure_bind, ho]
      exact .ownerless rfl (not_malformed_of_entries hps) hno
  | enumeration form =>
    change Judged _ _ _ (_ <$> (readAll _ _ _ _ _ >>= _))
    rw [map_bind]
    exact (reads_enumMember form).judged fun vs hvs => .built (by simp) hvs

/-- A definition lacks its name exactly if there is nothing, or a list, where it should stand. -/
theorem Definition.build_missingName_iff (kind : DefinitionKind) (args : List Record) :
    build kind args = .error (.missingName kind) ↔
      args = [] ∨ ∃ items rest, args = .list items :: rest := by
  refine ⟨fun h => ?_, build_nameless kind⟩
  cases args with
  | nil => exact .inl rfl
  | cons first rest =>
    cases first with
    | leaf s =>
      have hj := build_judged kind s rest
      rw [h] at hj
      cases hj
    | list items => exact .inr ⟨items, rest, rfl⟩

/-- A definition without a name is refused for that. With one it is refused for a malformed one of
the attributes that become members, if there is any; a method otherwise for not naming its object.
In every other case it is built, with a member for each such attribute, in order. -/
theorem Definition.build_refuses_malformed (kind : DefinitionKind) :
    (∀ args, build kind args = .error (.missingName kind) ↔
      args = [] ∨ ∃ items rest, args = .list items :: rest) ∧
    ∀ (s : Scalar) (rest : List Record),
      let attributes := Record.keyed kind.memberKey rest
      (build kind (.leaf s :: rest) = .error (.badAttribute kind s.spelling kind.memberKey) ↔
        ∃ r ∈ attributes, kind.Malformed r) ∧
      (build kind (.leaf s :: rest) = .error (.missingOwner s.spelling) ↔
        kind = .method ∧ (∀ r ∈ attributes, ¬ kind.Malformed r) ∧ Record.Ownerless rest) ∧
      ((∃ d, build kind (.leaf s :: rest) = .ok d ∧
          List.Forall₂ kind.Entry attributes d.members) ↔
        (∀ r ∈ attributes, ¬ kind.Malformed r) ∧ (kind = .method → ¬ Record.Ownerless rest)) := by
  refine ⟨build_missingName_iff kind, fun s rest => ?_⟩
  have hj := build_judged kind s rest
  exact ⟨hj.badAttribute_iff, hj.missingOwner_iff, hj.built_iff⟩

/-- A parameter that says nothing comes before the object that the method does not name. -/
example : Definition.build .method [.leaf (.atom "m"), .list [.leaf (.atom "parameter")]] =
    .error (.badAttribute .method "m" "parameter") := rfl

end DefsGlue
