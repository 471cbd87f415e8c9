import DefsGlue.Proofs.Passing.Contribution
import DefsGlue.Proofs.Passing.Shape
import DefsGlue.Proofs.Text.Identifier

/-! The locals of one parameter: which names it declares, and which of them its slots address and
its argument mentions. -/
namespace DefsGlue

open Strategy (Shape initialized hostName)
open Text (isIdentifier isIdentifierChar Mentions)

/-- The name that a declarator declares: the identifier that it begins with, but for the mark of a
pointer. -/
def declaredName (declarator : String) : String :=
  match declarator.toList with
  | '*' :: cs => Text.leadingIdentifier cs
  | cs => Text.leadingIdentifier cs

def Local.name (l : Local) : String := declaredName l.declarator

/-- Whether a target is the address of a local, the same with a class, or the address of a field. -/
inductive Addresses : String → String → Prop
  | whole {name : String} : isIdentifier name = true → Addresses ("&" ++ name) name
  | checked {name : String} (entry : String) : isIdentifier name = true →
      Addresses ("&" ++ name ++ ", " ++ entry) name
  | member {name : String} (field : String) : isIdentifier name = true →
      Addresses ("&(" ++ name ++ "." ++ field ++ ")") name

variable {name target x y : String} {rest : List Char}

theorem declaredName_append (h : isIdentifier name = true)
    (hr : ∀ c ∈ rest.head?, isIdentifierChar c = false) :
    declaredName (.ofList (name.toList ++ rest)) = name := by
  obtain ⟨c, cs, hname, hc⟩ := Text.exists_cons_of_isIdentifier h
  have hstar : c ≠ '*' := by
    rintro rfl
    revert hc
    decide
  have hlead := Text.leadingIdentifier_append h hr
  rw [hname] at hlead ⊢
  simp only [declaredName, String.toList_ofList, List.cons_append]
  split
  · next he => exact (hstar (List.cons.inj he).1).elim
  · exact hlead

theorem declaredName_pointer (h : isIdentifier name = true)
    (hr : ∀ c ∈ rest.head?, isIdentifierChar c = false) :
    declaredName (.ofList ('*' :: (name.toList ++ rest))) = name := by
  simp only [declaredName, String.toList_ofList]
  exact Text.leadingIdentifier_append h hr

/-- What stands after the name in a declarator. -/
theorem initialized_eq (declared : String) (value? : Option String) : ∃ rest : List Char,
    initialized declared value? = .ofList (declared.toList ++ rest) ∧
      ∀ c ∈ rest.head?, isIdentifierChar c = false := by
  cases value? with
  | none => exact ⟨[], by simp [initialized], by simp⟩
  | some value =>
    refine ⟨" = ".toList ++ value.toList, ?_, by simp [isIdentifierChar]⟩
    rw [← String.toList_append, ← String.toList_append, String.ofList_toList,
      ← String.append_assoc]
    rfl

theorem declaredName_initialized (h : isIdentifier name = true) (value? : Option String) :
    declaredName (initialized name value?) = name := by
  obtain ⟨rest, he, hr⟩ := initialized_eq name value?
  rw [he]
  exact declaredName_append h hr

theorem declaredName_initialized_pointer (h : isIdentifier name = true) (value? : Option String) :
    declaredName (initialized ("*" ++ name) value?) = name := by
  obtain ⟨rest, he, hr⟩ := initialized_eq ("*" ++ name) value?
  rw [he]
  simpa using declaredName_pointer h hr

theorem isIdentifier_hostName (h : isIdentifier name = true) :
    isIdentifier (hostName name) = true := by
  have hall : name.toList.all isIdentifierChar = true :=
    List.all_eq_true.mpr fun c hc => Text.isIdentifierChar_of_mem h hc
  have hlist : (hostName name).toList = 'p' :: 'h' :: 'p' :: '_' :: name.toList := by
    simp [hostName]
  unfold isIdentifier
  rw [hlist]
  simp only [List.all_cons, hall]
  decide

/-- The first identifier in a target. -/
def addressed (target : String) : String :=
  Text.leadingIdentifier (target.toList.dropWhile fun c => !isIdentifierChar c)

theorem leading_after_mark (h : isIdentifier name = true)
    (hr : ∀ c ∈ rest.head?, isIdentifierChar c = false) :
    Text.leadingIdentifier ((name.toList ++ rest).dropWhile fun c => !isIdentifierChar c) =
      name := by
  obtain ⟨c, cs, hname, hc⟩ := Text.exists_cons_of_isIdentifier h
  have hlead := Text.leadingIdentifier_append h hr
  rw [hname] at hlead ⊢
  simpa [hc] using hlead

theorem Addresses.addressed_eq (h : Addresses target x) : addressed target = x := by
  have hmark : isIdentifierChar '&' = false ∧ isIdentifierChar '(' = false := by decide
  cases h with
  | whole hx => simpa [addressed, hmark] using @leading_after_mark x [] hx (by simp)
  | checked entry hx =>
    have hr : ∀ c ∈ (',' :: ' ' :: entry.toList).head?, isIdentifierChar c = false := by
      simp [isIdentifierChar]
    simpa [addressed, hmark] using leading_after_mark hx hr
  | member field hx =>
    have hr : ∀ c ∈ ('.' :: (field.toList ++ [')'])).head?, isIdentifierChar c = false := by
      simp [isIdentifierChar]
    simpa [addressed, hmark] using leading_after_mark hx hr

/-- A target addresses one name at most. -/
theorem Addresses.unique (h : Addresses target x) (h' : Addresses target y) : x = y :=
  h.addressed_eq.symm.trans h'.addressed_eq

/-- What the locals of a parameter are there for. -/
structure SelfContained (p : Parameter) (b : Binding) : Prop where
  names : b.locals.map Local.name = [p.name] ∨ b.locals.map Local.name = [hostName p.name] ∨
    b.locals.map Local.name = [p.name, hostName p.name]
  slots : ∀ slot ∈ b.slots, ∃ l ∈ b.locals, Addresses slot.target l.name
  argument : ∃ a, b.arguments = [a] ∧ ∃ l ∈ b.locals, Mentions a l.name

namespace Strategy

variable {p : Parameter} {s : Strategy} {b : Binding}

/-- A local whose declarator is a name or a pointer to it, with or without a value. -/
theorem name_initialized {declared : String} (hn : isIdentifier name = true)
    (hd : declared = name ∨ declared = "*" ++ name) (type : String) (value? : Option String) :
    (⟨type, initialized declared value?⟩ : Local).name = name := by
  rcases hd with rfl | rfl
  · exact declaredName_initialized hn value?
  · exact declaredName_initialized_pointer hn value?

/-- The same without a value. -/
theorem name_bare {declared : String} (hn : isIdentifier name = true)
    (hd : declared = name ∨ declared = "*" ++ name) (type : String) :
    (⟨type, declared⟩ : Local).name = name :=
  name_initialized hn hd type Option.none

theorem name_nullHost (hn : isIdentifier name = true) : (nullHost name).name = hostName name :=
  name_initialized (isIdentifier_hostName hn) (.inr rfl) _ _

theorem selfContained_of_shape (h : Shape p s b) (hn : isIdentifier p.name = true) :
    SelfContained p b := by
  have hh := isIdentifier_hostName hn
  have hhost : (nullHost p.name).name = hostName p.name := name_nullHost hn
  cases h with
  | @direct _ _ type declared argument value? _ _ _ _ hd _ ha =>
    have hname := name_initialized hn hd type value?
    have hmention : Mentions argument p.name := by
      rcases ha with rfl | rfl
      · exact Text.mentions_self p.name
      · exact ⟨("(" ++ p.type ++ ")").toList, [], by simp,
          by simp [isIdentifierChar, List.getLast?_cons], by simp⟩
    refine ⟨.inl (by simp [direct, hname]), ?_, ?_⟩
    · simpa [direct, hname] using Addresses.whole hn
    · exact ⟨argument, rfl, _, List.mem_singleton_self _, hname.symm ▸ hmention⟩
  | @reference _ storage _ _ =>
    have hmention : Mentions ("(" ++ p.type ++ ")&" ++ storage ++ "(" ++ hostName p.name ++ ")")
        (hostName p.name) :=
      ⟨("(" ++ p.type ++ ")&" ++ storage ++ "(").toList, [')'], by simp,
        by simp [isIdentifierChar, List.getLast?_cons], by simp [isIdentifierChar]⟩
    refine ⟨.inr (.inl (by simp [byReference, hhost])), ?_, ?_⟩
    · simpa [byReference, hhost] using Addresses.whole hh
    · exact ⟨_, rfl, _, List.mem_singleton_self _, hhost.symm ▸ hmention⟩
  | rectangle =>
    have hname := name_bare hn (.inl rfl) (TypeName.pointee p.type)
    have hmention : Mentions ("&" ++ p.name) p.name :=
      ⟨['&'], [], by simp, by simp [isIdentifierChar], by simp⟩
    refine ⟨.inl (by simp [bindRectangle, hname]), ?_, ?_⟩
    · simp [bindRectangle, hname, Addresses.member _ hn]
    · exact ⟨_, rfl, _, List.mem_singleton_self _, hname.symm ▸ hmention⟩
  | enumeration form type =>
    have hname := name_initialized hn (.inl rfl) type p.default?
    refine ⟨.inr (.inr (by simp [bindEnumeration, hname, hhost])), ?_, ?_⟩
    · simp [bindEnumeration, hname, hhost, Addresses.whole hh]
    · exact ⟨p.name, rfl, _, List.mem_cons_self, hname.symm ▸ Text.mentions_self p.name⟩
  | @object object _ value host? _ _ _ _ _ =>
    have hname := name_initialized hn (.inr rfl) object (some value)
    have hvalue := name_initialized hh (.inr rfl) "zval" host?
    refine ⟨.inr (.inr (by simp [hname, hvalue])), ?_, ?_⟩
    · simp [objectSlot, hname, hvalue, Addresses.checked _ hh]
    · exact ⟨p.name, rfl, _, List.mem_cons_self, hname.symm ▸ Text.mentions_self p.name⟩
  | @bareObject object _ =>
    have hname := name_bare hn (.inr rfl) "zval"
    have hmention : Mentions (unwrapped object p.name) p.name :=
      ⟨(TypeName.macroName object ++ "(PHP_GTK_GET(").toList, [')', ')'], by simp [unwrapped],
        by simp [isIdentifierChar], by simp [isIdentifierChar]⟩
    refine ⟨.inl (by simpa using hname), ?_, ?_⟩
    · simp [objectSlot, hname, Addresses.checked _ hn]
    · exact ⟨_, rfl, _, List.mem_singleton_self _, hname.symm ▸ hmention⟩
  | boxed family =>
    have hname := name_bare hn (.inr rfl) "zval"
    have htarget : Addresses ("&" ++ p.name ++ ", " ++ family ++ "_ce") p.name := by
      simpa [String.append_assoc] using Addresses.checked (family ++ "_ce") hn
    have hmention : Mentions ("PHP_" ++ Text.uppercase family ++ "_GET(" ++ p.name ++ ")") p.name :=
      ⟨("PHP_" ++ Text.uppercase family ++ "_GET(").toList, [')'], by simp,
        by simp [isIdentifierChar, List.getLast?_cons], by simp [isIdentifierChar]⟩
    refine ⟨.inl (by simpa [bindBoxed] using hname), ?_, ?_⟩
    · simpa [bindBoxed, hname] using htarget
    · exact ⟨_, rfl, _, List.mem_singleton_self _, hname.symm ▸ hmention⟩

end Strategy
end DefsGlue
