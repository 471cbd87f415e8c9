import DefsGlue.Passing.Registry

/-! The shapes of a binding. A value comes in straight into a native local, or by way of a variable
of the host language. What is proved of every binding is proved of each shape. -/
namespace DefsGlue

namespace Strategy

/-- The strategies whose values are extracted straight into a native local of their own. -/
def IsDirect (s : Strategy) : Prop :=
  s = .string ∨ s = .char ∨ s = .int ∨ s = .bool ∨ s = .double

/-- The strategies whose values the native call writes back. -/
def IsReference (s : Strategy) : Prop :=
  s = .stringRef ∨ s = .intRef

inductive Shape (p : Parameter) : Strategy → Binding → Prop
  | direct {s : Strategy} {specifier type declared argument : String} {value? : Option String}
      {c : Char} : s.IsDirect → specifier.toList = [c] → c ∈ ['s', 'c', 'i', 'b', 'd'] →
      declared = p.name ∨ declared = "*" ++ p.name → value?.isSome = p.default?.isSome →
      argument = p.name ∨ argument = "(" ++ p.type ++ ")" ++ p.name →
      Shape p s (direct specifier type p.name (initialized declared value?) argument)
  | reference {s : Strategy} {storage convert : String} : s.IsReference →
      Shape p s (byReference p storage convert)
  | rectangle : Shape p .rectangle (bindRectangle p)
  | enumeration (form : EnumForm) (type : String) :
      Shape p (.enumeration form type) (bindEnumeration form type p)
  | object {object specifier value : String} {host? : Option String} {statements : List String}
      {c : Char} : specifier.toList = [c] → c ∈ ['N', 'O'] →
      (p.default?.isSome = true → host?.isSome = true) →
      Shape p (.object object) {
        specifier, statements
        locals := [⟨object, initialized ("*" ++ p.name) (some value)⟩,
          ⟨"zval", initialized ("*" ++ hostName p.name) host?⟩]
        slots := [objectSlot object (hostName p.name)]
        arguments := [p.name] }
  | bareObject {object : String} : p.default? = Option.none →
      Shape p (.object object) {
        specifier := "O"
        locals := [⟨"zval", "*" ++ p.name⟩]
        slots := [objectSlot object p.name]
        arguments := [unwrapped object p.name]
        statements := [] }
  | boxed (family : String) : Shape p (.boxed family) (bindBoxed family p)

variable {s : Strategy} {p : Parameter} {b : Binding}

theorem shape_bindNullable (object : String) (p : Parameter) :
    Shape p (.object object) (bindNullable object p) := by
  unfold bindNullable
  split
  · exact .object (c := 'N') (by simp) (by simp) (by simp)
  · next hd =>
    exact @Shape.object p object "N" nullPointer Option.none _ 'N' (by simp) (by simp)
      (by simp [hd])

theorem shape_bindRequired (object : String) (p : Parameter) :
    Shape p (.object object) (bindRequired object p) := by
  unfold bindRequired
  split
  · exact .object (c := 'O') (by simp) (by simp) (by simp)
  · next hd => exact .bareObject hd

theorem shape_of_bind (h : s.bind p = .ok b) : Shape p s b := by
  cases s with
  | none => cases h
  | string =>
    obtain rfl := Except.ok.inj h
    exact .direct (c := 's') (by simp [IsDirect]) (by simp) (by simp) (.inr rfl) (by simp)
      (.inl rfl)
  | char =>
    obtain rfl := Except.ok.inj h
    exact .direct (c := 'c') (by simp [IsDirect]) (by simp) (by simp) (.inl rfl) (by simp)
      (.inl rfl)
  | int =>
    obtain rfl := Except.ok.inj h
    exact .direct (c := 'i') (by simp [IsDirect]) (by simp) (by simp) (.inl rfl) rfl (.inr rfl)
  | bool =>
    obtain rfl := Except.ok.inj h
    exact .direct (c := 'b') (by simp [IsDirect]) (by simp) (by simp) (.inl rfl) rfl (.inr rfl)
  | double =>
    obtain rfl := Except.ok.inj h
    exact .direct (c := 'd') (by simp [IsDirect]) (by simp) (by simp) (.inl rfl) rfl (.inl rfl)
  | stringRef =>
    obtain rfl := Except.ok.inj h
    exact .reference (by simp [IsReference])
  | intRef =>
    obtain rfl := Except.ok.inj h
    exact .reference (by simp [IsReference])
  | rectangle =>
    obtain rfl := Except.ok.inj h
    exact .rectangle
  | enumeration form type =>
    obtain rfl := Except.ok.inj h
    exact .enumeration form type
  | object name =>
    obtain rfl := Except.ok.inj h
    split
    · exact shape_bindNullable name p
    · exact shape_bindRequired name p
  | boxed family =>
    obtain rfl := Except.ok.inj h
    exact .boxed family

end Strategy
end DefsGlue
