import DefsGlue.Proofs.Text.Longest

/-! Identifiers of the native language, and where they stand in a text. -/
namespace DefsGlue.Text

def isIdentifierChar (c : Char) : Bool :=
  c.isAlphanum || c == '_'

/-- Letters, digits and underscores, of which the first is no digit. -/
def isIdentifier (name : String) : Bool :=
  match name.toList with
  | [] => false
  | c :: cs => !c.isDigit && (c :: cs).all isIdentifierChar

/-- The letters, digits and underscores that a text begins with. -/
def leadingIdentifier (cs : List Char) : String :=
  .ofList (cs.takeWhile isIdentifierChar)

/-- Whether a name stands in a text as a whole, not inside a longer one. -/
def Mentions (text name : String) : Prop :=
  ∃ before after : List Char, text.toList = before ++ name.toList ++ after ∧
    (∀ c ∈ before.getLast?, isIdentifierChar c = false) ∧
    ∀ c ∈ after.head?, isIdentifierChar c = false

variable {name text : String} {c : Char} {rest : List Char}

theorem isIdentifierChar_of_mem (h : isIdentifier name = true) (hc : c ∈ name.toList) :
    isIdentifierChar c = true := by
  unfold isIdentifier at h
  split at h
  · cases h
  · next d ds hd =>
    rw [hd] at hc
    simp only [Bool.and_eq_true, List.all_eq_true] at h
    exact h.2 c hc

theorem not_mem_of_isIdentifier (h : isIdentifier name = true) (hc : isIdentifierChar c = false) :
    c ∉ name.toList := by
  intro hmem
  simp [isIdentifierChar_of_mem h hmem] at hc

theorem exists_cons_of_isIdentifier (h : isIdentifier name = true) :
    ∃ c cs, name.toList = c :: cs ∧ isIdentifierChar c = true := by
  have hmem : ∀ c ∈ name.toList, isIdentifierChar c = true :=
    fun c hc => isIdentifierChar_of_mem h hc
  unfold isIdentifier at h
  split at h
  · cases h
  · next c cs hcs => exact ⟨c, cs, hcs, hmem c (by simp [hcs])⟩

/-- An identifier is read back from a text that does not go on with a character of one. -/
theorem leadingIdentifier_append (h : isIdentifier name = true)
    (hr : ∀ c ∈ rest.head?, isIdentifierChar c = false) :
    leadingIdentifier (name.toList ++ rest) = name := by
  have hlong : Longest (fun c => isIdentifierChar c = true) name.toList rest :=
    ⟨fun c hc => isIdentifierChar_of_mem h hc, fun c hc => by simp [hr c hc]⟩
  rw [leadingIdentifier, hlong.takeWhile_eq fun _ => Iff.rfl, String.ofList_toList]

theorem mentions_self (name : String) : Mentions name name :=
  ⟨[], [], by simp, by simp, by simp⟩

end DefsGlue.Text
