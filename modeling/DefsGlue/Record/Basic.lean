import DefsGlue.Numeric.Binary64

/-!
Records: the trees that a definition file is made of. A leaf keeps the spelling it had in the
source, so that a number is written back digit by digit as it was read.
-/

namespace DefsGlue

inductive Scalar where
  | atom (text : String)
  | quoted (text : String)
  | number (value : Binary64) (lexeme : String)
deriving DecidableEq, Repr

inductive Record where
  | leaf (scalar : Scalar)
  | list (items : List Record)
deriving Repr, Inhabited

namespace Scalar

/-- The text of an atom or a quoted text; a number names nothing. -/
def name? : Scalar → Option String
  | atom s | quoted s => some s
  | number .. => none

/-- The spelling in the source, without quotes. -/
def spelling : Scalar → String
  | atom s | quoted s => s
  | number _ lexeme => lexeme

def value? : Scalar → Option Binary64
  | number value _ => some value
  | _ => none

/-- The form that reads back as the same scalar. -/
def written : Scalar → String
  | atom s => s
  | quoted s => "\"" ++ s ++ "\""
  | number _ lexeme => lexeme

end Scalar

namespace Record

mutual

def decEq : (a b : Record) → Decidable (a = b)
  | leaf s, leaf t => decidable_of_iff (s = t) (by simp)
  | list xs, list ys => @decidable_of_iff _ (xs = ys) (by simp) (decEqAll xs ys)
  | leaf _, list _ | list _, leaf _ => isFalse (by simp)

def decEqAll : (xs ys : List Record) → Decidable (xs = ys)
  | [], [] => isTrue rfl
  | x :: xs, y :: ys =>
    match decEq x y, decEqAll xs ys with
    | isTrue h, isTrue hs => isTrue (by rw [h, hs])
    | isFalse h, _ => isFalse (by simp [h])
    | _, isFalse hs => isFalse (by simp [hs])
  | [], _ :: _ | _ :: _, [] => isFalse (by simp)

end

instance : DecidableEq Record := decEq

def scalar? : Record → Option Scalar
  | leaf s => some s
  | list _ => none

def items? : Record → Option (List Record)
  | leaf _ => none
  | list items => some items

def name? (r : Record) : Option String :=
  r.scalar?.bind Scalar.name?

def spelling? (r : Record) : Option String :=
  r.scalar?.map Scalar.spelling

def value? (r : Record) : Option Binary64 :=
  r.scalar?.bind Scalar.value?

/-- The name that a list begins with. -/
def head? : Record → Option String
  | list (first :: _) => first.name?
  | _ => none

mutual

/-- The record on one line, one blank between the items of a list. -/
def written : Record → String
  | leaf s => s.written
  | list items => "(" ++ " ".intercalate (writtenAll items) ++ ")"

def writtenAll : List Record → List String
  | [] => []
  | r :: rs => r.written :: writtenAll rs

end

theorem writtenAll_eq_map (rs : List Record) : writtenAll rs = rs.map written := by
  induction rs with
  | nil => rfl
  | cons r rs ih => simp [writtenAll, ih]

end Record
end DefsGlue
