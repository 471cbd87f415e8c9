/-!
Plain decimals: an optional sign, digits, and an optional point. The notation has no exponent, so
a decimal is an integer and a number of places.
-/

namespace DefsGlue

/-- The decimal `digits / 10 ^ places`, below zero when `negative`; a zero has a sign as well. -/
structure Decimal where
  negative : Bool
  digits : Nat
  places : Nat
deriving DecidableEq, Repr

namespace Decimal

def digitsValue (cs : List Char) : Nat :=
  cs.foldl (fun n c => 10 * n + (c.toNat - '0'.toNat)) 0

/-- Digits with at most one point among them, and at least one digit. -/
def unsigned? (negative : Bool) (cs : List Char) : Option Decimal :=
  let whole := cs.takeWhile Char.isDigit
  match cs.dropWhile Char.isDigit with
  | [] => if whole.isEmpty then none else some ⟨negative, digitsValue whole, 0⟩
  | '.' :: fraction =>
    if fraction.all Char.isDigit && !(whole.isEmpty && fraction.isEmpty) then
      some ⟨negative, digitsValue (whole ++ fraction), fraction.length⟩
    else none
  | _ => none

def ofChars? : List Char → Option Decimal
  | '+' :: cs => unsigned? false cs
  | '-' :: cs => unsigned? true cs
  | cs => unsigned? false cs

end Decimal
end DefsGlue
