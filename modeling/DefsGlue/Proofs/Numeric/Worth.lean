import DefsGlue.Proofs.Numeric.Plain
import Mathlib.Algebra.Field.Rat
import Mathlib.Tactic.FieldSimp
import Mathlib.Tactic.NormNum
import Mathlib.Tactic.Ring

/-! What a plain decimal is worth, by the places of its digits, and that its reading as an integer
with a number of places is worth the same. -/
namespace DefsGlue.Decimal

open Text (Longest)

/-- What digits are worth in front of a point, where the last of them counts ones. -/
def wholeWorth : List Char → ℚ
  | [] => 0
  | c :: cs => ((c.toNat - '0'.toNat : Nat) : ℚ) * 10 ^ cs.length + wholeWorth cs

/-- What digits are worth behind a point, where the first of them counts tenths. -/
def fractionWorth : List Char → ℚ
  | [] => 0
  | c :: cs => (((c.toNat - '0'.toNat : Nat) : ℚ) + fractionWorth cs) / 10

/-- The size of the number that a plain decimal spells. -/
def spelledSize (cs : List Char) : ℚ :=
  let unsigned := cs.dropWhile fun c => c == '+' || c == '-'
  wholeWorth (unsigned.takeWhile (· != '.')) +
    fractionWorth ((unsigned.dropWhile (· != '.')).drop 1)

def spelledNegative (cs : List Char) : Bool := cs.head? == some '-'

/-- The size of a decimal, without its sign. -/
def size (d : Decimal) : ℚ := (d.digits : ℚ) / 10 ^ d.places

variable {cs digits fraction sign rest : List Char} {d : Decimal} {negative : Bool}

theorem foldl_digits (n : Nat) (cs : List Char) :
    ((cs.foldl (fun n c => 10 * n + (c.toNat - '0'.toNat)) n : Nat) : ℚ) =
      n * 10 ^ cs.length + wholeWorth cs := by
  induction cs generalizing n with
  | nil => simp [wholeWorth]
  | cons c cs ih =>
    rw [List.foldl_cons, ih, wholeWorth, List.length_cons, pow_succ]
    push_cast
    ring

theorem cast_digitsValue (cs : List Char) : (digitsValue cs : ℚ) = wholeWorth cs := by
  rw [digitsValue, foldl_digits]
  simp

theorem wholeWorth_append (a b : List Char) :
    wholeWorth (a ++ b) = wholeWorth a * 10 ^ b.length + wholeWorth b := by
  induction a with
  | nil => simp [wholeWorth]
  | cons c a ih =>
    rw [List.cons_append, wholeWorth, ih, List.length_append, wholeWorth, pow_add]
    ring

theorem fractionWorth_eq (cs : List Char) : fractionWorth cs = wholeWorth cs / 10 ^ cs.length := by
  induction cs with
  | nil => simp [fractionWorth, wholeWorth]
  | cons c cs ih =>
    rw [fractionWorth, ih, wholeWorth, List.length_cons, pow_succ]
    field_simp

/-- Digits up to the point or the end, and what follows. -/
theorem spelledSize_of_digits (hd : Digits digits) (hr : ∀ c ∈ rest.head?, c = '.') :
    spelledSize (digits ++ rest) = wholeWorth digits + fractionWorth (rest.drop 1) := by
  have hsign : (digits ++ rest).dropWhile (fun c => c == '+' || c == '-') = digits ++ rest := by
    cases digits with
    | nil =>
      cases rest with
      | nil => rfl
      | cons c rest =>
        obtain rfl := hr c (by simp)
        rfl
    | cons c digits =>
      obtain ⟨hplus, hminus, -⟩ := isDigit_ne (hd c (by simp))
      simp [hplus, hminus]
  have hlong : Longest (· ≠ '.') digits rest :=
    ⟨fun c hc => (isDigit_ne (hd c hc)).2.2, fun c hc hne => hne (hr c hc)⟩
  rw [spelledSize, hsign, hlong.takeWhile_eq (by simp), hlong.dropWhile_eq (by simp)]

theorem spelledSize_sign (hs : Sign sign negative) (cs : List Char) :
    spelledSize (sign ++ cs) = spelledSize cs := by
  cases hs <;> rfl

theorem spelledNegative_sign (hs : Sign sign negative) (hc : ∀ c ∈ cs.head?, c ≠ '-') :
    spelledNegative (sign ++ cs) = negative := by
  cases hs with
  | none =>
    cases cs with
    | nil => rfl
    | cons c cs => simpa [spelledNegative] using hc c (by simp)
  | plus => rfl
  | minus => rfl

/-- Digits read across the point are worth as much as those on either side of it. -/
theorem size_across (negative : Bool) (digits fraction : List Char) :
    size ⟨negative, digitsValue (digits ++ fraction), fraction.length⟩ =
      wholeWorth digits + fractionWorth fraction := by
  rw [size, cast_digitsValue, wholeWorth_append, fractionWorth_eq, add_div,
    mul_div_cancel_right₀ _ (pow_ne_zero _ (by norm_num))]

theorem spelled_of_plain (h : Plain cs d) :
    d.size = spelledSize cs ∧ d.negative = spelledNegative cs := by
  have hhead : ∀ {digits rest : List Char}, Digits digits → digits ≠ [] →
      ∀ c ∈ (digits ++ rest).head?, c ≠ '-' :=
    fun hd hne c hc => (isDigit_ne (hd.head hne c hc)).2.1
  cases h with
  | @whole sign digits negative hs hd hne =>
    rw [← List.append_nil digits, spelledSize_sign hs, spelledSize_of_digits hd (by simp),
      spelledNegative_sign hs (hhead hd hne)]
    exact ⟨size_across negative digits [], rfl⟩
  | @point sign digits fraction negative hs hd hne hf =>
    rw [spelledSize_sign hs, spelledSize_of_digits hd (by simp),
      spelledNegative_sign hs (hhead hd hne)]
    exact ⟨size_across negative digits fraction, rfl⟩
  | @fraction fraction hf hne =>
    rw [← List.nil_append ('.' :: fraction), spelledSize_of_digits (by simp [Digits]) (by simp)]
    exact ⟨size_across false [] fraction, rfl⟩

end DefsGlue.Decimal
