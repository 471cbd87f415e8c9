import DefsGlue.Numeric.Decimal

/-!
Double-precision numbers, held as their 64 bits, and the double nearest to a decimal. All
arithmetic is exact: a quotient is measured in units of the smallest subnormal, scaled down until
53 bits remain, and rounded once.
-/

namespace DefsGlue

structure Binary64 where
  bits : UInt64
deriving DecidableEq, Repr

namespace Binary64

/-- The integer nearest to `num / den`; of two equally near, the even one. -/
def roundHalfEven (num den : Nat) : Nat :=
  let floor := num / den
  let twice := 2 * (num % den)
  if twice < den || (twice == den && floor % 2 == 0) then floor else floor + 1

/-- The bits of positive infinity; those of every finite magnitude are smaller. -/
def infinityBits : Nat := 0x7FF * Nat.pow 2 52

/-- The bits of the double nearest to `num / den`. A significand that rounds up to the next power
of two carries into the exponent field, which is what the exponent should then be. -/
def magnitudeBits (num den : Nat) : Nat :=
  let units := num * Nat.pow 2 1074
  let scale := (units / den).log2 - 52
  min infinityBits (scale * Nat.pow 2 52 + roundHalfEven units (den * Nat.pow 2 scale))

def ofDecimal (d : Decimal) : Binary64 :=
  let sign := if d.negative then Nat.pow 2 63 else 0
  ⟨UInt64.ofNat (sign + magnitudeBits d.digits (Nat.pow 10 d.places))⟩

end Binary64
end DefsGlue
