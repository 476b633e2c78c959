import ScriptShell.Number.Decimal

/-!
Binary floating-point numbers of 64 bits, and rounding of exact values to them. A magnitude is kept
as its bit pattern without the sign bit. These patterns are in the order of the magnitudes, with
infinity right after the largest finite one and the patterns above it meaning "not a number".
-/

namespace ScriptShell.Number

structure Binary64 where
  negative : Bool
  magnitude : Nat
  deriving DecidableEq, Repr

def roundQuotient (a b : Nat) : Nat :=
  let q := a / b
  let r := a % b
  if b < 2 * r ∨ (2 * r = b ∧ q % 2 = 1) then q + 1 else q

namespace Binary64

def infinity : Nat := 2047 * Nat.pow 2 52

def notANumber : Binary64 := ⟨false, 2047 * Nat.pow 2 52 + Nat.pow 2 51⟩

/-- The magnitude nearest to `a / b` units of `2 ^ (-1074)`, without an upper limit. A pattern is 53
bits of precision above a scale, and rounding up past the top of a scale is the next scale's
bottom. -/
def roundUnits (a b : Nat) : Nat :=
  let scale := (a / b).log2 - 52
  scale * Nat.pow 2 52 + roundQuotient a (b * Nat.pow 2 scale)

def roundRatio (num den : Nat) : Nat := min infinity (roundUnits (num * Nat.pow 2 1074) den)

end Binary64

open Binary64 in
def Decimal.roundMagnitude (d : Decimal) : Nat :=
  if d.coefficient = 0 then 0
  -- Far outside the range the power of ten is not computed.
  else if 400 < d.exponent then infinity
  else if d.exponent + d.coefficient.log2 + 1 < -400 then 0
  else if 0 ≤ d.exponent then roundRatio (d.coefficient * Nat.pow 10 d.exponent.toNat) 1
  else roundRatio d.coefficient (Nat.pow 10 (-d.exponent).toNat)

def Decimal.toBinary64 (d : Decimal) : Binary64 := ⟨d.negative, d.roundMagnitude⟩

namespace Binary64

def isFinite (x : Binary64) : Bool := x.magnitude < infinity

def isNotANumber (x : Binary64) : Bool := infinity < x.magnitude

def rank (x : Binary64) : Int := if x.negative then -x.magnitude else x.magnitude

def isPositive (x : Binary64) : Bool := !x.isNotANumber && 0 < x.rank

def bits (x : Binary64) : Nat := if x.negative then Nat.pow 2 63 + x.magnitude else x.magnitude

/-- A finite magnitude is `significand * 2 ^ (scale - 1074)`. -/
def significand (x : Binary64) : Nat :=
  if x.magnitude < Nat.pow 2 52 then x.magnitude
  else x.magnitude % Nat.pow 2 52 + Nat.pow 2 52

def scale (x : Binary64) : Nat := x.magnitude / Nat.pow 2 52 - 1

end Binary64

end ScriptShell.Number
