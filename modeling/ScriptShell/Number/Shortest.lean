import ScriptShell.Number.Binary64
import ScriptShell.Text.Search

namespace ScriptShell.Number

structure Digits where
  digits : List Char
  point : Int
  deriving DecidableEq, Repr

namespace Binary64

def units (x : Binary64) : Nat := x.significand * Nat.pow 2 x.scale

def decimalPoint (x : Binary64) : Int :=
  ((x.units * Nat.pow 10 400 / Nat.pow 2 1074).repr.length : Int) - 400

/-- The decimal with `count` digits, of those around the magnitude, that rounds back to it. -/
def decimalOfLength? (x : Binary64) (point : Int) (count : Nat) : Option Decimal :=
  let unit := point - count
  let (num, den) :=
    if 0 ≤ unit then (x.units, Nat.pow 2 1074 * Nat.pow 10 unit.toNat)
    else (x.units * Nat.pow 10 (-unit).toNat, Nat.pow 2 1074)
  let below : Decimal := ⟨false, num / den, unit⟩
  let above : Decimal := ⟨false, num / den + 1, unit⟩
  let belowFits := below.roundMagnitude = x.magnitude
  let aboveFits := above.roundMagnitude = x.magnitude
  if belowFits ∧ aboveFits then
    if roundQuotient num den = num / den then some below else some above
  else if belowFits then some below
  else if aboveFits then some above
  else none

def shortest (x : Binary64) : Digits :=
  let point := x.decimalPoint
  -- Seventeen digits always suffice.
  match (List.range 17).findSome? fun n => x.decimalOfLength? point (n + 1) with
  | none => ⟨['0'], point⟩
  | some d =>
    let written := d.coefficient.repr.toList
    ⟨(written.reverse.dropWhile (· = '0')).reverse, d.exponent + written.length⟩

/-- Positional with a point where the exponent is from -4 to 15, else with an exponent of at least
two digits. -/
def Digits.text (d : Digits) : String :=
  let zeros (n : Nat) : List Char := List.replicate n '0'
  let count := d.digits.length
  if -4 < d.point ∧ d.point ≤ 16 then
    if d.point ≤ 0 then
      String.ofList ('0' :: '.' :: zeros (-d.point).toNat ++ d.digits)
    else if count ≤ d.point.toNat then
      String.ofList (d.digits ++ zeros (d.point.toNat - count) ++ ['.', '0'])
    else
      String.ofList (d.digits.take d.point.toNat ++ '.' :: d.digits.drop d.point.toNat)
  else
    let mantissa :=
      match d.digits with
      | [] => []
      | [c] => [c]
      | c :: cs => c :: '.' :: cs
    let exponent := d.point - 1
    let sign := if exponent < 0 then '-' else '+'
    let written := exponent.natAbs.repr.toList
    String.ofList (mantissa ++ 'e' :: sign :: zeros (2 - written.length) ++ written)

def text (x : Binary64) : String :=
  if x.isNotANumber then "nan"
  else
    let unsigned :=
      if x.magnitude = infinity then "inf"
      else if x.magnitude = 0 then "0.0"
      else Digits.text x.shortest
    if x.negative then "-" ++ unsigned else unsigned

def hex (x : Binary64) : String :=
  let written := Nat.toDigits 16 x.bits
  String.ofList (List.replicate (16 - written.length) '0' ++ written)

end Binary64

end ScriptShell.Number
