import ScriptShell.Text.Digit

namespace ScriptShell.Number

/-- The exact value `coefficient * 10 ^ exponent`, negated when `negative` is set. -/
structure Decimal where
  negative : Bool
  coefficient : Nat
  exponent : Int
  deriving DecidableEq, Repr

def ofDigits (digits : List Nat) : Nat := digits.foldl (fun n d => 10 * n + d) 0

def takeDigits : List Char → List Nat × List Char
  | [] => ([], [])
  | c :: cs =>
    match Text.digitValue? c with
    | some d => (d :: (takeDigits cs).1, (takeDigits cs).2)
    | none => ([], c :: cs)

def takeSign : List Char → Bool × List Char
  | '-' :: cs => (true, cs)
  | '+' :: cs => (false, cs)
  | cs => (false, cs)

def takeFraction : List Char → List Nat × List Char
  | '.' :: cs => takeDigits cs
  | cs => ([], cs)

def takeExponent : List Char → Int × List Char
  | [] => (0, [])
  | c :: cs =>
    if c = 'e' ∨ c = 'E' then
      match takeDigits (takeSign cs).2 with
      | ([], _) => (0, c :: cs)
      | (digits, rest) =>
        (if (takeSign cs).1 then -(ofDigits digits : Int) else ofDigits digits, rest)
    else (0, c :: cs)

namespace Decimal

/-- The numeral at the front: a sign, digits with a point somewhere or nowhere, an exponent. Only
the digits are required. -/
def scan? (cs : List Char) : Option (Decimal × List Char) :=
  let (negative, cs) := takeSign cs
  let (whole, cs) := takeDigits cs
  let (fraction, cs) := takeFraction cs
  if whole = [] ∧ fraction = [] then none
  else
    let (exponent, cs) := takeExponent cs
    some (⟨negative, ofDigits (whole ++ fraction), exponent - fraction.length⟩, cs)

def ofText? (s : String) : Option Decimal :=
  match scan? s.toList with
  | some (d, []) => some d
  | some (d, ['\n']) => some d
  | _ => none

end Decimal

end ScriptShell.Number
