import ScriptShell.Number.Binary64
import ScriptShell.Text.Blank

namespace ScriptShell.Number.Literal

/-- The text in ASCII: blanks and digits from outside ASCII are replaced, and nothing else from
outside is allowed. -/
def toAscii? : List Char → Option (List Char)
  | [] => some []
  | c :: cs =>
    let image? :=
      if c.toNat < 127 then some c
      else if Text.isBlank c then some ' '
      else (Text.digitValue? c).map Nat.digitChar
    match image?, toAscii? cs with
    | some d, some ds => some (d :: ds)
    | _, _ => none

def isAsciiBlank (c : Char) : Bool := (9 ≤ c.toNat && c.toNat ≤ 13) || c = ' '

def strip (cs : List Char) : List Char :=
  ((cs.dropWhile isAsciiBlank).reverse.dropWhile isAsciiBlank).reverse

def dropSeparators? (afterDigit : Bool) : List Char → Option (List Char)
  | [] => some []
  | c :: cs =>
    if c = '_' then
      match cs with
      | d :: _ => if afterDigit ∧ d.isDigit then dropSeparators? false cs else none
      | [] => none
    else (dropSeparators? c.isDigit cs).map (c :: ·)

def clean? (s : String) : Option (List Char) :=
  match toAscii? s.toList with
  | none => none
  | some cs => dropSeparators? false (strip cs)

def maxDigits : Nat := 4300

def integer? (s : String) : Option Int :=
  match clean? s with
  | none => none
  | some cs =>
    let (negative, cs) := takeSign cs
    match takeDigits cs with
    | (digit :: digits, []) =>
      if maxDigits < digits.length + 1 then none
      else
        let n := ofDigits (digit :: digits)
        some (if negative then -n else n)
    | _ => none

def real? (s : String) : Option Binary64 :=
  match clean? s with
  | none => none
  | some cs =>
    let (negative, word) := takeSign cs
    let word := String.ofList (word.map Char.toLower)
    if word = "inf" ∨ word = "infinity" then some ⟨negative, Binary64.infinity⟩
    else if word = "nan" then some Binary64.notANumber
    else
      match Decimal.scan? cs with
      | some (d, []) => some d.toBinary64
      | _ => none

end ScriptShell.Number.Literal
