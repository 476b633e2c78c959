import ScriptShell.Json.Value
import ScriptShell.Number.Literal
import ScriptShell.Table

/-!
Reading JSON. Besides the standard, `NaN`, `Infinity` and `-Infinity` are numbers, and of a repeated
field name the last value counts. A fault is told with the place where reading stopped.
-/

namespace ScriptShell.Json

inductive Problem where
  | byteOrderMark
  | value
  | name
  | colon
  | comma
  | extra
  | unterminated
  | control
  | escape
  | codeEscape
  deriving DecidableEq, Repr

/-- Why a text cannot be read. A problem is placed by how many characters are left from there on. -/
inductive Flaw where
  | problem (p : Problem) (left : Nat)
  | oversized (digits : Nat)
  deriving DecidableEq, Repr

def isJsonBlank (c : Char) : Bool := c = ' ' || c = '\t' || c = '\n' || c = '\r'

def skipBlanks (cs : List Char) : List Char := cs.dropWhile isJsonBlank

/-! ## Strings -/

inductive Unit16 where
  | char (c : Char)
  | code (n : Nat)
  deriving DecidableEq, Repr

def hexValue? (c : Char) : Option Nat :=
  if c.isDigit then some (c.toNat - 48)
  else if 'a' ≤ c ∧ c ≤ 'f' then some (c.toNat - 87)
  else if 'A' ≤ c ∧ c ≤ 'F' then some (c.toNat - 55)
  else none

def hexCode? (a b c d : Char) : Option Nat :=
  match hexValue? a, hexValue? b, hexValue? c, hexValue? d with
  | some a, some b, some c, some d => some (((a * 16 + b) * 16 + c) * 16 + d)
  | _, _, _, _ => none

def simpleEscape? : Char → Option Char
  | '"' => some '"'
  | '\\' => some '\\'
  | '/' => some '/'
  | 'b' => some '\x08'
  | 'f' => some '\x0c'
  | 'n' => some '\n'
  | 'r' => some '\r'
  | 't' => some '\t'
  | _ => none

def prepend (unit : Unit16) :
    Except Flaw (List Unit16 × List Char) → Except Flaw (List Unit16 × List Char)
  | .ok (units, rest) => .ok (unit :: units, rest)
  | .error flaw => .error flaw

def readUnits (start : Nat) : List Char → Except Flaw (List Unit16 × List Char)
  | [] => .error (.problem .unterminated start)
  | '"' :: rest => .ok ([], rest)
  | ['\\'] => .error (.problem .unterminated start)
  | '\\' :: 'u' :: a :: b :: c :: d :: rest =>
    match hexCode? a b c d with
    | some n =>
      if rest = [] then .error (.problem .codeEscape 5)
      else prepend (.code n) (readUnits start rest)
    | none => .error (.problem .codeEscape (rest.length + 5))
  | '\\' :: c :: rest =>
    match simpleEscape? c with
    | some d => prepend (.char d) (readUnits start rest)
    | none =>
      if c = 'u' then .error (.problem .codeEscape (rest.length + 1))
      else .error (.problem .escape (rest.length + 2))
  | c :: rest =>
    if c.toNat < 0x20 then .error (.problem .control (rest.length + 1))
    else prepend (.char c) (readUnits start rest)

def isHigh (n : Nat) : Bool := 0xD800 ≤ n && n < 0xDC00

def isLow (n : Nat) : Bool := 0xDC00 ≤ n && n < 0xE000

def letterOf (n : Nat) : Letter :=
  if isHigh n || isLow n then .surrogate n else .char (Char.ofNat n)

/-- The letters that units make. A high and a low surrogate in a row are one character. -/
def joinUnits : List Unit16 → List Letter
  | [] => []
  | .char c :: rest => .char c :: joinUnits rest
  | .code n :: .code m :: rest =>
    if isHigh n && isLow m then
      .char (Char.ofNat (0x10000 + (n - 0xD800) * 0x400 + (m - 0xDC00))) :: joinUnits rest
    else letterOf n :: joinUnits (.code m :: rest)
  | .code n :: rest => letterOf n :: joinUnits rest

def readString (cs : List Char) : Except Flaw (List Letter × List Char) :=
  match readUnits (cs.length + 1) cs with
  | .ok (units, rest) => .ok (joinUnits units, rest)
  | .error flaw => .error flaw

/-! ## Numbers -/

def asciiDigits (cs : List Char) : List Char × List Char :=
  (cs.takeWhile Char.isDigit, cs.dropWhile Char.isDigit)

def digitValues (cs : List Char) : List Nat := cs.map fun c => c.toNat - 48

def readWhole : List Char → Option (List Char × List Char)
  | '0' :: cs => some (['0'], cs)
  | c :: cs => if c.isDigit then some (asciiDigits (c :: cs)) else none
  | [] => none

def readFraction : List Char → Option (List Char) × List Char
  | '.' :: c :: cs =>
    if c.isDigit then (some (asciiDigits (c :: cs)).1, (asciiDigits (c :: cs)).2)
    else (none, '.' :: c :: cs)
  | cs => (none, cs)

def readExponent : List Char → Option Int × List Char
  | [] => (none, [])
  | c :: cs =>
    if c = 'e' ∨ c = 'E' then
      let (negative, digits) := Number.takeSign cs
      match asciiDigits digits with
      | ([], _) => (none, c :: cs)
      | (digits, rest) =>
        let n := Number.ofDigits (digitValues digits)
        (some (if negative then -n else n), rest)
    else (none, c :: cs)

def readNumber (cs : List Char) : Except Flaw (Value × List Char) :=
  let (negative, unsigned) :=
    match cs with
    | '-' :: rest => (true, rest)
    | _ => (false, cs)
  match readWhole unsigned with
  | none => .error (.problem .value cs.length)
  | some (whole, rest) =>
    let (fraction, rest) := readFraction rest
    let (exponent, rest) := readExponent rest
    if fraction.isNone ∧ exponent.isNone then
      if Number.Literal.maxDigits < whole.length then .error (.oversized whole.length)
      else
        let n := Number.ofDigits (digitValues whole)
        .ok (.integer (if negative then -n else n), rest)
    else
      let fraction := fraction.getD []
      let decimal : Number.Decimal :=
        ⟨negative, Number.ofDigits (digitValues (whole ++ fraction)),
          exponent.getD 0 - fraction.length⟩
      .ok (.real decimal.toBinary64, rest)

/-! ## Values -/

def constants : List (List Char × Value) :=
  [("null".toList, .null), ("true".toList, .bool true), ("false".toList, .bool false),
    ("NaN".toList, .real Number.Binary64.notANumber),
    ("Infinity".toList, .real ⟨false, Number.Binary64.infinity⟩),
    ("-Infinity".toList, .real ⟨true, Number.Binary64.infinity⟩)]

def readScalar (cs : List Char) : Except Flaw (Value × List Char) :=
  match constants.find? fun entry => entry.1.isPrefixOf cs with
  | some (word, value) => .ok (value, cs.drop word.length)
  | none => readNumber cs

mutual

def readValue : Nat → List Char → Except Flaw (Value × List Char)
  | 0, cs => .error (.problem .value cs.length)
  | _ + 1, [] => .error (.problem .value 0)
  | fuel + 1, c :: cs =>
    if c = '"' then
      match readString cs with
      | .ok (s, rest) => .ok (.string s, rest)
      | .error flaw => .error flaw
    else if c = '[' then
      match skipBlanks cs with
      | ']' :: rest => .ok (.array [], rest)
      | rest =>
        match readElements fuel rest with
        | .ok (elements, rest) => .ok (.array elements, rest)
        | .error flaw => .error flaw
    else if c = '{' then
      match skipBlanks cs with
      | '}' :: rest => .ok (.object [], rest)
      | rest =>
        match readFields fuel rest with
        | .ok (fields, rest) => .ok (.object (Table.insertAll fields), rest)
        | .error flaw => .error flaw
    else readScalar (c :: cs)

def readElements : Nat → List Char → Except Flaw (List Value × List Char)
  | 0, cs => .error (.problem .value cs.length)
  | fuel + 1, cs =>
    match readValue fuel cs with
    | .error flaw => .error flaw
    | .ok (value, rest) =>
      match skipBlanks rest with
      | ']' :: rest => .ok ([value], rest)
      | ',' :: rest =>
        match readElements fuel (skipBlanks rest) with
        | .ok (values, rest) => .ok (value :: values, rest)
        | .error flaw => .error flaw
      | rest => .error (.problem .comma rest.length)

def readFields : Nat → List Char → Except Flaw (List (List Letter × Value) × List Char)
  | fuel + 1, '"' :: cs =>
    match readString cs with
    | .error flaw => .error flaw
    | .ok (name, rest) =>
      match skipBlanks rest with
      | ':' :: rest =>
        match readValue fuel (skipBlanks rest) with
        | .error flaw => .error flaw
        | .ok (value, rest) =>
          match skipBlanks rest with
          | '}' :: rest => .ok ([(name, value)], rest)
          | ',' :: rest =>
            match readFields fuel (skipBlanks rest) with
            | .ok (fields, rest) => .ok ((name, value) :: fields, rest)
            | .error flaw => .error flaw
          | rest => .error (.problem .comma rest.length)
      | rest => .error (.problem .colon rest.length)
  | _, cs => .error (.problem .name cs.length)

end

def readChars (cs : List Char) : Except Flaw Value :=
  if cs.head? = some (Char.ofNat 0xFEFF) then .error (.problem .byteOrderMark cs.length)
  else
    -- Every step takes a character or comes right before one that does.
    match readValue (2 * cs.length + 2) (skipBlanks cs) with
    | .error flaw => .error flaw
    | .ok (value, rest) =>
      match skipBlanks rest with
      | [] => .ok value
      | rest => .error (.problem .extra rest.length)

/-! ## Places in the text -/

inductive Failure where
  | malformed (problem : Problem) (line column index : Nat)
  | oversized (digits : Nat)
  deriving DecidableEq, Repr

def Flaw.locate (cs : List Char) : Flaw → Failure
  | .oversized digits => .oversized digits
  | .problem p left =>
    let before := cs.take (cs.length - left)
    let sinceLine := before.reverse.takeWhile (· ≠ '\n')
    .malformed p (before.count '\n' + 1) (sinceLine.length + 1) before.length

def read (s : String) : Except Failure Value :=
  match readChars s.toList with
  | .ok value => .ok value
  | .error flaw => .error (flaw.locate s.toList)

def Problem.message : Problem → String
  | .byteOrderMark => "Unexpected UTF-8 BOM (decode using utf-8-sig)"
  | .value => "Expecting value"
  | .name => "Expecting property name enclosed in double quotes"
  | .colon => "Expecting ':' delimiter"
  | .comma => "Expecting ',' delimiter"
  | .extra => "Extra data"
  | .unterminated => "Unterminated string starting at"
  | .control => "Invalid control character at"
  | .escape => "Invalid \\escape"
  | .codeEscape => "Invalid \\uXXXX escape"

def Failure.message : Failure → String
  | .malformed problem line column index =>
    s!"{problem.message}: line {line} column {column} (char {index})"
  | .oversized digits =>
    s!"Exceeds the limit ({Number.Literal.maxDigits} digits) for integer string conversion: " ++
      s!"value has {digits} digits; use sys.set_int_max_str_digits() to increase the limit"

end ScriptShell.Json
