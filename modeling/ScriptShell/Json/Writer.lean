import ScriptShell.Table
import ScriptShell.Text.Quoted

namespace ScriptShell.Json

def codeUnit (n : Nat) : List Char := '\\' :: 'u' :: Text.hexDigits 4 n

/-- How a character is written inside a string. Beyond ASCII it is one code unit, or two. -/
def escapeChar (c : Char) : List Char :=
  if c = '"' then ['\\', '"']
  else if c = '\\' then ['\\', '\\']
  else if c = '\n' then ['\\', 'n']
  else if c = '\r' then ['\\', 'r']
  else if c = '\t' then ['\\', 't']
  else if c = '\x0c' then ['\\', 'f']
  else if c = '\x08' then ['\\', 'b']
  else if 0x20 ≤ c.toNat ∧ c.toNat < 0x7F then [c]
  else if c.toNat < 0x10000 then codeUnit c.toNat
  else
    let n := c.toNat - 0x10000
    codeUnit (0xD800 + n / 0x400) ++ codeUnit (0xDC00 + n % 0x400)

def stringChars (s : String) : List Char := '"' :: s.toList.flatMap escapeChar ++ ['"']

def fieldChars (field : String × String) : List Char :=
  '\n' :: ' ' :: ' ' :: stringChars field.1 ++ ':' :: ' ' :: stringChars field.2

def fieldsChars : List (String × String) → List Char
  | [] => []
  | [field] => fieldChars field
  | field :: next :: rest => fieldChars field ++ ',' :: fieldsChars (next :: rest)

def objectChars : List (String × String) → List Char
  | [] => ['{', '}']
  | field :: rest => '{' :: fieldsChars (field :: rest) ++ ['\n', '}']

def write (t : Table String) : String := String.ofList (objectChars t.entries)

end ScriptShell.Json
