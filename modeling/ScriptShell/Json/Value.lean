import ScriptShell.Number.Shortest
import ScriptShell.Text.Quoted

namespace ScriptShell.Json

/-- A character, or a surrogate that has no other half and so stands for none. -/
inductive Letter where
  | char (c : Char)
  | surrogate (n : Nat)
  deriving DecidableEq, Repr

inductive Value where
  | null
  | bool (b : Bool)
  | integer (n : Int)
  | real (x : Number.Binary64)
  | string (letters : List Letter)
  | array (elements : List Value)
  | object (fields : List (List Letter × Value))
  deriving Repr

namespace Letter

def char? : Letter → Option Char
  | .char c => some c
  | .surrogate _ => none

def quoted (mark : Char) : Letter → List Char
  | .char c => Text.quotedChar mark c
  | .surrogate n => '\\' :: 'u' :: Text.hexDigits 4 n

end Letter

def text? (letters : List Letter) : Option String :=
  (letters.mapM Letter.char?).map String.ofList

def quoted (letters : List Letter) : String :=
  let mark := Text.quoteMark (letters.filterMap Letter.char?)
  String.ofList (mark :: letters.flatMap (Letter.quoted mark) ++ [mark])

namespace Value

mutual

def inner : Value → String
  | .null => "None"
  | .bool true => "True"
  | .bool false => "False"
  | .integer n => toString n
  | .real x => x.text
  | .string letters => quoted letters
  | .array elements => "[" ++ Text.join ", " (innerElements elements) ++ "]"
  | .object fields => "\x7b" ++ Text.join ", " (innerFields fields) ++ "\x7d"

def innerElements : List Value → List String
  | [] => []
  | v :: rest => inner v :: innerElements rest

def innerFields : List (List Letter × Value) → List String
  | [] => []
  | (name, v) :: rest => (quoted name ++ ": " ++ inner v) :: innerFields rest

end

def text? : Value → Option String
  | .string letters => Json.text? letters
  | v => some (inner v)

end Value

end ScriptShell.Json
