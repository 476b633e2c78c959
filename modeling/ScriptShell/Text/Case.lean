import ScriptShell.Text.Case.Lower
import ScriptShell.Text.Case.Upper

namespace ScriptShell.Text

def upperChar (c : Char) : List Char := Case.mapChar Case.upperRuns Case.upperExpansions c

def upperChars (cs : List Char) : List Char := cs.flatMap upperChar

def upper (s : String) : String := String.ofList (upperChars s.toList)

namespace Case

def isCased (c : Char) : Bool := Span.covers casedSpans c.toNat

def isIgnorable (c : Char) : Bool := Span.covers caseIgnorableSpans c.toNat

def nextIsCased (cs : List Char) : Bool :=
  match cs.dropWhile isIgnorable with
  | [] => false
  | c :: _ => isCased c

/-- Lower case of `cs`, where `before` holds the characters to the left, the nearest first. -/
def lowerFrom (before : List Char) : List Char → List Char
  | [] => []
  | c :: cs =>
    let image :=
      if c = 'Σ' then
        if nextIsCased before && !nextIsCased cs then ['ς'] else ['σ']
      else mapChar lowerRuns lowerExpansions c
    image ++ lowerFrom (c :: before) cs

end Case

def lowerChars (cs : List Char) : List Char := Case.lowerFrom [] cs

def lower (s : String) : String := String.ofList (lowerChars s.toList)

end ScriptShell.Text
