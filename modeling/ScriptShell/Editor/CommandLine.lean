import ScriptShell.Failure

namespace ScriptShell.Editor

inductive Context where
  | plain
  | single
  | double
  | escaped
  | escapedInDouble
  deriving DecidableEq, Repr

def isSeparator (c : Char) : Bool := c = ' ' || c = '\t' || c = '\r' || c = '\n'

/-- The words of the rest of a command. A word that has begun is kept in `word`, last character
first. -/
def splitFrom (context : Context) (word : Option (List Char)) :
    List Char → Except Failure (List (List Char))
  | [] =>
    match context with
    | .plain => .ok ((word.map List.reverse).toList)
    | .single => .error .unclosedQuote
    | .double => .error .unclosedQuote
    | .escaped => .error .danglingEscape
    | .escapedInDouble => .error .danglingEscape
  | c :: cs =>
    let letters := word.getD []
    match context with
    | .plain =>
      if isSeparator c then
        match splitFrom .plain none cs with
        | .ok rest => .ok ((word.map List.reverse).toList ++ rest)
        | .error failure => .error failure
      else if c = '\\' then splitFrom .escaped (some letters) cs
      else if c = '\'' then splitFrom .single (some letters) cs
      else if c = '"' then splitFrom .double (some letters) cs
      else splitFrom .plain (some (c :: letters)) cs
    | .single =>
      if c = '\'' then splitFrom .plain (some letters) cs
      else splitFrom .single (some (c :: letters)) cs
    | .double =>
      if c = '"' then splitFrom .plain (some letters) cs
      else if c = '\\' then splitFrom .escapedInDouble (some letters) cs
      else splitFrom .double (some (c :: letters)) cs
    | .escaped => splitFrom .plain (some (c :: letters)) cs
    | .escapedInDouble =>
      if c = '\\' ∨ c = '"' then splitFrom .double (some (c :: letters)) cs
      else splitFrom .double (some (c :: '\\' :: letters)) cs

def splitCommand (command : String) : Except Failure (List String) :=
  match splitFrom .plain none command.toList with
  | .ok words => .ok (words.map String.ofList)
  | .error failure => .error failure

end ScriptShell.Editor
