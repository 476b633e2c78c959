namespace ScriptShell.Text

def unifyNewlinesChars : List Char → List Char
  | [] => []
  | '\r' :: '\n' :: cs => '\n' :: unifyNewlinesChars cs
  | c :: cs => (if c = '\r' then '\n' else c) :: unifyNewlinesChars cs

def unifyNewlines (s : String) : String := String.ofList (unifyNewlinesChars s.toList)

def inputLinesChars : List Char → List (List Char)
  | [] => []
  | c :: cs =>
    if c = '\n' then [] :: inputLinesChars cs
    else
      match cs with
      | [] => [[c]]
      | _ :: _ =>
        match inputLinesChars cs with
        | [] => [[c]]
        | line :: rest => (c :: line) :: rest

def inputLines (s : String) : List String := (inputLinesChars s.toList).map String.ofList

end ScriptShell.Text
