namespace ScriptShell.Text

def endsWith (s ending : String) : Bool := ending.toList.isSuffixOf s.toList

def cutChars (mark : List Char) : List Char → Option (List Char × List Char)
  | [] => if mark = [] then some ([], []) else none
  | c :: cs =>
    if mark.isPrefixOf (c :: cs) then some ([], (c :: cs).drop mark.length)
    else (cutChars mark cs).map fun (before, after) => (c :: before, after)

/-- The pieces between the places where `mark` stands; one more than there are such places. -/
def piecesChars (mark : Char) : List Char → List (List Char)
  | [] => [[]]
  | c :: cs =>
    if c = mark then [] :: piecesChars mark cs
    else
      match piecesChars mark cs with
      | [] => [[c]]
      | piece :: rest => (c :: piece) :: rest

def pieces (mark : Char) (s : String) : List String :=
  (piecesChars mark s.toList).map String.ofList

def join (glue : String) : List String → String
  | [] => ""
  | [s] => s
  | s :: t :: rest => s ++ glue ++ join glue (t :: rest)

end ScriptShell.Text
