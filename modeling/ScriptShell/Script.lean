import ScriptShell.Text.Blank
import ScriptShell.Text.Case
import ScriptShell.Text.Search

namespace ScriptShell

def isEditableName (name : String) : Bool :=
  Text.endsWith (Text.upper name) ".TXT" || Text.endsWith (Text.upper name) ".ISH"

def isScriptName (name : String) : Bool := Text.endsWith name ".ISH"

def startupScript : String := "AUTOEXEC.ISH"

def dropReturn : List Char → List Char
  | [] => []
  | ['\r'] => []
  | c :: cs => c :: dropReturn cs

/-- The lines of a script in order, without the blank ones. A line may end in a carriage return and
a newline. -/
def scriptLines (content : String) : List String :=
  (((Text.piecesChars '\n' content.toList).map dropReturn).filter
    fun line => !line.all Text.isBlank).map String.ofList

end ScriptShell
