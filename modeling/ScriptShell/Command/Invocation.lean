import ScriptShell.Text.Blank
import ScriptShell.Text.Case

namespace ScriptShell

structure Invocation where
  verb : String
  arguments : List String
  deriving DecidableEq, Repr

namespace Invocation

def ofWords? : List String → Option Invocation
  | [] => none
  | word :: rest => some ⟨Text.upper word, rest⟩

def argumentText (i : Invocation) : String := Text.unwords i.arguments

def fileName (i : Invocation) : String := Text.upper i.argumentText

end Invocation

end ScriptShell
