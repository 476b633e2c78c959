import ScriptShell.Refusal
import ScriptShell.Table
import ScriptShell.Text.Case

namespace ScriptShell

abbrev Variables := Table String

namespace Variables

def set (vars : Variables) (name value : String) : Variables := vars.insert (Text.upper name) value

def value? (vars : Variables) (name : String) : Option String := vars.get? (Text.upper name)

def lookup (vars : Variables) (name : String) : Except Refusal String :=
  match vars.value? name with
  | some value => .ok value
  | none => .error (.undefinedVariable (Text.upper name))

def resolve (vars : Variables) (word : String) : Except Refusal String :=
  match word.toList with
  | '$' :: name => vars.lookup (String.ofList name)
  | _ => .ok word

end Variables

end ScriptShell
