namespace ScriptShell

inductive Refusal where
  | malformedVar
  | malformedIf
  | missingOperator
  | undefinedVariable (name : String)
  | undefinedInCondition (name : String)
  | nestedTooDeep (limit : Int)
  deriving DecidableEq, Repr

def Refusal.message : Refusal → String
  | .malformedVar => "Invalid VAR command. Usage: VAR <variable_name> = <value>"
  | .malformedIf => "Invalid IF command. Usage: IF (<condition>) \x7b<command>\x7d"
  | .missingOperator => "No valid operator found in IF condition. Use ===, >, or <."
  | .undefinedVariable name => s!"Variable '{name}' not found."
  | .undefinedInCondition name => s!"Undefined variable '{name}' in IF condition."
  | .nestedTooDeep limit => s!"Script nesting too deep (limit {limit})."

end ScriptShell
