namespace ScriptShell

/-- A value that the user sets. It is `empty` after `-c--` and its like, in the releases of argparse
3.11 that drop the separator from the value; later ones keep it there. -/
inductive Setting (α : Type) where
  | of (value : α)
  | empty
  deriving DecidableEq, Repr

end ScriptShell
