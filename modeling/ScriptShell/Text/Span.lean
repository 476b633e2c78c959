namespace ScriptShell.Text

structure Span where
  first : Nat
  last : Nat
  deriving DecidableEq, Repr

namespace Span

def find? (spans : List Span) (code : Nat) : Option Span :=
  -- The spans ascend, so only the first one that reaches `code` can hold it.
  (spans.find? fun span => code ≤ span.last).filter fun span => span.first ≤ code

def covers (spans : List Span) (code : Nat) : Bool := (find? spans code).isSome

end Span

end ScriptShell.Text
