import ScriptShell.Text.Span

namespace ScriptShell.Text.Case

/-- Every `step`-th code point from `first` to `last` moves by `shift`. -/
structure Run where
  first : Nat
  last : Nat
  step : Nat
  shift : Int
  deriving DecidableEq, Repr

structure Expansion where
  code : Nat
  image : List Nat
  deriving DecidableEq, Repr

def Run.image? (runs : List Run) (code : Nat) : Option Nat :=
  match runs.find? fun run => code ≤ run.last with
  | none => none
  | some run =>
    if run.first ≤ code ∧ (code - run.first) % run.step = 0 then
      some ((code : Int) + run.shift).toNat
    else none

def Expansion.image? (expansions : List Expansion) (code : Nat) : Option (List Nat) :=
  (expansions.find? fun entry => entry.code = code).map Expansion.image

def mapChar (runs : List Run) (expansions : List Expansion) (c : Char) : List Char :=
  match Run.image? runs c.toNat with
  | some code => [Char.ofNat code]
  | none =>
    match Expansion.image? expansions c.toNat with
    | some codes => codes.map Char.ofNat
    | none => [c]

end ScriptShell.Text.Case
