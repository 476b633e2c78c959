import ScriptShell.Command.Condition
import ScriptShell.Number.Shortest
import ScriptShell.Variables

namespace ScriptShell

inductive Value where
  | number (value : Number.Binary64) (source : String)
  | text (source : String)
  deriving DecidableEq, Repr

namespace Value

def ofText (s : String) : Value :=
  match Number.Decimal.ofText? s with
  | some d => if d.toBinary64.isFinite then .number d.toBinary64 s else .text s
  | none => .text s

def source : Value → String
  | .number _ s => s
  | .text s => s

def describe : Value → String
  | .number x _ => s!"Number({x.text})"
  | .text s => s!"Text({Text.quoted s})"

def compare (left : Value) (op : Operator) (right : Value) : Bool :=
  match left, right with
  | .number x _, .number y _ =>
    match op with
    | .equal => x.rank = y.rank
    | .greater => x.rank > y.rank
    | .less => x.rank < y.rank
  | _, _ =>
    match op with
    | .equal => left.source = right.source
    | .greater => left.source > right.source
    | .less => left.source < right.source

end Value

def Operand.resolve (vars : Variables) : Operand → Except Refusal String
  | .literal text => .ok text
  | .reference name => vars.lookup name

/-- Whether a condition holds. Both operands are looked up, the left one first, before they are
compared. -/
def Condition.evaluate (vars : Variables) (c : Condition) : Except Refusal Bool :=
  match c.left.resolve vars with
  | .error refusal => .error refusal
  | .ok left =>
    match c.right.resolve vars with
    | .error refusal => .error refusal
    | .ok right => .ok ((Value.ofText left).compare c.operator (Value.ofText right))

end ScriptShell
