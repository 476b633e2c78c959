import ScriptShell.Refusal
import ScriptShell.Text.Blank
import ScriptShell.Text.Quoted
import ScriptShell.Text.Search

namespace ScriptShell

inductive Operand where
  | literal (text : String)
  | reference (name : String)
  deriving DecidableEq, Repr

namespace Operand

def ofChars : List Char → Operand
  | '$' :: name => .reference (String.ofList name)
  | cs => .literal (String.ofList cs)

def describe : Operand → String
  | .literal text => s!"Literal({Text.quoted text})"
  | .reference name => s!"Reference({Text.quoted name})"

end Operand

inductive Operator where
  | equal
  | greater
  | less
  deriving DecidableEq, Repr

namespace Operator

def symbol : Operator → String
  | .equal => "==="
  | .greater => ">"
  | .less => "<"

def ranked : List Operator := [.equal, .greater, .less]

def ofSymbol (symbol : String) : Except String Operator :=
  match ranked.find? fun op => op.symbol = symbol with
  | some op => .ok op
  | none => .error s!"unsupported operator: {symbol}"

end Operator

structure Condition where
  left : Operand
  operator : Operator
  right : Operand
  deriving DecidableEq, Repr

namespace Condition

def ofChars (cs : List Char) : Except Refusal Condition :=
  let cut? (op : Operator) :=
    (Text.cutChars op.symbol.toList cs).map fun (before, after) => (before, op, after)
  -- Of several operators the one of highest rank is taken, wherever it stands.
  match Operator.ranked.findSome? cut? with
  | some (before, op, after) =>
    .ok ⟨Operand.ofChars (Text.trimChars before), op, Operand.ofChars (Text.trimChars after)⟩
  | none => .error .missingOperator

def ofText (s : String) : Except Refusal Condition := ofChars s.toList

end Condition

structure Conditional where
  condition : Condition
  body : String
  deriving DecidableEq, Repr

namespace Conditional

/-- The two parts of `(…) {…}`: the first ends at the first closing parenthesis, the second at the
closing brace which ends the text, and it has no newline. -/
def parts? : List Char → Option (List Char × List Char)
  | '(' :: cs =>
    match cs.dropWhile (· ≠ ')') with
    | ')' :: rest =>
      match rest.dropWhile Text.isBlank with
      | '{' :: rest =>
        match rest.reverse with
        | '}' :: inner =>
          if inner.contains '\n' then none
          else some (cs.takeWhile (· ≠ ')'), inner.reverse)
        | _ => none
      | _ => none
    | _ => none
  | _ => none

def ofText (s : String) : Except Refusal Conditional :=
  match parts? (Text.trimChars s.toList) with
  | none => .error .malformedIf
  | some (guarding, body) =>
    if Text.trimChars guarding = [] ∨ Text.trimChars body = [] then .error .malformedIf
    else
      match Condition.ofChars (Text.trimChars guarding) with
      | .ok condition => .ok ⟨condition, String.ofList (Text.trimChars body)⟩
      | .error refusal => .error refusal

theorem length_parts?_lt {cs guarding body : List Char} (h : parts? cs = some (guarding, body)) :
    body.length < cs.length := by
  unfold parts? at h
  split at h
  next rest =>
    split at h
    next after closes =>
      split at h
      next inside opens =>
        split at h
        next inner ends =>
          split at h
          · contradiction
          · obtain ⟨-, rfl⟩ := by simpa using h
            have outer := (List.dropWhile_sublist (l := rest) (· ≠ ')')).length_le
            have middle := (List.dropWhile_sublist (l := after) Text.isBlank).length_le
            have last := congrArg List.length ends
            rw [closes] at outer
            rw [opens] at middle
            simp only [List.length_cons, List.length_reverse] at outer middle last ⊢
            omega
        · contradiction
      · contradiction
    · contradiction
  · contradiction

theorem length_body_lt {s : String} {c : Conditional} (h : ofText s = .ok c) :
    c.body.toList.length < s.toList.length := by
  unfold ofText at h
  split at h
  · contradiction
  next guarding body found =>
    split at h
    · contradiction
    · split at h
      · cases h
        have shorter := length_parts?_lt found
        have whole := Text.length_trimChars_le s.toList
        have inside := Text.length_trimChars_le body
        simp only [String.toList_ofList]
        omega
      · contradiction

end Conditional

end ScriptShell
