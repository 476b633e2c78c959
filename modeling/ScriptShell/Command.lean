import ScriptShell.Command.Condition
import ScriptShell.Command.Invocation

namespace ScriptShell

inductive Command where
  | blank
  | call (invocation : Invocation)
  | malformed (refusal : Refusal)
  | conditional (condition : Condition) (body : String) (command : Command)
  deriving DecidableEq, Repr

namespace Command

theorem length_argumentText_le {line : String} {i : Invocation}
    (h : Invocation.ofWords? (Text.words line) = some i) :
    i.argumentText.toList.length ≤ line.toList.length := by
  have whole := (Text.length_unwordsChars_wordsChars_le line.toList).1
  unfold Text.words Invocation.ofWords? at h
  cases found : Text.wordsChars line.toList with
  | nil => simp [found] at h
  | cons word rest =>
    simp only [found, List.map_cons, Option.some.injEq] at h
    subst h
    rw [found, Text.length_unwordsChars_cons] at whole
    simp only [Invocation.argumentText, Text.unwords, List.map_map, String.toList_ofList]
    have same : rest.map (String.toList ∘ String.ofList) = rest := by simp
    rw [same]
    split at whole
    · simp_all [Text.unwordsChars]
    · omega

def ofLine (line : String) : Command :=
  match _words : Invocation.ofWords? (Text.words line) with
  | none => .blank
  | some i =>
    if i.verb = "IF" then
      match _read : Conditional.ofText i.argumentText with
      | .error refusal => .malformed refusal
      | .ok c => .conditional c.condition c.body (ofLine c.body)
    else .call i
termination_by line.toList.length
decreasing_by
  have shorter := Conditional.length_body_lt _read
  have within := length_argumentText_le _words
  omega

end Command

end ScriptShell
