import Mathlib.Data.List.Infix
import Mathlib.Data.List.TakeWhile
import ScriptShell.Proofs.History
import ScriptShell.Proofs.Words

namespace ScriptShell

/-! ## Conditions -/

theorem Text.cutChars_of_infix {mark cs : List Char} (stands : mark <:+: cs) :
    (cutChars mark cs).isSome = true := by
  induction cs with
  | nil => simp [cutChars, List.infix_nil.mp stands]
  | cons c cs ih =>
    rw [cutChars]
    split
    · rfl
    next elsewhere =>
      rcases List.infix_cons_iff.mp stands with first | later
      · exact absurd (List.isPrefixOf_iff_prefix.mpr first) elsewhere
      · simpa using ih later

namespace Condition

theorem ofChars_of_operator {cs : List Char} {op : Operator} (stands : op.symbol.toList <:+: cs) :
    ∃ c, ofChars cs = .ok c := by
  have cut := Text.cutChars_of_infix stands
  have ranked : op ∈ Operator.ranked := by cases op <;> simp [Operator.ranked]
  unfold ofChars
  simp only
  split
  · exact ⟨_, rfl⟩
  next none =>
    have missing := List.findSome?_eq_none_iff.mp none op ranked
    rw [Option.map_eq_none_iff] at missing
    simp [missing] at cut

end Condition

def Operand.missing? (vars : Variables) : Operand → Option String
  | .literal _ => none
  | .reference name => if vars.value? name = none then some (Text.upper name) else none

section

variable {vars : Variables} {operand : Operand} {name : String}

theorem Operand.resolve_of_missing (missing : operand.missing? vars = some name) :
    operand.resolve vars = .error (.undefinedVariable name) := by
  cases operand with
  | literal text => contradiction
  | reference reference =>
    rw [missing?] at missing
    split at missing
    next undefined =>
      cases missing
      rw [resolve, Variables.lookup, undefined]
    · contradiction

theorem Operand.resolve_of_defined (defined : operand.missing? vars = none) :
    ∃ text, operand.resolve vars = .ok text := by
  cases operand with
  | literal text => exact ⟨text, rfl⟩
  | reference reference =>
    rw [missing?] at defined
    split at defined
    · contradiction
    next found =>
      obtain ⟨value, found⟩ := Option.ne_none_iff_exists'.mp found
      rw [resolve, Variables.lookup, found]
      exact ⟨value, rfl⟩

end

namespace Condition

/-- The first variable that a condition refers to and that is not defined. -/
def missing? (vars : Variables) (c : Condition) : Option String :=
  (c.left.missing? vars).or (c.right.missing? vars)

variable {vars : Variables} {c : Condition}

theorem evaluate_of_missing {name : String} (missing : c.missing? vars = some name) :
    c.evaluate vars = .error (.undefinedVariable name) := by
  rw [evaluate]
  rcases Option.or_eq_some_iff.mp missing with first | ⟨defined, second⟩
  · rw [Operand.resolve_of_missing first]
  · obtain ⟨text, found⟩ := Operand.resolve_of_defined defined
    rw [found, Operand.resolve_of_missing second]

theorem evaluate_of_defined (defined : c.missing? vars = none) :
    ∃ holds, c.evaluate vars = .ok holds := by
  obtain ⟨first, second⟩ := Option.or_eq_none_iff.mp defined
  obtain ⟨left, foundLeft⟩ := Operand.resolve_of_defined first
  obtain ⟨right, foundRight⟩ := Operand.resolve_of_defined second
  rw [evaluate, foundLeft, foundRight]
  exact ⟨_, rfl⟩

end Condition

/-! ## Reading a conditional -/

theorem Invocation.argumentText_words (verb text : String) :
    argumentText ⟨verb, Text.words text⟩ = Text.normal text := rfl

namespace Conditional

open Text (isBlank squeezeChars trimChars)

def line (guard body : String) : String := "IF (" ++ guard ++ ") \x7b" ++ body ++ "\x7d"

def clause (guard body : List Char) : List Char := '(' :: (guard ++ ')' :: ' ' :: '{' :: (body ++ ['}']))

theorem squeezeChars_clause (guard body : List Char) :
    squeezeChars (clause guard body) = clause (squeezeChars guard) (squeezeChars body) := by
  have space (rest : List Char) : squeezeChars (' ' :: '{' :: rest) = ' ' :: '{' :: squeezeChars rest :=
    rfl
  rw [clause, Text.squeezeChars_inked rfl, Text.squeezeChars_append rfl, space,
    Text.squeezeChars_append rfl]
  rfl

theorem trimChars_clause (guard body : List Char) : trimChars (clause guard body) = clause guard body := by
  have whole := Text.trimChars_of_inked (a := '(') (z := '}') rfl rfl (guard ++ ')' :: ' ' :: '{' :: body)
  simpa [clause] using whole

theorem parts?_written {guard gap body : List Char} (enclosed : ')' ∉ guard)
    (apart : gap.all isBlank = true) (oneLine : '\n' ∉ body) :
    parts? ('(' :: (guard ++ ')' :: (gap ++ '{' :: (body ++ ['}'])))) = some (guard, body) := by
  have inside : ∀ c ∈ guard, decide (c ≠ ')') = true := by
    intro c member
    simp only [decide_eq_true_eq]
    rintro rfl
    exact enclosed member
  have brace : ¬ isBlank '{' = true := by decide
  rw [parts?, List.dropWhile_append_of_pos inside, List.takeWhile_append_of_pos inside,
    List.dropWhile_cons_of_neg (by simp), List.takeWhile_cons_of_neg (by simp), List.append_nil]
  simp only
  rw [List.dropWhile_append_of_pos (List.all_eq_true.mp apart), List.dropWhile_cons_of_neg brace]
  simp [oneLine]

theorem parts?_clause {guard body : List Char} (enclosed : ')' ∉ guard) (oneLine : '\n' ∉ body) :
    parts? (clause guard body) = some (guard, body) := by
  have whole : clause guard body = '(' :: (guard ++ ')' :: ([' '] ++ '{' :: (body ++ ['}']))) := rfl
  rw [whole, parts?_written enclosed rfl oneLine]

theorem ofText_clause {guard body : String} {c : Condition} (enclosed : ')' ∉ guard.toList)
    (read : Condition.ofText (Text.normal guard) = .ok c) (guarded : (Text.normal guard).toList ≠ [])
    (written : (Text.normal body).toList ≠ []) :
    ofText (Text.normal (String.ofList (clause guard.toList body.toList))) =
      .ok ⟨c, Text.normal body⟩ := by
  have whole : (Text.normal (String.ofList (clause guard.toList body.toList))).toList =
      clause (squeezeChars guard.toList) (squeezeChars body.toList) := by
    rw [Text.toList_normal, String.toList_ofList, Text.unwordsChars_wordsChars, squeezeChars_clause,
      trimChars_clause]
  have trimmed (s : String) : trimChars (squeezeChars s.toList) = (Text.normal s).toList := by
    rw [Text.toList_normal, Text.unwordsChars_wordsChars]
  have enclosedToo : ')' ∉ squeezeChars guard.toList := by
    intro member
    rcases Text.mem_squeezeChars member with space | ⟨inside, -⟩
    · exact absurd space (by decide)
    · exact enclosed inside
  have oneLine : '\n' ∉ squeezeChars body.toList := by
    intro member
    rcases Text.mem_squeezeChars member with space | ⟨-, inked⟩
    · exact absurd space (by decide)
    · exact absurd inked (by decide)
  rw [ofText, whole, trimChars_clause, parts?_clause enclosedToo oneLine]
  simp only [trimmed, guarded, written, or_self, if_false]
  rw [show Condition.ofChars (Text.normal guard).toList = .ok c from read]
  simp only [String.ofList_toList]

theorem words_line (guard body : String) :
    Text.words (line guard body) =
      "IF" :: Text.words (String.ofList (clause guard.toList body.toList)) := by
  have chars : (line guard body).toList = 'I' :: 'F' :: ' ' :: clause guard.toList body.toList := by
    simp [line, clause]
  rw [Text.words, chars, Text.words, String.toList_ofList]
  rfl

end Conditional

/-! ## Carrying out a conditional -/

namespace Interpreter

variable (host : Host) {s : Session} {guard body : String} {c : Condition}

theorem execute_line (normal : s.editing = none) (enclosed : ')' ∉ guard.toList)
    (read : Condition.ofText (Text.normal guard) = .ok c) (guarded : (Text.normal guard).toList ≠ [])
    (written : (Text.normal body).toList ≠ []) :
    s.execute host (Conditional.line guard body) =
      let t := weighed c (Text.normal body) (noted (Conditional.line guard body) s)
      match c.evaluate s.vars with
      | .error refusal =>
        conclude (Conditional.line guard body) (.error (.refusal (inCondition refusal)), t)
      | .ok false => (.done (some (.info "IF condition not met.")), t)
      | .ok true => (branched (Text.normal body) t).execute host (Text.normal body) := by
  let i : Invocation := ⟨"IF", Text.words (String.ofList (Conditional.clause guard.toList body.toList))⟩
  have admits : Admits (Conditional.line guard body) s i := by
    refine ⟨?_, by simp [isBarred, Session.isEditing, normal]⟩
    rw [Conditional.words_line]
    rfl
  have found : Conditional.ofText i.argumentText = .ok ⟨c, Text.normal body⟩ := by
    rw [Invocation.argumentText_words, Conditional.ofText_clause enclosed read guarded written]
  exact execute_of_conditional host admits rfl found

theorem execute_branched (line : String) :
    let out := (branched (Text.normal body) (weighed c (Text.normal body) (noted line s))).execute host
      (Text.normal body)
    let itself := s.execute host body
    out.1 = itself.1 ∧ out.2.silent = itself.2.silent ∧
    ∃ shown, itself.2.output = s.output ++ shown ∧
      out.2.output = s.output ++
        .reported (.success s!"IF condition met. Executing: {Text.normal body}") :: shown := by
  intro out itself
  let bare : Reply × Session := s.silent.execute host (Text.normal body)
  let told : Event := .reported (.success s!"IF condition met. Executing: {Text.normal body}")
  let past : List Event :=
    told :: .logged .debug .condition
      s!"IF {c.left.describe} {c.operator.symbol} {c.right.describe} -> {Text.normal body}" ::
        notedPast line s
  have ran : out = behind past bare := execute_upon host s.silent past _
  have plain : muted itself = muted (behind s.history bare) := by
    rw [← execute_upon host s.silent s.history]
    exact muted_execute host (Text.words_normal body).symm
  have quiet : itself.2.quiet = (bare.2.upon s.history).quiet := congrArg Prod.snd plain
  have shown : shownOf past = told :: shownOf s.history :=
    congrArg (told :: ·) (shownOf_notedPast line s)
  have output : itself.2.output = s.output ++ bare.2.output := by
    rw [Session.output_of_quiet quiet, Session.output_upon, ← Session.output_eq]
  refine ⟨?_, ?_, bare.2.output, output, ?_⟩
  · rw [ran]
    exact (congrArg Prod.fst plain).symm
  · rw [ran, behind, Session.silent_upon, Session.silent_of_quiet quiet, Session.silent_upon]
  · rw [ran, behind, Session.output_upon, shown, List.reverse_cons, ← Session.output_eq,
      List.append_assoc]
    rfl

end Interpreter

/-- In Normal mode a conditional whose condition refers to an undefined variable is an error that
names the first such variable, and one whose condition does not hold is told so; both show and change
nothing. Where the condition holds, the line shows that its body comes next, in normal form, and then
it does, shows and answers what the body does by itself. Only in the log the body stands in its normal
form. -/
theorem Session.conditional_transparent (host : Host) (s : Session) (guard body : String)
    (normal : s.editing = none) (enclosed : ')' ∉ guard.toList)
    (operator : ∃ op : Operator, op.symbol.toList <:+: (Text.normal guard).toList)
    (written : Text.isBlankText body = false) :
    ∃ c, Condition.ofText (Text.normal guard) = .ok c ∧
      let out := s.execute host ("IF (" ++ guard ++ ") \x7b" ++ body ++ "\x7d")
      let itself := s.execute host body
      (∀ name, c.missing? s.vars = some name →
        out.1 = .done (some (.error s!"ERROR: Undefined variable '{name}' in IF condition.")) ∧
          out.2.silent = s.silent ∧ out.2.output = s.output) ∧
      (c.missing? s.vars = none → ∃ holds, c.evaluate s.vars = .ok holds) ∧
      (c.evaluate s.vars = .ok false →
        out.1 = .done (some (.info "IF condition not met.")) ∧ out.2.silent = s.silent ∧
          out.2.output = s.output) ∧
      (c.evaluate s.vars = .ok true →
        out.1 = itself.1 ∧ out.2.silent = itself.2.silent ∧
        (∃ shown, itself.2.output = s.output ++ shown ∧
          out.2.output = s.output ++
            .reported (.success s!"IF condition met. Executing: {Text.normal body}") :: shown) ∧
        out = (Interpreter.branched (Text.normal body) (Interpreter.weighed c (Text.normal body)
          (Interpreter.noted (Conditional.line guard body) s))).execute host (Text.normal body)) := by
  obtain ⟨op, stands⟩ := operator
  obtain ⟨c, read⟩ := Condition.ofChars_of_operator stands
  have guarded : (Text.normal guard).toList ≠ [] := by
    intro none
    rw [none, List.infix_nil] at stands
    cases op <;> simp [Operator.symbol] at stands
  have executed := Interpreter.execute_line host normal enclosed read guarded
    (Text.toList_normal_ne_nil written)
  have weighing : (Interpreter.weighed c (Text.normal body)
      (Interpreter.noted (Conditional.line guard body) s)).quiet = s.quiet := by
    rw [quiet_weighed, quiet_noted]
  refine ⟨c, read, ?_, Condition.evaluate_of_defined, ?_, ?_⟩
  · intro name missing
    rw [Condition.evaluate_of_missing missing] at executed
    rw [← Conditional.line, executed]
    exact ⟨rfl, silent_of_quiet weighing, output_of_quiet weighing⟩
  · intro fails
    rw [fails] at executed
    rw [← Conditional.line, executed]
    exact ⟨rfl, silent_of_quiet weighing, output_of_quiet weighing⟩
  · intro holds
    rw [holds] at executed
    rw [← Conditional.line, executed]
    obtain ⟨reply, silent, output⟩ := Interpreter.execute_branched host (Conditional.line guard body)
    exact ⟨reply, silent, output, rfl⟩

def Session.counting : Session :=
  { start (.inMemory .empty) .empty .buffer with vars := ⟨[("A", "1")]⟩ }

theorem Session.conditional_transparent_counting :
    let guard := " $a\t===  1"
    let body := "\u3000IF (2 > 1)\n\x7b ECHO a \x7d  ) \x7d "
    let out := counting.execute (.calm 3) ("IF (" ++ guard ++ ") \x7b" ++ body ++ "\x7d")
    counting.editing = none ∧ ')' ∉ guard.toList ∧
    (∃ op : Operator, op.symbol.toList <:+: (Text.normal guard).toList) ∧
    Text.isBlankText body = false ∧
    out.1 = .done (some (.info "a \x7d )")) ∧
    out.2.output =
      [.reported (.success "IF condition met. Executing: IF (2 > 1) \x7b ECHO a \x7d ) \x7d"),
        .reported (.success "IF condition met. Executing: ECHO a \x7d )")] := by
  intro guard body out
  have enclosed : ')' ∉ guard.toList := by decide +kernel
  have operator : ∃ op : Operator, op.symbol.toList <:+: (Text.normal guard).toList :=
    ⟨.equal, by decide +kernel⟩
  have written : Text.isBlankText body = false := by decide +kernel
  obtain ⟨c, read, -, -, -, met⟩ :=
    conditional_transparent (.calm 3) counting guard body rfl enclosed operator written
  have holds : c.evaluate counting.vars = .ok true := by
    have same : Condition.ofText (Text.normal guard) =
        .ok ⟨.reference "a", .equal, .literal "1"⟩ := by decide +kernel
    cases same.symm.trans read
    decide +kernel
  obtain ⟨reply, -, ⟨shown, itself, output⟩, -⟩ := met holds
  have answer : (counting.execute (.calm 3) body).1 = .done (some (.info "a \x7d )")) := by
    decide +kernel
  have after : (counting.execute (.calm 3) body).2.output =
      [.reported (.success "IF condition met. Executing: ECHO a \x7d )")] := by decide +kernel
  have inner : shown = [.reported (.success "IF condition met. Executing: ECHO a \x7d )")] :=
    itself.symm.trans after
  have worded : Text.normal body = "IF (2 > 1) \x7b ECHO a \x7d ) \x7d" := by decide +kernel
  rw [inner, worded] at output
  exact ⟨rfl, enclosed, operator, written, reply.trans answer, output⟩

end ScriptShell
