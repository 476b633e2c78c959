import ScriptShell.Proofs.VariableTable

namespace ScriptShell

theorem Interpreter.eq_ok_of_conclude {line : String} {step : Step (Option Report)} {report : Report}
    {t : Session} (concluded : conclude line step = (.done (some report), t))
    (success : report.category = .success) : step = (.ok (some report), t) := by
  obtain ⟨result, s⟩ := step
  cases result with
  | ok result =>
    cases concluded
    rfl
  | error stop =>
    -- What is told of an error is not told as a success.
    cases stop with
    | interrupt => simp [conclude] at concluded
    | fault fault => cases fault <;> cases concluded <;> contradiction

theorem Verb.setVariable_ok {i : Invocation} {s t : Session} {report : Report}
    (set : setVariable i s = (.ok report, t)) :
    ∃ name word value, (Text.pieces '=' i.argumentText).map Text.trim = [name, word] ∧
      name ≠ "" ∧ word ≠ "" ∧ s.vars.resolve word = .ok value ∧
      t = { s with vars := s.vars.set (Text.upper name) value } := by
  unfold setVariable at set
  split at set
  next name word parts =>
    split at set
    · cases set
    next some =>
      rw [not_or] at some
      split at set
      · cases set
      next value resolved =>
        cases set
        exact ⟨name, word, value, parts, some.1, some.2, resolved, rfl⟩
  · cases set

theorem Verb.eq_ok_of_reporting {step : Step Report} {report : Report} {t : Session}
    (reported : perform.reporting step = (.ok (some report), t)) : step = (.ok report, t) := by
  obtain ⟨result, s⟩ := step
  cases result with
  | ok result =>
    cases reported
    rfl
  | error stop => cases reported

theorem Session.assigned_of_success {host : Host} {s t : Session} {name word : String}
    {report : Report} (normal : s.editing = none)
    (assigned : s.execute host (Variables.assignLine name word) = (.done (some report), t))
    (success : report.category = .success) :
    '=' ∉ name.toList ∧ '=' ∉ word.toList ∧ Text.normal name ≠ "" ∧ Text.normal word ≠ "" ∧
    t.editing = none ∧ ∃ value, s.vars.resolve (Text.normal word) = .ok value ∧
      t.vars = s.vars.set (Text.upper (Text.normal name)) value := by
  have line : Variables.assignLine name word = Verb.var.name ++ " " ++ (name ++ " = " ++ word) := rfl
  rw [line, Interpreter.execute_verb host normal .var, ← line] at assigned
  have performed := Interpreter.eq_ok_of_conclude assigned success
  rw [Verb.perform] at performed
  obtain ⟨first, second, value, parts, named, given, resolved, rfl⟩ :=
    Verb.setVariable_ok (Verb.eq_ok_of_reporting performed)
  rw [Invocation.argumentText_words] at parts
  obtain ⟨noEquals, noEquals'⟩ := Text.no_equals_of_parts parts
  obtain ⟨rfl, rfl⟩ : Text.normal name = first ∧ Text.normal word = second := by
    simpa [Text.parts_assignment noEquals noEquals'] using parts
  exact ⟨noEquals, noEquals', named, given, normal, value, resolved, rfl⟩

theorem Text.cutChars_append {m : Char} {ms before : List Char} (none : m ∉ before)
    (after : List Char) :
    cutChars (m :: ms) (before ++ (m :: ms ++ after)) = some (before, after) := by
  induction before with
  | nil => simp [cutChars]
  | cons c before ih =>
    rw [List.mem_cons, not_or] at none
    rw [List.cons_append, cutChars, if_neg (by simp [none.1]), ih none.2]
    rfl

namespace Condition

theorem ofChars_equal {before : List Char} (none : '=' ∉ before) (after : List Char) :
    ofChars (before ++ (['=', '=', '='] ++ after)) =
      .ok ⟨.ofChars (Text.trimChars before), .equal, .ofChars (Text.trimChars after)⟩ := by
  have cut : Text.cutChars ['=', '=', '='] (before ++ (['=', '=', '='] ++ after)) =
      some (before, after) := Text.cutChars_append none after
  have symbol : Operator.equal.symbol.toList = ['=', '=', '='] := rfl
  simp only [ofChars, Operator.ranked, List.findSome?_cons, symbol, cut, Option.map_some]

theorem ofText_comparison {left right : String} (none : '=' ∉ left.toList) :
    ofText (Text.normal (left ++ " === " ++ right)) =
      .ok ⟨.ofChars (Text.normal left).toList, .equal, .ofChars (Text.normal right).toList⟩ := by
  have isWord : Text.IsWord "===".toList := Text.isWord_of_inked (by decide) rfl
  have front : '=' ∉ (Text.normal left).toList ++ Text.gap (Text.wordsChars left.toList) := by
    simp [Text.mem_normal_iff, none, Text.not_mem_gap, Text.isBlank]
  have whole := Text.toList_normal_around "===" isWord left right
  rw [ofText, show left ++ " === " ++ right = left ++ (" " ++ "===" ++ " ") ++ right from rfl, whole,
    show "===".toList = ['=', '=', '='] from rfl, ofChars_equal front, Text.trimChars_append_gap,
    Text.trimChars_gap_append]

end Condition

theorem Value.compare_self (value : Value) : value.compare .equal value = true := by
  cases value <;> simp [compare]

theorem Operand.resolve_ofChars (vars : Variables) (word : String) :
    (Operand.ofChars word.toList).resolve vars = vars.resolve word := by
  unfold Variables.resolve
  split
  next name starts => rw [starts, ofChars, resolve]
  next other =>
    have literal : ofChars word.toList = .literal word := by
      unfold ofChars
      split
      next name starts => exact absurd starts (other name)
      · rw [String.ofList_toList]
    rw [literal, resolve]

namespace Variables

variable {vars : Variables} {name other word value : String}

theorem resolve_set (resolved : vars.resolve word = .ok value) (name : String) :
    resolve (vars.set (Text.upper name) value) word = .ok value := by
  rw [resolve] at resolved ⊢
  split at resolved
  next source starts =>
    rw [lookup, value?_set]
    by_cases itself : Text.upper name = Text.upper (String.ofList source)
    · rw [if_pos itself]
    · rw [if_neg itself]
      exact resolved
  · exact resolved

section
-- Two names that are the same in upper case.

variable (same : Text.upper other = Text.upper (Text.trim name))
include same

theorem upper_normal_of_same : Text.upper (Text.normal other) = Text.upper (Text.normal name) := by
  rw [Text.upper_normal, same, ← Text.upper_normal, Text.normal_trim]

theorem not_mem_of_same {d : Char} (delimiter : Text.isDelimiter d = true) (none : d ∉ name.toList) :
    d ∉ other.toList := by
  intro member
  rw [← Text.mem_upperChars_iff delimiter, ← Text.toList_upper, same, Text.toList_upper,
    Text.mem_upperChars_iff delimiter, Text.trim, String.toList_ofList] at member
  exact none ((Text.trimChars_within _).subset member)

theorem ne_empty_of_same (named : Text.normal name ≠ "") : other ≠ "" := by
  rintro rfl
  have upper := congrArg String.toList (upper_normal_of_same same)
  rw [Text.toList_upper, Text.toList_upper] at upper
  exact Text.upperChars_ne_nil (by simpa using named) upper.symm

end

end Variables

theorem Condition.holds_of_assigned {vars : Variables} {name other word value : String}
    (same : Text.upper other = Text.upper (Text.trim name)) (trimmed : Text.trim other = other)
    (named : Text.normal name ≠ "") (noEquals : '=' ∉ name.toList)
    (resolved : vars.resolve (Text.normal word) = .ok value) :
    ∃ c, ofText (Text.normal ("$" ++ other ++ " === " ++ word)) = .ok c ∧
      c.evaluate (vars.set (Text.upper (Text.normal name)) value) = .ok true := by
  have starts : Text.endsWord other.toList = false := by
    apply Text.endsWord_of_trimmed
    · simpa using Variables.ne_empty_of_same same named
    · simpa [Text.trim] using congrArg String.toList trimmed
  have left : '=' ∉ ("$" ++ other).toList := by
    simp [Variables.not_mem_of_same same rfl noEquals]
  rw [ofText_comparison left, Variables.normal_reference starts, Variables.toList_reference,
    Operand.ofChars, String.ofList_toList]
  refine ⟨_, rfl, ?_⟩
  rw [evaluate, Operand.resolve, Variables.lookup, Variables.value?_set,
    Variables.upper_normal_of_same same, if_pos rfl, Operand.resolve_ofChars,
    Variables.resolve_set resolved]
  simp only [Value.compare_self]

/-- Right after an assignment in Normal mode, a condition that compares the variable, in any spelling of
its name, with the text that was assigned holds, and its line is carried out. -/
theorem Session.assignment_recalled (host : Host) (s t : Session) (name word : String)
    (report : Report) (normal : s.editing = none) (enclosed : ')' ∉ name.toList)
    (enclosed' : ')' ∉ word.toList)
    (assigned : s.execute host ("VAR " ++ (name ++ " = " ++ word)) = (.done (some report), t))
    (success : report.category = .success) (other body : String)
    (trimmed : Text.trim other = other) (same : Text.upper other = Text.upper (Text.trim name))
    (written : Text.isBlankText body = false) :
    let guard := "$" ++ other ++ " === " ++ word
    let out := t.execute host ("IF (" ++ guard ++ ") \x7b" ++ body ++ "\x7d")
    let itself := t.execute host body
    (∃ c, Condition.ofText (Text.normal guard) = .ok c ∧ c.evaluate t.vars = .ok true) ∧
    out.1 = itself.1 ∧ out.2.silent = itself.2.silent ∧
    ∃ shown, itself.2.output = t.output ++ shown ∧
      out.2.output = t.output ++
        .reported (.success s!"IF condition met. Executing: {Text.normal body}") :: shown := by
  intro guard out itself
  obtain ⟨noEquals, -, named, -, editing, value, resolved, vars⟩ :=
    assigned_of_success normal assigned success
  obtain ⟨c, read, holds⟩ := Condition.holds_of_assigned same trimmed named noEquals resolved
  rw [← vars] at holds
  have inside : ')' ∉ guard.toList := by
    simp [guard, Variables.not_mem_of_same same rfl enclosed, enclosed']
  have guarded : (Text.normal guard).toList ≠ [] :=
    List.ne_nil_of_mem ((Text.mem_normal_iff (c := '$') rfl guard).mpr (by simp [guard]))
  have executed : out = _ := Interpreter.execute_line host editing inside read guarded
    (Text.toList_normal_ne_nil written)
  simp only [holds] at executed
  refine ⟨⟨c, read, holds⟩, ?_⟩
  rw [executed]
  exact Interpreter.execute_branched host _

theorem Session.assignment_recalled_itself :
    let s := { counting with vars := ⟨[("MASS STAB", "1e3 < $x")]⟩ }
    let name := " maß\u3000stab"
    let word := "$Mass\t stab "
    let other := "MaSS\u3000stab"
    let body := " ECHO  $a \x7d"
    let report : Report := .success "Variable 'MASS STAB' set to '1e3 < $x'."
    let t := (s.execute (.calm 3) ("VAR " ++ (name ++ " = " ++ word))).2
    let line := "IF (" ++ ("$" ++ other ++ " === " ++ word) ++ ") \x7b" ++ body ++ "\x7d"
    s.editing = none ∧ ')' ∉ name.toList ∧ ')' ∉ word.toList ∧
    s.execute (.calm 3) ("VAR " ++ (name ++ " = " ++ word)) = (.done (some report), t) ∧
    report.category = .success ∧ Text.trim other = other ∧
    Text.upper other = Text.upper (Text.trim name) ∧ Text.isBlankText body = false ∧
    (t.execute (.calm 3) line).1 = .done (some (.info "$a \x7d")) ∧
    (t.execute (.calm 3) line).2.output = [.reported (.success "IF condition met. Executing: ECHO $a \x7d")] := by
  intro s name word other body report t line
  have enclosed : ')' ∉ name.toList := by decide
  have enclosed' : ')' ∉ word.toList := by decide
  have assigned : s.execute (.calm 3) ("VAR " ++ (name ++ " = " ++ word)) =
      (.done (some report), t) := by
    refine Prod.ext ?_ rfl
    decide +kernel
  have trimmed : Text.trim other = other := by decide +kernel
  have same : Text.upper other = Text.upper (Text.trim name) := by decide +kernel
  have written : Text.isBlankText body = false := by decide +kernel
  obtain ⟨-, reply, -, shown, itself, output⟩ := assignment_recalled (.calm 3) s t name word report rfl
    enclosed enclosed' assigned rfl other body trimmed same written
  have answer : (t.execute (.calm 3) body).1 = .done (some (.info "$a \x7d")) := by decide +kernel
  have before : t.output = [] := by decide +kernel
  have after : (t.execute (.calm 3) body).2.output = [] := by decide +kernel
  have worded : Text.normal body = "ECHO $a \x7d" := by decide +kernel
  have nothing : shown = [] := by rwa [after, before, List.nil_append, eq_comm] at itself
  rw [nothing, before, worded] at output
  exact ⟨rfl, enclosed, enclosed', assigned, rfl, trimmed, same, written, reply.trans answer, output⟩

end ScriptShell
