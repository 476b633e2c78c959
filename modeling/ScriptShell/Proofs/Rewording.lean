import ScriptShell.Proofs.Assignment
import ScriptShell.Proofs.History

namespace ScriptShell

namespace Invocation

variable {line : String} {i : Invocation}

theorem normal_argumentText (read : ofWords? (Text.words line) = some i) :
    Text.normal i.argumentText = i.argumentText := by
  rw [argumentText, Text.normal, Text.words_unwords (isWord_of_read read)]

theorem trim_argumentText (read : ofWords? (Text.words line) = some i) :
    Text.trim i.argumentText = i.argumentText := by
  rw [← normal_argumentText read, Text.trim, Text.trimChars_normal, String.ofList_toList]

end Invocation

namespace Session

variable (host : Host) {s t : Session}

theorem eq_silent_upon (s : Session) : s = s.silent.upon s.history := rfl

theorem shownOf_history (same : s.quiet = t.quiet) : shownOf s.history = shownOf t.history :=
  congrArg history same

theorem muted_execute_of_quiet {line line' : String} (same : s.quiet = t.quiet)
    (words : Text.words line = Text.words line') :
    muted (s.execute host line) = muted (t.execute host line') := by
  have upon (s : Session) : s.execute host line = behind s.history (s.silent.execute host line) :=
    Interpreter.execute_upon host s.silent s.history line
  calc
    muted (s.execute host line) = muted (behind s.history (s.silent.execute host line)) := by rw [upon]
    _ = muted (behind t.history (t.silent.execute host line)) := by
      rw [silent_of_quiet same, muted_behind (shownOf_history same)]
    _ = muted (t.execute host line) := by rw [← upon]
    _ = muted (t.execute host line') := Interpreter.muted_execute host words

theorem muted_conveyed (out : Reply × Session) :
    muted (Interpreter.conveyed out) = Interpreter.conveyed (muted out) := by
  obtain ⟨reply, t⟩ := out
  cases reply with
  | interrupted => rfl
  | done report => cases report <;> rfl

theorem muted_dispatch_of_quiet {line line' : String} (same : s.quiet = t.quiet)
    (words : Text.words line = Text.words line') :
    muted (s.dispatch host line) = muted (t.dispatch host line') := by
  rw [dispatch_eq, dispatch_eq, muted_conveyed, muted_conveyed, muted_execute_of_quiet host same words]

theorem quiet_print (same : s.quiet = t.quiet) (stream : Stream) (text : String) :
    (s.print stream text).quiet = (t.print stream text).quiet :=
  congrArg (·.print stream text) same

theorem quiet_ask (same : s.quiet = t.quiet) (prompt : String) :
    (s.ask prompt).quiet = (t.ask prompt).quiet :=
  congrArg (·.ask prompt) same

theorem quiet_turn (same : s.quiet = t.quiet) (line : Option String) :
    (s.turn host line).quiet = (t.turn host (line.map Text.normal)).quiet := by
  cases line with
  | none => exact quiet_print same _ _
  | some line =>
    have carried := muted_dispatch_of_quiet host same (Text.words_normal line).symm
    simp only [turn, Option.map_some]
    cases out : s.dispatch host line with
    | mk reply u =>
      cases out' : t.dispatch host (Text.normal line) with
      | mk reply' u' =>
        rw [out, out'] at carried
        obtain ⟨rfl, after⟩ := Prod.mk.inj carried
        cases reply with
        | done report => exact after
        | interrupted => exact quiet_print after _ _

theorem close_upon (s : Session) (past : List Event) : (s.upon past).close = s.close.upon past := by
  have kept : s.closeEditor.pauses = s.pauses := by
    unfold closeEditor
    cases s.editor.temp with
    | none => rfl
    | some temp =>
      simp only
      split <;> rfl
  have editing : (s.upon past).isEditing = s.isEditing := rfl
  rw [close, close, editing]
  split
  · rw [upon_eq_later, Verb.leaveEdit_later, ← kept]
    rfl
  · rfl

theorem quiet_close (same : s.quiet = t.quiet) : s.close.quiet = t.close.quiet := by
  rw [s.eq_silent_upon, t.eq_silent_upon, close_upon, close_upon, silent_of_quiet same,
    quiet_upon (shownOf_history same)]

theorem quiet_interact (same : s.quiet = t.quiet) (prompt : String) (lines : List (Option String)) :
    (s.interact host prompt lines).quiet =
      (t.interact host prompt (lines.map (·.map Text.normal))).quiet := by
  have asked := quiet_ask same prompt
  induction lines generalizing s t with
  | nil => exact quiet_close (quiet_print asked _ _)
  | cons line rest ih =>
    have after := quiet_turn host asked line
    exact ih after (quiet_ask after prompt)

/-- Words are read back from the line that has them with single spaces between them, and what a line is
read as are words. A line and its normal form give the same answer, show the same and leave the same
session, and so do whole dialogues in which lines are replaced by their normal forms; the log apart. What a
line gives to its verb has no blanks but single spaces inside. -/
theorem spacing_unseen :
    (∀ ws : List String, (∀ word ∈ ws, Text.IsWord word.toList) →
      Text.words (Text.unwords ws) = ws) ∧
    (∀ line, ∀ word ∈ Text.words line, Text.IsWord word.toList) ∧
    (∀ (host : Host) (s : Session) (line : String),
      let out := s.execute host line
      let out' := s.execute host (Text.unwords (Text.words line))
      out.1 = out'.1 ∧ out.2.output = out'.2.output ∧ out.2.silent = out'.2.silent) ∧
    (∀ (host : Host) (s : Session) (prompt : String) (lines : List (Option String)),
      let t := s.interact host prompt lines
      let t' := s.interact host prompt (lines.map (·.map fun line => Text.unwords (Text.words line)))
      t.output = t'.output ∧ t.silent = t'.silent) ∧
    ∀ line i, Invocation.ofWords? (Text.words line) = some i →
      '\n' ∉ i.argumentText.toList ∧ Text.SingleSpaced i.argumentText.toList ∧
        Text.trim i.argumentText = i.argumentText := by
  refine ⟨fun ws => Text.words_unwords, fun line word => Text.isWord_of_mem_words, ?_, ?_, ?_⟩
  · intro host s line
    have same := Interpreter.muted_execute (s := s) host (Text.words_normal line).symm
    obtain ⟨reply, quiet⟩ := Prod.mk.inj same
    exact ⟨reply, output_of_quiet quiet, silent_of_quiet quiet⟩
  · intro host s prompt lines
    have quiet := quiet_interact host (rfl : s.quiet = s.quiet) prompt lines
    exact ⟨output_of_quiet quiet, silent_of_quiet quiet⟩
  · intro line i read
    have single := Invocation.singleSpaced_argumentText read
    refine ⟨?_, single, Invocation.trim_argumentText read⟩
    intro member
    exact absurd (single.spaces '\n' member rfl) (by decide)

theorem spacing_unseen_scattered :
    let ws := ["IF", "(1", "===", "1)", "\x7bVAR", "x", "=", "a", "b\x7d"]
    let line := "\tIF (1 ===\n1)  \x7bVAR x =\ra \u3000 b\x7d "
    let s := start (.inMemory .empty) .empty .buffer
    (∀ word ∈ ws, Text.IsWord word.toList) ∧ Text.words (Text.unwords ws) = ws ∧
    Text.words line = ws ∧
    (s.execute (.calm 1) line).2.silent = (s.execute (.calm 1) (Text.unwords ws)).2.silent ∧
    (s.execute (.calm 1) line).2.vars = ⟨[("X", "a b")]⟩ ∧
    ∃ i, Invocation.ofWords? (Text.words line) = some i ∧
      i.argumentText = "(1 === 1) \x7bVAR x = a b\x7d" ∧ Text.SingleSpaced i.argumentText.toList := by
  intro ws line s
  obtain ⟨reads, split, same, -, arguments⟩ := spacing_unseen
  have words : Text.words line = ws := by decide +kernel
  have all : ∀ word ∈ ws, Text.IsWord word.toList := by
    rw [← words]
    exact split line
  have agree := (same (.calm 1) s line).2.2
  rw [words] at agree
  have read : Invocation.ofWords? (Text.words line) = some ⟨"IF", ws.tail⟩ := by decide +kernel
  exact ⟨all, reads ws all, words, agree, by decide +kernel, _, read, by decide +kernel,
    (arguments line _ read).2.1⟩

end Session

end ScriptShell
