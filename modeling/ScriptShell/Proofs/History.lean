import ScriptShell.Proofs.Termination

namespace ScriptShell

namespace Session

def upon (s : Session) (past : List Event) : Session := { s with history := s.history ++ past }

/-- The session as it is after so many pauses, when all this was shown before. -/
def later (s : Session) (pauses : Nat) (past : List Event) : Session :=
  { s with pauses := pauses, history := s.history ++ past }

end Session

def behind {α : Type} (past : List Event) (out : α × Session) : α × Session :=
  (out.1, out.2.upon past)

def following {α : Type} (pauses : Nat) (past : List Event) (out : α × Session) : α × Session :=
  (out.1, out.2.later pauses past)

namespace Session

variable (s : Session) (pauses : Nat) (past : List Event)

theorem upon_eq_later : s.upon past = s.later s.pauses past := rfl

@[simp] theorem later_vars : (s.later pauses past).vars = s.vars := rfl
@[simp] theorem later_editing : (s.later pauses past).editing = s.editing := rfl
@[simp] theorem later_store : (s.later pauses past).store = s.store := rfl
@[simp] theorem later_editor : (s.later pauses past).editor = s.editor := rfl
@[simp] theorem later_scratch : (s.later pauses past).scratch = s.scratch := rfl
@[simp] theorem later_launches : (s.later pauses past).launches = s.launches := rfl

/-! ## Files, mode and editor -/

theorem hideFile_later (name : Option String) :
    (s.later pauses past).hideFile name = (s.hideFile name).later pauses past := by
  cases name with
  | none => rfl
  | some name =>
    simp only [hideFile]
    by_cases viewed : s.viewing = some name
    · rw [if_pos viewed, if_pos (show (s.later pauses past).viewing = some name from viewed)]
      rfl
    · rw [if_neg viewed, if_neg (show ¬ (s.later pauses past).viewing = some name from viewed)]

theorem closeEditor_later :
    (s.later pauses past).closeEditor = s.closeEditor.later pauses past := by
  unfold closeEditor
  rw [later_editor, later_scratch]
  cases s.editor.temp with
  | none => rfl
  | some temp =>
    simp only
    split <;> rfl

theorem applyChange_later (change : Store.Change) :
    (s.later pauses past).applyChange change = following pauses past (s.applyChange change) := by
  unfold applyChange
  split
  · simp only [following, later, List.append_assoc]
  · rfl

theorem launchEditor_later (host : Host) (command : String) (temp : TempFile) :
    (s.later pauses past).launchEditor host command temp =
      following pauses past (s.launchEditor host command temp) := by
  unfold launchEditor
  cases Editor.splitCommand command with
  | error failure => exact congrArg (Prod.mk _) (s.closeEditor_later pauses past)
  | ok words =>
    rw [later_launches]
    cases host.launch s.launches with
    | notFound => rfl
    | ran touch ending =>
      let touched : Session :=
        { s.record (.launched (words ++ [temp.path])) with
          launches := s.launches + 1, scratch := touch.apply s.scratch temp.number }
      cases ending with
      | returned => rfl
      | _ => exact congrArg (Prod.mk _) (touched.closeEditor_later pauses past)

theorem openEditor_later (host : Host) (name content : String) :
    (s.later pauses past).openEditor host name content =
      following pauses past (s.openEditor host name content) := by
  unfold openEditor
  rw [later_editor, later_scratch]
  cases s.editor.surface with
  | buffer => rfl
  | external command =>
    cases s.scratch.create host.naming (Text.lower (Editor.extension name))
      (Text.Utf8.encode content) with
    | error failure => rfl
    | ok made =>
      cases command with
      | none => rfl
      | some command =>
        let editor : Editor := ⟨s.editor.surface, some name, content, some made.1⟩
        let opened : Session := { s with editor := editor, scratch := made.2 }
        simp only
        split
        · rfl
        · exact opened.launchEditor_later pauses past host command made.1

end Session

/-! ## Verbs -/

namespace Verb

variable (host : Host) (s : Session) (pauses : Nat) (past : List Event)

theorem followedBy_following (step : Step Unit) {next : Session → Session}
    (follows : ∀ s, next (Session.later s pauses past) = (next s).later pauses past)
    (report : Report) :
    followedBy (following pauses past step) next report =
      following pauses past (followedBy step next report) := by
  obtain ⟨result, t⟩ := step
  cases result with
  | ok _ => exact congrArg (Prod.mk _) (follows t)
  | error stop => rfl

theorem reporting_following (step : Step Report) :
    perform.reporting (following pauses past step) =
      following pauses past (perform.reporting step) := by
  obtain ⟨result, t⟩ := step
  cases result <;> rfl

theorem leaveEdit_later :
    (s.later pauses past).closeEditor.leaveEdit = s.closeEditor.leaveEdit.later pauses past := by
  rw [Session.closeEditor_later]
  rfl

theorem setVariable_later (i : Invocation) :
    setVariable i (s.later pauses past) = following pauses past (setVariable i s) := by
  unfold setVariable
  rw [Session.later_vars]
  repeat' split
  all_goals rfl

theorem viewFile_later (name : String) :
    viewFile name (s.later pauses past) = following pauses past (viewFile name s) := by
  unfold viewFile names
  rw [Session.later_store]
  split <;> rfl

theorem removeFile_later (name : String) :
    removeFile host name (s.later pauses past) = following pauses past (removeFile host name s) := by
  unfold removeFile names
  rw [Session.later_store]
  split
  · rw [← followedBy_following pauses past _ fun s => s.hideFile_later pauses past _]
    exact congrArg (followedBy · _ _) (s.applyChange_later pauses past _)
  · rfl

theorem editFile_later (name : String) :
    editFile host name (s.later pauses past) = following pauses past (editFile host name s) := by
  unfold editFile
  rw [Session.later_store]
  split
  · rw [← followedBy_following pauses past _ fun _ => rfl]
    exact congrArg (followedBy · _ _) (s.openEditor_later pauses past host name _)
  · rfl

theorem saveFile_later :
    saveFile host (s.later pauses past) = following pauses past (saveFile host s) := by
  unfold saveFile
  rw [Session.later_editing, Session.later_editor, Session.later_scratch]
  cases s.editing with
  | none => rfl
  | some name =>
    cases s.editor.text s.scratch with
    | error failure => rfl
    | ok text =>
      simp only
      rw [← followedBy_following pauses past _ fun s => leaveEdit_later s pauses past]
      exact congrArg (followedBy · _ _) (s.applyChange_later pauses past _)

theorem closeFile_later : closeFile (s.later pauses past) = following pauses past (closeFile s) := by
  unfold closeFile
  rw [Session.later_editing]
  cases s.editing with
  | none => rfl
  | some name => exact congrArg (Prod.mk _) (leaveEdit_later s pauses past)

theorem formatStore_later (arguments : List String) :
    formatStore host arguments (s.later pauses past) =
      following pauses past (formatStore host arguments s) := by
  unfold formatStore
  split
  · rw [← followedBy_following pauses past _ fun s => s.hideFile_later pauses past _]
    exact congrArg (followedBy · _ _) (s.applyChange_later pauses past _)
  · rfl

theorem runFile_later (name : String) :
    runFile (fun _ s => (.error .interrupt, s)) name (s.later pauses past) =
      following pauses past (runFile (fun _ s => (.error .interrupt, s)) name s) := by
  unfold runFile
  rw [Session.later_store]
  split <;> rfl

end Verb

/-! ## Lines -/

namespace Interpreter

variable (host : Host) {run : String → Session → Step Report} (s : Session) (past : List Event)

/-- Scripts go on as they do, whatever was shown before. -/
def Unswayed (run : String → Session → Step Report) : Prop :=
  ∀ name s past, run name (Session.upon s past) = behind past (run name s)

theorem alone_later (host : Host) (i : Invocation) (s : Session) (pauses : Nat)
    (past : List Event) :
    alone host i (s.later pauses past) = following pauses past (alone host i s) := by
  unfold alone call
  cases Verb.ofName? i.verb with
  | none => rfl
  | some verb =>
    simp only
    cases verb with
    | help => rfl
    | echo => rfl
    | cls => rfl
    | ls => rfl
    | var =>
      rw [Verb.perform, Verb.perform, Verb.setVariable_later, Verb.reporting_following]
    | view =>
      rw [Verb.perform, Verb.perform, Verb.viewFile_later, Verb.reporting_following]
    | rm =>
      rw [Verb.perform, Verb.perform, Verb.removeFile_later, Verb.reporting_following]
    | edit =>
      rw [Verb.perform, Verb.perform, Verb.editFile_later, Verb.reporting_following]
    | save =>
      rw [Verb.perform, Verb.perform, Verb.saveFile_later, Verb.reporting_following]
    | close =>
      rw [Verb.perform, Verb.perform, Verb.closeFile_later, Verb.reporting_following]
    | format =>
      rw [Verb.perform, Verb.perform, Verb.formatStore_later, Verb.reporting_following]
    | run =>
      rw [Verb.perform, Verb.perform, Verb.runFile_later, Verb.reporting_following]

theorem call_upon (unswayed : Unswayed run) (i : Invocation) :
    call host run i (s.upon past) = behind past (call host run i s) := by
  by_cases starts : ∃ name, Starts i s name
  · obtain ⟨name, starts⟩ := starts
    have starts' : Starts i (s.upon past) name := starts
    rw [call_of_starts starts, call_of_starts starts', unswayed]
    obtain ⟨result, t⟩ := run name s
    cases result <;> rfl
  · have other := not_exists.mp starts
    have other' : ∀ name, ¬ Starts i (s.upon past) name := other
    have kept : (alone host i s).2.pauses = s.pauses :=
      congrArg (fun progress => progress.2.2) (progress_alone host i s)
    rw [call_of_not_starts other, call_of_not_starts other', Session.upon_eq_later, alone_later,
      behind, Session.upon_eq_later, kept]
    rfl

theorem conclude_behind (line : String) (step : Step (Option Report)) :
    conclude line (behind past step) = behind past (conclude line step) := by
  obtain ⟨result, t⟩ := step
  cases result with
  | ok report => rfl
  | error stop =>
    cases stop with
    | interrupt => rfl
    | fault fault => cases fault <;> rfl

theorem conveyed_behind (out : Reply × Session) :
    conveyed (behind past out) = behind past (conveyed out) := by
  obtain ⟨reply, t⟩ := out
  cases reply with
  | interrupted => rfl
  | done report => cases report <;> rfl

theorem executeCommand_upon (unswayed : Unswayed run) (command : Command) (line : String) :
    executeCommand host run command line (s.upon past) =
      behind past (executeCommand host run command line s) := by
  induction command generalizing line s with
  | blank => rfl
  | call i =>
    have barred : isBarred i.verb (s.upon past) = isBarred i.verb s := rfl
    have called := call_upon host (noted line s) past unswayed i
    simp only [executeCommand, gate, barred]
    split
    · rfl
    · rw [← conclude_behind, ← called]
      rfl
  | malformed refusal =>
    have barred : isBarred "IF" (s.upon past) = isBarred "IF" s := rfl
    simp only [executeCommand, gate, barred]
    split <;> rfl
  | conditional c body command ih =>
    have barred : isBarred "IF" (s.upon past) = isBarred "IF" s := rfl
    have vars : (noted line (s.upon past)).vars = (noted line s).vars := rfl
    simp only [executeCommand, gate, barred, vars]
    split
    · rfl
    · split
      · rfl
      · rfl
      · exact ih (branched body (weighed c body (noted line s))) body

theorem dispatchWith_upon (unswayed : Unswayed run) (line : String) :
    dispatchWith host run line (s.upon past) = behind past (dispatchWith host run line s) := by
  rw [dispatchWith, dispatchWith, executeWith, executeCommand_upon host s past unswayed,
    conveyed_behind]
  rfl

theorem pauseBefore_upon (first : Bool) :
    pauseBefore host first (s.upon past) = behind past (pauseBefore host first s) := by
  unfold pauseBefore
  split <;> rfl

theorem runLines_upon {dispatch : String → Session → Reply × Session}
    (unswayed : ∀ line s, dispatch line (Session.upon s past) = behind past (dispatch line s))
    (first : Bool) (lines : List String) :
    runLines host dispatch first lines (s.upon past) =
      behind past (runLines host dispatch first lines s) := by
  induction lines generalizing first s with
  | nil => rfl
  | cons line rest ih =>
    rw [runLines, runLines, pauseBefore_upon]
    cases paused : pauseBefore host first s with
    | mk broken t =>
      cases broken with
      | true => rfl
      | false =>
        have carried := unswayed line (echoed line t)
        simp only [behind]
        rw [show echoed line (t.upon past) = (echoed line t).upon past from rfl, carried]
        cases dispatch line (echoed line t) with
        | mk reply u =>
          cases reply with
          | interrupted => rfl
          | done report => exact ih u false

theorem finish_behind (name : String) (out : Bool × Session) :
    finish name (behind past out) = behind past (finish name out) := by
  obtain ⟨broken, t⟩ := out
  cases broken <;> rfl

theorem unswayed_runScript (room : Nat) : Unswayed (runScript host room) := by
  induction room with
  | zero =>
    intro name s past
    rfl
  | succ room ih =>
    intro name s past
    have ran := runLines_upon host (entered name s) past
      (fun line s => dispatchWith_upon host s past ih line) true (s.script name)
    have allows : host.allowsScript (s.upon past).depth = host.allowsScript s.depth := rfl
    rw [runScript, runScript, allows]
    split
    · rw [← finish_behind, ← ran]
      rfl
    · rfl

theorem execute_upon (line : String) :
    (s.upon past).execute host line = behind past (s.execute host line) :=
  executeCommand_upon host s past (unswayed_runScript host (s.room host)) _ line

end Interpreter

/-! ## The log apart -/

def Event.isLogged : Event → Bool
  | .logged _ _ _ => true
  | _ => false

def shownOf (events : List Event) : List Event := events.filter (!·.isLogged)

theorem shownOf_logged (level : Level) (origin : Origin) (message : String) (past : List Event) :
    shownOf (.logged level origin message :: past) = shownOf past := rfl

namespace Session

def output (s : Session) : List Event := shownOf s.events

def silent (s : Session) : Session := { s with history := [] }

def quiet (s : Session) : Session := { s with history := shownOf s.history }

variable {s t : Session}

@[simp] theorem quiet_logged (s : Session) (level : Level) (origin : Origin) (message : String) :
    (s.record (.logged level origin message)).quiet = s.quiet := rfl

@[simp] theorem quiet_noted (s : Session) (line : String) :
    (Interpreter.noted line s).quiet = s.quiet := s.quiet_logged _ _ _

@[simp] theorem quiet_weighed (s : Session) (c : Condition) (body : String) :
    (Interpreter.weighed c body s).quiet = s.quiet := s.quiet_logged _ _ _

theorem output_eq (s : Session) : s.output = (shownOf s.history).reverse := List.filter_reverse

theorem output_upon (s : Session) (past : List Event) :
    (s.upon past).output = (shownOf past).reverse ++ s.output := by
  rw [output_eq, output_eq, upon, shownOf, List.filter_append, List.reverse_append]
  rfl

theorem silent_upon (s : Session) (past : List Event) : (s.upon past).silent = s.silent := rfl

theorem quiet_upon {past past' : List Event} (same : shownOf past = shownOf past') (s : Session) :
    (s.upon past).quiet = (s.upon past').quiet := by
  have shown : shownOf (s.history ++ past) = shownOf (s.history ++ past') := by
    simp only [shownOf, List.filter_append] at same ⊢
    rw [same]
  simp only [quiet, upon, shown]

theorem silent_of_quiet (same : s.quiet = t.quiet) : s.silent = t.silent := by
  change s.quiet.silent = t.quiet.silent
  rw [same]

theorem output_of_quiet (same : s.quiet = t.quiet) : s.output = t.output := by
  rw [output_eq, output_eq, show shownOf s.history = shownOf t.history from congrArg history same]

end Session

def muted {α : Type} (out : α × Session) : α × Session := (out.1, out.2.quiet)

theorem muted_behind {α : Type} {past past' : List Event} (same : shownOf past = shownOf past')
    (out : α × Session) : muted (behind past out) = muted (behind past' out) :=
  Prod.ext rfl (Session.quiet_upon same out.2)

namespace Interpreter

variable (host : Host) {s : Session} {line line' : String}

@[simp] theorem quiet_conclude (line : String) (step : Step (Option Report)) :
    (conclude line step).2.quiet = step.2.quiet := by
  obtain ⟨result, t⟩ := step
  cases result with
  | ok report => rfl
  | error stop =>
    cases stop with
    | interrupt => rfl
    | fault fault =>
      cases fault with
      | refusal refusal => rfl
      | failure failure => exact t.quiet_logged _ _ _

theorem reply_conclude (line line' : String) (step : Step (Option Report)) :
    (conclude line step).1 = (conclude line' step).1 := by
  obtain ⟨result, t⟩ := step
  cases result with
  | ok report => rfl
  | error stop =>
    cases stop with
    | interrupt => rfl
    | fault fault => cases fault <;> rfl

theorem muted_conclude (line line' : String) (step : Step (Option Report)) :
    muted (conclude line step) = muted (conclude line' step) :=
  Prod.ext (reply_conclude line line' step) (by simp [muted])

def notedPast (line : String) (s : Session) : List Event :=
  .logged .debug .shell s!"Executing command: {Text.trim line}" :: s.history

theorem noted_eq (line : String) (s : Session) :
    noted line s = s.silent.upon (notedPast line s) := rfl

theorem shownOf_notedPast (line : String) (s : Session) :
    shownOf (notedPast line s) = shownOf s.history := shownOf_logged _ _ _ _

theorem muted_executeCommand {run : String → Session → Step Report} (unswayed : Unswayed run)
    (command : Command) :
    muted (executeCommand host run command line s) =
      muted (executeCommand host run command line' s) := by
  -- Both runs are that of the silent session, behind pasts that differ in one line of the log.
  have same : shownOf (notedPast line s) = shownOf (notedPast line' s) := by
    rw [shownOf_notedPast, shownOf_notedPast]
  cases command with
  | blank => rfl
  | call i =>
    simp only [executeCommand, gate]
    split
    · simp only [muted, Session.quiet_noted]
    · rw [muted_conclude line line', noted_eq, noted_eq, call_upon host _ _ unswayed,
        call_upon host _ _ unswayed, conclude_behind, conclude_behind, muted_behind same]
  | malformed refusal =>
    simp only [executeCommand, gate]
    split
    · simp only [muted, Session.quiet_noted]
    · simp only [muted, conclude, Stop.refusal, Session.quiet_noted]
  | conditional c body command =>
    have begun (line : String) : branched body (weighed c body (noted line s)) =
        (branched body (weighed c body s.silent)).upon (notedPast line s) := rfl
    have vars (line : String) : (noted line s).vars = s.vars := rfl
    simp only [executeCommand, gate, vars]
    split
    · simp only [muted, Session.quiet_noted]
    · split
      · simp only [muted, conclude, Stop.refusal, Session.quiet_weighed, Session.quiet_noted]
      · simp only [muted, Session.quiet_weighed, Session.quiet_noted]
      · rw [begun, begun, executeCommand_upon host _ _ unswayed, executeCommand_upon host _ _ unswayed,
          muted_behind same]

theorem ofLine_congr (same : Text.words line = Text.words line') :
    Command.ofLine line = Command.ofLine line' := by
  rw [Command.ofLine_eq, Command.ofLine_eq line', same]

theorem muted_execute (same : Text.words line = Text.words line') :
    muted (s.execute host line) = muted (s.execute host line') := by
  unfold Session.execute executeWith
  rw [ofLine_congr same]
  exact muted_executeCommand host (unswayed_runScript host _) _

end Interpreter

end ScriptShell
