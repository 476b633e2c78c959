import ScriptShell.Proofs.Substance

namespace ScriptShell.Verb

def change? (host : Host) (i : Invocation) (s : Session) : Verb → Option Store.Change
  | .rm => if names s i.fileName then some (s.store.delete host.naming s.disk i.fileName) else none
  | .save =>
    match s.editing with
    | none => none
    | some name =>
      match s.editor.text s.scratch with
      | .error _ => none
      | .ok text => some (s.store.put host.naming s.disk name text)
  | .format =>
    if i.arguments.head?.map Text.upper = some "YES" then some (s.store.clear host.naming s.disk)
    else none
  | _ => none

/-- The sessions in which a verb can leave a session, scripts apart. -/
inductive Leaves (host : Host) (i : Invocation) (s : Session) : Verb → Session → Prop where
  | shown {verb : Verb} (none : verb.change? host i s = none) (vars : Variables)
      (viewing : Option String) (history : List Event) :
      Leaves host i s verb { s with vars := vars, viewing := viewing, history := history }
  | changed {verb : Verb} {change : Store.Change} (made : verb.change? host i s = some change)
      (viewing : Option String) (history : List Event) :
      Leaves host i s verb
        { s with
          store := change.store, disk := change.disk, viewing := viewing, history := history }
  | saved {change : Store.Change} (made : change? host i s .save = some change)
      (written : change.result = .ok ()) (history : List Event) :
      Leaves host i s .save (Session.closeEditor
        { s with store := change.store, disk := change.disk, history := history }).leaveEdit
  | opened {content : String} {t : Session} (editable : isEditableName i.fileName = true)
      (result : s.openEditor host i.fileName content = (.ok (), t)) :
      Leaves host i s .edit (t.enterEdit i.fileName)
  | stopped {content : String} {stop : Stop} {t : Session}
      (editable : isEditableName i.fileName = true)
      (result : s.openEditor host i.fileName content = (.error stop, t)) :
      Leaves host i s .edit t
  | closed : Leaves host i s .close s.closeEditor.leaveEdit

/-- What a verb can come to. Nothing fails once something has been changed but for a store that cannot
be written and an editor that cannot be used. -/
inductive Yields (host : Host) (i : Invocation) (s : Session) : Verb → Step (Option Report) → Prop where
  | answered {verb : Verb} {result : Except Stop (Option Report)}
      (none : verb.change? host i s = none) (goes : result ≠ .error .interrupt) :
      Yields host i s verb (result, s)
  | shown {verb : Verb} {report : Option Report} (none : verb.change? host i s = none)
      (fine : ∀ told ∈ report, told.category ≠ .error) (vars : Variables)
      (viewing : Option String) (history : List Event) :
      Yields host i s verb
        (.ok report, { s with vars := vars, viewing := viewing, history := history })
  | changed {verb : Verb} {change : Store.Change} {report : Report}
      (made : verb.change? host i s = some change) (fine : report.category ≠ .error)
      (viewing : Option String) (history : List Event) :
      Yields host i s verb (.ok (some report),
        { s with
          store := change.store, disk := change.disk, viewing := viewing, history := history })
  | unwritten {verb : Verb} {change : Store.Change} {failure : Failure}
      (made : verb.change? host i s = some change) (failed : change.result = .error failure) :
      Yields host i s verb
        (.error (.failure failure), { s with store := change.store, disk := change.disk })
  | saved {change : Store.Change} {report : Report} (made : change? host i s .save = some change)
      (written : change.result = .ok ()) (fine : report.category ≠ .error) (history : List Event) :
      Yields host i s .save (.ok (some report), (Session.closeEditor
        { s with store := change.store, disk := change.disk, history := history }).leaveEdit)
  | opened {content : String} {t : Session} {report : Report}
      (editable : isEditableName i.fileName = true)
      (result : s.openEditor host i.fileName content = (.ok (), t))
      (fine : report.category ≠ .error) :
      Yields host i s .edit (.ok (some report), t.enterEdit i.fileName)
  | stopped {content : String} {stop : Stop} {t : Session}
      (editable : isEditableName i.fileName = true)
      (result : s.openEditor host i.fileName content = (.error stop, t)) :
      Yields host i s .edit (.error stop, t)
  | closed {report : Report} (fine : report.category ≠ .error) :
      Yields host i s .close (.ok (some report), s.closeEditor.leaveEdit)
  | ran {result : Except Stop Report}
      (script : isScriptName i.fileName = true ∧ s.store.contains i.fileName = true) :
      Yields host i s .run (perform.reporting (result, s))

variable {host : Host} {i : Invocation} {s : Session}

theorem change?_cases {verb : Verb} {change : Store.Change}
    (made : verb.change? host i s = some change) :
    ∃ files, change = Store.commit host.naming ⟨files, s.store.path⟩ s.disk ∧
      ((verb = .rm ∧ names s i.fileName = true ∧ files = s.store.files.erase i.fileName) ∨
        (verb = .save ∧ ∃ name text, s.editing = some name ∧ s.editor.text s.scratch = .ok text ∧
          files = s.store.files.insert name text) ∨
        (verb = .format ∧ i.arguments.head?.map Text.upper = some "YES" ∧ files = .empty)) := by
  cases verb with
  | rm =>
    rw [change?] at made
    split at made
    next named =>
      have stored : s.store.contains i.fileName = true := by
        simp only [names, Bool.and_eq_true] at named
        exact named.2
      obtain rfl := Option.some.inj made
      rw [Store.delete, if_pos stored]
      exact ⟨_, rfl, .inl ⟨rfl, named, rfl⟩⟩
    · contradiction
  | save =>
    rw [change?] at made
    split at made
    · contradiction
    next name mode =>
      split at made
      · contradiction
      next text held =>
        obtain rfl := Option.some.inj made
        exact ⟨_, rfl, .inr (.inl ⟨rfl, name, text, mode, held, rfl⟩)⟩
  | format =>
    rw [change?] at made
    split at made
    next confirmed =>
      obtain rfl := Option.some.inj made
      exact ⟨_, rfl, .inr (.inr ⟨rfl, confirmed, rfl⟩)⟩
    · contradiction
  | _ => contradiction

@[simp] theorem session_reporting (step : Step Report) : (perform.reporting step).2 = step.2 := by
  obtain ⟨result, s⟩ := step
  cases result <;> rfl

theorem yields_changed {verb : Verb} {change : Store.Change}
    (made : verb.change? host i s = some change) (name : Option String) {report : Report}
    (fine : report.category ≠ .error) :
    Yields host i s verb
      (perform.reporting (followedBy (s.applyChange change) (·.hideFile name) report)) := by
  unfold Session.applyChange
  cases written : change.result with
  | error failure => exact .unwritten made written
  | ok _ =>
    cases name with
    | none => exact .changed made fine none _
    | some name =>
      change Yields host i s verb (.ok (some report), if s.viewing = some name then _ else _)
      split
      · exact .changed made fine none _
      · exact .changed made fine s.viewing _

theorem yields_saved {change : Store.Change} (made : change? host i s .save = some change)
    {report : Report} (fine : report.category ≠ .error) :
    Yields host i s .save
      (perform.reporting (followedBy (s.applyChange change) (·.closeEditor.leaveEdit) report)) := by
  unfold Session.applyChange
  cases written : change.result with
  | error failure => exact .unwritten made written
  | ok _ => exact .saved made written fine _

theorem yields_opened (editable : isEditableName i.fileName = true) (content : String)
    {report : Report} (fine : report.category ≠ .error) :
    Yields host i s .edit (perform.reporting (followedBy (s.openEditor host i.fileName content)
      (·.enterEdit i.fileName) report)) := by
  cases result : s.openEditor host i.fileName content with
  | mk out t =>
    cases out with
    | ok _ => exact .opened editable result fine
    | error stop => exact .stopped editable result

theorem yields_perform {runScript : String → Session → Step Report}
    (scripts : ∀ name, (runScript name s).2 = s) (verb : Verb) :
    Yields host i s verb (verb.perform host runScript i s) := by
  cases verb with
  | help => exact .answered rfl (by simp)
  | echo => exact .answered rfl (by simp)
  | cls => exact .shown rfl (by simp) s.vars s.viewing _
  | ls => exact .answered rfl (by simp)
  | var =>
    rw [perform, setVariable]
    repeat' split
    · exact .answered rfl (by simp [Stop.refusal])
    · exact .answered rfl (by simp [Stop.refusal])
    · exact .shown rfl (by simp [Report.success]) _ s.viewing s.history
    · exact .answered rfl (by simp [Stop.refusal])
  | view =>
    rw [perform, viewFile]
    split
    · exact .shown rfl (by simp [Report.info]) s.vars _ _
    · exact .answered rfl (by simp)
  | rm =>
    rw [perform, removeFile]
    split
    next named =>
      have made : change? host i s .rm = some (s.store.delete host.naming s.disk i.fileName) :=
        if_pos named
      exact yields_changed made _ (by simp [Report.success])
    next missing => exact .answered (if_neg missing) (by simp)
  | edit =>
    rw [perform, editFile]
    split
    next editable => exact yields_opened editable _ (by simp [Report.info])
    · exact .answered rfl (by simp)
  | save =>
    rw [perform, saveFile]
    cases mode : s.editing with
    | none => exact .answered (by rw [change?, mode]) (by simp)
    | some name =>
      cases text : s.editor.text s.scratch with
      | error failure => exact .answered (by rw [change?, mode, text]) (by simp [Stop.failure])
      | ok content => exact yields_saved (by rw [change?, mode, text]) (by simp [Report.success])
  | close =>
    rw [perform, closeFile]
    split
    · exact .answered rfl (by simp)
    · exact .closed (by simp [Report.info])
  | run =>
    rw [perform, runFile]
    split
    next script =>
      have ran : runScript i.fileName s = ((runScript i.fileName s).1, s) :=
        Prod.ext rfl (scripts i.fileName)
      rw [ran]
      exact .ran script
    · exact .answered rfl (by simp)
  | format =>
    rw [perform, formatStore]
    split
    next confirmed =>
      have made : change? host i s .format = some (s.store.clear host.naming s.disk) :=
        if_pos confirmed
      exact yields_changed made _ (by simp [Report.success])
    next unconfirmed => exact .answered (if_neg unconfirmed) (by simp)

theorem leaves_self {verb : Verb} (none : verb.change? host i s = none) : Leaves host i s verb s :=
  .shown none s.vars s.viewing s.history

theorem Yields.leaves {verb : Verb} {step : Step (Option Report)}
    (yields : Yields host i s verb step) : Leaves host i s verb step.2 := by
  cases yields with
  | answered none goes => exact leaves_self none
  | shown none fine vars viewing history => exact .shown none vars viewing history
  | changed made fine viewing history => exact .changed made viewing history
  | unwritten made failed => exact .changed made s.viewing s.history
  | saved made written fine history => exact .saved made written history
  | opened editable result fine => exact .opened editable result
  | stopped editable result => exact .stopped editable result
  | closed fine => exact .closed
  | ran script =>
    rw [session_reporting]
    exact leaves_self rfl

theorem leaves_perform {runScript : String → Session → Step Report}
    (scripts : ∀ name, (runScript name s).2 = s) (verb : Verb) :
    Leaves host i s verb (verb.perform host runScript i s).2 := (yields_perform scripts verb).leaves

theorem Leaves.progress {verb : Verb} {t : Session} (leaves : Leaves host i s verb t) :
    t.progress = s.progress := by
  cases leaves with
  | shown none vars viewing history => rfl
  | changed made viewing history => rfl
  | saved made written history => exact congrArg Prod.fst (Session.frame_closeEditor _)
  | opened editable result => exact congrArg Prod.fst (Session.frame_of_openEditor result)
  | stopped editable result => exact congrArg Prod.fst (Session.frame_of_openEditor result)
  | closed => exact congrArg Prod.fst s.frame_closeEditor

end ScriptShell.Verb
