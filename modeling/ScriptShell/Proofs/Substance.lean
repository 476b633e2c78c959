import ScriptShell.Interpreter

/-!
A session apart from its output. What a verb does to the variables, the files, the mode, the editor
and the viewer depends on these alone and not on what was shown before, how deep scripts are nested
or how often they paused.
-/

namespace ScriptShell

namespace Session

/-- What a session holds, without the nesting of scripts, the last report, the count of pauses and the
history. -/
def substance (s : Session) : Session := { s with depth := 0, last := none, pauses := 0, history := [] }

def progress (s : Session) : Nat × Option Report × Nat := (s.depth, s.last, s.pauses)

/-- What opening and closing a file in the editor leaves alone. -/
def frame (s : Session) :
    (Nat × Option Report × Nat) × Variables × Option String × Store × Disk × Option String :=
  (s.progress, s.vars, s.editing, s.store, s.disk, s.viewing)

end Session

def Step.stripped {α : Type} (step : Step α) : Step α := (step.1, step.2.substance)

def Scratch.without (scratch : Scratch) : Option TempFile → Scratch
  | none => scratch
  | some temp => scratch.remove temp.number

namespace Session

variable (s : Session)

@[simp] theorem substance_vars : s.substance.vars = s.vars := rfl
@[simp] theorem substance_editing : s.substance.editing = s.editing := rfl
@[simp] theorem substance_store : s.substance.store = s.store := rfl
@[simp] theorem substance_disk : s.substance.disk = s.disk := rfl
@[simp] theorem substance_editor : s.substance.editor = s.editor := rfl
@[simp] theorem substance_scratch : s.substance.scratch = s.scratch := rfl
@[simp] theorem substance_viewing : s.substance.viewing = s.viewing := rfl
@[simp] theorem substance_launches : s.substance.launches = s.launches := rfl

/-! ## Output leaves the substance alone -/

@[simp] theorem substance_record (event : Event) : (s.record event).substance = s.substance := rfl

@[simp] theorem substance_emit (report : Report) : (s.emit report).substance = s.substance := rfl

@[simp] theorem substance_noted (line : String) :
    (Interpreter.noted line s).substance = s.substance := rfl

@[simp] theorem substance_weighed (c : Condition) (body : String) :
    (Interpreter.weighed c body s).substance = s.substance := rfl

@[simp] theorem substance_branched (body : String) :
    (Interpreter.branched body s).substance = s.substance := rfl

@[simp] theorem substance_echoed (line : String) :
    (Interpreter.echoed line s).substance = s.substance := rfl

@[simp] theorem substance_entered (name : String) :
    (Interpreter.entered name s).substance = s.substance := rfl

@[simp] theorem substance_left : (Interpreter.left s).substance = s.substance := rfl

@[simp] theorem substance_finish (name : String) (out : Bool × Session) :
    (Interpreter.finish name out).2.substance = out.2.substance := by
  obtain ⟨broken, s⟩ := out
  cases broken <;> rfl

@[simp] theorem substance_pauseBefore (host : Host) (first : Bool) :
    (Interpreter.pauseBefore host first s).2.substance = s.substance := by
  unfold Interpreter.pauseBefore
  split <;> rfl

@[simp] theorem substance_conveyed (out : Reply × Session) :
    (Interpreter.conveyed out).2.substance = out.2.substance := by
  obtain ⟨reply, s⟩ := out
  cases reply with
  | interrupted => rfl
  | done report => cases report <;> rfl

@[simp] theorem substance_conclude (line : String) (step : Step (Option Report)) :
    (Interpreter.conclude line step).2.substance = step.2.substance := by
  obtain ⟨result, s⟩ := step
  cases result with
  | ok report => rfl
  | error stop =>
    cases stop with
    | interrupt => rfl
    | fault fault => cases fault <;> rfl

/-! ## Files, mode and editor -/

theorem substance_hideFile (name : Option String) :
    (s.hideFile name).substance = s.substance.hideFile name := by
  cases name with
  | none => rfl
  | some name =>
    simp only [hideFile]
    by_cases viewed : s.viewing = some name
    · rw [if_pos viewed, if_pos (show s.substance.viewing = some name from viewed)]
      rfl
    · rw [if_neg viewed, if_neg (show ¬ s.substance.viewing = some name from viewed)]

theorem substance_enterEdit (name : String) :
    (s.enterEdit name).substance = { s.substance with editing := some name } := rfl

theorem substance_leaveEdit : s.leaveEdit.substance = { s.substance with editing := none } := rfl

theorem substance_closeEditor :
    s.closeEditor.substance = { s.substance with
      editor := .closed s.editor.surface, scratch := s.scratch.without s.editor.temp } := by
  unfold closeEditor
  cases s.editor.temp with
  | none => rfl
  | some temp =>
    simp only
    split <;> rfl

theorem substance_ended {s t : Session} (same : s.substance = t.substance) :
    s.closeEditor.leaveEdit.substance = t.closeEditor.leaveEdit.substance := by
  have editor : s.editor = t.editor := by rw [← substance_editor, same, substance_editor]
  have scratch : s.scratch = t.scratch := by rw [← substance_scratch, same, substance_scratch]
  rw [substance_leaveEdit, substance_leaveEdit, substance_closeEditor, substance_closeEditor, same,
    editor, scratch]

theorem stripped_applyChange (change : Store.Change) :
    (s.applyChange change).stripped = (s.substance.applyChange change).stripped := by
  unfold applyChange
  split <;> rfl

theorem stripped_launchEditor (host : Host) (command : String) (temp : TempFile) :
    (s.launchEditor host command temp).stripped =
      (s.substance.launchEditor host command temp).stripped := by
  unfold launchEditor
  rw [substance_launches]
  cases Editor.splitCommand command with
  | error failure =>
    simp only [Step.stripped, substance_closeEditor]
    rfl
  | ok words =>
    cases host.launch s.launches with
    | notFound => rfl
    | ran touch ending =>
      cases ending with
      | returned => rfl
      | _ =>
        simp only [Step.stripped, substance_closeEditor]
        rfl

theorem stripped_openEditor (host : Host) (name content : String) :
    (s.openEditor host name content).stripped =
      (s.substance.openEditor host name content).stripped := by
  unfold openEditor
  rw [substance_editor, substance_scratch]
  cases s.editor.surface with
  | buffer => rfl
  | external command =>
    cases s.scratch.create host.naming (Text.lower (Editor.extension name))
      (Text.Utf8.encode content) with
    | error failure => rfl
    | ok made =>
      cases command with
      | none => rfl
      | some command =>
        simp only
        split
        · rfl
        · rw [stripped_launchEditor]
          rfl

/-! ## What stays -/

theorem frame_closeEditor : s.closeEditor.frame = s.frame := by
  unfold closeEditor
  cases s.editor.temp with
  | none => rfl
  | some temp =>
    simp only
    split <;> rfl

theorem frame_launchEditor (host : Host) (command : String) (temp : TempFile) :
    (s.launchEditor host command temp).2.frame = s.frame := by
  unfold launchEditor
  cases Editor.splitCommand command with
  | error failure => exact s.frame_closeEditor
  | ok words =>
    cases host.launch s.launches with
    | notFound => rfl
    | ran touch ending =>
      cases ending with
      | returned => rfl
      | _ => exact frame_closeEditor _

theorem frame_openEditor (host : Host) (name content : String) :
    (s.openEditor host name content).2.frame = s.frame := by
  unfold openEditor
  cases s.editor.surface with
  | buffer => rfl
  | external command =>
    cases s.scratch.create host.naming (Text.lower (Editor.extension name))
      (Text.Utf8.encode content) with
    | error failure => rfl
    | ok made =>
      cases command with
      | none => rfl
      | some command =>
        simp only
        split
        · rfl
        · exact frame_launchEditor _ host command made.1

theorem frame_of_openEditor {s t : Session} {host : Host} {name content : String}
    {result : Except Stop Unit} (opened : s.openEditor host name content = (result, t)) :
    t.frame = s.frame := by
  have same := s.frame_openEditor host name content
  rwa [opened] at same

end Session

/-! ## Verbs -/

namespace Verb

variable (host : Host) (s : Session)

theorem stripped_followedBy {a b : Step Unit} (same : a.stripped = b.stripped)
    {next : Session → Session}
    (respects : ∀ s t, s.substance = t.substance → (next s).substance = (next t).substance)
    (report : Report) :
    (followedBy a next report).stripped = (followedBy b next report).stripped := by
  obtain ⟨result, s⟩ := a
  obtain ⟨result', t⟩ := b
  obtain ⟨rfl, sameSubstance⟩ := Prod.mk.inj same
  cases result with
  | ok _ => exact congrArg (Prod.mk _) (respects s t sameSubstance)
  | error stop => exact congrArg (Prod.mk _) sameSubstance

theorem stripped_reporting {a b : Step Report} (same : a.stripped = b.stripped) :
    (perform.reporting a).stripped = (perform.reporting b).stripped := by
  obtain ⟨result, s⟩ := a
  obtain ⟨result', t⟩ := b
  obtain ⟨rfl, sameSubstance⟩ := Prod.mk.inj same
  cases result <;> exact congrArg (Prod.mk _) sameSubstance

theorem stripped_setVariable (i : Invocation) :
    (setVariable i s).stripped = (setVariable i s.substance).stripped := by
  unfold setVariable
  rw [Session.substance_vars]
  repeat' split
  all_goals rfl

theorem stripped_viewFile (name : String) :
    (viewFile name s).stripped = (viewFile name s.substance).stripped := by
  unfold viewFile names
  rw [Session.substance_store]
  split <;> rfl

theorem stripped_removeFile (name : String) :
    (removeFile host name s).stripped = (removeFile host name s.substance).stripped := by
  unfold removeFile names
  rw [Session.substance_store]
  split
  · refine stripped_followedBy (s.stripped_applyChange _) ?_ _
    intro s t same
    rw [Session.substance_hideFile, Session.substance_hideFile, same]
  · rfl

theorem stripped_editFile (name : String) :
    (editFile host name s).stripped = (editFile host name s.substance).stripped := by
  unfold editFile
  rw [Session.substance_store]
  split
  · refine stripped_followedBy (s.stripped_openEditor host name _) ?_ _
    intro s t same
    rw [Session.substance_enterEdit, Session.substance_enterEdit, same]
  · rfl

theorem stripped_saveFile : (saveFile host s).stripped = (saveFile host s.substance).stripped := by
  unfold saveFile
  rw [Session.substance_editing, Session.substance_editor, Session.substance_scratch]
  cases s.editing with
  | none => rfl
  | some name =>
    cases s.editor.text s.scratch with
    | error failure => rfl
    | ok text =>
      exact stripped_followedBy (s.stripped_applyChange _) (fun _ _ => Session.substance_ended) _

theorem stripped_closeFile : (closeFile s).stripped = (closeFile s.substance).stripped := by
  unfold closeFile
  rw [Session.substance_editing]
  cases s.editing with
  | none => rfl
  | some name => exact congrArg (Prod.mk _) (Session.substance_ended rfl)

theorem stripped_formatStore (arguments : List String) :
    (formatStore host arguments s).stripped =
      (formatStore host arguments s.substance).stripped := by
  unfold formatStore
  split
  · refine stripped_followedBy (s.stripped_applyChange _) ?_ _
    intro s t same
    rw [Session.substance_hideFile, Session.substance_hideFile, same]
  · rfl

theorem stripped_runFile (name : String) :
    (runFile (fun _ s => (.error .interrupt, s)) name s).stripped =
      (runFile (fun _ s => (.error .interrupt, s)) name s.substance).stripped := by
  unfold runFile
  rw [Session.substance_store]
  split <;> rfl

end Verb

/-! ## A plain host -/

def Naming.plain : Naming := ⟨"/home/user", "/home", "/tmp", fun _ => "xxxxxxxx"⟩

def Host.calm (limit : Int) : Host where
  naming := .plain
  limit := .of limit
  pausing := false
  breaks _ := false
  launch _ := .ran .leaves .returned

end ScriptShell
