import ScriptShell.Proofs.EditMode
import ScriptShell.Proofs.Moment

namespace ScriptShell

namespace Session

/-- Nothing has changed but the history and the numbers by which launches and temporary files are
counted. -/
structure Unchanged (s t : Session) : Prop where
  frame : t.frame = s.frame
  editor : t.editor = s.editor
  files : t.scratch.files = s.scratch.files

theorem Unchanged.refl (s : Session) : Unchanged s s := ⟨rfl, rfl, rfl⟩

variable {s t : Session}

theorem surface_closeEditor (s : Session) : s.closeEditor.editor.surface = s.editor.surface := by
  change s.closeEditor.substance.editor.surface = _
  rw [substance_closeEditor]
  rfl

theorem surface_launchEditor (s : Session) (host : Host) (command : String) (temp : TempFile) :
    (s.launchEditor host command temp).2.editor.surface = s.editor.surface := by
  unfold launchEditor
  cases Editor.splitCommand command with
  | error failure => exact s.surface_closeEditor
  | ok words =>
    cases host.launch s.launches with
    | notFound => rfl
    | ran touch ending =>
      cases ending with
      | returned => rfl
      | _ => exact surface_closeEditor _

theorem surface_openEditor (s : Session) (host : Host) (name content : String) :
    (s.openEditor host name content).2.editor.surface = s.editor.surface := by
  unfold openEditor
  split
  · rfl
  next command outside =>
    split
    · rfl
    · split
      · rfl
      · split
        · rfl
        · exact surface_launchEditor _ host _ _

theorem InStep.closed (inStep : s.InStep) (normal : s.editing = none) :
    s.editor = .closed s.editor.surface ∧ s.scratch.files = [] := by
  obtain ⟨buffer, temp⟩ := inStep.empty normal
  have name : s.editor.fileName = none := inStep.file.symm.trans normal
  have files := inStep.files
  rw [temp] at files
  refine ⟨?_, files⟩
  rw [Editor.closed, ← name, ← buffer, ← temp]

theorem unchanged_openEditor {host : Host} {name content : String} {stop : Stop}
    (inStep : s.InStep) (normal : s.editing = none)
    (makes : ∃ made, s.scratch.create host.naming (Text.lower (Editor.extension name))
      (Text.Utf8.encode content) = .ok made)
    (failed : s.openEditor host name content = (.error stop, t)) : Unchanged s t := by
  have after := inStep_openEditor inStep normal host name content makes
  have frame := frame_of_openEditor failed
  have surface := s.surface_openEditor host name content
  rw [failed] at after surface
  have stillNormal : t.editing = none := by
    simp only [Session.frame, Prod.mk.injEq] at frame
    exact frame.2.2.1.trans normal
  obtain ⟨closed, none⟩ := inStep.closed normal
  obtain ⟨closedAfter, noneAfter⟩ := InStep.closed after stillNormal
  refine ⟨frame, ?_, noneAfter.trans none.symm⟩
  rw [closedAfter, closed, surface]

end Session

theorem Store.commit_inMemory (naming : Naming) (files : Table String) (disk : Disk)
    {path : Option String} (memory : path = none) :
    (commit naming ⟨files, path⟩ disk).result = .ok () := by
  rw [memory]
  rfl

namespace Verb

open Session (Unchanged)

inductive Careful (s : Session) : Step (Option Report) → Prop where
  | kept {result : Except Stop (Option Report)} {t : Session} (same : Unchanged s t) :
      Careful s (result, t)
  | reported {report : Report} {t : Session} (fine : report.category ≠ .error) :
      Careful s (.ok (some report), t)
  | silent {t : Session} : Careful s (.ok none, t)
  | interrupted {t : Session} : Careful s (.error .interrupt, t)

theorem change?_inMemory {host : Host} {i : Invocation} {s : Session} {verb : Verb}
    {change : Store.Change} (memory : s.store.path = none)
    (made : verb.change? host i s = some change) : change.result = .ok () := by
  obtain ⟨files, rfl, -⟩ := change?_cases made
  exact Store.commit_inMemory _ _ _ memory

theorem Yields.careful {host : Host} {i : Invocation} {s : Session} {verb : Verb}
    {step : Step (Option Report)} (yields : Yields host i s verb step)
    (makes : host.naming.MakesTempFiles) (inStep : s.InStep) (memory : s.store.path = none)
    (normal : verb = .edit → s.editing = none) : Careful s step := by
  cases yields with
  | answered none goes => exact .kept (.refl s)
  | @shown _ report none fine vars viewing history =>
    cases report with
    | none => exact .silent
    | some report => exact .reported (fine report rfl)
  | changed made fine viewing history => exact .reported fine
  | unwritten made failed => exact absurd (failed.symm.trans (change?_inMemory memory made)) nofun
  | saved made written fine history => exact .reported fine
  | opened editable result fine => exact .reported fine
  | stopped editable result =>
    have ending := Scratch.mem_endings editable i.upper_fileName
    exact .kept (Session.unchanged_openEditor inStep (normal rfl) (makes _ _ _ ending) result)
  | closed fine => exact .reported fine
  | @ran result script => cases result <;> exact .kept (.refl s)

end Verb

namespace Interpreter

open Session (Unchanged)

variable {host : Host} {line : String} {s : Session} {i : Invocation}

theorem careful_alone (makes : host.naming.MakesTempFiles) (inStep : s.InStep)
    (memory : s.store.path = none) (passes : isBarred i.verb s = false) :
    Verb.Careful s (alone host i s) := by
  unfold alone call
  cases found : Verb.ofName? i.verb with
  | none => exact .kept (.refl s)
  | some verb =>
    apply (Verb.yields_perform (fun _ => rfl) verb).careful makes inStep memory
    rintro rfl
    rw [← Verb.name_of_ofName? found] at passes
    exact Session.editing_eq_none (by simpa [isBarred, isEditorVerb, Verb.name] using passes)

def Fails (reply : Reply) : Prop := ∃ report, reply = .done (some report) ∧ report.category = .error

theorem unchanged_conclude {step : Step (Option Report)} (careful : Verb.Careful s step)
    (fails : Fails (conclude line step).1) : Unchanged s (conclude line step).2 := by
  have kept (result : Except Stop (Option Report)) {t : Session} (same : Unchanged s t) :
      Unchanged s (conclude line (result, t)).2 := by
    cases result with
    | ok report => exact same
    | error stop =>
      cases stop with
      | interrupt => exact same
      | fault fault => cases fault <;> exact ⟨same.frame, same.editor, same.files⟩
  obtain ⟨report, answer, wrong⟩ := fails
  cases careful with
  | kept same => exact kept _ same
  | reported fine =>
    cases answer
    exact absurd wrong fine
  | silent => nomatch answer
  | interrupted => nomatch answer

theorem unchanged_of_executes {host : Host} (makes : host.naming.MakesTempFiles) {line : String}
    {s : Session} {out : Reply × Session} :
    Executes host line s out → s.InStep → s.store.path = none → Fails out.1 → Unchanged s out.2
  | .blank _, _, _, fails => nomatch fails
  | .barred _ _, _, _, _ => ⟨rfl, rfl, rfl⟩
  | .called admits call other, inStep, memory, fails => by
    have careful := careful_alone (s := noted line s) makes (Session.inStep_congr rfl inStep) memory
      admits.2
    have same := unchanged_conclude careful fails
    exact ⟨same.frame, same.editor, same.files⟩
  | .refused _ _ _ _, _, _, fails => unchanged_conclude (.kept ⟨rfl, rfl, rfl⟩) fails
  | .stopped _ _ _ _ _, _, _, fails => nomatch fails
  | .finished _ _ _ _ _, _, _, fails => by
    obtain ⟨report, answer, wrong⟩ := fails
    cases answer
    contradiction
  | .malformed _ _ _, _, _, fails => unchanged_conclude (.kept ⟨rfl, rfl, rfl⟩) fails
  | .undefined _ _ _ _, _, _, fails => unchanged_conclude (.kept ⟨rfl, rfl, rfl⟩) fails
  | .unmet _ _ _ _, _, _, fails => by
    obtain ⟨report, answer, wrong⟩ := fails
    cases answer
    contradiction
  | .met _ _ _ _ body, inStep, memory, fails => by
    have same := unchanged_of_executes makes body (Session.inStep_congr rfl inStep) memory fails
    exact ⟨same.frame, same.editor, same.files⟩

end Interpreter

open Interpreter (Moment)

theorem Session.inStep_of_leads {host : Host} (makes : host.naming.MakesTempFiles) {m n : Moment}
    (leads : Moment.Leads host m n) (inStep : m.session.InStep) : n.session.InStep := by
  refine Moment.leads_induction (P := fun m => m.session.InStep) leads ?_ inStep
  intro a b passes kept
  exact passes.keeps (fun _ _ => inStep_congr) (fun line _ kept => inStep_execute makes kept line) kept

/-- Over a store in memory, a line that is answered with an error has changed nothing, be it typed or
a line of a script that a typed line has started. -/
theorem Session.error_changes_nothing (host : Host) (makes : host.naming.MakesTempFiles)
    (typed : String) (s : Session) (reachable : Reachable host s) (m : Moment)
    (leads : Moment.Leads host (.start typed s) m) (memory : m.session.store.path = none)
    (line : String) (report : Report) (t : Session)
    (answer : m.session.execute host line = (.done (some report), t))
    (failed : report.category = .error) :
    t.vars = m.session.vars ∧ t.store = m.session.store ∧ t.disk = m.session.disk ∧
    t.editing = m.session.editing ∧ t.editor = m.session.editor ∧
    t.scratch.files = m.session.scratch.files ∧ t.viewing = m.session.viewing ∧
    t.depth = m.session.depth ∧ t.last = m.session.last ∧ t.pauses = m.session.pauses := by
  have inStep := inStep_of_leads makes leads (reachable.inStep makes)
  have executes := Interpreter.executes_execute host line m.session
  rw [answer] at executes
  have same := Interpreter.unchanged_of_executes makes executes inStep memory ⟨report, rfl, failed⟩
  have frame := same.frame
  simp only [Session.frame, progress, Prod.mk.injEq] at frame
  obtain ⟨⟨depth, last, pauses⟩, vars, editing, store, disk, viewing⟩ := frame
  exact ⟨vars, store, disk, editing, same.editor, same.files, viewing, depth, last, pauses⟩

def Host.barren : Host := { calm 3 with launch := fun _ => .ran (.writes [72]) (.failed "denied") }

def Session.hopeful : Session :=
  start (.inMemory ⟨[("S.ISH", "IF (1 === 1) \x7bIF (1 < 2) \x7bEDIT b.txt\x7d\x7d")]⟩) .empty
    (.external (some "vi"))

theorem Session.error_changes_nothing_hopeful :
    let line := "IF (1 === 1) \x7bIF (1 < 2) \x7bEDIT b.txt\x7d\x7d"
    ∃ m : Moment, Moment.Leads .barren (.start "RUN S.ISH" hopeful) m ∧ m.control = .carry line ∧
      ∃ t, m.session.execute .barren line =
          (.done (some (.error "An unexpected error occurred: denied")), t) ∧
        t.launches = 1 ∧ t.store = hopeful.store ∧ t.editing = none ∧
        t.editor = .closed (.external (some "vi")) ∧ t.scratch.files = [] ∧ t.depth = 1 := by
  intro line
  let begun : Moment := ⟨.resume true, [⟨"S.ISH", [line]⟩],
    Interpreter.entered "S.ISH" (Interpreter.noted "RUN S.ISH" hopeful)⟩
  let m : Moment := ⟨.carry line, [⟨"S.ISH", []⟩], Interpreter.echoed line begun.session⟩
  let t : Session := (m.session.execute .barren line).2
  have admits : Interpreter.Admits "RUN S.ISH" hopeful ⟨"RUN", ["S.ISH"]⟩ :=
    ⟨by decide +kernel, rfl⟩
  have starts : Interpreter.Starts ⟨"RUN", ["S.ISH"]⟩ hopeful "S.ISH" :=
    ⟨rfl, rfl, by decide, by decide⟩
  have lines : hopeful.script "S.ISH" = [line] := by decide +kernel
  have runs : (Moment.start "RUN S.ISH" hopeful).next .barren = some begun := by
    rw [Moment.start, Moment.next, Moment.carried_of_script admits (by decide) starts rfl, lines]
  have leads : Moment.Leads .barren (.start "RUN S.ISH" hopeful) m :=
    .head runs (.single (rfl : begun.next .barren = some m))
  have answer : m.session.execute .barren line =
      (.done (some (.error "An unexpected error occurred: denied")), t) :=
    Prod.ext (by decide +kernel) rfl
  have launches : t.launches = 1 := by decide +kernel
  obtain ⟨-, store, -, editing, editor, files, -, depth, -, -⟩ :=
    error_changes_nothing .barren Naming.plain_makesTempFiles "RUN S.ISH" hopeful (.start _ _ _) m
      leads rfl line _ t answer rfl
  exact ⟨m, leads, rfl, t, answer, launches, store, editing, editor, files, depth⟩

end ScriptShell
