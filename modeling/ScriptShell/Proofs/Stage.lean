import ScriptShell.Program
import ScriptShell.Proofs.EditMode
import ScriptShell.Proofs.EditSession
import ScriptShell.Proofs.Nesting
import ScriptShell.Proofs.Persistence

/-!
A run of the program stage by stage, from its first line to its end. A stage is a moment of the line
that is being carried out, with the lines of the input that are still to come, or the session at the
end. At every stage the one temporary file that may be there is that of the file being edited, and an
edit changes nothing in the store but by a SAVE.
-/

namespace ScriptShell

/-! ## Temporary files -/

/-- An editor that is not in use has no temporary file, and there is none but the editor's own. -/
structure Editor.Tidy (editor : Editor) (scratch : Scratch) (mode : Option String) : Prop where
  rest : mode = none → editor.temp = none
  files : scratch.HoldsOnly editor.temp

def Session.Tidy (s : Session) : Prop := s.editor.Tidy s.scratch s.editing

theorem Editor.InStep.tidy {editor : Editor} {scratch : Scratch} {mode : Option String}
    (inStep : editor.InStep scratch mode) : editor.Tidy scratch mode :=
  ⟨fun normal => (inStep.empty normal).2, inStep.files⟩

namespace Session

variable {s t : Session}

theorem Tidy.congr (tidy : s.Tidy) (same : t.substance = s.substance) : t.Tidy := by
  have moved : s.substance.Tidy := tidy
  rw [← same] at moved
  exact moved

theorem Tidy.files_eq_nil (tidy : s.Tidy) (normal : s.editing = none) : s.scratch.files = [] := by
  have files := tidy.files
  rwa [tidy.rest normal] at files

theorem Tidy.ended (tidy : s.Tidy) : s.closeEditor.leaveEdit.Tidy := by
  have ended : s.closeEditor.leaveEdit.substance.Tidy := by
    rw [substance_leaveEdit, substance_closeEditor]
    exact ⟨fun _ => rfl, tidy.files.without⟩
  exact ended

theorem Tidy.close (tidy : s.Tidy) : s.close.Tidy := by
  unfold Session.close
  split
  · exact tidy.ended
  · exact tidy

theorem editing_close (s : Session) : s.close.editing = none := by
  unfold close
  split
  · rfl
  next normal => exact editing_eq_none (by simpa using normal)

theorem holdings_of_substance (same : t.substance = s.substance) : t.holdings = s.holdings := by
  change t.substance.holdings = s.substance.holdings
  rw [same]

theorem holdings_close (s : Session) : s.close.holdings = s.holdings := by
  unfold close
  split
  · change s.closeEditor.holdings = s.holdings
    exact holdings_of_frame s.frame_closeEditor
  · rfl

def Settles (s u : Session) : Prop := ∃ t, t.substance = s.substance ∧ (u = t ∨ u = t.close)

theorem Settles.tidy (settles : s.Settles t) (tidy : s.Tidy) : t.Tidy := by
  obtain ⟨u, same, rfl | rfl⟩ := settles
  · exact tidy.congr same
  · exact (tidy.congr same).close

theorem Settles.holdings (settles : s.Settles t) : t.holdings = s.holdings := by
  obtain ⟨u, same, rfl | rfl⟩ := settles
  · exact holdings_of_substance same
  · exact (holdings_close u).trans (holdings_of_substance same)

theorem openEditor_of_rest (rest : s.editor.temp = none) (host : Host) (name content : String) :
    s.openEditor host name content =
      ({ s with editor := .closed s.editor.surface } : Session).openEditor host name content := by
  unfold openEditor
  simp only [Editor.closed, rest]

theorem Tidy.openEditor (tidy : s.Tidy) (normal : s.editing = none) (host : Host)
    (name content : String) :
    match s.openEditor host name content with
    | (.ok _, t) => (t.enterEdit name).Tidy
    | (.error _, t) => t.Tidy := by
  have rest := tidy.rest normal
  -- What an editor that is not in use still holds makes no difference to opening it.
  have closed : ({ s with editor := .closed s.editor.surface } : Session).InStep :=
    { file := normal
      empty := fun _ => ⟨rfl, rfl⟩
      bare := fun _ => rfl
      backed := fun _ editing _ => absurd normal editing
      files := tidy.files_eq_nil normal }
  cases created : s.scratch.create host.naming (Text.lower (Editor.extension name))
      (Text.Utf8.encode content) with
  | ok made =>
    have kept := inStep_openEditor closed normal host name content ⟨made, created⟩
    rw [← openEditor_of_rest rest] at kept
    cases opened : s.openEditor host name content with
    | mk result t =>
      rw [opened] at kept
      cases result with
      | ok _ => exact kept.tidy
      | error stop => exact kept.tidy
  | error failure =>
    unfold Session.openEditor
    cases surface : s.editor.surface with
    | buffer => exact ⟨nofun, tidy.files⟩
    | external command =>
      simp only [created]
      exact ⟨fun _ => rest, tidy.files⟩

end Session

namespace Verb

variable {host : Host} {i : Invocation} {s t : Session} {verb : Verb}

theorem Leaves.tidy (leaves : Leaves host i s verb t)
    (passes : Interpreter.isBarred verb.name s = false) (tidy : s.Tidy) : t.Tidy := by
  have normal (edit : verb = .edit) : s.editing = none :=
    Session.editing_eq_none (by
      simpa [edit, Interpreter.isBarred, Interpreter.isEditorVerb, name] using passes)
  cases leaves with
  | shown none vars viewing history => exact tidy
  | changed made viewing history => exact tidy
  | saved made written history =>
    refine Session.Tidy.ended ?_
    exact tidy
  | @opened content t editable result =>
    have kept := tidy.openEditor (normal rfl) host i.fileName content
    rwa [result] at kept
  | @stopped content stop t editable result =>
    have kept := tidy.openEditor (normal rfl) host i.fileName content
    rwa [result] at kept
  | closed => exact tidy.ended

theorem Leaves.holdings_of_entered (leaves : Leaves host i s verb t) (normal : s.editing = none)
    {file : String} (entered : t.editing = some file) : t.holdings = s.holdings := by
  have same (kept : t.editing = s.editing) : t.holdings = s.holdings :=
    nomatch (kept.trans normal).symm.trans entered
  cases leaves with
  | shown none vars viewing history => exact same rfl
  | changed made viewing history => exact same rfl
  | saved made written history => contradiction
  | @opened content t editable result =>
    change t.holdings = s.holdings
    exact Session.holdings_of_frame (Session.frame_of_openEditor result)
  | stopped editable result =>
    exact same (Session.editing_of_frame (Session.frame_of_openEditor result))
  | closed => contradiction

end Verb

/-! ## Invocations -/

namespace Interpreter

variable {host : Host} {i : Invocation} {s : Session} {line file : String}

theorem alone_cases (host : Host) (i : Invocation) (s : Session) :
    (alone host i s).2 = s ∨
      ∃ verb, Verb.ofName? i.verb = some verb ∧ Verb.Leaves host i s verb (alone host i s).2 := by
  unfold alone call
  cases Verb.ofName? i.verb with
  | none => exact .inl rfl
  | some verb => exact .inr ⟨verb, rfl, Verb.leaves_perform (fun _ => rfl) verb⟩

theorem tidy_alone (host : Host) (passes : isBarred i.verb s = false) (tidy : s.Tidy) :
    (alone host i s).2.Tidy := by
  obtain same | ⟨verb, found, leaves⟩ := alone_cases host i s
  · rwa [same]
  · rw [← Verb.name_of_ofName? found] at passes
    exact leaves.tidy passes tidy

theorem holdings_alone_of_entered (normal : s.editing = none)
    (entered : (alone host i s).2.editing = some file) :
    (alone host i s).2.holdings = s.holdings := by
  obtain same | ⟨verb, -, leaves⟩ := alone_cases host i s
  · rw [same]
  · exact leaves.holdings_of_entered normal entered

theorem succeeds_of_written {change : Store.Change} (line : String)
    (found : Verb.ofName? i.verb = some .save) (made : Verb.change? host i s .save = some change)
    (written : change.result = .ok ()) : (conclude line (alone host i s)).1.succeeds = true := by
  rw [Verb.change?] at made
  rw [alone, call, found]
  simp only [Verb.perform, Verb.saveFile]
  cases mode : s.editing with
  | none => simp [mode] at made
  | some name =>
    cases text : s.editor.text s.scratch with
    | error failure => simp [mode, text] at made
    | ok content =>
      rw [mode, text] at made
      cases made
      simp only [Session.putFile, Session.applyChange, written]
      rfl

theorem verb_of_editing (mode : s.editing = some file) {verb : String}
    (passes : isBarred verb s = false) : verb = "SAVE" ∨ verb = "CLOSE" := by
  rw [isBarred_of_editing mode] at passes
  simpa [isEditorVerb, or_iff_not_imp_left] using passes

theorem holdings_alone_of_editing (line : String) (mode : s.editing = some file)
    (passes : isBarred i.verb s = false)
    (unsaved : i.verb = "SAVE" → (conclude line (alone host i s)).1.succeeds = false)
    (written : ∀ change, change? host i s = some change → change.result = .ok ()) :
    (alone host i s).2.holdings = s.holdings := by
  rw [holdings_alone]
  cases made : change? host i s with
  | none => rfl
  | some change =>
    -- The change could be written, so a SAVE that makes it succeeds.
    exfalso
    have ok := written change made
    rcases verb_of_editing mode passes with save | close
    · have found : Verb.ofName? i.verb = some .save := by
        rw [save]
        rfl
      rw [change?, found] at made
      have succeeds := succeeds_of_written line found made ok
      exact absurd (succeeds.symm.trans (unsaved save)) (by simp)
    · have found : Verb.ofName? i.verb = some .close := by
        rw [close]
        rfl
      rw [change?, found] at made
      contradiction

/-! ## Moments -/

theorem pauses_le_of_pauseBefore {first broken : Bool} {t : Session}
    (paused : pauseBefore host first s = (broken, t)) : s.pauses ≤ t.pauses := by
  unfold pauseBefore at paused
  split at paused
  · cases paused
    exact Nat.le_succ _
  · cases paused
    exact Nat.le_refl _

namespace Moment

variable {m n : Moment}

def saves (host : Host) (m : Moment) : Bool :=
  match m.control with
  | .carry line =>
    match Invocation.ofWords? (Text.words line) with
    | some i => i.verb = "SAVE" && (m.session.execute host line).1.succeeds
    | none => false
  | _ => false

def failsToWrite (host : Host) (m : Moment) : Bool :=
  match m.control with
  | .carry line =>
    match Invocation.ofWords? (Text.words line) with
    | some i =>
      !isBarred i.verb m.session && (change? host i m.session).any fun change => !change.result.isOk
    | none => false
  | _ => false

theorem result_of_written {change : Store.Change} (carry : m.control = .carry line)
    (admits : Admits line m.session i) (written : m.failsToWrite host = false)
    (made : change? host i m.session = some change) : change.result = .ok () := by
  cases result : change.result with
  | ok _ => rfl
  | error failure =>
    simp [failsToWrite, carry, admits.1, admits.2, made, result, Except.isOk, Except.toBool] at written

theorem Passes.tidy (passes : Passes host m n) (tidy : m.session.Tidy) : n.session.Tidy := by
  rcases passes.same_or_called with same | ⟨line, i, -, ⟨-, admitted⟩, rfl, -⟩
  · exact tidy.congr same
  · have noted : (noted line m.session).Tidy := tidy
    have passes : isBarred i.verb (Interpreter.noted line m.session) = false := admitted
    exact (tidy_alone host passes noted).congr (Session.substance_conclude line _)

theorem Passes.holdings_of_entered (passes : Passes host m n) (normal : m.session.editing = none)
    (entered : n.session.editing = some file) : n.session.holdings = m.session.holdings := by
  rcases passes.same_or_called with same | ⟨line, i, -, -, rfl, -⟩
  · exact Session.holdings_of_substance same
  · have concluded := Session.substance_conclude line (alone host i (noted line m.session))
    have entered : (alone host i (noted line m.session)).2.editing = some file :=
      (congrArg Session.editing concluded).symm.trans entered
    exact (Session.holdings_of_substance concluded).trans (holdings_alone_of_entered normal entered)

theorem Passes.holdings_of_unsaved (passes : Passes host m n) (mode : m.session.editing = some file)
    (unsaved : m.saves host = false) (written : m.failsToWrite host = false) :
    n.session.holdings = m.session.holdings := by
  rcases passes.same_or_called with same | ⟨line, i, carry, ⟨read, admitted⟩, rfl, executed⟩
  · exact Session.holdings_of_substance same
  · refine (Session.holdings_of_substance (Session.substance_conclude line _)).trans ?_
    refine holdings_alone_of_editing line mode admitted ?_ ?_
    · intro save
      simpa [saves, carry, read, save, executed] using unsaved
    · intro change made
      exact result_of_written carry ⟨read, admitted⟩ written made

theorem Passes.pauses_le (passes : Passes host m n) : m.session.pauses ≤ n.session.pauses := by
  cases passes with
  | settled same progress => exact (congrArg (fun counts => counts.2.2) progress).ge
  | @called line scripts s i admits call other =>
    have same := (progress_conclude line _).trans (progress_alone host i (noted line s))
    exact (congrArg (fun counts => counts.2.2) same).ge
  | broken broken => exact pauses_le_of_pauseBefore broken
  | resumed resumed =>
    have more := pauses_le_of_pauseBefore resumed
    exact more
  | @shown report running scripts s => exact (pauses_conveyed (.done report, s)).ge
  | _ => exact Nat.le_refl _

end Moment

end Interpreter

theorem Session.pauses_close (s : Session) : s.close.pauses = s.pauses := by
  unfold close
  split
  · exact congrArg (fun frame => frame.1.2.2) s.frame_closeEditor
  · rfl

/-! ## Stages -/

namespace Program

open Interpreter (Moment)

inductive Manner where
  | single
  | dialogue (torn : Bool)
  deriving DecidableEq, Repr

/-- A line is being carried out and others are still to come, or the run is over. -/
inductive Stage where
  | carrying (m : Moment) (rest : List String)
  | over (s : Session)
  deriving DecidableEq, Repr

namespace Manner

def shown : Manner → Reply × Session → Session
  | .dialogue _, (.interrupted, s) => s.print .out ""
  | _, out => (Interpreter.conveyed out).2

def proceed : Manner → List String → Session → Stage
  | .single, _, s => .over s.close
  | .dialogue torn, [], s => .over (if torn then s.ask prompt else (s.ask prompt).endDialogue)
  | .dialogue _, line :: rest, s => .carrying (.start line (s.ask prompt)) rest

end Manner

namespace Stage

def session : Stage → Session
  | .carrying m _ => m.session
  | .over s => s

def saves (host : Host) : Stage → Bool
  | .carrying m _ => m.saves host
  | .over _ => false

def failsToWrite (host : Host) : Stage → Bool
  | .carrying m _ => m.failsToWrite host
  | .over _ => false

def next (host : Host) (manner : Manner) : Stage → Option Stage
  | .carrying ⟨.answer reply, [], s⟩ rest => some (manner.proceed rest (manner.shown (reply, s)))
  | .carrying m rest => (m.next host).map (Stage.carrying · rest)
  | .over _ => none

def Leads (host : Host) (manner : Manner) : Stage → Stage → Prop :=
  StateTransition.Reaches (next host manner)

/-- The file is being edited from the one stage on, where it is not saved and no change of the store
fails to be written, and the other stage is at most the one at which that has come to its end. -/
def Unsaved (host : Host) (manner : Manner) (file : String) : Stage → Stage → Prop :=
  Relation.ReflTransGen fun a b =>
    a.session.editing = some file ∧ a.saves host = false ∧ a.failsToWrite host = false ∧
      a.next host manner = some b

variable {host : Host} {manner : Manner} {a b c : Stage} {file : String}

theorem next_of_moment {m n : Moment} (step : m.next host = some n) (rest : List String) :
    next host manner (.carrying m rest) = some (.carrying n rest) := by
  obtain ⟨control, scripts, s⟩ := m
  cases control with
  | answer reply =>
    cases scripts with
    | nil => contradiction
    | cons running scripts => exact congrArg (Option.map (Stage.carrying · rest)) step
  | _ => exact congrArg (Option.map (Stage.carrying · rest)) step

theorem substance_shown (manner : Manner) (reply : Reply) (s : Session) :
    (manner.shown (reply, s)).substance = s.substance := by
  cases manner with
  | single => exact Session.substance_conveyed (reply, s)
  | dialogue torn =>
    cases reply with
    | interrupted => rfl
    | done report => exact Session.substance_conveyed (.done report, s)

theorem settles_proceed (manner : Manner) (rest : List String) (s : Session) :
    s.Settles (manner.proceed rest s).session := by
  cases manner with
  | single => exact ⟨s, rfl, .inr rfl⟩
  | dialogue torn =>
    cases rest with
    | cons line rest => exact ⟨s.ask prompt, rfl, .inl rfl⟩
    | nil =>
      cases torn with
      | false => exact ⟨(s.ask prompt).print .out "", rfl, .inr rfl⟩
      | true => exact ⟨s.ask prompt, rfl, .inl rfl⟩

theorem next_cases (step : a.next host manner = some b) :
    (∃ m n rest, a = .carrying m rest ∧ b = .carrying n rest ∧ Moment.Passes host m n) ∨
      a.session.Settles b.session := by
  unfold next at step
  split at step
  next reply s rest =>
    cases step
    obtain ⟨t, same, ends⟩ := settles_proceed manner rest (manner.shown (reply, s))
    exact .inr ⟨t, same.trans (substance_shown manner reply s), ends⟩
  next m rest _ =>
    obtain ⟨n, passed, rfl⟩ := Option.map_eq_some_iff.mp step
    exact .inl ⟨m, n, rest, rfl, rfl, Moment.passes_of_next passed⟩
  · contradiction

theorem tidy_next (step : a.next host manner = some b) (tidy : a.session.Tidy) :
    b.session.Tidy := by
  obtain ⟨m, n, rest, rfl, rfl, passes⟩ | settles := next_cases step
  · exact passes.tidy tidy
  · exact settles.tidy tidy

theorem Leads.tidy (leads : Leads host manner a b) (tidy : a.session.Tidy) : b.session.Tidy := by
  induction leads with
  | refl => exact tidy
  | tail _ step ih => exact tidy_next step ih

/-! ## Pauses -/

theorem pauses_shown (manner : Manner) (reply : Reply) (s : Session) :
    (manner.shown (reply, s)).pauses = s.pauses := by
  cases manner with
  | single => exact Interpreter.pauses_conveyed (reply, s)
  | dialogue torn =>
    cases reply with
    | interrupted => rfl
    | done report => exact Interpreter.pauses_conveyed (.done report, s)

theorem pauses_proceed (manner : Manner) (rest : List String) (s : Session) :
    (manner.proceed rest s).session.pauses = s.pauses := by
  cases manner with
  | single => exact s.pauses_close
  | dialogue torn =>
    cases rest with
    | cons line rest => rfl
    | nil =>
      cases torn with
      | false => exact Session.pauses_close _
      | true => rfl

theorem pauses_le_of_next (step : a.next host manner = some b) :
    a.session.pauses ≤ b.session.pauses := by
  unfold next at step
  split at step
  next reply s rest =>
    cases step
    rw [pauses_proceed, pauses_shown]
    exact Nat.le_refl _
  next m rest _ =>
    obtain ⟨n, passed, rfl⟩ := Option.map_eq_some_iff.mp step
    exact (Moment.passes_of_next passed).pauses_le
  · contradiction

theorem Leads.pauses_le (leads : Leads host manner a b) : a.session.pauses ≤ b.session.pauses := by
  induction leads with
  | refl => exact Nat.le_refl _
  | tail _ step ih => exact ih.trans (pauses_le_of_next step)

def Pauses (host : Host) (manner : Manner) (first : Stage) : Prop :=
  ∃ a b, Leads host manner first a ∧ a.next host manner = some b ∧
    a.session.pauses < b.session.pauses

theorem Leads.over {final : Session} (leads : Leads host manner a b)
    (ends : Leads host manner a (.over final)) : Leads host manner b (.over final) := by
  obtain onward | back := StateTransition.reaches_total leads ends
  · exact onward
  · obtain rfl | ⟨c, step, -⟩ := Relation.ReflTransGen.cases_head back
    · exact .refl
    · contradiction

theorem pauses_lt_iff {final : Session} (ends : Leads host manner a (.over final)) :
    a.session.pauses < final.pauses ↔ Pauses host manner a := by
  constructor
  · intro more
    by_contra never
    -- Without a pause on the way the count is the same all along.
    have same (b : Stage) (leads : Leads host manner a b) :
        b.session.pauses = a.session.pauses := by
      induction leads with
      | refl => rfl
      | @tail b c leads step ih =>
        refine Nat.le_antisymm ?_ (Leads.pauses_le (.tail leads step))
        by_contra later
        exact never ⟨b, c, leads, step, by omega⟩
    exact absurd (same _ ends) more.ne'
  · rintro ⟨b, c, leads, step, more⟩
    have before : a.session.pauses ≤ b.session.pauses := leads.pauses_le
    have after : c.session.pauses ≤ final.pauses := (Leads.over (leads.tail step) ends).pauses_le
    omega

/-! ## Edits that are not saved -/

theorem holdings_of_entered (step : a.next host manner = some b) (normal : a.session.editing = none)
    (entered : b.session.editing = some file) : b.session.holdings = a.session.holdings := by
  obtain ⟨m, n, rest, rfl, rfl, passes⟩ | settles := next_cases step
  · exact passes.holdings_of_entered normal entered
  · exact settles.holdings

theorem holdings_of_unsaved (step : a.next host manner = some b)
    (mode : a.session.editing = some file) (unsaved : a.saves host = false)
    (written : a.failsToWrite host = false) : b.session.holdings = a.session.holdings := by
  obtain ⟨m, n, rest, rfl, rfl, passes⟩ | settles := next_cases step
  · exact passes.holdings_of_unsaved mode unsaved written
  · exact settles.holdings

theorem Unsaved.holdings (goes : Unsaved host manner file a b) :
    b.session.holdings = a.session.holdings := by
  induction goes with
  | refl => rfl
  | tail _ last ih =>
    obtain ⟨mode, unsaved, written, step⟩ := last
    exact (holdings_of_unsaved step mode unsaved written).trans ih

theorem holdings_of_edit (step : a.next host manner = some b) (normal : a.session.editing = none)
    (entered : b.session.editing = some file) (unsaved : Unsaved host manner file b c) :
    c.session.holdings = a.session.holdings :=
  unsaved.holdings.trans (holdings_of_entered step normal entered)

/-! ## The stages of a run end where the program does -/

theorem leads_of_moments {m n : Moment} (leads : m.Leads host n) (rest : List String) :
    Leads host manner (.carrying m rest) (.carrying n rest) := by
  induction leads with
  | refl => exact .refl
  | tail _ step ih => exact ih.tail (next_of_moment step rest)

theorem leads_line (host : Host) (manner : Manner) (line : String) (rest : List String)
    (s : Session) :
    Leads host manner (.carrying (.start line s) rest)
      (manner.proceed rest (manner.shown (s.execute host line))) :=
  (leads_of_moments (Moment.leads_execute host [] line s) rest).tail rfl

theorem turn_eq_shown (s : Session) (host : Host) (torn : Bool) (line : String) :
    s.turn host (some line) = (Manner.dialogue torn).shown (s.execute host line) := by
  rw [Session.turn, Session.dispatch_eq]
  obtain ⟨reply, t⟩ := s.execute host line
  cases reply with
  | interrupted => rfl
  | done report => cases report <;> rfl

theorem leads_takeTurns (host : Host) (torn : Bool) (lines : List String) (s : Session) :
    Leads host (.dialogue torn) ((Manner.dialogue torn).proceed lines s)
      ((Manner.dialogue torn).proceed [] (s.takeTurns host prompt (lines.map some))) := by
  induction lines generalizing s with
  | nil => exact .refl
  | cons line rest ih =>
    refine (leads_line host (.dialogue torn) line rest (s.ask prompt)).trans ?_
    rw [← turn_eq_shown]
    exact ih _

end Stage

def startsUp (o : Options) (s : Session) : Bool :=
  !o.noAutoexec && s.store.contains startupScript

def firstStage (o : Options) (input : Input) (s : Session) : Stage :=
  match lineOf o with
  | some (.of line) => .carrying (.start line s) []
  | _ =>
    if startsUp o s then .carrying (.start s!"RUN {startupScript}" s) input.lines
    else (Manner.dialogue input.torn.isSome).proceed input.lines s

def mannerOf (o : Options) (input : Input) : Manner :=
  match lineOf o with
  | some _ => .single
  | none => .dialogue input.torn.isSome

theorem startUp_eq (host : Host) (o : Options) (torn : Bool) (s : Session) :
    startUp host o s =
      if startsUp o s then (Manner.dialogue torn).shown (s.execute host s!"RUN {startupScript}")
      else s := by
  unfold startUp startsUp Session.boot
  cases o.noAutoexec with
  | true => rfl
  | false =>
    cases s.store.contains startupScript with
    | false => rfl
    | true => exact Stage.turn_eq_shown s host torn _

theorem interact_eq (s : Session) (host : Host) (lines : List (Option String)) :
    s.interact host prompt lines = ((s.takeTurns host prompt lines).ask prompt).endDialogue := by
  induction lines generalizing s with
  | nil => rfl
  | cons line rest ih => exact ih _

theorem proceed_takeTurns (host : Host) (o : Options) (input : Input) (s : Session) :
    (Manner.dialogue input.torn.isSome).proceed []
        ((startUp host o s).takeTurns host prompt (input.lines.map some)) =
      .over (runDialogue host o input s).2 := by
  unfold runDialogue
  cases input.torn with
  | none => exact congrArg Stage.over (interact_eq _ host _).symm
  | some failure => rfl

theorem leads_runDialogue (host : Host) {o : Options} (free : lineOf o = none) (input : Input)
    (s : Session) :
    Stage.Leads host (mannerOf o input) (firstStage o input s)
      (.over (runDialogue host o input s).2) := by
  rw [← proceed_takeTurns, mannerOf, firstStage, free, startUp_eq host o input.torn.isSome]
  simp only
  split
  · exact (Stage.leads_line host _ _ _ s).trans (Stage.leads_takeTurns host _ _ _)
  · exact Stage.leads_takeTurns host _ _ s

theorem leads_runLine (host : Host) {o : Options} {line : String}
    (found : lineOf o = some (.of line)) (input : Input) (s : Session) :
    Stage.Leads host (mannerOf o input) (firstStage o input s) (.over (runLine host line s).2) := by
  have shown : (runLine host line s).2 = (Manner.single.shown (s.execute host line)).close := by
    rw [runLine, Session.dispatch_eq]
    obtain ⟨reply, t⟩ := s.execute host line
    cases reply with
    | interrupted => rfl
    | done report => cases report <;> rfl
  rw [mannerOf, firstStage, found, shown]
  exact Stage.leads_line host .single line [] s

end Program

end ScriptShell
