import ScriptShell.Proofs.History
import ScriptShell.Proofs.Moment

/-!
How a session is presented has no influence on what it does. Colours and the kind of terminal belong to
the console alone; pauses are counted and seen, and nothing else comes of them as long as none is broken
off. Two sessions that differ in nothing else go through the same moments.
-/

namespace ScriptShell

/-- What may differ between two presentations of a session. -/
structure Presentation where
  color : Bool
  terminal : Bool
  pausing : Bool

def Presentation.host (p : Presentation) (host : Host) : Host := { host with pausing := p.pausing }

def Presentation.console (p : Presentation) (console : Console) : Console :=
  { console with color := p.color, terminal := p.terminal }

/-! ## Pauses apart -/

def Event.isPause : Event → Bool
  | .paused => true
  | _ => false

def Output.isPause : Output → Bool
  | .pause => true
  | _ => false

def unpausedOf (events : List Event) : List Event := events.filter (!·.isPause)

namespace Session

def doings (s : Session) : List Event := unpausedOf s.events

def unpaused (s : Session) : Session := { s with pauses := 0, history := unpausedOf s.history }

def unseen (s : Session) : Session := { s with pauses := 0, history := [] }

variable {s t s' t' : Session}

theorem eq_later_unseen (s : Session) : s = s.unseen.later s.pauses s.history := rfl

theorem unseen_of_unpaused (same : s.unpaused = s'.unpaused) : s.unseen = s'.unseen := by
  change s.unpaused.unseen = s'.unpaused.unseen
  rw [same]

theorem unpaused_later {past past' : List Event} (same : unpausedOf past = unpausedOf past')
    (s : Session) (pauses pauses' : Nat) :
    (s.later pauses past).unpaused = (s.later pauses' past').unpaused := by
  simp only [unpausedOf] at same
  simp only [unpaused, later, unpausedOf, List.filter_append, same]

theorem doings_of_unpaused (same : s.unpaused = s'.unpaused) : s.doings = s'.doings := by
  have history : unpausedOf s.history = unpausedOf s'.history := congrArg history same
  simp only [unpausedOf] at history
  simp only [doings, unpausedOf, events, List.filter_reverse, history]

theorem unpaused_typeText (same : s.unpaused = s'.unpaused) (bytes : List UInt8) :
    (s.typeText bytes).unpaused = (s'.typeText bytes).unpaused := by
  have typed (s : Session) : (s.typeText bytes).unpaused = s.unpaused.typeText bytes := by
    have editor : s.unpaused.editor = s.editor := rfl
    unfold typeText
    rw [editor]
    split <;> rfl
  rw [typed, typed, same]

theorem unpaused_pauseBefore (host : Host) (steady : ∀ count, host.breaks count = false)
    (first : Bool) (s : Session) :
    ∃ t, Interpreter.pauseBefore host first s = (false, t) ∧ t.unpaused = s.unpaused := by
  unfold Interpreter.pauseBefore
  split
  · exact ⟨_, congrArg (·, _) (steady s.pauses), rfl⟩
  · exact ⟨s, rfl, rfl⟩

theorem unpaused_conveyed (same : s.unpaused = s'.unpaused) (reply : Reply) :
    (Interpreter.conveyed (reply, s)).2.unpaused =
      (Interpreter.conveyed (reply, s')).2.unpaused := by
  cases reply with
  | interrupted => exact same
  | done report =>
    cases report with
    | none => exact same
    | some report => exact congrArg (fun s => { s.emit report with last := some report }) same

end Session

/-! ## What a console shows -/

/-- The second output is the first one with colours around some lines, and with the screen cleared now
and then. -/
inductive Restyled : List Output → List Output → Prop where
  | nil : Restyled [] []
  | same (output : Output) {plain styled : List Output} (rest : Restyled plain styled) :
      Restyled (output :: plain) (output :: styled)
  | colored (stream : Stream) (category : Category) (text : String) {plain styled : List Output}
      (rest : Restyled plain styled) :
      Restyled (.text stream (text ++ "\n") :: plain)
        (.text stream (Console.colorOf category ++ text ++ Console.resetColor ++ "\n") :: styled)
  | cleared {plain styled : List Output} (rest : Restyled plain styled) :
      Restyled plain (.text .out Console.clearScreen :: styled)

theorem Restyled.refl (output : List Output) : Restyled output output := by
  induction output with
  | nil => exact .nil
  | cons first rest ih => exact .same first ih

theorem Restyled.append {plain plain' styled styled' : List Output} (first : Restyled plain styled)
    (second : Restyled plain' styled') : Restyled (plain ++ plain') (styled ++ styled') := by
  induction first with
  | nil => exact second
  | same output _ ih => exact .same output ih
  | colored stream category text _ ih => exact .colored stream category text ih
  | cleared _ ih => exact .cleared ih

theorem Console.renderAll_unpausedOf (console : Console) (events : List Event) :
    (console.renderAll events).filter (!·.isPause) = console.renderAll (unpausedOf events) := by
  have one (event : Event) :
      (console.render event).filter (!·.isPause) =
        if event.isPause then [] else console.render event := by
    cases event with
    | cleared =>
      cases terminal : console.terminal <;>
        simp [render, terminal, Output.isPause, Event.isPause]
    | logged level origin message =>
      cases shows : console.verbosity.shows level <;>
        simp [render, shows, Output.isPause, Event.isPause]
    | _ => rfl
  unfold renderAll unpausedOf
  induction events with
  | nil => rfl
  | cons event rest ih =>
    rw [List.flatMap_cons, List.filter_append, ih, one, List.filter_cons]
    cases event.isPause <;> rfl

namespace Presentation

variable (p : Presentation) (console : Console)

def plain : Presentation := ⟨false, false, false⟩

def shows (s : Session) : List Output :=
  ((p.console console).renderAll s.events).filter (!·.isPause)

theorem restyled_render (event : Event) :
    Restyled ((plain.console console).render event) ((p.console console).render event) := by
  cases event with
  | reported report =>
    have line : (plain.console console).line report = report.text ++ "\n" :=
      if_neg fun color => nomatch color.1
    rw [Console.render, Console.render, line, Console.line]
    split
    · exact .colored _ _ _ .nil
    · exact .refl _
  | cleared =>
    change Restyled [] (if p.terminal then [.text .out Console.clearScreen] else [])
    split
    · exact .cleared .nil
    · exact .nil
  | _ => exact .refl _

theorem restyled_shows (s : Session) :
    Restyled ((plain.console console).renderAll s.doings) (p.shows console s) := by
  unfold shows
  rw [Console.renderAll_unpausedOf, ← Session.doings]
  induction s.doings with
  | nil => exact .nil
  | cons event rest ih =>
    rw [Console.renderAll, Console.renderAll, List.flatMap_cons, List.flatMap_cons]
    exact (p.restyled_render console event).append ih

end Presentation

/-! ## Two presentations moment by moment -/

namespace Interpreter.Moment

structure Alike (m m' : Moment) : Prop where
  control : m.control = m'.control
  scripts : m.scripts = m'.scripts
  session : m.session.unpaused = m'.session.unpaused

def later (m : Moment) (pauses : Nat) (past : List Event) : Moment :=
  { m with session := m.session.later pauses past }

theorem answered_following (scripts : List Running) (out : Reply × Session) (pauses : Nat)
    (past : List Event) :
    answered scripts (following pauses past out) = (answered scripts out).later pauses past := rfl

theorem conclude_following (line : String) (step : Step (Option Report)) (pauses : Nat)
    (past : List Event) :
    conclude line (following pauses past step) = following pauses past (conclude line step) := by
  obtain ⟨result, t⟩ := step
  cases result with
  | ok report => rfl
  | error stop =>
    cases stop with
    | interrupt => rfl
    | fault fault => cases fault <;> rfl

variable (host : Host) (p p' : Presentation)

theorem carried_later (scripts : List Running) (line : String) (s : Session) (pauses : Nat)
    (past : List Event) :
    carried host scripts line (s.later pauses past) =
      (carried host scripts line s).later pauses past := by
  cases read : Invocation.ofWords? (Text.words line) with
  | none => rw [carried_of_blank read, carried_of_blank read]; rfl
  | some i =>
    cases passes : isBarred i.verb s with
    | true =>
      have barred : isBarred i.verb (s.later pauses past) = true := passes
      rw [carried_of_barred read passes, carried_of_barred read barred]
      rfl
    | false =>
      have admits : Admits line s i := ⟨read, passes⟩
      have admits' : Admits line (s.later pauses past) i := ⟨read, passes⟩
      by_cases conditional : i.verb = "IF"
      · cases inside : Conditional.ofText i.argumentText with
        | error refusal =>
          rw [carried_of_malformed admits conditional inside,
            carried_of_malformed admits' conditional inside]
          rfl
        | ok c =>
          rw [carried_of_conditional admits conditional inside,
            carried_of_conditional admits' conditional inside, Session.later_vars]
          simp only
          split <;> rfl
      · have same : script? i (s.later pauses past) = script? i s := rfl
        rw [carried_of_call admits conditional, carried_of_call admits' conditional, same]
        cases script? i s with
        | none =>
          have noted : noted line (s.later pauses past) = (noted line s).later pauses past := rfl
          simp only
          rw [noted, alone_later, conclude_following, answered_following]
        | some name =>
          have allows : host.allowsScript (s.later pauses past).depth =
              host.allowsScript s.depth := rfl
          simp only [allows]
          split
          · rfl
          · unfold Host.scriptRefused
            cases host.limit <;> rfl

theorem carried_presented (scripts : List Running) (line : String) (s : Session) :
    carried (p.host host) scripts line s = carried host scripts line s := by
  have same (i : Invocation) : alone (p.host host) i (noted line s) = alone host i (noted line s) :=
    alone_congr_host rfl rfl i _
  unfold carried
  simp only [same]
  rfl

variable {host} (steady : ∀ count, host.breaks count = false)

include steady in
theorem respects_alike :
    StateTransition.Respects (next (p.host host)) (next (p'.host host)) Alike := by
  rintro ⟨control, scripts, s⟩ ⟨control', scripts', s'⟩ ⟨sameControl, sameScripts, same⟩
  simp only at sameControl sameScripts same
  subst sameControl sameScripts
  cases control with
  | carry line =>
    refine ⟨_, ?_, .single rfl⟩
    rw [carried_presented, carried_presented, s.eq_later_unseen, s'.eq_later_unseen,
      ← Session.unseen_of_unpaused same, carried_later, carried_later]
    exact ⟨rfl, rfl, Session.unpaused_later (congrArg Session.history same) _ _ _⟩
  | resume first =>
    match scripts with
    | [] => rfl
    | ⟨name, []⟩ :: scripts =>
      refine ⟨_, ?_, .single rfl⟩
      exact ⟨rfl, rfl, congrArg left same⟩
    | ⟨name, line :: rest⟩ :: scripts =>
      obtain ⟨t, resumed, before⟩ := Session.unpaused_pauseBefore (p.host host) steady first s
      obtain ⟨t', resumed', before'⟩ :=
        Session.unpaused_pauseBefore (p'.host host) steady first s'
      rw [next_of_resumed resumed]
      refine ⟨_, ?_, .single (next_of_resumed resumed')⟩
      exact ⟨rfl, rfl, congrArg (echoed line) (before.trans (same.trans before'.symm))⟩
  | answer reply =>
    match scripts, reply with
    | [], _ => rfl
    | running :: scripts, .interrupted =>
      refine ⟨_, ?_, .single rfl⟩
      exact ⟨rfl, rfl, congrArg left same⟩
    | running :: scripts, .done report =>
      refine ⟨_, ?_, .single rfl⟩
      exact ⟨rfl, rfl, Session.unpaused_conveyed same (.done report)⟩

end Interpreter.Moment

/-! ## Line by line -/

inductive Input where
  | line (line : String)
  | written (bytes : List UInt8)
  deriving DecidableEq, Repr

namespace Session

def accept (s : Session) (host : Host) : Input → Reply × Session
  | .line line => s.dispatch host line
  | .written bytes => (.done none, s.typeText bytes)

def transcript (s : Session) (host : Host) : List Input → List (Reply × Session)
  | [] => []
  | input :: rest => s.accept host input :: (s.accept host input).2.transcript host rest

variable {host : Host} {s s' : Session}

theorem execute_presented (steady : ∀ count, host.breaks count = false) (p p' : Presentation)
    (same : s.unpaused = s'.unpaused) (line : String) :
    (s.execute (p.host host) line).1 = (s'.execute (p'.host host) line).1 ∧
      (s.execute (p.host host) line).2.unpaused = (s'.execute (p'.host host) line).2.unpaused := by
  have start : Interpreter.Moment.Alike (.start line s) (.start line s') := ⟨rfl, rfl, same⟩
  obtain ⟨m, alike, ends⟩ := StateTransition.tr_eval
    (Interpreter.Moment.respects_alike p p' steady) start
    (Interpreter.Moment.execute_mem_eval (p.host host) line s)
  cases Part.mem_unique ends (Interpreter.Moment.execute_mem_eval (p'.host host) line s')
  exact ⟨Interpreter.Control.answer.inj alike.control, alike.session⟩

theorem accept_presented (steady : ∀ count, host.breaks count = false) (p p' : Presentation)
    (same : s.unpaused = s'.unpaused) (input : Input) :
    (s.accept (p.host host) input).1 = (s'.accept (p'.host host) input).1 ∧
      (s.accept (p.host host) input).2.unpaused = (s'.accept (p'.host host) input).2.unpaused := by
  cases input with
  | written bytes => exact ⟨rfl, unpaused_typeText same bytes⟩
  | line line =>
    obtain ⟨reply, after⟩ := execute_presented steady p p' same line
    rw [accept, accept, dispatch_eq, dispatch_eq, Interpreter.conveyed_reply,
      Interpreter.conveyed_reply]
    refine ⟨reply, ?_⟩
    have equal : Interpreter.conveyed (s.execute (p.host host) line) =
        Interpreter.conveyed ((s'.execute (p'.host host) line).1, (s.execute (p.host host) line).2) := by
      rw [← reply]
    rw [equal]
    exact unpaused_conveyed after _

structure Agree (t t' : Session) : Prop where
  vars : t.vars = t'.vars
  store : t.store = t'.store
  disk : t.disk = t'.disk
  editing : t.editing = t'.editing
  editor : t.editor = t'.editor
  scratch : t.scratch = t'.scratch
  viewing : t.viewing = t'.viewing
  depth : t.depth = t'.depth
  last : t.last = t'.last
  launches : t.launches = t'.launches
  doings : t.doings = t'.doings

theorem agree_of_unpaused (same : s.unpaused = s'.unpaused) : Agree s s' := by
  have doings := doings_of_unpaused same
  simp only [unpaused, mk.injEq] at same
  obtain ⟨vars, editing, store, disk, editor, scratch, viewing, depth, last, -, launches, -⟩ := same
  exact ⟨vars, store, disk, editing, editor, scratch, viewing, depth, last, launches, doings⟩

/-- Two sessions that differ only in colours, in the kind of terminal and in whether scripts pause,
with no pause broken off, give the same answer to each line and agree after it. What they have done is
the same but for the pauses, and what they show is one plain output, restyled in two ways. -/
theorem presentation_without_influence (host : Host) (steady : ∀ count, host.breaks count = false)
    (console : Console) (p p' : Presentation) (s s' : Session) (same : s.unpaused = s'.unpaused)
    (inputs : List Input) :
    List.Forall₂ (fun out out' =>
        out.1 = out'.1 ∧ Agree out.2 out'.2 ∧
        ∃ plain, Restyled plain (p.shows console out.2) ∧ Restyled plain (p'.shows console out'.2))
      (s.transcript (p.host host) inputs) (s'.transcript (p'.host host) inputs) := by
  induction inputs generalizing s s' with
  | nil => exact .nil
  | cons input rest ih =>
    obtain ⟨reply, after⟩ := accept_presented steady p p' same input
    have agree := agree_of_unpaused after
    refine .cons ⟨reply, agree, _, p.restyled_shows console _, ?_⟩ (ih _ _ after)
    rw [agree.doings]
    exact p'.restyled_shows console _

theorem presentation_without_influence_colored :
    let script := "VAR a = 1\nIF ($a === 1) \x7b VIEW s.ish \x7d\nRM b"
    let s := start (.inMemory ⟨[("S.ISH", script)]⟩) .empty .buffer
    let s' := { s with pauses := 1, history := [.paused] }
    let console : Console := ⟨false, false, .silent, ""⟩
    let colored : Presentation := ⟨true, true, true⟩
    let inputs : List Input := [.line "RUN s.ish", .written [72]]
    let run := s.transcript (colored.host (.calm 3)) inputs
    let run' := s'.transcript (Presentation.plain.host (.calm 3)) inputs
    (∀ count, (Host.calm 3).breaks count = false) ∧ s.unpaused = s'.unpaused ∧
    run.map (·.2.pauses) = [2, 2] ∧ run'.map (·.2.pauses) = [1, 1] ∧
    List.Forall₂ (fun out out' =>
        colored.shows console out.2 ≠ Presentation.plain.shows console out'.2) run run' ∧
    List.Forall₂ (fun out out' =>
        out.1 = out'.1 ∧ Agree out.2 out'.2 ∧
        ∃ plain, Restyled plain (colored.shows console out.2) ∧
          Restyled plain (Presentation.plain.shows console out'.2)) run run' := by
  intro script s s' console colored inputs run run'
  have steady : ∀ count, (Host.calm 3).breaks count = false := fun _ => rfl
  have same : s.unpaused = s'.unpaused := rfl
  exact ⟨steady, same, by decide +kernel, by decide +kernel, by decide +kernel,
    presentation_without_influence (.calm 3) steady console colored .plain s s' same inputs⟩

end Session

end ScriptShell
