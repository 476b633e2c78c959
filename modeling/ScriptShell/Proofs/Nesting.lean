import ScriptShell.Proofs.Moment
import ScriptShell.Proofs.ScriptRun

namespace ScriptShell

/-! ## Interrupts of the outside editor -/

/-- A step is interrupted exactly where it starts the outside editor and that is interrupted. The
file has been given back by then. -/
inductive Session.Heeds (host : Host) (s : Session) {α : Type} : Step α → Prop where
  | going {result : Except Stop α} {t : Session} (goes : result ≠ .error .interrupt)
      (launches : t.launches = s.launches ∨ (host.launch s.launches).isInterrupted = false) :
      Heeds host s (result, t)
  | stopped {t : Session} (launch : (host.launch s.launches).isInterrupted = true)
      (launches : t.launches = s.launches + 1) (frame : t.frame = s.frame)
      (surface : t.editor.surface = s.editor.surface) :
      Heeds host s (.error .interrupt, t.closeEditor)

namespace Session

@[simp] theorem launches_closeEditor (s : Session) : s.closeEditor.launches = s.launches := by
  change s.closeEditor.substance.launches = s.launches
  rw [substance_closeEditor]
  rfl

theorem launches_of_substance {s t : Session} (same : s.substance = t.substance) :
    s.launches = t.launches := by
  rw [← substance_launches s, same, substance_launches]

theorem Heeds.reported {host : Host} {s t : Session} {α : Type} {a : α}
    (launches : t.launches = s.launches) : Heeds host s (.ok a, t) := .going nofun (.inl launches)

theorem Heeds.congr {host : Host} {s t : Session} {α : Type} {step : Step α}
    (heeds : Heeds host s step) (launches : s.launches = t.launches) (frame : s.frame = t.frame)
    (surface : s.editor.surface = t.editor.surface) : Heeds host t step := by
  cases heeds with
  | going goes kept =>
    rw [launches] at kept
    exact .going goes kept
  | stopped launch started same kind =>
    rw [launches] at launch started
    exact .stopped launch started (same.trans frame) (kind.trans surface)

theorem heeds_launchEditor (s : Session) (host : Host) (command : String) (temp : TempFile) :
    Heeds host s (s.launchEditor host command temp) := by
  unfold launchEditor
  cases Editor.splitCommand command with
  | error failure => exact .going (by simp [Stop.failure]) (.inl (launches_closeEditor s))
  | ok words =>
    cases launch : host.launch s.launches with
    | notFound => exact .going (by simp) (.inr (by rw [launch]; rfl))
    | ran touch ending =>
      cases ending with
      | interrupted => exact .stopped (by rw [launch]; rfl) rfl rfl rfl
      | _ => exact .going (by simp [Stop.failure]) (.inr (by rw [launch]; rfl))

theorem heeds_openEditor (s : Session) (host : Host) (name content : String) :
    Heeds host s (s.openEditor host name content) := by
  unfold openEditor
  cases s.editor.surface with
  | buffer => exact .reported rfl
  | external command =>
    cases s.scratch.create host.naming (Text.lower (Editor.extension name))
      (Text.Utf8.encode content) with
    | error failure => exact .going (by simp [Stop.failure]) (.inl rfl)
    | ok made =>
      cases command with
      | none => exact .reported rfl
      | some command =>
        simp only
        split
        · exact .reported rfl
        · exact (heeds_launchEditor _ host command made.1).congr rfl rfl rfl

end Session

open Session (Heeds)

theorem Verb.Yields.heeds {host : Host} {i : Invocation} {s : Session} {verb : Verb}
    {step : Step (Option Report)} (yields : Yields host i s verb step)
    (other : verb = .run → ¬ (isScriptName i.fileName = true ∧ s.store.contains i.fileName = true)) :
    Heeds host s step := by
  cases yields with
  | answered none goes => exact .going goes (.inl rfl)
  | shown none fine vars viewing history => exact .reported rfl
  | changed made fine viewing history => exact .reported rfl
  | unwritten made failed => exact .going (by simp [Stop.failure]) (.inl rfl)
  | saved made written fine history => exact .reported (Session.launches_closeEditor _)
  | @opened content t report editable result fine =>
    have heeds := s.heeds_openEditor host i.fileName content
    rw [result] at heeds
    cases heeds with
    | going goes launches => exact .going (by simp) launches
  | @stopped content stop t editable result =>
    have heeds := s.heeds_openEditor host i.fileName content
    rw [result] at heeds
    cases heeds with
    | going goes launches => exact .going (by simpa using goes) launches
    | stopped launch launches frame surface => exact .stopped launch launches frame surface
  | closed fine => exact .reported s.launches_closeEditor
  | ran script => exact absurd script (other rfl)

namespace Interpreter

theorem heeds_alone (host : Host) {i : Invocation} {s : Session}
    (other : ∀ name, ¬ Starts i s name) : Heeds host s (alone host i s) := by
  unfold alone call
  cases found : Verb.ofName? i.verb with
  | none => exact .reported rfl
  | some verb =>
    apply (Verb.yields_perform (fun _ => rfl) verb).heeds
    rintro rfl script
    exact other i.fileName ⟨found, rfl, script⟩

theorem progress_conclude (line : String) (step : Step (Option Report)) :
    (conclude line step).2.progress = step.2.progress := by
  obtain ⟨result, s⟩ := step
  cases result with
  | ok report => rfl
  | error stop =>
    cases stop with
    | interrupt => rfl
    | fault fault => cases fault <;> rfl

theorem pauses_conveyed (out : Reply × Session) : (conveyed out).2.pauses = out.2.pauses := by
  obtain ⟨reply, s⟩ := out
  cases reply with
  | interrupted => rfl
  | done report => cases report <;> rfl

theorem pauseBefore_broken {host : Host} {first : Bool} {s t : Session}
    (broken : pauseBefore host first s = (true, t)) :
    host.breaks s.pauses = true ∧ t = (s.pause host).2 := by
  unfold pauseBefore at broken
  split at broken
  · exact ⟨congrArg Prod.fst broken, (congrArg Prod.snd broken).symm⟩
  · simp at broken

theorem pauseBefore_resumed {host : Host} {first : Bool} {s t : Session}
    (resumed : pauseBefore host first s = (false, t)) :
    t.launches = s.launches ∧ (t.pauses = s.pauses ∨ host.breaks s.pauses = false) := by
  unfold pauseBefore at resumed
  split at resumed
  · obtain ⟨going, rfl⟩ := Prod.mk.inj resumed
    exact ⟨rfl, .inr going⟩
  · cases resumed
    exact ⟨rfl, .inl rfl⟩

/-! ## Levels -/

namespace Moment

variable {host : Host} {m n : Moment}

/-- The session is at the level `depth` and one more for each script that is running. All of these
were within the limit. -/
structure Level (host : Host) (depth : Nat) (m : Moment) : Prop where
  level : m.session.depth = depth + m.scripts.length
  allowed : ∀ k < m.scripts.length, host.allowsScript (depth + k) = true

theorem Passes.level {depth : Nat} (passes : Passes host m n) (before : m.Level host depth) :
    n.Level host depth := by
  obtain ⟨level, allowed⟩ := before
  cases passes with
  | settled same progress => exact ⟨(congrArg Prod.fst progress).trans level, allowed⟩
  | @called line scripts s i admits call other =>
    refine ⟨?_, allowed⟩
    change (conclude line (alone host i (noted line s))).2.depth = depth + scripts.length
    rw [depth_conclude]
    exact (congrArg Prod.fst (progress_alone host i (noted line s))).trans level
  | body admits conditional => exact ⟨level, allowed⟩
  | @script line name scripts s i admits starts here =>
    have level : s.depth = depth + scripts.length := level
    refine ⟨by simp [level, Nat.add_assoc], ?_⟩
    intro k inside
    rcases Nat.lt_succ_iff_lt_or_eq.mp inside with before | rfl
    · exact allowed k before
    · rwa [← level]
  | finished => exact ⟨depth_left level, fun k inside => allowed k (Nat.lt_succ_of_lt inside)⟩
  | @broken first _ _ _ _ s t broken =>
    have same := depth_pauseBefore host first s
    rw [broken] at same
    exact ⟨same.trans level, allowed⟩
  | @resumed first _ _ _ _ s t resumed =>
    have same := depth_pauseBefore host first s
    rw [resumed] at same
    exact ⟨same.trans level, allowed⟩
  | shown => exact ⟨(depth_conveyed _).trans level, allowed⟩
  | unwound => exact ⟨depth_left level, fun k inside => allowed k (Nat.lt_succ_of_lt inside)⟩

theorem level_of_leads {line : String} {s : Session} (leads : Leads host (start line s) m) :
    m.Level host s.depth := by
  apply leads_induction leads (fun _ _ passes => passes.level)
  exact ⟨rfl, nofun⟩

theorem Level.depth_le {depth : Nat} (here : m.Level host depth) {limit : Int}
    (limited : host.limit = .of limit) : (m.session.depth : Int) ≤ max (depth : Int) limit := by
  rw [here.level]
  cases running : m.scripts.length with
  | zero => exact le_max_left _ _
  | succ count =>
    have allowed := here.allowed count (by omega)
    simp only [Host.allowsScript, limited, decide_eq_true_eq] at allowed
    apply le_max_of_le_right
    omega

/-! ## Interrupts -/

def Raises (host : Host) (m n : Moment) : Prop :=
  (n.session.pauses = m.session.pauses + 1 ∧ host.breaks m.session.pauses = true) ∨
    (n.session.launches = m.session.launches + 1 ∧
      (host.launch m.session.launches).isInterrupted = true)

inductive Stopped (host : Host) (m : Moment) : Session → Prop where
  | pause : Stopped host m (m.session.pause host).2
  | launch {t : Session} (launches : t.launches = m.session.launches + 1)
      (frame : t.frame = m.session.frame)
      (surface : t.editor.surface = m.session.editor.surface) : Stopped host m t.closeEditor

theorem not_raises (pauses : n.session.pauses = m.session.pauses)
    (launches : n.session.launches = m.session.launches) : ¬ Raises host m n := by
  rintro (⟨more, -⟩ | ⟨more, -⟩) <;> omega

theorem raises_called {line : String} {scripts : List Running} {s : Session} {i : Invocation}
    (other : ∀ name, ¬ Starts i s name) :
    let n := answered scripts (conclude line (alone host i (noted line s)))
    (Raises host ⟨.carry line, scripts, s⟩ n ↔ n.control = .answer .interrupted) ∧
      (n.control = .answer .interrupted → Stopped host ⟨.carry line, scripts, s⟩ n.session) := by
  have other : ∀ name, ¬ Starts i (noted line s) name := other
  have pauses : (conclude line (alone host i (noted line s))).2.pauses = s.pauses := by
    have same := (progress_conclude line _).trans (progress_alone host i (noted line s))
    exact congrArg (fun counts => counts.2.2) same
  have heeds := heeds_alone host other
  revert pauses heeds
  generalize alone host i (noted line s) = step
  intro pauses heeds n
  cases heeds with
  | @going result t goes launches =>
    have answers : n.control ≠ .answer .interrupted := by
      intro stopped
      exact goes (conclude_interrupted.mp (Control.answer.inj stopped))
    have kept : n.session.launches = t.launches :=
      Session.launches_of_substance (Session.substance_conclude line (result, t))
    refine ⟨⟨?_, fun stopped => absurd stopped answers⟩, fun stopped => absurd stopped answers⟩
    rintro (⟨more, -⟩ | ⟨more, launch⟩)
    · exact absurd (more.symm.trans pauses) (Nat.succ_ne_self _)
    · rcases launches with same | going
      · exact absurd (more.symm.trans (kept.trans same)) (Nat.succ_ne_self _)
      · exact absurd (launch.symm.trans going) (by simp)
  | @stopped t launch launches frame surface =>
    have more : n.session.launches = s.launches + 1 := t.launches_closeEditor.trans launches
    exact ⟨⟨fun _ => rfl, fun _ => .inr ⟨more, launch⟩⟩, fun _ => .launch launches frame surface⟩

theorem Passes.raises_iff (passes : Passes host m n) (going : m.control ≠ .answer .interrupted) :
    (Raises host m n ↔ n.control = .answer .interrupted) ∧
      (n.control = .answer .interrupted → Stopped host m n.session) := by
  have calm (pauses : n.session.pauses = m.session.pauses)
      (launches : n.session.launches = m.session.launches)
      (answers : n.control ≠ .answer .interrupted) :
      (Raises host m n ↔ n.control = .answer .interrupted) ∧
        (n.control = .answer .interrupted → Stopped host m n.session) :=
    ⟨⟨fun raises => absurd raises (not_raises pauses launches), fun stopped => absurd stopped answers⟩,
      fun stopped => absurd stopped answers⟩
  cases passes with
  | settled same progress =>
    exact calm (congrArg (fun counts => counts.2.2) progress) (Session.launches_of_substance same)
      nofun
  | called admits call other => exact raises_called other
  | body admits conditional => exact calm rfl rfl nofun
  | script admits starts allowed => exact calm rfl rfl nofun
  | finished => exact calm rfl rfl nofun
  | broken broken =>
    obtain ⟨breaks, rfl⟩ := pauseBefore_broken broken
    exact ⟨⟨fun _ => rfl, fun _ => .inl ⟨rfl, breaks⟩⟩, fun _ => .pause⟩
  | @resumed _ _ _ _ _ s t resumed =>
    obtain ⟨launches, counted⟩ := pauseBefore_resumed resumed
    refine ⟨⟨?_, nofun⟩, nofun⟩
    rintro (⟨more, breaks⟩ | ⟨more, -⟩)
    · rcases counted with same | goes
      · exact absurd (more.symm.trans same) (Nat.succ_ne_self _)
      · exact absurd (breaks.symm.trans goes) (by simp)
    · exact absurd (more.symm.trans launches) (Nat.succ_ne_self _)
  | shown =>
    exact calm (pauses_conveyed _) (Session.launches_of_substance (Session.substance_conveyed _))
      nofun
  | unwound => exact absurd rfl going

theorem Passes.unwound_of_interrupted (passes : Passes host m n)
    (stopped : m.control = .answer .interrupted) :
    n.control = .answer .interrupted ∧ n.session = { m.session with depth := n.session.depth } := by
  cases passes with
  | unwound => exact ⟨rfl, rfl⟩
  | _ => nomatch stopped

theorem unwound_of_leads (leads : Leads host m n) (stopped : m.control = .answer .interrupted) :
    n.control = .answer .interrupted ∧ n.session = { m.session with depth := n.session.depth } := by
  refine leads_induction (P := fun n => n.control = .answer .interrupted ∧
    n.session = { m.session with depth := n.session.depth }) leads ?_ ⟨stopped, rfl⟩
  rintro a b passes ⟨given, same⟩
  obtain ⟨still, after⟩ := passes.unwound_of_interrupted given
  refine ⟨still, ?_⟩
  rw [same] at after
  exact after

theorem execute_of_interrupted {line : String} {s : Session} (leads : Leads host (start line s) m)
    (stopped : m.control = .answer .interrupted) :
    s.execute host line = (.interrupted, { m.session with depth := s.depth }) := by
  obtain ⟨reply, same⟩ := unwound_of_leads (leads_execute_of_leads leads) stopped
  have level := (level_of_leads (leads_execute host [] line s)).level
  rw [level] at same
  exact Prod.ext (Control.answer.inj reply) same

theorem raised_of_leads {line : String} {s : Session} (leads : Leads host (start line s) n)
    (stopped : n.control = .answer .interrupted) :
    ∃ a b, Leads host (start line s) a ∧ a.next host = some b ∧ Raises host a b := by
  induction leads with
  | refl => nomatch stopped
  | @tail a b before step ih =>
    by_cases already : a.control = .answer .interrupted
    · exact ih already
    · exact ⟨a, b, before, step, ((passes_of_next step).raises_iff already).1.mpr stopped⟩

theorem Raises.going (raises : Raises host m n) (step : m.next host = some n) :
    m.control ≠ .answer .interrupted := by
  intro stopped
  have after := ((passes_of_next step).unwound_of_interrupted stopped).2
  exact not_raises (by rw [after]) (by rw [after]) raises

theorem Stopped.editor {t : Session} (stopped : Stopped host m t)
    (launched : t.launches ≠ m.session.launches) : t.editor = .closed m.session.editor.surface := by
  cases stopped with
  | pause => exact absurd rfl launched
  | @launch t launches frame surface =>
    change t.closeEditor.substance.editor = _
    rw [Session.substance_closeEditor, surface]

end Moment

end Interpreter

open Interpreter (Moment)

/-- However a line ends, the level of nesting is the one at its start again. On the way it never
falls below that, nor does it rise above the limit. Once a pause or the outside editor is broken off
no other line is carried out: the session is left as it is at that moment, with the editor closed
where it was the editor, and only the level goes back. -/
theorem Session.nesting_restored (host : Host) (line : String) (s : Session) :
    (s.dispatch host line).2.depth = s.depth ∧
    (∀ m, Moment.Leads host (.start line s) m →
      Moment.Leads host m (.answered [] (s.execute host line)) ∧ s.depth ≤ m.session.depth ∧
      ∀ limit, host.limit = .of limit → (m.session.depth : Int) ≤ max (s.depth : Int) limit) ∧
    (∀ m n, Moment.Leads host (.start line s) m → m.next host = some n → Moment.Raises host m n →
      Moment.Stopped host m n.session ∧
      (n.session.launches ≠ m.session.launches →
        n.session.editor = .closed m.session.editor.surface) ∧
      (∀ k, Moment.Leads host n k → k.control = .answer .interrupted) ∧
      s.dispatch host line = (.interrupted, { n.session with depth := s.depth }) ∧
      s.turn host (some line) = ({ n.session with depth := s.depth } : Session).print .out "") ∧
    ((s.dispatch host line).1 = .interrupted →
      ∃ m n, Moment.Leads host (.start line s) m ∧ m.next host = some n ∧
        Moment.Raises host m n) := by
  refine ⟨s.depth_dispatch host line, ?_, ?_, ?_⟩
  · intro m leads
    have level := Moment.level_of_leads leads
    refine ⟨Moment.leads_execute_of_leads leads, ?_, fun limit => level.depth_le⟩
    rw [level.level]
    exact Nat.le_add_right _ _
  · intro m n leads step raises
    obtain ⟨interrupted, stops⟩ := (Moment.passes_of_next step).raises_iff (raises.going step)
    have answer := interrupted.mp raises
    have stopped := stops answer
    have executed := Moment.execute_of_interrupted (leads.tail step) answer
    have dispatched : s.dispatch host line = (.interrupted, { n.session with depth := s.depth }) := by
      rw [dispatch_eq, executed]
      rfl
    refine ⟨stopped, stopped.editor, ?_, dispatched, ?_⟩
    · intro k later
      exact (Moment.unwound_of_leads later answer).1
    · rw [turn, dispatched]
  · intro stopped
    rw [dispatch_eq, Interpreter.conveyed_reply] at stopped
    exact Moment.raised_of_leads (Moment.leads_execute host [] line s) (congrArg _ stopped)

def Host.impatient : Host :=
  { calm 2 with pausing := true, breaks := fun count => count = 1 }

def Session.nested : Session :=
  start (.inMemory ⟨[("OUTER.ISH", "VAR A = 1\nRUN INNER.ISH\nVAR D = 4"),
    ("INNER.ISH", "VAR B = 2\nVAR C = 3")]⟩) .empty .buffer

theorem Session.nesting_restored_nested :
    let out := nested.dispatch .impatient "RUN OUTER.ISH"
    out.1 = .interrupted ∧ out.2.depth = 0 ∧ out.2.vars = ⟨[("A", "1"), ("B", "2")]⟩ ∧
    (∀ m, Moment.Leads .impatient (.start "RUN OUTER.ISH" nested) m →
      (m.session.depth : Int) ≤ max ((0 : Nat) : Int) 2) ∧
    ∃ m n, Moment.Leads .impatient (.start "RUN OUTER.ISH" nested) m ∧
      m.next .impatient = some n ∧ Moment.Raises .impatient m n ∧
      Moment.Stopped .impatient m n.session ∧ out = (.interrupted, { n.session with depth := 0 }) := by
  intro out
  have interrupted : out.1 = .interrupted := by decide +kernel
  have vars : out.2.vars = ⟨[("A", "1"), ("B", "2")]⟩ := by decide +kernel
  obtain ⟨restored, between, stops, raised⟩ := nesting_restored .impatient "RUN OUTER.ISH" nested
  obtain ⟨m, n, leads, step, raises⟩ := raised interrupted
  obtain ⟨stopped, -, -, same, -⟩ := stops m n leads step raises
  exact ⟨interrupted, restored, vars, fun m leads => (between m leads).2.2 2 rfl,
    m, n, leads, step, raises, stopped, same⟩

end ScriptShell
