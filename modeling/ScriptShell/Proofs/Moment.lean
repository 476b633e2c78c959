import Mathlib.Computability.StateTransition
import ScriptShell.Proofs.Termination

/-!
Carrying out a line moment by moment. A moment holds the session, the scripts that are running with
the lines they have still to come, and what is to be done next. One moment leads to the next until
the line has ended, and it ends as the interpreter computes, so what holds at every moment holds all
through a line.
-/

namespace ScriptShell.Interpreter

inductive Control where
  | carry (line : String)
  | resume (first : Bool)
  | answer (reply : Reply)
  deriving DecidableEq, Repr

structure Running where
  name : String
  rest : List String
  deriving DecidableEq, Repr

/-- A moment while a line is carried out. The innermost script comes first. -/
structure Moment where
  control : Control
  scripts : List Running
  session : Session
  deriving DecidableEq, Repr

def script? (i : Invocation) (s : Session) : Option String :=
  if Verb.ofName? i.verb = some .run ∧ isScriptName i.fileName = true ∧
      s.store.contains i.fileName = true then some i.fileName
  else none

theorem script?_eq_some_iff {i : Invocation} {s : Session} {name : String} :
    script? i s = some name ↔ Starts i s name := by
  unfold script?
  constructor
  · intro found
    split at found
    next runs =>
      obtain rfl := Option.some.inj found
      exact ⟨runs.1, rfl, runs.2⟩
    · contradiction
  · rintro ⟨verb, rfl, script, stored⟩
    exact if_pos ⟨verb, script, stored⟩

theorem script?_eq_none_iff {i : Invocation} {s : Session} :
    script? i s = none ↔ ∀ name, ¬ Starts i s name := by
  simp only [Option.eq_none_iff_forall_ne_some, ne_eq, script?_eq_some_iff]

namespace Moment

def start (line : String) (s : Session) : Moment := ⟨.carry line, [], s⟩

def answered (scripts : List Running) (out : Reply × Session) : Moment :=
  ⟨.answer out.1, scripts, out.2⟩

def carried (host : Host) (scripts : List Running) (line : String) (s : Session) : Moment :=
  match Invocation.ofWords? (Text.words line) with
  | none => answered scripts (.done none, s)
  | some i =>
    if isBarred i.verb s then answered scripts (.done (some gateReport), noted line s)
    else if i.verb = "IF" then
      match Conditional.ofText i.argumentText with
      | .error refusal => answered scripts (conclude line (.error (.refusal refusal), noted line s))
      | .ok c =>
        let t := weighed c.condition c.body (noted line s)
        match c.condition.evaluate s.vars with
        | .error refusal =>
          answered scripts (conclude line (.error (.refusal (inCondition refusal)), t))
        | .ok false => answered scripts (.done (some (.info "IF condition not met.")), t)
        | .ok true => ⟨.carry c.body, scripts, branched c.body t⟩
    else
      match script? i s with
      | none => answered scripts (conclude line (alone host i (noted line s)))
      | some name =>
        if host.allowsScript s.depth then
          ⟨.resume true, ⟨name, s.script name⟩ :: scripts, entered name (noted line s)⟩
        else answered scripts (conclude line (.error host.scriptRefused, noted line s))

/-- The next moment. There is none once the line has ended and no script is running. -/
def next (host : Host) : Moment → Option Moment
  | ⟨.carry line, scripts, s⟩ => some (carried host scripts line s)
  | ⟨.resume _, [], _⟩ => none
  | ⟨.resume _, ⟨name, []⟩ :: scripts, s⟩ =>
    some ⟨.answer (.done (some (.success s!"--- SCRIPT {name} FINISHED ---"))), scripts, left s⟩
  | ⟨.resume first, ⟨name, line :: rest⟩ :: scripts, s⟩ =>
    match pauseBefore host first s with
    | (true, t) => some ⟨.answer .interrupted, ⟨name, rest⟩ :: scripts, t⟩
    | (false, t) => some ⟨.carry line, ⟨name, rest⟩ :: scripts, echoed line t⟩
  | ⟨.answer _, [], _⟩ => none
  | ⟨.answer .interrupted, _ :: scripts, s⟩ => some ⟨.answer .interrupted, scripts, left s⟩
  | ⟨.answer (.done report), running :: scripts, s⟩ =>
    some ⟨.resume false, running :: scripts, (conveyed (.done report, s)).2⟩

def Leads (host : Host) : Moment → Moment → Prop := StateTransition.Reaches (next host)

/-! ## The moments of a line end where the interpreter does -/

section

variable {host : Host} {line : String} {s : Session} {i : Invocation} {scripts : List Running}

theorem carried_of_blank (read : Invocation.ofWords? (Text.words line) = none) :
    carried host scripts line s = answered scripts (.done none, s) := by
  rw [carried, read]

theorem carried_of_barred (read : Invocation.ofWords? (Text.words line) = some i)
    (barred : isBarred i.verb s = true) :
    carried host scripts line s = answered scripts (.done (some gateReport), noted line s) := by
  rw [carried, read]
  exact if_pos barred

theorem carried_of_call (admits : Admits line s i) (call : i.verb ≠ "IF") :
    carried host scripts line s =
      match script? i s with
      | none => answered scripts (conclude line (alone host i (noted line s)))
      | some name =>
        if host.allowsScript s.depth then
          ⟨.resume true, ⟨name, s.script name⟩ :: scripts, entered name (noted line s)⟩
        else answered scripts (conclude line (.error host.scriptRefused, noted line s)) := by
  obtain ⟨read, passes⟩ := admits
  rw [carried, read]
  simp only [passes, Bool.false_eq_true, if_false, call]

theorem carried_of_alone (admits : Admits line s i) (call : i.verb ≠ "IF")
    (other : ∀ name, ¬ Starts i s name) :
    carried host scripts line s =
      answered scripts (conclude line (alone host i (noted line s))) := by
  rw [carried_of_call admits call, script?_eq_none_iff.mpr other]

theorem carried_of_refused {name : String} (admits : Admits line s i) (call : i.verb ≠ "IF")
    (starts : Starts i s name) (refused : host.allowsScript s.depth = false) :
    carried host scripts line s =
      answered scripts (conclude line (.error host.scriptRefused, noted line s)) := by
  rw [carried_of_call admits call, script?_eq_some_iff.mpr starts]
  exact if_neg (by simp [refused])

theorem carried_of_script {name : String} (admits : Admits line s i) (call : i.verb ≠ "IF")
    (starts : Starts i s name) (allowed : host.allowsScript s.depth = true) :
    carried host scripts line s =
      ⟨.resume true, ⟨name, s.script name⟩ :: scripts, entered name (noted line s)⟩ := by
  rw [carried_of_call admits call, script?_eq_some_iff.mpr starts]
  exact if_pos allowed

theorem carried_of_malformed {refusal : Refusal} (admits : Admits line s i)
    (conditional : i.verb = "IF") (wrong : Conditional.ofText i.argumentText = .error refusal) :
    carried host scripts line s =
      answered scripts (conclude line (.error (.refusal refusal), noted line s)) := by
  obtain ⟨read, passes⟩ := admits
  rw [conditional] at passes
  rw [carried, read]
  simp only [conditional, passes, Bool.false_eq_true, if_false, if_true, wrong]

theorem carried_of_conditional {c : Conditional} (admits : Admits line s i)
    (conditional : i.verb = "IF") (found : Conditional.ofText i.argumentText = .ok c) :
    carried host scripts line s =
      let t := weighed c.condition c.body (noted line s)
      match c.condition.evaluate s.vars with
      | .error refusal =>
        answered scripts (conclude line (.error (.refusal (inCondition refusal)), t))
      | .ok false => answered scripts (.done (some (.info "IF condition not met.")), t)
      | .ok true => ⟨.carry c.body, scripts, branched c.body t⟩ := by
  obtain ⟨read, passes⟩ := admits
  rw [conditional] at passes
  rw [carried, read]
  simp only [conditional, passes, Bool.false_eq_true, if_false, if_true, found]

end

section

variable {host : Host} {first : Bool} {name line : String} {rest : List String}
  {scripts : List Running} {s t : Session}

theorem next_of_broken (broken : pauseBefore host first s = (true, t)) :
    next host ⟨.resume first, ⟨name, line :: rest⟩ :: scripts, s⟩ =
      some ⟨.answer .interrupted, ⟨name, rest⟩ :: scripts, t⟩ := by
  rw [next, broken]

theorem next_of_resumed (resumed : pauseBefore host first s = (false, t)) :
    next host ⟨.resume first, ⟨name, line :: rest⟩ :: scripts, s⟩ =
      some ⟨.carry line, ⟨name, rest⟩ :: scripts, echoed line t⟩ := by
  rw [next, resumed]

end

theorem next_shown (host : Host) (report : Option Report) (running : Running)
    (scripts : List Running) (s : Session) :
    next host ⟨.answer (.done report), running :: scripts, s⟩ =
      some ⟨.resume false, running :: scripts, (conveyed (.done report, s)).2⟩ := rfl

theorem next_unwound (host : Host) (running : Running) (scripts : List Running) (s : Session) :
    next host ⟨.answer .interrupted, running :: scripts, s⟩ =
      some ⟨.answer .interrupted, scripts, left s⟩ := rfl

theorem leads_of_next {host : Host} {m n : Moment} (step : m.next host = some n) :
    Leads host m n := .single step

theorem leads_carried {host : Host} {line : String} {s : Session} {scripts : List Running}
    {m : Moment} (here : carried host scripts line s = m) :
    Leads host ⟨.carry line, scripts, s⟩ m := leads_of_next (congrArg some here)

def ended (name : String) (scripts : List Running) : Bool × Session → Moment
  | (true, s) => ⟨.answer .interrupted, scripts, left s⟩
  | (false, s) =>
    ⟨.answer (.done (some (.success s!"--- SCRIPT {name} FINISHED ---"))), scripts, left s⟩

mutual

theorem leads_of_executes {host : Host} {line : String} {s : Session} {out : Reply × Session}
    (scripts : List Running) :
    Executes host line s out → Leads host ⟨.carry line, scripts, s⟩ (answered scripts out)
  | .blank read => leads_carried (carried_of_blank read)
  | .barred read barred => leads_carried (carried_of_barred read barred)
  | .called admits call other => leads_carried (carried_of_alone admits call other)
  | .refused admits call starts refused =>
    leads_carried (carried_of_refused admits call starts refused)
  | .stopped admits call starts allowed lines =>
    .trans (leads_carried (carried_of_script admits call starts allowed))
      (leads_of_runsLines _ scripts lines)
  | .finished admits call starts allowed lines =>
    .trans (leads_carried (carried_of_script admits call starts allowed))
      (leads_of_runsLines _ scripts lines)
  | .malformed admits conditional wrong =>
    leads_carried (carried_of_malformed admits conditional wrong)
  | .undefined admits conditional found undefined => by
    apply leads_carried
    rw [carried_of_conditional admits conditional found, undefined]
  | .unmet admits conditional found unmet => by
    apply leads_carried
    rw [carried_of_conditional admits conditional found, unmet]
  | .met admits conditional found met body => by
    refine .trans (leads_carried ?_) (leads_of_executes scripts body)
    rw [carried_of_conditional admits conditional found, met]

theorem leads_of_runsLines {host : Host} {first : Bool} {lines : List String} {s : Session}
    {out : Bool × Session} (name : String) (scripts : List Running) :
    RunsLines host first lines s out →
      Leads host ⟨.resume first, ⟨name, lines⟩ :: scripts, s⟩ (ended name scripts out)
  | .nil => leads_of_next rfl
  | .broken broken =>
    .trans (leads_of_next (next_of_broken broken)) (leads_of_next (next_unwound host _ scripts _))
  | .interrupted resumed carried =>
    .trans (leads_of_next (next_of_resumed resumed)) (.trans (leads_of_executes _ carried)
      (leads_of_next (next_unwound host _ scripts _)))
  | .next resumed carried others =>
    .trans (leads_of_next (next_of_resumed resumed)) (.trans (leads_of_executes _ carried)
      (.trans (leads_of_next (next_shown host _ _ scripts _))
        (leads_of_runsLines name scripts others)))

end

/-- The moments of a line lead to the one at which it has ended, as the interpreter computes. -/
theorem leads_execute (host : Host) (scripts : List Running) (line : String) (s : Session) :
    Leads host ⟨.carry line, scripts, s⟩ (answered scripts (s.execute host line)) :=
  leads_of_executes scripts (executes_execute host line s)

theorem execute_mem_eval (host : Host) (line : String) (s : Session) :
    answered [] (s.execute host line) ∈ StateTransition.eval (next host) (start line s) :=
  StateTransition.mem_eval.mpr ⟨leads_execute host [] line s, rfl⟩

theorem leads_execute_of_leads {host : Host} {line : String} {s : Session} {m : Moment}
    (leads : Leads host (start line s) m) : Leads host m (answered [] (s.execute host line)) := by
  have ends := execute_mem_eval host line s
  rw [StateTransition.reaches_eval leads] at ends
  exact (StateTransition.mem_eval.mp ends).1

/-! ## What one moment can lead to -/

/-- `Passes host m n`: the moment `n` can come right after `m`. -/
inductive Passes (host : Host) : Moment → Moment → Prop where
  | settled {line : String} {scripts : List Running} {s t : Session} {report : Option Report}
      (same : t.substance = s.substance) (progress : t.progress = s.progress) :
      Passes host ⟨.carry line, scripts, s⟩ ⟨.answer (.done report), scripts, t⟩
  | called {line : String} {scripts : List Running} {s : Session} {i : Invocation}
      (admits : Admits line s i) (call : i.verb ≠ "IF") (other : ∀ name, ¬ Starts i s name) :
      Passes host ⟨.carry line, scripts, s⟩
        (answered scripts (conclude line (alone host i (noted line s))))
  | body {line : String} {scripts : List Running} {s : Session} {i : Invocation} {c : Conditional}
      (admits : Admits line s i) (conditional : i.verb = "IF") :
      Passes host ⟨.carry line, scripts, s⟩
        ⟨.carry c.body, scripts, branched c.body (weighed c.condition c.body (noted line s))⟩
  | script {line name : String} {scripts : List Running} {s : Session} {i : Invocation}
      (admits : Admits line s i) (starts : Starts i s name)
      (allowed : host.allowsScript s.depth = true) :
      Passes host ⟨.carry line, scripts, s⟩
        ⟨.resume true, ⟨name, s.script name⟩ :: scripts, entered name (noted line s)⟩
  | finished {first : Bool} {name : String} {scripts : List Running} {s : Session}
      {report : Report} :
      Passes host ⟨.resume first, ⟨name, []⟩ :: scripts, s⟩
        ⟨.answer (.done (some report)), scripts, left s⟩
  | broken {first : Bool} {name line : String} {rest : List String} {scripts : List Running}
      {s t : Session} (broken : pauseBefore host first s = (true, t)) :
      Passes host ⟨.resume first, ⟨name, line :: rest⟩ :: scripts, s⟩
        ⟨.answer .interrupted, ⟨name, rest⟩ :: scripts, t⟩
  | resumed {first : Bool} {name line : String} {rest : List String} {scripts : List Running}
      {s t : Session} (resumed : pauseBefore host first s = (false, t)) :
      Passes host ⟨.resume first, ⟨name, line :: rest⟩ :: scripts, s⟩
        ⟨.carry line, ⟨name, rest⟩ :: scripts, echoed line t⟩
  | shown {report : Option Report} {running : Running} {scripts : List Running} {s : Session} :
      Passes host ⟨.answer (.done report), running :: scripts, s⟩
        ⟨.resume false, running :: scripts, (conveyed (.done report, s)).2⟩
  | unwound {running : Running} {scripts : List Running} {s : Session} :
      Passes host ⟨.answer .interrupted, running :: scripts, s⟩
        ⟨.answer .interrupted, scripts, left s⟩

theorem passes_carried (host : Host) (scripts : List Running) (line : String) (s : Session) :
    Passes host ⟨.carry line, scripts, s⟩ (carried host scripts line s) := by
  cases read : Invocation.ofWords? (Text.words line) with
  | none =>
    rw [carried_of_blank read]
    exact .settled rfl rfl
  | some i =>
    cases passes : isBarred i.verb s with
    | true =>
      rw [carried_of_barred read passes]
      exact .settled rfl rfl
    | false =>
      have admits : Admits line s i := ⟨read, passes⟩
      by_cases conditional : i.verb = "IF"
      · cases inside : Conditional.ofText i.argumentText with
        | error refusal =>
          rw [carried_of_malformed admits conditional inside]
          exact .settled rfl rfl
        | ok c =>
          rw [carried_of_conditional admits conditional inside]
          cases met : c.condition.evaluate s.vars with
          | error refusal => exact .settled rfl rfl
          | ok holds =>
            cases holds with
            | false => exact .settled rfl rfl
            | true => exact .body admits conditional
      · by_cases starts : ∃ name, Starts i s name
        · obtain ⟨name, starts⟩ := starts
          cases allowed : host.allowsScript s.depth with
          | true =>
            rw [carried_of_script admits conditional starts allowed]
            exact .script admits starts allowed
          | false =>
            rw [carried_of_refused admits conditional starts allowed]
            unfold Host.scriptRefused
            cases host.limit <;> exact .settled rfl rfl
        · have other := not_exists.mp starts
          rw [carried_of_alone admits conditional other]
          exact .called admits conditional other

theorem passes_of_next {host : Host} {m n : Moment} (step : m.next host = some n) :
    Passes host m n := by
  obtain ⟨control, scripts, s⟩ := m
  cases control with
  | carry line =>
    cases step
    exact passes_carried host scripts line s
  | resume first =>
    match scripts with
    | [] => contradiction
    | ⟨name, []⟩ :: scripts =>
      cases step
      exact .finished
    | ⟨name, line :: rest⟩ :: scripts =>
      cases paused : pauseBefore host first s with
      | mk broken t =>
        cases broken with
        | true =>
          rw [next_of_broken paused] at step
          cases step
          exact .broken paused
        | false =>
          rw [next_of_resumed paused] at step
          cases step
          exact .resumed paused
  | answer reply =>
    match scripts, reply with
    | [], _ => contradiction
    | running :: scripts, .interrupted =>
      cases step
      exact .unwound
    | running :: scripts, .done report =>
      cases step
      exact .shown

theorem leads_induction {host : Host} {P : Moment → Prop} {m n : Moment} (leads : Leads host m n)
    (step : ∀ a b, Passes host a b → P a → P b) (holds : P m) : P n := by
  induction leads with
  | refl => exact holds
  | tail _ last ih => exact step _ _ (passes_of_next last) ih

theorem Passes.same_or_called {host : Host} {m n : Moment} (passes : Passes host m n) :
    n.session.substance = m.session.substance ∨
      ∃ line i, m.control = .carry line ∧ Admits line m.session i ∧
        n = answered m.scripts (conclude line (alone host i (noted line m.session))) ∧
        m.session.execute host line = conclude line (alone host i (noted line m.session)) := by
  cases passes with
  | settled same progress => exact .inl same
  | called admits call other =>
    exact .inr ⟨_, _, rfl, admits, rfl, (Executes.called admits call other).eq_execute⟩
  | body admits conditional => exact .inl rfl
  | script admits starts allowed => exact .inl (Session.substance_entered _ _)
  | finished => exact .inl (Session.substance_left _)
  | @broken first _ _ _ _ s t broken =>
    have paused := s.substance_pauseBefore host first
    rw [broken] at paused
    exact .inl paused
  | @resumed first _ _ _ _ s t resumed =>
    have paused := s.substance_pauseBefore host first
    rw [resumed] at paused
    exact .inl paused
  | shown => exact .inl (Session.substance_conveyed _)
  | unwound => exact .inl rfl

theorem Passes.keeps {host : Host} {P : Session → Prop}
    (forgets : ∀ s t, s.substance = t.substance → P s → P t)
    (keeps : ∀ line s, P s → P (s.execute host line).2) {m n : Moment} (passes : Passes host m n)
    (holds : P m.session) : P n.session := by
  rcases passes.same_or_called with same | ⟨line, i, -, -, rfl, executed⟩
  · exact forgets _ _ same.symm holds
  · have kept := keeps line m.session holds
    rwa [executed] at kept

end Moment

end ScriptShell.Interpreter
