import ScriptShell.Proofs.Moment

namespace ScriptShell

def Host.limited (host : Host) (limit : Int) : Host := { host with limit := .of limit }

theorem Host.allowsScript_limited {host : Host} {low high : Int} (le : low ≤ high) {depth : Nat}
    (allowed : (host.limited low).allowsScript depth = true) :
    (host.limited high).allowsScript depth = true := by
  simp only [allowsScript, limited, decide_eq_true_eq] at allowed ⊢
  omega

namespace Interpreter.Moment

/-- Whether a script is turned away at this moment because it would be nested too deep. -/
def refuses (host : Host) (m : Moment) : Bool :=
  match m.control with
  | .carry line =>
    match Invocation.ofWords? (Text.words line) with
    | some i =>
      !isBarred i.verb m.session && (script? i m.session).isSome &&
        !host.allowsScript m.session.depth
    | none => false
  | _ => false

variable {host : Host} {low high : Int} {line : String} {s : Session} {scripts : List Running}
  {i : Invocation} {name : String}

theorem refuses_of_starts (admits : Admits line s i) (starts : Starts i s name) :
    refuses host ⟨.carry line, scripts, s⟩ = !host.allowsScript s.depth := by
  obtain ⟨read, passes⟩ := admits
  simp [refuses, read, passes, script?_eq_some_iff.mpr starts]

theorem carried_limited (le : low ≤ high)
    (free : refuses (host.limited low) ⟨.carry line, scripts, s⟩ = false) :
    carried (host.limited high) scripts line s = carried (host.limited low) scripts line s := by
  cases read : Invocation.ofWords? (Text.words line) with
  | none => rw [carried_of_blank read, carried_of_blank read]
  | some i =>
    cases passes : isBarred i.verb s with
    | true => rw [carried_of_barred read passes, carried_of_barred read passes]
    | false =>
      have admits : Admits line s i := ⟨read, passes⟩
      by_cases conditional : i.verb = "IF"
      · cases inside : Conditional.ofText i.argumentText with
        | error refusal =>
          rw [carried_of_malformed admits conditional inside,
            carried_of_malformed admits conditional inside]
        | ok c =>
          rw [carried_of_conditional admits conditional inside,
            carried_of_conditional admits conditional inside]
      · by_cases starts : ∃ name, Starts i s name
        · obtain ⟨name, starts⟩ := starts
          have allowed : (host.limited low).allowsScript s.depth = true := by
            simpa [refuses_of_starts admits starts] using free
          rw [carried_of_script admits conditional starts allowed,
            carried_of_script admits conditional starts (Host.allowsScript_limited le allowed)]
        · have other := not_exists.mp starts
          have same : alone (host.limited high) i (noted line s) =
              alone (host.limited low) i (noted line s) := alone_congr_host rfl rfl i _
          rw [carried_of_alone admits conditional other, carried_of_alone admits conditional other,
            same]

theorem next_limited (le : low ≤ high) {m : Moment} (free : m.refuses (host.limited low) = false) :
    m.next (host.limited high) = m.next (host.limited low) := by
  obtain ⟨control, scripts, s⟩ := m
  cases control with
  | carry line => exact congrArg some (carried_limited le free)
  | resume first =>
    match scripts with
    | [] => rfl
    | ⟨name, []⟩ :: scripts => rfl
    | ⟨name, line :: rest⟩ :: scripts => rfl
  | answer reply =>
    match scripts, reply with
    | [], _ => rfl
    | running :: scripts, .interrupted => rfl
    | running :: scripts, .done report => rfl

theorem leads_limited (le : low ≤ high) {m n : Moment}
    (free : ∀ n, Leads (host.limited low) m n → n.refuses (host.limited low) = false) :
    Leads (host.limited high) m n ↔ Leads (host.limited low) m n := by
  constructor
  · intro leads
    induction leads with
    | refl => exact .refl
    | @tail a b _ step ih => exact ih.tail ((next_limited le (free a ih)).symm.trans step)
  · intro leads
    induction leads with
    | refl => exact .refl
    | @tail a b before step ih => exact ih.tail ((next_limited le (free a before)).trans step)

def visited (host : Host) : Nat → Moment → List Moment
  | 0, _ => []
  | count + 1, m =>
    m :: match m.next host with
      | some n => visited host count n
      | none => []

theorem mem_visited {m n : Moment} {count : Nat} (leads : Leads host m n)
    (ends : (visited host count m).length < count) : n ∈ visited host count m := by
  induction count generalizing m with
  | zero => contradiction
  | succ count ih =>
    rw [visited] at ends ⊢
    rcases leads.cases_head with rfl | ⟨later, step, rest⟩
    · exact List.mem_cons_self
    · have step : m.next host = some later := step
      rw [step] at ends ⊢
      exact List.mem_cons_of_mem m (ih rest (Nat.lt_of_succ_lt_succ ends))

end Interpreter.Moment

open Interpreter (Moment)

/-- A line that has no script turned away for the limit gives the same answer or interrupt under every
higher limit, shows the same, pauses alike and leaves the same session. It goes through the same
moments. -/
theorem Session.dispatch_limited (host : Host) (low high : Int) (le : low ≤ high) (line : String)
    (s : Session)
    (free : ∀ m, Moment.Leads (host.limited low) (.start line s) m →
      m.refuses (host.limited low) = false) :
    s.dispatch (host.limited high) line = s.dispatch (host.limited low) line ∧
    s.execute (host.limited high) line = s.execute (host.limited low) line ∧
    ∀ m, Moment.Leads (host.limited high) (.start line s) m ↔
      Moment.Leads (host.limited low) (.start line s) m := by
  have same (m : Moment) := Moment.leads_limited le (n := m) free
  -- Both answers end the moments under the higher limit, and these have one end only.
  have ends : Moment.answered [] (s.execute (host.limited low) line) ∈
      StateTransition.eval (Moment.next (host.limited high)) (.start line s) :=
    StateTransition.mem_eval.mpr ⟨(same _).mpr (Moment.leads_execute _ [] line s), rfl⟩
  have ends' : Moment.answered [] (s.execute (host.limited high) line) ∈
      StateTransition.eval (Moment.next (host.limited high)) (.start line s) :=
    StateTransition.mem_eval.mpr ⟨Moment.leads_execute _ [] line s, rfl⟩
  have answers := Part.mem_unique ends' ends
  simp only [Moment.answered, Moment.mk.injEq, Interpreter.Control.answer.injEq] at answers
  have executed : s.execute (host.limited high) line = s.execute (host.limited low) line :=
    Prod.ext answers.1 answers.2.2
  refine ⟨?_, executed, same⟩
  rw [dispatch_eq, dispatch_eq, executed]

def Host.hurried : Host := { calm 0 with pausing := true, breaks := fun count => count = 2 }

def Session.twoDeep : Session :=
  let outer := "VAR A = 1\nIF ($A === 1) \x7bRUN INNER.ISH\x7d\nVAR C = 3"
  start (.inMemory ⟨[("OUTER.ISH", outer), ("INNER.ISH", "RM INNER.ISH\nVAR B = 2")]⟩) .empty .buffer

theorem Session.dispatch_limited_twoDeep :
    let out := twoDeep.dispatch (Host.hurried.limited 2) "RUN OUTER.ISH"
    (∀ m, Moment.Leads (Host.hurried.limited 2) (.start "RUN OUTER.ISH" twoDeep) m →
      m.refuses (Host.hurried.limited 2) = false) ∧
    out.1 = .interrupted ∧ out.2.vars = ⟨[("A", "1"), ("B", "2")]⟩ ∧
    out.2.store.list = ["OUTER.ISH"] ∧
    twoDeep.dispatch (Host.hurried.limited 5) "RUN OUTER.ISH" = out ∧
    (twoDeep.dispatch (Host.hurried.limited 1) "RUN OUTER.ISH").2.vars = ⟨[("A", "1"), ("C", "3")]⟩ := by
  intro out
  let moments := Moment.visited (Host.hurried.limited 2) 40 (.start "RUN OUTER.ISH" twoDeep)
  have checked : moments.length < 40 ∧ ∀ m ∈ moments, m.refuses (Host.hurried.limited 2) = false := by
    decide +kernel
  have free (m : Moment)
      (leads : Moment.Leads (Host.hurried.limited 2) (.start "RUN OUTER.ISH" twoDeep) m) :
      m.refuses (Host.hurried.limited 2) = false :=
    checked.2 m (Moment.mem_visited leads checked.1)
  obtain ⟨same, -, -⟩ := dispatch_limited .hurried 2 5 (by decide) "RUN OUTER.ISH" twoDeep free
  have came : out.1 = .interrupted ∧ out.2.vars = ⟨[("A", "1"), ("B", "2")]⟩ ∧
      out.2.store.list = ["OUTER.ISH"] := by decide +kernel
  exact ⟨free, came.1, came.2.1, came.2.2, same, by decide +kernel⟩

end ScriptShell
