import ScriptShell.Proofs.Reentry

namespace ScriptShell

theorem Command.ofLine_eq (line : String) :
    ofLine line =
      match Invocation.ofWords? (Text.words line) with
      | none => .blank
      | some i =>
        if i.verb = "IF" then
          match Conditional.ofText i.argumentText with
          | .error refusal => .malformed refusal
          | .ok c => .conditional c.condition c.body (ofLine c.body)
        else .call i := by
  rw [ofLine]
  split
  next none => rw [none]
  next i words =>
    rw [words]
    simp only
    split
    · split
      next refusal wrong => rw [wrong]
      next c found => rw [found]
    · rfl

namespace Interpreter

def Admits (line : String) (s : Session) (i : Invocation) : Prop :=
  Invocation.ofWords? (Text.words line) = some i ∧ isBarred i.verb s = false

mutual

inductive Executes (host : Host) : String → Session → Reply × Session → Prop where
  | blank {line : String} {s : Session} (read : Invocation.ofWords? (Text.words line) = none) :
      Executes host line s (.done none, s)
  | barred {line : String} {s : Session} {i : Invocation}
      (read : Invocation.ofWords? (Text.words line) = some i) (barred : isBarred i.verb s = true) :
      Executes host line s (.done (some gateReport), noted line s)
  | called {line : String} {s : Session} {i : Invocation} (admits : Admits line s i)
      (call : i.verb ≠ "IF") (other : ∀ name, ¬ Starts i s name) :
      Executes host line s (conclude line (alone host i (noted line s)))
  | refused {line name : String} {s : Session} {i : Invocation} (admits : Admits line s i)
      (call : i.verb ≠ "IF") (starts : Starts i s name)
      (refused : host.allowsScript s.depth = false) :
      Executes host line s (conclude line (.error host.scriptRefused, noted line s))
  | stopped {line name : String} {s t : Session} {i : Invocation} (admits : Admits line s i)
      (call : i.verb ≠ "IF") (starts : Starts i s name)
      (allowed : host.allowsScript s.depth = true)
      (lines : RunsLines host true (s.script name) (entered name (noted line s)) (true, t)) :
      Executes host line s (.interrupted, left t)
  | finished {line name : String} {s t : Session} {i : Invocation} (admits : Admits line s i)
      (call : i.verb ≠ "IF") (starts : Starts i s name)
      (allowed : host.allowsScript s.depth = true)
      (lines : RunsLines host true (s.script name) (entered name (noted line s)) (false, t)) :
      Executes host line s (.done (some (.success s!"--- SCRIPT {name} FINISHED ---")), left t)
  | malformed {line : String} {s : Session} {i : Invocation} {refusal : Refusal}
      (admits : Admits line s i) (conditional : i.verb = "IF")
      (wrong : Conditional.ofText i.argumentText = .error refusal) :
      Executes host line s (conclude line (.error (.refusal refusal), noted line s))
  | undefined {line : String} {s : Session} {i : Invocation} {c : Conditional} {refusal : Refusal}
      (admits : Admits line s i) (conditional : i.verb = "IF")
      (found : Conditional.ofText i.argumentText = .ok c)
      (undefined : c.condition.evaluate s.vars = .error refusal) :
      Executes host line s (conclude line
        (.error (.refusal (inCondition refusal)), weighed c.condition c.body (noted line s)))
  | unmet {line : String} {s : Session} {i : Invocation} {c : Conditional}
      (admits : Admits line s i) (conditional : i.verb = "IF")
      (found : Conditional.ofText i.argumentText = .ok c)
      (unmet : c.condition.evaluate s.vars = .ok false) :
      Executes host line s (.done (some (.info "IF condition not met.")),
        weighed c.condition c.body (noted line s))
  | met {line : String} {s : Session} {i : Invocation} {c : Conditional} {out : Reply × Session}
      (admits : Admits line s i) (conditional : i.verb = "IF")
      (found : Conditional.ofText i.argumentText = .ok c)
      (met : c.condition.evaluate s.vars = .ok true)
      (body : Executes host c.body
        (branched c.body (weighed c.condition c.body (noted line s))) out) :
      Executes host line s out

inductive RunsLines (host : Host) : Bool → List String → Session → Bool × Session → Prop where
  | nil {first : Bool} {s : Session} : RunsLines host first [] s (false, s)
  | broken {first : Bool} {line : String} {rest : List String} {s t : Session}
      (broken : pauseBefore host first s = (true, t)) :
      RunsLines host first (line :: rest) s (true, t)
  | interrupted {first : Bool} {line : String} {rest : List String} {s t u : Session}
      (resumed : pauseBefore host first s = (false, t))
      (carried : Executes host line (echoed line t) (.interrupted, u)) :
      RunsLines host first (line :: rest) s (true, u)
  | next {first : Bool} {line : String} {rest : List String} {s t u : Session}
      {report : Option Report} {out : Bool × Session}
      (resumed : pauseBefore host first s = (false, t))
      (carried : Executes host line (echoed line t) (.done report, u))
      (others : RunsLines host false rest (conveyed (.done report, u)).2 out) :
      RunsLines host first (line :: rest) s out

end

/-! ## What the interpreter computes, rule by rule -/

section

variable (host : Host) {line : String} {s : Session} {i : Invocation}

theorem execute_of_blank (read : Invocation.ofWords? (Text.words line) = none) :
    s.execute host line = (.done none, s) := by
  rw [Session.execute_eq, Command.ofLine_eq, read]
  rfl

theorem execute_of_barred (read : Invocation.ofWords? (Text.words line) = some i)
    (barred : isBarred i.verb s = true) :
    s.execute host line = (.done (some gateReport), noted line s) := by
  rw [Session.execute_eq, Command.ofLine_eq, read]
  simp only
  split
  next conditional =>
    rw [conditional] at barred
    split <;> simp only [executeCommand, gate, barred, if_true]
  · simp only [executeCommand, gate, barred, if_true]

theorem execute_of_call (admits : Admits line s i) (call : i.verb ≠ "IF") :
    s.execute host line = conclude line
      (Interpreter.call host (fun name s => s.runScript host name) i (noted line s)) := by
  obtain ⟨read, passes⟩ := admits
  rw [Session.execute_eq, Command.ofLine_eq, read]
  simp only [call, if_false, executeCommand, gate, passes, Bool.false_eq_true]

theorem execute_of_refused {name : String} (admits : Admits line s i) (call : i.verb ≠ "IF")
    (starts : Starts i s name) (refused : host.allowsScript s.depth = false) :
    s.execute host line = conclude line (.error host.scriptRefused, noted line s) := by
  have starts : Starts i (noted line s) name := starts
  rw [execute_of_call host admits call, call_of_starts starts,
    Session.runScript_of_not_allowed (noted line s) host refused]
  rfl

theorem execute_of_script {name : String} (admits : Admits line s i) (call : i.verb ≠ "IF")
    (starts : Starts i s name) (allowed : host.allowsScript s.depth = true) :
    s.execute host line =
      match runLines host (fun line s => s.dispatch host line) true (s.script name)
        (entered name (noted line s)) with
      | (true, t) => (.interrupted, left t)
      | (false, t) => (.done (some (.success s!"--- SCRIPT {name} FINISHED ---")), left t) := by
  have starts : Starts i (noted line s) name := starts
  have same : (noted line s).script name = s.script name := rfl
  rw [execute_of_call host admits call, call_of_starts starts,
    Session.runScript_of_allowed (noted line s) host allowed, same]
  cases runLines host (fun line s => s.dispatch host line) true (s.script name)
    (entered name (noted line s)) with
  | mk broken t => cases broken <;> rfl

theorem execute_of_malformed {refusal : Refusal} (admits : Admits line s i)
    (conditional : i.verb = "IF") (wrong : Conditional.ofText i.argumentText = .error refusal) :
    s.execute host line = conclude line (.error (.refusal refusal), noted line s) := by
  obtain ⟨read, passes⟩ := admits
  rw [conditional] at passes
  rw [Session.execute_eq, Command.ofLine_eq, read]
  simp only [conditional, if_true, wrong, executeCommand, gate, passes, Bool.false_eq_true, if_false]

theorem execute_of_conditional {c : Conditional} (admits : Admits line s i)
    (conditional : i.verb = "IF") (found : Conditional.ofText i.argumentText = .ok c) :
    s.execute host line =
      let t := weighed c.condition c.body (noted line s)
      match c.condition.evaluate s.vars with
      | .error refusal => conclude line (.error (.refusal (inCondition refusal)), t)
      | .ok false => (.done (some (.info "IF condition not met.")), t)
      | .ok true => (branched c.body t).execute host c.body := by
  obtain ⟨read, passes⟩ := admits
  rw [conditional] at passes
  rw [Session.execute_eq, Command.ofLine_eq, read]
  simp only [conditional, if_true, found, executeCommand, gate, passes, Bool.false_eq_true, if_false,
    ← Session.execute_eq]
  rfl

end

theorem conveyed_reply (out : Reply × Session) : (conveyed out).1 = out.1 := by
  obtain ⟨reply, s⟩ := out
  cases reply with
  | interrupted => rfl
  | done report => cases report <;> rfl

theorem conveyed_done (report : Option Report) (s : Session) :
    conveyed (.done report, s) = (.done report, (conveyed (.done report, s)).2) := by
  cases report <;> rfl

/-! ## The rules hold of the interpreter -/

theorem runsLines_of_enters {host : Host} {line name : String} {s : Session} {i : Invocation}
    (read : Command.ofLine line = .call i) (passes : isBarred i.verb s = false)
    (starts : Starts i s name) (allowed : host.allowsScript s.depth = true)
    (enter : ∀ next t, Enters host (line, s) (next, t) → Executes host next t (t.execute host next))
    (before after : List String) (lines : s.script name = before ++ after) {t : Session}
    (ran : runLines host (fun line s => s.dispatch host line) true before
      (entered name (noted line s)) = (false, t)) :
    RunsLines host before.isEmpty after t
      (runLines host (fun line s => s.dispatch host line) before.isEmpty after t) := by
  induction after generalizing before t with
  | nil => exact .nil
  | cons next after ih =>
    rw [runLines]
    split
    next u broken => exact .broken broken
    next u going =>
      have carried := enter _ _ (.scriptLine read passes starts allowed lines ran going)
      cases out : (echoed next u).execute host next with
      | mk reply v =>
        rw [out] at carried
        cases reply with
        | interrupted =>
          rw [Session.dispatch_eq, out]
          exact .interrupted going carried
        | done report =>
          have dispatched : (echoed next u).dispatch host next =
              (.done report, (conveyed (.done report, v)).2) := by
            rw [Session.dispatch_eq, out, ← conveyed_done]
          have further : runLines host (fun line s => s.dispatch host line) true
              (before ++ [next]) (entered name (noted line s)) =
                (false, (conveyed (.done report, v)).2) := by
            simp only [runLines_append, ran, Bool.true_and, runLines, going, dispatched]
          have later : (before ++ [next]).isEmpty = false := by cases before <;> rfl
          have rest := ih (before ++ [next]) (by simp [lines]) further
          rw [later] at rest
          rw [dispatched]
          exact .next going carried rest

theorem executes_execute (host : Host) (line : String) (s : Session) :
    Executes host line s (s.execute host line) := by
  have enter (next : String) (t : Session) (enters : Enters host (line, s) (next, t)) :
      Executes host next t (t.execute host next) := executes_execute host next t
  cases read : Invocation.ofWords? (Text.words line) with
  | none =>
    rw [execute_of_blank host read]
    exact .blank read
  | some i =>
    cases passes : isBarred i.verb s with
    | true =>
      rw [execute_of_barred host read passes]
      exact .barred read passes
    | false =>
      have admits : Admits line s i := ⟨read, passes⟩
      by_cases conditional : i.verb = "IF"
      · cases inside : Conditional.ofText i.argumentText with
        | error refusal =>
          rw [execute_of_malformed host admits conditional inside]
          exact .malformed admits conditional inside
        | ok c =>
          rw [execute_of_conditional host admits conditional inside]
          cases met : c.condition.evaluate s.vars with
          | error refusal => exact .undefined admits conditional inside met
          | ok holds =>
            cases holds with
            | false => exact .unmet admits conditional inside met
            | true =>
              have whole : Command.ofLine line =
                  .conditional c.condition c.body (.ofLine c.body) := by
                rw [Command.ofLine_eq, read]
                simp only [conditional, if_true, inside]
              rw [conditional] at passes
              exact .met admits conditional inside met (enter _ _ (.body whole passes met))
      · by_cases starts : ∃ name, Starts i s name
        · obtain ⟨name, starts⟩ := starts
          cases allowed : host.allowsScript s.depth with
          | false =>
            rw [execute_of_refused host admits conditional starts allowed]
            exact .refused admits conditional starts allowed
          | true =>
            have whole : Command.ofLine line = .call i := by
              rw [Command.ofLine_eq, read]
              simp only [conditional, if_false]
            have lines := runsLines_of_enters whole passes starts allowed enter [] (s.script name) rfl
              rfl
            rw [execute_of_script host admits conditional starts allowed]
            split
            next t stopped => exact .stopped admits conditional starts allowed (stopped ▸ lines)
            next t done => exact .finished admits conditional starts allowed (done ▸ lines)
        · have other := not_exists.mp starts
          have same : call host (fun name s => s.runScript host name) i (noted line s) =
              alone host i (noted line s) := call_of_not_starts other
          rw [execute_of_call host admits conditional, same]
          exact .called admits conditional other
termination_by rank host (line, s)
decreasing_by exact enters.rank_lt

mutual

theorem Executes.eq_execute {host : Host} {line : String} {s : Session} {out : Reply × Session} :
    Executes host line s out → s.execute host line = out
  | .blank read => execute_of_blank host read
  | .barred read barred => execute_of_barred host read barred
  | .called admits call other => by
    have same : Interpreter.call host (fun name s => s.runScript host name) _ (noted line s) =
        alone host _ (noted line s) := call_of_not_starts other
    rw [execute_of_call host admits call, same]
  | .refused admits call starts refused => execute_of_refused host admits call starts refused
  | .stopped admits call starts allowed lines => by
    rw [execute_of_script host admits call starts allowed, lines.eq_runLines]
  | .finished admits call starts allowed lines => by
    rw [execute_of_script host admits call starts allowed, lines.eq_runLines]
  | .malformed admits conditional wrong => execute_of_malformed host admits conditional wrong
  | .undefined admits conditional found undefined => by
    rw [execute_of_conditional host admits conditional found, undefined]
  | .unmet admits conditional found unmet => by
    rw [execute_of_conditional host admits conditional found, unmet]
  | .met admits conditional found met body => by
    rw [execute_of_conditional host admits conditional found, met]
    exact body.eq_execute

theorem RunsLines.eq_runLines {host : Host} {first : Bool} {lines : List String} {s : Session}
    {out : Bool × Session} :
    RunsLines host first lines s out →
      runLines host (fun line s => s.dispatch host line) first lines s = out
  | .nil => rfl
  | .broken broken => by rw [runLines, broken]
  | .interrupted resumed carried => by
    rw [runLines, resumed]
    simp only [Session.dispatch_eq, carried.eq_execute, conveyed]
  | .next resumed carried others => by
    rw [runLines, resumed]
    simp only [Session.dispatch_eq, carried.eq_execute]
    rw [conveyed_done]
    exact others.eq_runLines

end

/-! ## The statement -/

theorem executeWith_of_room_le (host : Host) (line : String) {s : Session} {room : Nat}
    (enough : s.room host ≤ room) :
    executeWith host (runScript host room) line s = s.execute host line := by
  apply executeCommand_congr
  intro name t same
  rw [← Session.room_congr same] at enough ⊢
  exact runScript_of_room_le host enough

theorem depth_le_limit {host : Host} {depth : Nat} (allowed : host.allowsScript depth = true) :
    ∃ limit, host.limit = .of limit ∧ ((depth + 1 : Nat) : Int) ≤ limit := by
  unfold Host.allowsScript at allowed
  split at allowed
  next limit found =>
    rw [decide_eq_true_eq] at allowed
    exact ⟨limit, found, by omega⟩
  · contradiction

/-- Every line comes to exactly one end, the one that is computed, whatever room for scripts is
handed down beyond what the nesting leaves. The body of a conditional is shorter than its line; the
lines of a script are fixed when it starts, and run one level deeper within the limit. So there is
no endless chain of lines. -/
theorem every_line_ends (host : Host) :
    (∀ line s, (∃! out, Executes host line s out) ∧ Executes host line s (s.execute host line) ∧
      s.dispatch host line = conveyed (s.execute host line)) ∧
    (∀ line s room, s.room host ≤ room →
      executeWith host (runScript host room) line s = s.execute host line ∧
        dispatchWith host (runScript host room) line s = s.dispatch host line) ∧
    (∀ line s next t, Enters host (line, s) (next, t) →
      ((∃ c command, Command.ofLine line = .conditional c next command) ∧ t.depth = s.depth ∧
          next.toList.length < line.toList.length) ∨
        ((∃ i name, Command.ofLine line = .call i ∧ Starts i s name ∧ next ∈ s.script name) ∧
          t.depth = s.depth + 1 ∧ ∃ limit, host.limit = .of limit ∧ (t.depth : Int) ≤ limit)) ∧
    WellFounded fun b a => Enters host a b := by
  refine ⟨?_, ?_, ?_, enters_wellFounded host⟩
  · intro line s
    have computed := executes_execute host line s
    exact ⟨⟨_, computed, fun out other => other.eq_execute.symm⟩, computed, rfl⟩
  · intro line s room enough
    have same := executeWith_of_room_le host line enough
    exact ⟨same, congrArg conveyed same⟩
  · intro line s next t enters
    obtain shorter | ⟨listed, deeper, allowed⟩ := enters.shorter_or_deeper
    · exact .inl shorter
    · obtain ⟨limit, found, within⟩ := depth_le_limit allowed
      rw [← deeper] at within
      exact .inr ⟨listed, deeper, limit, found, within⟩

def selfRunning : Session :=
  .start (.inMemory ⟨[("S.ISH", "RUN S.ISH")]⟩) .empty .buffer

theorem every_line_ends_selfRunning :
    let t := echoed "RUN S.ISH" (entered "S.ISH" (noted "RUN S.ISH" selfRunning))
    Enters (.calm 3) ("RUN S.ISH", selfRunning) ("RUN S.ISH", t) ∧ selfRunning.room (.calm 3) ≤ 4 ∧
    (∃! out, Executes (.calm 3) "RUN S.ISH" selfRunning out) ∧
    executeWith (.calm 3) (runScript (.calm 3) 4) "RUN S.ISH" selfRunning =
      selfRunning.execute (.calm 3) "RUN S.ISH" := by
  intro t
  have read : Command.ofLine "RUN S.ISH" = .call ⟨"RUN", ["S.ISH"]⟩ := by decide +kernel
  have starts : Starts ⟨"RUN", ["S.ISH"]⟩ selfRunning "S.ISH" := ⟨rfl, rfl, by decide, by decide⟩
  have lines : selfRunning.script "S.ISH" = [] ++ "RUN S.ISH" :: [] := by decide +kernel
  have enters : Enters (.calm 3) ("RUN S.ISH", selfRunning) ("RUN S.ISH", t) :=
    .scriptLine read rfl starts (by decide) lines rfl rfl
  have room : selfRunning.room (.calm 3) ≤ 4 := by decide
  obtain ⟨ends, enough, _, _⟩ := every_line_ends (.calm 3)
  exact ⟨enters, room, (ends _ _).1, (enough _ _ 4 room).1⟩

end Interpreter

end ScriptShell
