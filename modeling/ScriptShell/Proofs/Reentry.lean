import Mathlib.Logic.Relation
import Mathlib.Order.WellFounded
import ScriptShell.Proofs.Recursion

/-!
How carrying out one line comes back to carrying out another: the body of a conditional, and the
lines of a script. A body is shorter than its line, and a line of a script is one level deeper than
the line that runs it, so there is no endless chain of such lines. What each invocation keeps on its
own is kept by every line.
-/

namespace ScriptShell

theorem Command.ofLine_conditional {line body : String} {c : Condition} {command : Command}
    (read : ofLine line = .conditional c body command) :
    command = ofLine body ∧ body.toList.length < line.toList.length := by
  rw [ofLine] at read
  split at read
  · contradiction
  next i words =>
    split at read
    · split at read
      · contradiction
      next found inside =>
        obtain ⟨-, rfl, rfl⟩ := Command.conditional.inj read
        have shorter := Conditional.length_body_lt inside
        have within := length_argumentText_le words
        exact ⟨rfl, by omega⟩
    · contradiction

namespace Interpreter

/-- `Enters host (line, s) (next, t)`: carrying out `line` in the session `s` gets to carrying out
`next` in the session `t`, without another line between the two. -/
inductive Enters (host : Host) : String × Session → String × Session → Prop where
  | body {line body : String} {s : Session} {c : Condition} {command : Command}
      (read : Command.ofLine line = .conditional c body command)
      (passes : isBarred "IF" s = false) (met : c.evaluate s.vars = .ok true) :
      Enters host (line, s) (body, branched body (weighed c body (noted line s)))
  | scriptLine {line name next : String} {s t u : Session} {i : Invocation}
      {before after : List String}
      (read : Command.ofLine line = .call i) (passes : isBarred i.verb s = false)
      (starts : Starts i s name) (allowed : host.allowsScript s.depth = true)
      (lines : s.script name = before ++ next :: after)
      (ran : runLines host (fun line s => s.dispatch host line) true before
        (entered name (noted line s)) = (false, t))
      (resumed : pauseBefore host before.isEmpty t = (false, u)) :
      Enters host (line, s) (next, echoed next u)

def Reaches (host : Host) : String × Session → String × Session → Prop :=
  Relation.ReflTransGen (Enters host)

theorem Enters.shorter_or_deeper {host : Host} {line next : String} {s t : Session}
    (enters : Enters host (line, s) (next, t)) :
    ((∃ c command, Command.ofLine line = .conditional c next command) ∧ t.depth = s.depth ∧
        next.toList.length < line.toList.length) ∨
      ((∃ i name, Command.ofLine line = .call i ∧ Starts i s name ∧ next ∈ s.script name) ∧
        t.depth = s.depth + 1 ∧ host.allowsScript s.depth = true) := by
  cases enters with
  | body read passes met =>
    exact .inl ⟨⟨_, _, read⟩, rfl, (Command.ofLine_conditional read).2⟩
  | @scriptLine _ name _ _ t u i before after read passes starts allowed lines ran resumed =>
    have atLine := depth_runLines (fun line s => s.depth_dispatch host line) host true before
      (entered name (noted line s))
    have atNext := depth_pauseBefore host before.isEmpty t
    rw [ran, depth_entered, depth_noted] at atLine
    rw [resumed] at atNext
    have listed : next ∈ s.script name := by simp [lines]
    exact .inr ⟨⟨i, name, read, starts, listed⟩, atNext.trans atLine, allowed⟩

def rank (host : Host) (entry : String × Session) : Nat × Nat :=
  (entry.2.room host, entry.1.toList.length)

theorem Enters.rank_lt {host : Host} {a b : String × Session} (enters : Enters host a b) :
    Prod.Lex (· < ·) (· < ·) (rank host b) (rank host a) := by
  obtain ⟨line, s⟩ := a
  obtain ⟨next, t⟩ := b
  obtain ⟨-, level, shorter⟩ | ⟨-, deeper, allowed⟩ := enters.shorter_or_deeper
  · rw [rank, rank, Session.room_congr level]
    exact Prod.Lex.right _ shorter
  · obtain ⟨room, here⟩ := Nat.exists_eq_add_of_lt (Session.allowsScript_iff_room.mp allowed)
    rw [Nat.zero_add] at here
    apply Prod.Lex.left
    rw [Session.room_deeper here deeper, here]
    exact Nat.lt_succ_self room

theorem enters_wellFounded (host : Host) : WellFounded fun b a => Enters host a b :=
  Subrelation.wf Enters.rank_lt
    (InvImage.wf (rank host) (Prod.lex ⟨_, Nat.lt_wfRel.wf⟩ ⟨_, Nat.lt_wfRel.wf⟩).wf)

theorem runLines_append (host : Host) (dispatch : String → Session → Reply × Session) (first : Bool)
    (before after : List String) (s : Session) :
    runLines host dispatch first (before ++ after) s =
      match runLines host dispatch first before s with
      | (true, t) => (true, t)
      | (false, t) => runLines host dispatch (first && before.isEmpty) after t := by
  induction before generalizing first s with
  | nil => simp [runLines]
  | cons line rest ih =>
    simp only [List.cons_append, runLines, List.isEmpty_cons, Bool.and_false]
    split
    · rfl
    · split
      · rfl
      · rw [ih]
        rfl

section

variable {host : Host} {P : Session → Prop}
  (forgets : ∀ s t, s.substance = t.substance → P s → P t)
  {line name : String} {s : Session} {i : Invocation}
  (read : Command.ofLine line = .call i) (passes : isBarred i.verb s = false)
  (starts : Starts i s name)
  (enter : ∀ next t, Enters host (line, s) (next, t) → P t → P (t.execute host next).2)

include forgets read passes starts enter

theorem runLines_keeps (allowed : host.allowsScript s.depth = true) (before after : List String)
    (lines : s.script name = before ++ after) {t : Session}
    (ran : runLines host (fun line s => s.dispatch host line) true before
      (entered name (noted line s)) = (false, t))
    (holds : P t) :
    P (runLines host (fun line s => s.dispatch host line) before.isEmpty after t).2 := by
  -- By the lines still to come; `before` collects those that have run, as `Enters` asks for them.
  induction after generalizing before t with
  | nil => exact holds
  | cons next after ih =>
    have paused := forgets t _ (t.substance_pauseBefore host before.isEmpty).symm holds
    rw [runLines]
    split
    next u broken => simpa only [broken] using paused
    next u going =>
      rw [going] at paused
      have enters := Enters.scriptLine read passes starts allowed lines ran going
      have dispatched : P ((echoed next u).dispatch host next).2 :=
        forgets _ _ (Session.substance_conveyed _).symm (enter _ _ enters (forgets u _ rfl paused))
      split
      next v stopped => simpa only [stopped] using dispatched
      next report v done =>
        rw [done] at dispatched
        have further : runLines host (fun line s => s.dispatch host line) true (before ++ [next])
            (entered name (noted line s)) = (false, v) := by
          simp only [runLines_append, ran, Bool.true_and, runLines, going, done]
        have later : (before ++ [next]).isEmpty = false := by cases before <;> rfl
        have rest := ih (before ++ [next]) (by simp [lines]) further dispatched
        rwa [later] at rest

theorem runScript_keeps (holds : P s) : P ((noted line s).runScript host name).2 := by
  cases allowed : host.allowsScript s.depth with
  | false =>
    rw [Session.runScript_of_not_allowed (noted line s) host allowed]
    exact forgets s _ rfl holds
  | true =>
    have begun : P (entered name (noted line s)) := forgets s _ (by simp) holds
    have ran := runLines_keeps forgets read passes starts enter allowed [] (s.script name) rfl rfl
      begun
    have same : (noted line s).script name = s.script name := rfl
    rw [Session.runScript_of_allowed (noted line s) host allowed, same]
    exact forgets _ _ (Session.substance_finish name _).symm ran

end

/-- A property of the substance that each invocation keeps on its own is kept by a whole line, with
all the lines that are carried out on the way. -/
theorem execute_keeps {host : Host} {P : Session → Prop}
    (forgets : ∀ s t, s.substance = t.substance → P s → P t) (line : String) (s : Session)
    (step : ∀ next t i, Reaches host (line, s) (next, t) → Command.ofLine next = .call i →
      isBarred i.verb t = false → P t → P (alone host i t).2)
    (holds : P s) : P (s.execute host line).2 := by
  -- Recursion along the chain of lines; `step` is handed on to each line that is entered.
  have enter (next : String) (t : Session) (enters : Enters host (line, s) (next, t)) (here : P t) :
      P (t.execute host next).2 :=
    execute_keeps forgets next t (fun later u i reached => step later u i (.head enters reached)) here
  rw [Session.execute_eq]
  cases read : Command.ofLine line with
  | blank => exact holds
  | malformed refusal =>
    simp only [executeCommand, gate]
    split
    · exact forgets s _ rfl holds
    · exact forgets s _ rfl holds
  | conditional c body command =>
    simp only [executeCommand, gate]
    split
    · exact forgets s _ rfl holds
    next passes =>
      split
      · exact forgets s _ rfl holds
      · exact forgets s _ rfl holds
      next met =>
        rw [(Command.ofLine_conditional read).1, ← Session.execute_eq]
        exact enter _ _ (.body read (by simpa using passes) met) (forgets s _ rfl holds)
  | call i =>
    simp only [executeCommand, gate]
    split
    · exact forgets s _ rfl holds
    next passes =>
      have passes : isBarred i.verb s = false := by simpa using passes
      apply forgets (call host (fun name s => s.runScript host name) i (noted line s)).2
      · exact (Session.substance_conclude line _).symm
      · by_cases starts : ∃ name, Starts i (noted line s) name
        · obtain ⟨name, starts⟩ := starts
          rw [call_of_starts starts, Verb.session_reporting]
          exact runScript_keeps forgets read passes starts enter holds
        · rw [call_of_not_starts (not_exists.mp starts)]
          -- `step` is about the session before the line was logged.
          have same := stripped_alone host i (noted line s)
          rw [Session.substance_noted, ← stripped_alone host i s] at same
          exact forgets _ _ (congrArg Prod.snd same.symm) (step line s i .refl read passes holds)
termination_by rank host (line, s)
decreasing_by exact enters.rank_lt

theorem runLines_keeps_of_dispatch (host : Host) {P : Session → Prop}
    (forgets : ∀ s t, s.substance = t.substance → P s → P t)
    {dispatch : String → Session → Reply × Session}
    (step : ∀ line s, P s → P (dispatch line s).2) (first : Bool) (lines : List String)
    {s : Session} (holds : P s) : P (runLines host dispatch first lines s).2 := by
  induction lines generalizing first s with
  | nil => exact holds
  | cons line rest ih =>
    have paused := forgets s _ (s.substance_pauseBefore host first).symm holds
    rw [runLines]
    split
    next t broken => simpa only [broken] using paused
    next t going =>
      rw [going] at paused
      have carried := step line (echoed line t) (forgets t _ rfl paused)
      split
      next u stopped => simpa only [stopped] using carried
      next report u done =>
        rw [done] at carried
        exact ih false carried

theorem reaches_keeps {host : Host} {P : Session → Prop}
    (forgets : ∀ s t, s.substance = t.substance → P s → P t)
    (step : ∀ t i, P t → P (alone host i t).2) {a b : String × Session}
    (reaches : Reaches host a b) (holds : P a.2) : P b.2 := by
  have dispatched (line : String) (s : Session) (here : P s) : P (s.dispatch host line).2 :=
    forgets _ _ (Session.substance_conveyed _).symm
      (execute_keeps forgets line s (fun _ t i _ _ _ => step t i) here)
  induction reaches with
  | refl => exact holds
  | tail _ enters ih =>
    cases enters with
    | @body line body s c command read passes met => exact forgets s _ rfl ih
    | @scriptLine line name next s t u i before after read passes starts allowed lines ran resumed =>
      have begun : P (entered name (noted line s)) := forgets s _ (by simp) ih
      have stands := runLines_keeps_of_dispatch host forgets dispatched true before begun
      rw [ran] at stands
      have paused := forgets t _ (t.substance_pauseBefore host before.isEmpty).symm stands
      rw [resumed] at paused
      exact forgets u _ rfl paused

end Interpreter

end ScriptShell
