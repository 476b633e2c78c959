import Mathlib.Algebra.Ring.GeomSum
import Mathlib.Tactic.Ring
import ScriptShell.Proofs.Assignment
import ScriptShell.Proofs.ScriptRun

namespace ScriptShell

/-! ## Sessions that only tell something more -/

structure Session.Gains (s : Session) (events : List Event) (t : Session) : Prop where
  history : t.history = events.reverse ++ s.history
  substance : t.substance = s.substance

namespace Session.Gains

variable {s t u : Session} {before after : List Event}

theorem trans (first : s.Gains before t) (second : t.Gains after u) : s.Gains (before ++ after) u where
  history := by rw [second.history, first.history, List.reverse_append, List.append_assoc]
  substance := second.substance.trans first.substance

theorem events (gains : s.Gains after t) : t.events = s.events ++ after := by
  rw [Session.events, gains.history, List.reverse_append, List.reverse_reverse, Session.events]

end Session.Gains

/-! ## The tree of calls -/

/-- A script with lines that call it again, and the limit under which it runs. -/
structure Cascade where
  name : String
  lines : List String
  pausing : Bool
  limit : Nat

def Event.carrying (line : String) : Event :=
  .logged .debug .shell s!"Executing command: {Text.trim line}"

theorem Event.carrying_inj {line line' : String} :
    carrying line = carrying line' ↔ Text.trim line = Text.trim line' := by
  simp only [carrying, Event.logged.injEq, true_and, String.append_right_inj]
  rfl

def IsEcho (line : String) : Prop :=
  (Invocation.ofWords? (Text.words line)).map (·.verb) = some "ECHO"

instance (line : String) : Decidable (IsEcho line) :=
  inferInstanceAs (Decidable (Option.map _ _ = _))

namespace Cascade

variable (c : Cascade)

def call : String := "RUN " ++ c.name

def calls : Nat := c.lines.count c.call

def starting : Event := .reported (.success s!"--- RUNNING SCRIPT {c.name} ---")

def report : Nat → Report
  | 0 => .error s!"ERROR: Script nesting too deep (limit {c.limit})."
  | _ + 1 => .success s!"--- SCRIPT {c.name} FINISHED ---"

def answer (inner : List Event) (line : String) : List Event :=
  if line = c.call then inner else [.reported (.info (Text.unwords (Text.words line).tail))]

def toldByLines (inner : List Event) (first : Bool) : List String → List Event
  | [] => []
  | line :: rest =>
    (if c.pausing && !first then [.paused] else []) ++
      (.reported (.info s!"> {line}") :: .carrying line :: c.answer inner line) ++
      toldByLines inner false rest

/-- What a call tells when so many more levels may be entered. -/
def told : Nat → List Event
  | 0 => [.reported (c.report 0)]
  | room + 1 =>
    c.starting ::
      .logged .debug .runner s!"running {c.name} ({c.lines.length} lines, depth {c.limit - room})" ::
      (c.toldByLines (told room) true c.lines ++ [.reported (c.report (room + 1))])

structure Ready (host : Host) (s : Session) : Prop where
  limit : host.limit = .of c.limit
  pausing : host.pausing = c.pausing
  unbroken : c.pausing = true → ∀ count, host.breaks count = false
  normal : s.editing = none
  script : isScriptName c.name = true
  stored : ∃ content, s.store.get? c.name = some content ∧ scriptLines content = c.lines
  spelled : Text.upper (Text.unwords (Text.words c.name)) = c.name
  lines : ∀ line ∈ c.lines, line = c.call ∨ IsEcho line

variable {c} {host : Host} {s t : Session}

namespace Ready

theorem congr (ready : c.Ready host s) (same : t.substance = s.substance) : c.Ready host t where
  __ := ready
  normal := by rw [← t.substance_editing, same, s.substance_editing, ready.normal]
  stored := by
    rw [← t.substance_store, same, s.substance_store]
    exact ready.stored

theorem script_eq (ready : c.Ready host s) : s.script c.name = c.lines := by
  obtain ⟨content, stored, lines⟩ := ready.stored
  rw [Session.script, stored, ← lines]
  rfl

theorem admits (ready : c.Ready host s) :
    Interpreter.Admits c.call s ⟨"RUN", Text.words c.name⟩ := by
  refine ⟨?_, by simp [Interpreter.isBarred, Session.isEditing, ready.normal]⟩
  rw [call, Text.words_run]
  rfl

theorem starts (ready : c.Ready host s) :
    Interpreter.Starts ⟨"RUN", Text.words c.name⟩ s c.name := by
  obtain ⟨content, stored, -⟩ := ready.stored
  refine ⟨rfl, ready.spelled, ready.script, ?_⟩
  change (s.store.get? c.name).isSome = true
  rw [stored]
  rfl

end Ready

end Cascade

/-! ## What one line tells -/

namespace Interpreter

open Cascade

variable {c : Cascade} {host : Host} {s : Session}

theorem gains_noted (line : String) (s : Session) : s.Gains [.carrying line] (noted line s) :=
  ⟨rfl, rfl⟩

theorem gains_echoed (line : String) (s : Session) :
    s.Gains [.reported (.info s!"> {line}")] (echoed line s) :=
  ⟨rfl, rfl⟩

theorem gains_conveyed (report : Report) (s : Session) :
    s.Gains [.reported report] (conveyed (.done (some report), s)).2 :=
  ⟨rfl, rfl⟩

theorem gains_pauseBefore (ready : c.Ready host s) (first : Bool) :
    (pauseBefore host first s).1 = false ∧
      s.Gains (if c.pausing && !first then [.paused] else []) (pauseBefore host first s).2 := by
  rw [pauseBefore, ready.pausing]
  split
  next pauses =>
    rw [Bool.and_eq_true] at pauses
    exact ⟨ready.unbroken pauses.1 s.pauses, rfl, rfl⟩
  · exact ⟨rfl, rfl, rfl⟩

theorem gains_echo (ready : c.Ready host s) {line : String} (echo : IsEcho line) :
    (s.dispatch host line).1 ≠ .interrupted ∧
      s.Gains [.carrying line, .reported (.info (Text.unwords (Text.words line).tail))]
        (s.dispatch host line).2 := by
  obtain ⟨i, read, verb⟩ := Option.map_eq_some_iff.mp echo
  have admits : Admits line s i := ⟨read, by simp [isBarred, Session.isEditing, ready.normal]⟩
  have text : i.argumentText = Text.unwords (Text.words line).tail := by
    cases words : Text.words line with
    | nil => simp [words, Invocation.ofWords?] at read
    | cons word rest =>
      obtain rfl : ⟨Text.upper word, rest⟩ = i := by simpa [words, Invocation.ofWords?] using read
      rfl
  have performed : Interpreter.call host (fun name s => s.runScript host name) i (noted line s) =
      (.ok (some (.info i.argumentText)), noted line s) := by
    rw [Interpreter.call, verb]
    rfl
  rw [Session.dispatch_eq, execute_of_call host admits (by simp [verb]), performed, text]
  exact ⟨Reply.noConfusion, (gains_noted line s).trans (gains_conveyed _ _)⟩

/-! ## What the lines of the script tell -/

theorem gains_runLines {inner : List Event} {depth : Nat}
    (step : ∀ line ∈ c.lines, ∀ s, c.Ready host s → s.depth = depth →
      (s.dispatch host line).1 ≠ .interrupted ∧
        s.Gains (.carrying line :: c.answer inner line) (s.dispatch host line).2)
    (ready : c.Ready host s) (here : s.depth = depth) (first : Bool) {lines : List String}
    (among : lines ⊆ c.lines) :
    (runLines host (fun line s => s.dispatch host line) first lines s).1 = false ∧
      s.Gains (c.toldByLines inner first lines)
        (runLines host (fun line s => s.dispatch host line) first lines s).2 := by
  induction lines generalizing first s with
  | nil => exact ⟨rfl, rfl, rfl⟩
  | cons line rest ih =>
    obtain ⟨member, among⟩ := List.cons_subset.mp among
    obtain ⟨unbroken, paused⟩ := gains_pauseBefore ready first
    have level := (depth_pauseBefore host first s).trans here
    rw [runLines]
    generalize pauseBefore host first s = out at unbroken paused level ⊢
    obtain ⟨broken, t⟩ := out
    obtain rfl : broken = false := unbroken
    have shown := paused.trans (gains_echoed line t)
    obtain ⟨done, carried⟩ := step line member _ (ready.congr shown.substance) level
    have deep := (Session.depth_dispatch (echoed line t) host line).trans level
    simp only
    generalize (echoed line t).dispatch host line = out at done carried deep ⊢
    obtain ⟨reply, u⟩ := out
    cases reply with
    | interrupted => exact absurd rfl done
    | done report =>
      have gains := shown.trans carried
      obtain ⟨ends, others⟩ := ih (ready.congr gains.substance) deep false among
      refine ⟨ends, ?_⟩
      have told := gains.trans others
      simpa only [toldByLines, List.append_assoc, List.singleton_append] using told

/-! ## What a call tells -/

theorem gains_refused (ready : c.Ready host s) (deepest : s.depth = c.limit) :
    (s.dispatch host c.call).1 = .done (some (c.report 0)) ∧
      s.Gains (.carrying c.call :: c.told 0) (s.dispatch host c.call).2 := by
  have refused : host.allowsScript s.depth = false := by
    simp [Host.allowsScript, ready.limit, deepest]
  have reason : host.scriptRefused = .refusal (.nestedTooDeep c.limit) := by
    rw [Host.scriptRefused, ready.limit]
  rw [Session.dispatch_eq, execute_of_refused host ready.admits (by decide : "RUN" ≠ "IF") ready.starts
    refused, reason]
  exact ⟨rfl, (gains_noted c.call s).trans (gains_conveyed (c.report 0) _)⟩

theorem gains_entered (ready : c.Ready host s) {room : Nat} (level : s.depth + (room + 1) = c.limit) :
    s.Gains [c.starting,
      .logged .debug .runner s!"running {c.name} ({c.lines.length} lines, depth {c.limit - room})"]
      (entered c.name s) := by
  have depth : c.limit - room = s.depth + 1 := by omega
  rw [depth, ← ready.script_eq]
  exact ⟨rfl, rfl⟩

theorem gains_call {room : Nat} (ready : c.Ready host s) (level : s.depth + room = c.limit) :
    (s.dispatch host c.call).1 = .done (some (c.report room)) ∧
      s.Gains (.carrying c.call :: c.told room) (s.dispatch host c.call).2 := by
  -- A line of the script that calls it again stands one level deeper, where there is one less to enter.
  induction room generalizing s with
  | zero => exact gains_refused ready level
  | succ room ih =>
    have allowed : host.allowsScript s.depth = true := by
      simp only [Host.allowsScript, ready.limit, decide_eq_true_eq]
      omega
    have carried := gains_noted c.call s
    have level' : (noted c.call s).depth + (room + 1) = c.limit := level
    have begun := carried.trans (gains_entered (ready.congr carried.substance) level')
    have step : ∀ line ∈ c.lines, ∀ t, c.Ready host t → t.depth = s.depth + 1 →
        (t.dispatch host line).1 ≠ .interrupted ∧
          t.Gains (.carrying line :: c.answer (c.told room) line) (t.dispatch host line).2 := by
      intro line member t ready deeper
      by_cases again : line = c.call
      · obtain ⟨reply, gains⟩ := ih ready (by omega)
        rw [answer, if_pos again, again, reply]
        exact ⟨Reply.noConfusion, gains⟩
      · rw [answer, if_neg again]
        exact gains_echo ready ((ready.lines line member).resolve_left again)
    obtain ⟨ends, lines⟩ := gains_runLines step (ready.congr begun.substance) rfl true
      (List.Subset.refl c.lines)
    rw [Session.dispatch_eq, execute_of_script host ready.admits (by decide : "RUN" ≠ "IF") ready.starts
      allowed, ready.script_eq]
    generalize runLines host (fun line s => s.dispatch host line) true c.lines
      (entered c.name (noted c.call s)) = out at ends lines ⊢
    obtain ⟨broken, t⟩ := out
    obtain rfl : broken = false := ends
    have finished : t.Gains [.reported (c.report (room + 1))]
        (conveyed (.done (some (c.report (room + 1))), left t)).2 := ⟨rfl, rfl⟩
    refine ⟨rfl, ?_⟩
    change s.Gains _ (conveyed (.done (some (c.report (room + 1))), left t)).2
    simpa [told] using (begun.trans lines).trans finished

end Interpreter

/-! ## How often -/

namespace Cascade

variable (c : Cascade)

def marks : List Event := c.starting :: .reported (c.report 1) :: c.lines.map .carrying

def isMark : Event → Bool
  | .reported report => report.category ≠ .info
  | .logged _ origin _ => origin = .shell
  | _ => false

variable {e : Event}

theorem count_answer (mark : isMark e = true) (inner : List Event) (line : String) :
    (c.answer inner line).count e = [line].count c.call * inner.count e := by
  unfold answer
  split
  next again => rw [again, List.count_singleton_self, Nat.one_mul]
  next other =>
    have notInfo : .reported (.info (Text.unwords (Text.words line).tail)) ≠ e := by
      rintro rfl
      contradiction
    simp [other, notInfo]

theorem count_toldByLines (mark : isMark e = true) (inner : List Event) (first : Bool)
    (lines : List String) :
    (c.toldByLines inner first lines).count e =
      lines.count c.call * inner.count e + (lines.map .carrying).count e := by
  induction lines generalizing first with
  | nil => simp [toldByLines]
  | cons line rest ih =>
    have paused : (if c.pausing && !first then [Event.paused] else []).count e = 0 := by
      rw [List.count_eq_zero]
      intro member
      obtain rfl : e = .paused := by simpa using (List.mem_ite_nil_right.mp member).2
      contradiction
    have notInfo : .reported (.info s!"> {line}") ≠ e := by
      rintro rfl
      contradiction
    calc (c.toldByLines inner first (line :: rest)).count e
        = (c.answer inner line).count e + [Event.carrying line].count e +
            (c.toldByLines inner false rest).count e := by
          rw [toldByLines, List.count_append, List.count_append, paused, List.count_cons_of_ne notInfo,
            List.count_cons, List.count_singleton, Nat.zero_add]
      _ = [line].count c.call * inner.count e + [Event.carrying line].count e +
            (rest.count c.call * inner.count e + (rest.map .carrying).count e) := by
          rw [count_answer c mark, ih]
      _ = ([line] ++ rest).count c.call * inner.count e +
            ([Event.carrying line] ++ rest.map Event.carrying).count e := by
          rw [List.count_append, List.count_append]
          ring

theorem count_told_succ (mark : isMark e = true) (room : Nat) :
    (c.told (room + 1)).count e = c.marks.count e + c.calls * (c.told room).count e := by
  have notRunner (text : String) : .logged .debug .runner text ≠ e := by
    rintro rfl
    contradiction
  have same : c.report (room + 1) = c.report 1 := rfl
  rw [told, List.count_cons, List.count_cons_of_ne (notRunner _)]
  simp only [marks, same, calls, List.count_append, List.count_cons, List.count_nil,
    count_toldByLines c mark]
  ring

theorem count_told (mark : isMark e = true) (room : Nat) :
    (c.told room).count e =
      c.marks.count e * ∑ i ∈ Finset.range room, c.calls ^ i +
        [Event.reported (c.report 0)].count e * c.calls ^ room := by
  induction room with
  | zero => simp [told]
  | succ room ih =>
    rw [count_told_succ c mark, ih, geom_sum_succ, pow_succ]
    ring

theorem count_told_of_ne (mark : isMark e = true) (other : .reported (c.report 0) ≠ e) (room : Nat) :
    (c.told room).count e = c.marks.count e * ∑ i ∈ Finset.range room, c.calls ^ i := by
  rw [count_told c mark, List.count_cons_of_ne other, List.count_nil, Nat.zero_mul, Nat.add_zero]

theorem starting_ne_report : c.starting ≠ .reported (c.report 1) := by
  intro same
  have texts : "--- RUNNING SCRIPT " ++ c.name ++ " ---" = "--- SCRIPT " ++ c.name ++ " FINISHED ---" :=
    (Report.mk.inj (Event.reported.inj same)).1
  simpa using congrArg String.toList texts

section

variable (room : Nat)

theorem count_starting : (c.told room).count c.starting = ∑ i ∈ Finset.range room, c.calls ^ i := by
  have notCarrying : c.starting ∉ c.lines.map .carrying := by simp [starting, Event.carrying]
  have once : c.marks.count c.starting = 1 := by
    rw [marks, List.count_cons_self, List.count_cons_of_ne c.starting_ne_report.symm,
      List.count_eq_zero.mpr notCarrying]
  have other : .reported (c.report 0) ≠ c.starting := by
    simp [starting, report, Report.success, Report.error]
  rw [count_told_of_ne c rfl other, once, Nat.one_mul]

theorem count_finished :
    (c.told room).count (.reported (c.report 1)) = ∑ i ∈ Finset.range room, c.calls ^ i := by
  have notCarrying : .reported (c.report 1) ∉ c.lines.map Event.carrying := by simp [Event.carrying]
  have once : c.marks.count (.reported (c.report 1)) = 1 := by
    rw [marks, List.count_cons_of_ne c.starting_ne_report, List.count_cons_self,
      List.count_eq_zero.mpr notCarrying]
  have other : Event.reported (c.report 0) ≠ .reported (c.report 1) := by
    simp [report, Report.success, Report.error]
  rw [count_told_of_ne c rfl other, once, Nat.one_mul]

theorem count_refused : (c.told room).count (.reported (c.report 0)) = c.calls ^ room := by
  have never : .reported (c.report 0) ∉ c.marks := by
    simp [marks, starting, report, Report.success, Report.error, Event.carrying]
  rw [count_told c rfl, List.count_eq_zero.mpr never, List.count_singleton_self, Nat.zero_mul,
    Nat.one_mul, Nat.zero_add]

theorem count_carrying (line : String) :
    (c.told room).count (.carrying line) =
      (c.lines.map Text.trim).count (Text.trim line) * ∑ i ∈ Finset.range room, c.calls ^ i := by
  have each : c.marks.count (.carrying line) = (c.lines.map Text.trim).count (Text.trim line) := by
    rw [marks, List.count_cons_of_ne (by simp [starting, Event.carrying]),
      List.count_cons_of_ne (by simp [Event.carrying]), List.count, List.countP_map, List.count,
      List.countP_map]
    exact List.countP_congr fun other _ => by simp [Event.carrying_inj]
  rw [count_told_of_ne c rfl (by simp [Event.carrying]), each]

end

end Cascade

theorem Text.words_trim (s : String) : words (trim s) = words s := by
  rw [← words_normal, normal_trim, words_normal]

theorem Event.carrying_call_ne {line : String} (echo : IsEcho line) (name : String) :
    carrying ("RUN " ++ name) ≠ carrying line := by
  intro same
  have words : Text.words line = "RUN" :: Text.words name := by
    rw [← Text.words_trim, ← carrying_inj.mp same, Text.words_trim, Text.words_run]
  rw [IsEcho, words] at echo
  have verb : Text.upper "RUN" = "ECHO" := by simpa [Invocation.ofWords?] using echo
  exact absurd verb (by decide)

/-- A script of which `b` lines run it again and the others echo, run under the limit `m`, starts
`1 + b + … + b ^ (m - 1)` times and is turned away `b ^ m` times. Every start carries out each line, comes
to its end, and all is told in the order of the calls. -/
theorem Session.self_run_unfolds (host : Host) (m : Nat) (limit : host.limit = .of m)
    (unbroken : host.pausing = true → ∀ count, host.breaks count = false) (s : Session)
    (normal : s.editing = none) (outermost : s.depth = 0) (name content : String)
    (script : isScriptName name = true) (stored : s.store.get? name = some content)
    (spelled : Text.upper (Text.unwords (Text.words name)) = name)
    (lines : ∀ line ∈ scriptLines content, line = "RUN " ++ name ∨ IsEcho line) :
    let c : Cascade := ⟨name, scriptLines content, host.pausing, m⟩
    let b := (scriptLines content).count ("RUN " ++ name)
    let starts := ∑ i ∈ Finset.range m, b ^ i
    let out := s.dispatch host ("RUN " ++ name)
    let told := Event.carrying ("RUN " ++ name) :: c.told m
    out.1 = .done (some (c.report m)) ∧ out.2.events = s.events ++ told ∧
    out.2.depth = 0 ∧ out.2.substance = s.substance ∧
    told.count (.reported (.success s!"--- RUNNING SCRIPT {name} ---")) = starts ∧
    told.count (.reported (.success s!"--- SCRIPT {name} FINISHED ---")) = starts ∧
    told.count (.reported (.error s!"ERROR: Script nesting too deep (limit {m}).")) = b ^ m ∧
    ∀ line ∈ scriptLines content, IsEcho line →
      told.count (.carrying line) =
        ((scriptLines content).map Text.trim).count (Text.trim line) * starts := by
  intro c b starts out told
  have ready : c.Ready host s :=
    ⟨limit, rfl, unbroken, normal, script, ⟨content, stored, rfl⟩, spelled, lines⟩
  have level : s.depth + m = c.limit := by rw [outermost, Nat.zero_add]
  obtain ⟨reply, gains⟩ := Interpreter.gains_call ready level
  have reported (report : Report) : Event.carrying c.call ≠ .reported report := by simp [Event.carrying]
  refine ⟨reply, gains.events, (s.depth_dispatch host _).trans outermost, gains.substance, ?_, ?_, ?_, ?_⟩
  · exact (List.count_cons_of_ne (reported _)).trans (c.count_starting m)
  · exact (List.count_cons_of_ne (reported _)).trans (c.count_finished m)
  · exact (List.count_cons_of_ne (reported _)).trans (c.count_refused m)
  · intro line _ echo
    exact (List.count_cons_of_ne (Event.carrying_call_ne echo name)).trans (c.count_carrying m line)

def branchingScript : String :=
  Text.join "\n" ["ECHO in", "RUN S.ISH", "", " echo  between\r", "RUN S.ISH", "ECHO in"]

def Session.branching : Session := start (.inMemory ⟨[("S.ISH", branchingScript)]⟩) .empty .buffer

def Host.unhurried : Host := { calm 3 with pausing := true }

theorem Session.self_run_unfolds_branching :
    (∀ line ∈ scriptLines branchingScript, line = "RUN " ++ "S.ISH" ∨ IsEcho line) ∧
    (scriptLines branchingScript).count ("RUN " ++ "S.ISH") = 2 ∧
    (branching.dispatch .unhurried ("RUN " ++ "S.ISH")).1 =
      .done (some (.success "--- SCRIPT S.ISH FINISHED ---")) ∧
    (branching.dispatch .unhurried ("RUN " ++ "S.ISH")).2.substance = branching.substance ∧
    ∃ told, (branching.dispatch .unhurried ("RUN " ++ "S.ISH")).2.events = told ∧
      told.count (.reported (.success "--- RUNNING SCRIPT S.ISH ---")) = 7 ∧
      told.count (.reported (.success "--- SCRIPT S.ISH FINISHED ---")) = 7 ∧
      told.count (.reported (.error "ERROR: Script nesting too deep (limit 3).")) = 8 ∧
      told.count (.carrying "ECHO in") = 14 ∧ told.count (.carrying " echo  between") = 7 := by
  have among : ∀ line ∈ scriptLines branchingScript, line = "RUN " ++ "S.ISH" ∨ IsEcho line := by
    decide +kernel
  have twice : (scriptLines branchingScript).count ("RUN " ++ "S.ISH") = 2 := by decide +kernel
  have often : "ECHO in" ∈ scriptLines branchingScript ∧ IsEcho "ECHO in" ∧
      ((scriptLines branchingScript).map Text.trim).count (Text.trim "ECHO in") = 2 := by decide +kernel
  have once : " echo  between" ∈ scriptLines branchingScript ∧ IsEcho " echo  between" ∧
      ((scriptLines branchingScript).map Text.trim).count (Text.trim " echo  between") = 1 := by
    decide +kernel
  have sum : ∑ i ∈ Finset.range 3, 2 ^ i = 7 := rfl
  obtain ⟨reply, events, -, substance, starts, ends, refusals, carried⟩ :=
    self_run_unfolds .unhurried 3 rfl (fun _ _ => rfl) branching rfl rfl "S.ISH" branchingScript
      (by decide) rfl (by decide +kernel) among
  have carried' := carried _ once.1 once.2.1
  have carried := carried _ often.1 often.2.1
  rw [twice] at refusals
  rw [twice, sum] at starts ends
  rw [often.2.2, twice, sum] at carried
  rw [once.2.2, twice, sum] at carried'
  exact ⟨among, twice, reply, substance, _, events, starts, ends, refusals, carried, carried'⟩

end ScriptShell
