import ScriptShell.Proofs.Termination

/-!
Running a script is typing its lines. A session inside a script is held beside one outside of it that
has a limit one lower: the two differ in their level of nesting and in what no line reads. As long as
neither is interrupted every line takes such a pair to such a pair, so a script leaves what its lines
leave when they are dispatched one after another.
-/

namespace ScriptShell

namespace Session

/-- The first session is at the level below `depth`, the second one at `depth`, and they agree in all
that a line can read. -/
structure Apart (depth : Nat) (s t : Session) : Prop where
  substance : s.substance = t.substance
  inner : s.depth = depth + 1
  outer : t.depth = depth

variable {depth : Nat} {s t s' t' : Session}

theorem Apart.congr (apart : Apart depth s t) (inner : s'.substance = s.substance)
    (outer : t'.substance = t.substance) (innerDepth : s'.depth = s.depth)
    (outerDepth : t'.depth = t.depth) : Apart depth s' t' where
  substance := by rw [inner, outer, apart.substance]
  inner := innerDepth.trans apart.inner
  outer := outerDepth.trans apart.outer

theorem Apart.script (apart : Apart depth s t) (name : String) : s.script name = t.script name :=
  congrArg (·.script name) apart.substance

theorem Apart.vars (apart : Apart depth s t) : s.vars = t.vars := congrArg (·.vars) apart.substance

end Session

structure Host.OneMore (host host' : Host) : Prop where
  naming : host.naming = host'.naming
  launch : host.launch = host'.launch
  limits : ∃ limit, host.limit = .of limit ∧ host'.limit = .of (limit - 1)

theorem Host.OneMore.allowsScript {host host' : Host} (more : host.OneMore host') (depth : Nat) :
    host.allowsScript (depth + 1) = host'.allowsScript depth := by
  obtain ⟨limit, most, less⟩ := more.limits
  simp only [Host.allowsScript, most, less, decide_eq_decide]
  omega

theorem Host.OneMore.room {host host' : Host} (more : host.OneMore host') {depth : Nat}
    {s t : Session} (apart : Session.Apart depth s t) : s.room host = t.room host' := by
  obtain ⟨limit, most, less⟩ := more.limits
  simp only [Session.room, most, less, apart.inner, apart.outer]
  omega

namespace Interpreter

open Session (Apart)

variable {host host' : Host} {depth : Nat} {s t : Session}

theorem isBarred_of_apart (apart : Apart depth s t) (verb : String) :
    isBarred verb s = isBarred verb t := by
  change isBarred verb s.substance = isBarred verb t.substance
  rw [apart.substance]

theorem starts_of_apart (apart : Apart depth s t) {i : Invocation} {name : String} :
    Starts i s name ↔ Starts i t name := by
  change Starts i s.substance name ↔ Starts i t.substance name
  rw [apart.substance]

/-! ## One line -/

def Mirrors (depth : Nat) (run run' : String → Session → Step Report) : Prop :=
  ∀ name s t, Apart depth s t →
    (run name s).1 ≠ .error .interrupt → (run' name t).1 ≠ .error .interrupt →
      Apart depth (run name s).2 (run' name t).2

theorem reporting_interrupt {step : Step Report} :
    (Verb.perform.reporting step).1 = .error .interrupt ↔ step.1 = .error .interrupt := by
  obtain ⟨result, s⟩ := step
  cases result <;> simp [Verb.perform.reporting]

theorem conclude_interrupted {line : String} {step : Step (Option Report)} :
    (conclude line step).1 = .interrupted ↔ step.1 = .error .interrupt := by
  obtain ⟨result, s⟩ := step
  cases result with
  | ok report => simp [conclude]
  | error stop =>
    cases stop with
    | interrupt => simp [conclude]
    | fault fault => cases fault <;> simp [conclude]

theorem apart_alone (more : host.OneMore host') (i : Invocation) (apart : Apart depth s t) :
    Apart depth (alone host i s).2 (alone host' i t).2 where
  substance := by
    have same : (alone host i s).stripped = (alone host i t).stripped := by
      rw [stripped_alone host i s, stripped_alone host i t, apart.substance]
    rw [← alone_congr_host more.naming more.launch]
    exact congrArg Prod.snd same
  inner := (congrArg Prod.fst (progress_alone host i s)).trans apart.inner
  outer := (congrArg Prod.fst (progress_alone host' i t)).trans apart.outer

variable {run run' : String → Session → Step Report}

theorem apart_call (more : host.OneMore host') (mirrors : Mirrors depth run run') (i : Invocation)
    (apart : Apart depth s t) (goes : (call host run i s).1 ≠ .error .interrupt)
    (goes' : (call host' run' i t).1 ≠ .error .interrupt) :
    Apart depth (call host run i s).2 (call host' run' i t).2 := by
  by_cases starts : ∃ name, Starts i s name
  · obtain ⟨name, starts⟩ := starts
    have starts' := (starts_of_apart apart).mp starts
    rw [call_of_starts starts, ne_eq, reporting_interrupt] at goes
    rw [call_of_starts starts', ne_eq, reporting_interrupt] at goes'
    rw [call_of_starts starts, call_of_starts starts', Verb.session_reporting, Verb.session_reporting]
    exact mirrors name s t apart goes goes'
  · have other := not_exists.mp starts
    have other' : ∀ name, ¬Starts i t name := fun name here =>
      other name ((starts_of_apart apart).mpr here)
    rw [call_of_not_starts other, call_of_not_starts other']
    exact apart_alone more i apart

theorem apart_executeCommand (more : host.OneMore host') (mirrors : Mirrors depth run run')
    (command : Command) (line : String) (apart : Apart depth s t)
    (goes : (executeCommand host run command line s).1 ≠ .interrupted)
    (goes' : (executeCommand host' run' command line t).1 ≠ .interrupted) :
    Apart depth (executeCommand host run command line s).2
      (executeCommand host' run' command line t).2 := by
  have logged : Apart depth (noted line s) (noted line t) := apart.congr rfl rfl rfl rfl
  induction command generalizing line s t with
  | blank => exact apart
  | call i =>
    simp only [executeCommand, gate, isBarred_of_apart apart] at goes goes' ⊢
    split
    · exact logged
    next passes =>
      simp only [passes, Bool.false_eq_true, if_false, ne_eq, conclude_interrupted] at goes goes'
      exact (apart_call more mirrors i logged goes goes').congr (Session.substance_conclude _ _)
        (Session.substance_conclude _ _) (depth_conclude _ _) (depth_conclude _ _)
  | malformed refusal =>
    simp only [executeCommand, gate, isBarred_of_apart apart]
    split
    · exact logged
    · exact logged.congr (Session.substance_conclude _ _) (Session.substance_conclude _ _)
        (depth_conclude _ _) (depth_conclude _ _)
  | conditional c body command ih =>
    have read : Apart depth (weighed c body (noted line s)) (weighed c body (noted line t)) :=
      logged.congr rfl rfl rfl rfl
    have told : Apart depth (branched body (weighed c body (noted line s)))
        (branched body (weighed c body (noted line t))) := read.congr rfl rfl rfl rfl
    simp only [executeCommand, gate, isBarred_of_apart apart, logged.vars] at goes goes' ⊢
    split
    · exact logged
    next passes =>
      simp only [passes, Bool.false_eq_true, if_false] at goes goes'
      cases met : c.evaluate (noted line t).vars with
      | error refusal =>
        exact read.congr (Session.substance_conclude _ _) (Session.substance_conclude _ _)
          (depth_conclude _ _) (depth_conclude _ _)
      | ok holds =>
        cases holds with
        | false => exact read
        | true =>
          simp only [met] at goes goes'
          exact ih body told goes goes' (told.congr rfl rfl rfl rfl)

theorem apart_dispatchWith (more : host.OneMore host') (mirrors : Mirrors depth run run')
    (line : String) (apart : Apart depth s t)
    (goes : (dispatchWith host run line s).1 ≠ .interrupted)
    (goes' : (dispatchWith host' run' line t).1 ≠ .interrupted) :
    Apart depth (dispatchWith host run line s).2 (dispatchWith host' run' line t).2 := by
  rw [dispatchWith, conveyed_reply] at goes goes'
  exact (apart_executeCommand more mirrors _ line apart goes goes').congr
    (Session.substance_conveyed _) (Session.substance_conveyed _) (depth_conveyed _)
    (depth_conveyed _)

/-! ## The lines of a script -/

theorem runLines_cons_going {dispatch : String → Session → Reply × Session} {first : Bool}
    {line : String} {rest : List String}
    (goes : (runLines host dispatch first (line :: rest) s).1 = false) :
    (dispatch line (echoed line (pauseBefore host first s).2)).1 ≠ .interrupted ∧
      runLines host dispatch first (line :: rest) s = runLines host dispatch false rest
        (dispatch line (echoed line (pauseBefore host first s).2)).2 := by
  rw [runLines] at goes ⊢
  cases paused : pauseBefore host first s with
  | mk broken u =>
    rw [paused] at goes
    cases broken with
    | true => contradiction
    | false =>
      simp only at goes ⊢
      cases out : dispatch line (echoed line u) with
      | mk reply v =>
        rw [out] at goes
        cases reply with
        | interrupted => contradiction
        | done report => exact ⟨Reply.noConfusion, rfl⟩

theorem apart_runLines (host host' : Host) {dispatch dispatch' : String → Session → Reply × Session}
    (step : ∀ line s t, Apart depth s t → (dispatch line s).1 ≠ .interrupted →
      (dispatch' line t).1 ≠ .interrupted → Apart depth (dispatch line s).2 (dispatch' line t).2)
    (first : Bool) (lines : List String) (apart : Apart depth s t)
    (goes : (runLines host dispatch first lines s).1 = false)
    (goes' : (runLines host' dispatch' first lines t).1 = false) :
    Apart depth (runLines host dispatch first lines s).2
      (runLines host' dispatch' first lines t).2 := by
  induction lines generalizing first s t with
  | nil => exact apart
  | cons line rest ih =>
    have shown : Apart depth (echoed line (pauseBefore host first s).2)
        (echoed line (pauseBefore host' first t).2) :=
      apart.congr (by simp) (by simp) (by simp) (by simp)
    obtain ⟨done, same⟩ := runLines_cons_going goes
    obtain ⟨done', same'⟩ := runLines_cons_going goes'
    rw [same] at goes ⊢
    rw [same'] at goes' ⊢
    exact ih false (step line _ _ shown done done') goes goes'

theorem apart_entered (apart : Apart depth s t) (name : String) :
    Apart (depth + 1) (entered name s) (entered name t) where
  substance := by simp [apart.substance]
  inner := congrArg (· + 1) apart.inner
  outer := congrArg (· + 1) apart.outer

theorem apart_left (apart : Apart (depth + 1) s t) : Apart depth (left s) (left t) where
  substance := by simp [apart.substance]
  inner := depth_left apart.inner
  outer := depth_left apart.outer

theorem runScript_going {room : Nat} {name : String} (allowed : host.allowsScript s.depth = true)
    (goes : (runScript host (room + 1) name s).1 ≠ .error .interrupt) :
    (runLines host (dispatchWith host (runScript host room)) true (s.script name)
        (entered name s)).1 = false ∧
      (runScript host (room + 1) name s).2 =
        left (runLines host (dispatchWith host (runScript host room)) true (s.script name)
          (entered name s)).2 := by
  rw [runScript, if_pos allowed] at goes ⊢
  cases ran : runLines host (dispatchWith host (runScript host room)) true (s.script name)
      (entered name s) with
  | mk broken t =>
    rw [ran] at goes
    cases broken with
    | true => exact absurd rfl goes
    | false => exact ⟨rfl, rfl⟩

theorem mirrors_runScript (more : host.OneMore host') (room depth : Nat) :
    Mirrors depth (runScript host room) (runScript host' room) := by
  -- The same room on both sides: the outer session is one level higher under a limit one lower.
  induction room generalizing depth with
  | zero =>
    intro name s t apart _ _
    exact apart
  | succ room ih =>
    intro name s t apart goes goes'
    have allows : host.allowsScript s.depth = host'.allowsScript t.depth := by
      rw [apart.inner, apart.outer, more.allowsScript]
    cases allowed : host'.allowsScript t.depth with
    | false =>
      rw [runScript, runScript, allows, allowed]
      exact apart
    | true =>
      obtain ⟨ends, same⟩ := runScript_going (allows.trans allowed) goes
      obtain ⟨ends', same'⟩ := runScript_going allowed goes'
      rw [apart.script] at ends same
      have ran := apart_runLines host host'
        (fun line _ _ apart => apart_dispatchWith more (ih (depth + 1)) line apart) true
        (t.script name) (apart_entered apart name) ends ends'
      rw [same, same']
      exact apart_left ran

/-! ## Typing the lines -/

theorem apart_dispatch (more : host.OneMore host') (line : String) (apart : Apart depth s t)
    (goes : (s.dispatch host line).1 ≠ .interrupted)
    (goes' : (t.dispatch host' line).1 ≠ .interrupted) :
    Apart depth (s.dispatch host line).2 (t.dispatch host' line).2 := by
  unfold Session.dispatch at goes goes' ⊢
  rw [more.room apart] at goes ⊢
  exact apart_dispatchWith more (mirrors_runScript more _ depth) line apart goes goes'

theorem apart_dispatchAll (more : host.OneMore host') (first : Bool) (lines : List String)
    (apart : Apart depth s t)
    (goes : (runLines host (fun line s => s.dispatch host line) first lines s).1 = false)
    (goes' : ∀ reply ∈ (t.dispatchAll host' lines).1, reply ≠ .interrupted) :
    Apart depth (runLines host (fun line s => s.dispatch host line) first lines s).2
      (t.dispatchAll host' lines).2 := by
  induction lines generalizing first s t with
  | nil => exact apart
  | cons line rest ih =>
    have shown : Apart depth (echoed line (pauseBefore host first s).2) t :=
      apart.congr (by simp) rfl (by simp) rfl
    obtain ⟨done, same⟩ := runLines_cons_going goes
    simp only [Session.dispatchAll, List.mem_cons, forall_eq_or_imp] at goes' ⊢
    rw [same] at goes ⊢
    exact ih false (apart_dispatch more line shown done goes'.1) goes goes'.2

theorem apart_script (more : host.OneMore host') {line name : String} {i : Invocation}
    (admits : Admits line s i) (call : i.verb ≠ "IF") (starts : Starts i s name)
    (allowed : host.allowsScript s.depth = true)
    (goes : (s.execute host line).1 ≠ .interrupted)
    (goes' : ∀ reply ∈ (s.dispatchAll host' (s.script name)).1, reply ≠ .interrupted) :
    (s.execute host line).1 = .done (some (.success s!"--- SCRIPT {name} FINISHED ---")) ∧
      (s.execute host line).2.substance = (s.dispatchAll host' (s.script name)).2.substance := by
  have begun : Apart s.depth (entered name (noted line s)) s := ⟨by simp, rfl, rfl⟩
  have ran := apart_dispatchAll more true (s.script name) begun
  rw [execute_of_script host admits call starts allowed] at goes ⊢
  cases out : runLines host (fun line s => s.dispatch host line) true (s.script name)
      (entered name (noted line s)) with
  | mk broken t =>
    rw [out] at goes ran
    cases broken with
    | true => exact absurd rfl goes
    | false => exact ⟨rfl, (Session.substance_left t).trans (ran rfl goes').substance⟩

end Interpreter

/-! ## The statement -/

theorem Text.words_run (name : String) : words ("RUN " ++ name) = "RUN" :: words name := by
  have head : ("RUN " ++ name).toList = 'R' :: 'U' :: 'N' :: ' ' :: name.toList := by
    rw [String.toList_append]
    rfl
  rw [words, head]
  rfl

/-- A script runs to its end and leaves the variables, the files, the mode, the editor and the viewer
as its lines leave them when they are typed in a shell whose limit is one lower. Its name has to be
one that a line can spell, with single spaces and in upper case. -/
theorem Session.run_eq_dispatchAll (host host' : Host) (more : host.OneMore host') (s : Session)
    (name content : String) (normal : s.editing = none) (allowed : host.allowsScript s.depth = true)
    (script : isScriptName name = true) (stored : s.store.get? name = some content)
    (spelled : Text.upper (Text.unwords (Text.words name)) = name)
    (goes : (s.dispatch host ("RUN " ++ name)).1 ≠ .interrupted)
    (goes' : ∀ reply ∈ (s.dispatchAll host' (scriptLines content)).1, reply ≠ .interrupted) :
    (s.dispatch host ("RUN " ++ name)).1 =
      .done (some (.success s!"--- SCRIPT {name} FINISHED ---")) ∧
    let t := (s.dispatch host ("RUN " ++ name)).2
    let u := (s.dispatchAll host' (scriptLines content)).2
    t.vars = u.vars ∧ t.store = u.store ∧ t.disk = u.disk ∧ t.editing = u.editing ∧
      t.editor = u.editor ∧ t.scratch = u.scratch ∧ t.viewing = u.viewing ∧ t.depth = s.depth := by
  have read : Invocation.ofWords? (Text.words ("RUN " ++ name)) =
      some ⟨"RUN", Text.words name⟩ := by
    rw [Text.words_run]
    rfl
  have admits : Interpreter.Admits ("RUN " ++ name) s ⟨"RUN", Text.words name⟩ :=
    ⟨read, by simp [Interpreter.isBarred, isEditing, normal]⟩
  have found : s.store.contains name = true := by
    change (s.store.get? name).isSome = true
    rw [stored]
    rfl
  have starts : Interpreter.Starts ⟨"RUN", Text.words name⟩ s name :=
    ⟨rfl, spelled, script, found⟩
  have lines : s.script name = scriptLines content := by
    rw [Session.script, stored]
    rfl
  rw [dispatch_eq, Interpreter.conveyed_reply] at goes
  rw [← lines] at goes' ⊢
  obtain ⟨reply, same⟩ :=
    Interpreter.apart_script more admits (by decide : "RUN" ≠ "IF") starts allowed goes goes'
  have agree : (s.dispatch host ("RUN " ++ name)).2.substance =
      (s.dispatchAll host' (s.script name)).2.substance := (substance_conveyed _).trans same
  -- The substances agree field by field.
  simp only [substance, mk.injEq] at agree
  obtain ⟨vars, editing, store, disk, editor, scratch, viewing, -⟩ := agree
  exact ⟨(Interpreter.conveyed_reply _).trans reply, vars, store, disk, editing, editor, scratch,
    viewing, s.depth_dispatch host _⟩

def Session.selfErasing : Session :=
  let lines := ["VAR X = 1", "RM A B.ISH", "RUN A B.ISH", "IF ($X === 1) \x7bEDIT N.TXT\x7d", "VAR X = 2"]
  start (.inMemory ⟨[("A B.ISH", Text.join "\n" lines)]⟩) .empty .buffer

theorem Session.run_eq_dispatchAll_selfErasing :
    let t := (selfErasing.dispatch (.calm 1) "RUN A B.ISH").2
    let u := (selfErasing.dispatchAll (.calm 0) (selfErasing.script "A B.ISH")).2
    (selfErasing.dispatch (.calm 1) "RUN A B.ISH").1 =
        .done (some (.success "--- SCRIPT A B.ISH FINISHED ---")) ∧
      t.editing = some "N.TXT" ∧ t.vars = u.vars ∧ t.store = u.store ∧ t.editing = u.editing ∧
      t.editor = u.editor ∧ t.viewing = u.viewing := by
  have more : (Host.calm 1).OneMore (.calm 0) := ⟨rfl, rfl, 1, rfl, rfl⟩
  obtain ⟨reply, vars, store, _, editing, editor, _, viewing, _⟩ :=
    run_eq_dispatchAll (.calm 1) (.calm 0) more selfErasing "A B.ISH" _ rfl (by decide) (by decide)
      rfl (by decide +kernel) (by decide +kernel) (by decide +kernel)
  have opened : (selfErasing.dispatch (.calm 1) "RUN A B.ISH").2.editing = some "N.TXT" := by
    decide +kernel
  exact ⟨reply, opened, vars, store, editing, editor, viewing⟩

theorem Session.run_fails_of_doubled_space :
    let s := start (.inMemory ⟨[("A  B.ISH", "VAR X = 1")]⟩) .empty .buffer
    (Host.calm 1).OneMore (.calm 0) ∧ s.editing = none ∧ (Host.calm 1).allowsScript s.depth = true ∧
    isScriptName "A  B.ISH" = true ∧ s.store.get? "A  B.ISH" = some "VAR X = 1" ∧
    (∀ reply ∈ (s.dispatchAll (.calm 0) (scriptLines "VAR X = 1")).1, reply ≠ .interrupted) ∧
    (s.dispatch (.calm 1) "RUN A  B.ISH").1 =
      .done (some (.error "ERROR: Can only run .ISH script files.")) ∧
    (s.dispatch (.calm 1) "RUN A  B.ISH").2.vars ≠
      (s.dispatchAll (.calm 0) (scriptLines "VAR X = 1")).2.vars := by
  have more : (Host.calm 1).OneMore (.calm 0) := ⟨rfl, rfl, 1, rfl, rfl⟩
  refine ⟨more, rfl, by decide, by decide, rfl, ?_⟩
  decide +kernel

end ScriptShell
