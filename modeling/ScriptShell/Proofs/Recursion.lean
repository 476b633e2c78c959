import ScriptShell.Proofs.Effect

namespace ScriptShell

namespace Interpreter

/-! ## Invocations that start a script -/

def Starts (i : Invocation) (s : Session) (name : String) : Prop :=
  Verb.ofName? i.verb = some .run ∧ i.fileName = name ∧ isScriptName name = true ∧
    s.store.contains name = true

/-- An invocation by itself: a script that it starts is left out. -/
def alone (host : Host) (i : Invocation) (s : Session) : Step (Option Report) :=
  call host (fun _ s => (.error .interrupt, s)) i s

variable {host : Host} {runScript : String → Session → Step Report} {i : Invocation} {s : Session}
  {name : String}

theorem call_of_starts (starts : Starts i s name) :
    call host runScript i s = Verb.perform.reporting (runScript name s) := by
  obtain ⟨verb, rfl, script, stored⟩ := starts
  simp only [call, verb, Verb.perform, Verb.runFile, script, stored, and_self, if_true]

theorem call_of_not_starts (other : ∀ name, ¬ Starts i s name) :
    call host runScript i s = alone host i s := by
  unfold alone call
  cases verb : Verb.ofName? i.verb with
  | none => rfl
  | some v =>
    cases v with
    | run =>
      have none : ¬ (isScriptName i.fileName = true ∧ s.store.contains i.fileName = true) :=
        fun found => other i.fileName ⟨verb, rfl, found⟩
      simp only [Verb.perform, Verb.runFile, none, if_false]
    | _ => rfl

theorem progress_alone (host : Host) (i : Invocation) (s : Session) :
    (alone host i s).2.progress = s.progress := by
  unfold alone call
  cases Verb.ofName? i.verb with
  | none => rfl
  | some verb => exact (Verb.leaves_perform (fun _ => rfl) verb).progress

theorem stripped_alone (host : Host) (i : Invocation) (s : Session) :
    (alone host i s).stripped = (alone host i s.substance).stripped := by
  unfold alone call
  cases Verb.ofName? i.verb with
  | none => rfl
  | some verb =>
    simp only
    cases verb with
    | help => rfl
    | echo => rfl
    | cls => rfl
    | ls => rfl
    | var =>
      rw [Verb.perform, Verb.perform]
      exact Verb.stripped_reporting (Verb.stripped_setVariable s i)
    | view =>
      rw [Verb.perform, Verb.perform]
      exact Verb.stripped_reporting (Verb.stripped_viewFile s i.fileName)
    | rm =>
      rw [Verb.perform, Verb.perform]
      exact Verb.stripped_reporting (Verb.stripped_removeFile host s i.fileName)
    | edit =>
      rw [Verb.perform, Verb.perform]
      exact Verb.stripped_reporting (Verb.stripped_editFile host s i.fileName)
    | save =>
      rw [Verb.perform, Verb.perform]
      exact Verb.stripped_reporting (Verb.stripped_saveFile host s)
    | close =>
      rw [Verb.perform, Verb.perform]
      exact Verb.stripped_reporting (Verb.stripped_closeFile s)
    | format =>
      rw [Verb.perform, Verb.perform]
      exact Verb.stripped_reporting (Verb.stripped_formatStore host s i.arguments)
    | run =>
      rw [Verb.perform, Verb.perform]
      exact Verb.stripped_reporting (Verb.stripped_runFile s i.fileName)

theorem alone_congr_host {host host' : Host} (naming : host.naming = host'.naming)
    (launch : host.launch = host'.launch) (i : Invocation) (s : Session) :
    alone host i s = alone host' i s := by
  obtain ⟨_, _, _, _, _⟩ := host
  obtain ⟨_, _, _, _, _⟩ := host'
  simp only at naming launch
  subst naming launch
  unfold alone call
  cases Verb.ofName? i.verb with
  | none => rfl
  | some verb => cases verb <;> rfl

/-! ## The nesting of scripts -/

def KeepsDepth (runScript : String → Session → Step Report) : Prop :=
  ∀ name s, (runScript name s).2.depth = s.depth

@[simp] theorem depth_noted (line : String) (s : Session) : (noted line s).depth = s.depth := rfl

@[simp] theorem depth_weighed (c : Condition) (body : String) (s : Session) :
    (weighed c body s).depth = s.depth := rfl

@[simp] theorem depth_branched (body : String) (s : Session) :
    (branched body s).depth = s.depth := rfl

@[simp] theorem depth_echoed (line : String) (s : Session) : (echoed line s).depth = s.depth := rfl

@[simp] theorem depth_entered (name : String) (s : Session) :
    (entered name s).depth = s.depth + 1 := rfl

theorem depth_left {s : Session} {depth : Nat} (inside : s.depth = depth + 1) :
    (left s).depth = depth := by
  simp only [left, inside, Nat.add_sub_cancel]

theorem depth_finish (name : String) {out : Bool × Session} {depth : Nat}
    (inside : out.2.depth = depth + 1) : (finish name out).2.depth = depth := by
  obtain ⟨broken, s⟩ := out
  cases broken <;> exact depth_left inside

@[simp] theorem depth_pauseBefore (host : Host) (first : Bool) (s : Session) :
    (pauseBefore host first s).2.depth = s.depth := by
  unfold pauseBefore
  split <;> rfl

@[simp] theorem depth_conclude (line : String) (step : Step (Option Report)) :
    (conclude line step).2.depth = step.2.depth := by
  obtain ⟨result, s⟩ := step
  cases result with
  | ok report => rfl
  | error stop =>
    cases stop with
    | interrupt => rfl
    | fault fault => cases fault <;> rfl

@[simp] theorem depth_conveyed (out : Reply × Session) : (conveyed out).2.depth = out.2.depth := by
  obtain ⟨reply, s⟩ := out
  cases reply with
  | interrupted => rfl
  | done report => cases report <;> rfl

theorem depth_call (keeps : KeepsDepth runScript) (host : Host) (i : Invocation) (s : Session) :
    (call host runScript i s).2.depth = s.depth := by
  by_cases starts : ∃ name, Starts i s name
  · obtain ⟨name, starts⟩ := starts
    rw [call_of_starts starts, Verb.session_reporting]
    exact keeps name s
  · rw [call_of_not_starts (not_exists.mp starts)]
    exact congrArg Prod.fst (progress_alone host i s)

theorem depth_executeCommand (keeps : KeepsDepth runScript) (host : Host) (command : Command)
    (line : String) (s : Session) :
    (executeCommand host runScript command line s).2.depth = s.depth := by
  induction command generalizing line s with
  | blank => rfl
  | call i =>
    simp only [executeCommand, gate]
    split
    · rfl
    · rw [depth_conclude, depth_call keeps, depth_noted]
  | malformed refusal =>
    simp only [executeCommand, gate]
    split
    · rfl
    · rw [depth_conclude, depth_noted]
  | conditional c body command ih =>
    simp only [executeCommand, gate]
    split
    · rfl
    · split
      · rw [depth_conclude, depth_weighed, depth_noted]
      · rfl
      · rw [ih, depth_branched, depth_weighed, depth_noted]

theorem depth_dispatchWith (keeps : KeepsDepth runScript) (host : Host) (line : String)
    (s : Session) : (dispatchWith host runScript line s).2.depth = s.depth := by
  rw [dispatchWith, depth_conveyed]
  exact depth_executeCommand keeps host _ line s

theorem depth_runLines {dispatch : String → Session → Reply × Session}
    (keeps : ∀ line s, (dispatch line s).2.depth = s.depth) (host : Host) (first : Bool)
    (lines : List String) (s : Session) :
    (runLines host dispatch first lines s).2.depth = s.depth := by
  induction lines generalizing first s with
  | nil => rfl
  | cons line rest ih =>
    have paused := depth_pauseBefore host first s
    rw [runLines]
    split
    next resumed broken => simpa only [broken] using paused
    next resumed going =>
      rw [going] at paused
      have ran := keeps line (echoed line resumed)
      rw [depth_echoed, paused] at ran
      split
      next after stopped => simpa only [stopped] using ran
      next report after done =>
        rw [done] at ran
        rw [ih, ran]

theorem depth_runScript (host : Host) (room : Nat) : KeepsDepth (Interpreter.runScript host room) := by
  induction room with
  | zero =>
    intro name s
    rfl
  | succ room ih =>
    intro name s
    have ran := depth_runLines (depth_dispatchWith ih host) host true (s.script name)
      (entered name s)
    rw [Interpreter.runScript]
    split
    · exact depth_finish name ran
    · rfl

/-! ## The room for scripts follows from their nesting -/

def AgreeAt (depth : Nat) (run run' : String → Session → Step Report) : Prop :=
  ∀ name s, s.depth = depth → run name s = run' name s

variable {run run' : String → Session → Step Report}

theorem call_congr (agree : AgreeAt s.depth run run') : call host run i s = call host run' i s := by
  by_cases starts : ∃ name, Starts i s name
  · obtain ⟨name, starts⟩ := starts
    rw [call_of_starts starts, call_of_starts starts, agree name s rfl]
  · rw [call_of_not_starts (not_exists.mp starts), call_of_not_starts (not_exists.mp starts)]

theorem executeCommand_congr (command : Command) (line : String)
    (agree : AgreeAt s.depth run run') :
    executeCommand host run command line s = executeCommand host run' command line s := by
  induction command generalizing line s with
  | blank => rfl
  | call i =>
    simp only [executeCommand, gate]
    rw [call_congr (s := noted line s) agree]
  | malformed refusal => rfl
  | conditional c body command ih =>
    simp only [executeCommand, gate]
    rw [ih (s := branched body (weighed c body (noted line s))) body agree]

theorem dispatchWith_congr (host : Host) (line : String) (agree : AgreeAt s.depth run run') :
    dispatchWith host run line s = dispatchWith host run' line s :=
  congrArg conveyed (executeCommand_congr _ line agree)

theorem runLines_congr (host : Host) {dispatch dispatch' : String → Session → Reply × Session}
    {depth : Nat}
    (agree : ∀ line s, s.depth = depth → dispatch line s = dispatch' line s)
    (keeps : ∀ line s, (dispatch line s).2.depth = s.depth) (first : Bool) (lines : List String)
    (here : s.depth = depth) :
    runLines host dispatch first lines s = runLines host dispatch' first lines s := by
  induction lines generalizing first s with
  | nil => rfl
  | cons line rest ih =>
    have paused := depth_pauseBefore host first s
    rw [runLines, runLines]
    split
    next resumed broken => rfl
    next resumed going =>
      rw [going, here] at paused
      have ran := keeps line (echoed line resumed)
      rw [← agree line (echoed line resumed) paused]
      split
      next after stopped => rfl
      next report after done =>
        rw [done] at ran
        exact ih false (ran.trans paused)

end Interpreter

namespace Session

variable {host : Host} {s t : Session}

theorem room_congr (same : t.depth = s.depth) : t.room host = s.room host := by
  simp only [room, same]

theorem room_deeper {room : Nat} (left : s.room host = room + 1) (deeper : t.depth = s.depth + 1) :
    t.room host = room := by
  unfold Session.room at *
  split at left <;> omega

theorem allowsScript_iff_room : host.allowsScript s.depth = true ↔ 0 < s.room host := by
  unfold Host.allowsScript room
  cases host.limit with
  | empty => simp
  | of limit =>
    simp only [decide_eq_true_eq]
    omega

end Session

namespace Interpreter

theorem runScript_of_room_le (host : Host) {room : Nat} {name : String} {s : Session}
    (enough : s.room host ≤ room) :
    runScript host room name s = runScript host (s.room host) name s := by
  -- Both sides run the lines one level deeper, where the room that is needed is one less.
  induction room generalizing name s with
  | zero => rw [Nat.le_zero.mp enough]
  | succ room ih =>
    cases here : s.room host with
    | zero =>
      have refused : ¬ host.allowsScript s.depth = true := by
        rw [Session.allowsScript_iff_room, here]
        exact Nat.lt_irrefl 0
      rw [runScript, runScript, if_neg refused]
    | succ below =>
      have agree (t : Session) (deeper : t.depth = s.depth + 1) :
          AgreeAt t.depth (runScript host room) (runScript host below) := by
        intro name u same
        have left := Session.room_deeper (t := u) here (same.trans deeper)
        rw [ih (by omega), left]
      have same := runLines_congr host (s := entered name s)
        (fun line t deeper => dispatchWith_congr host line (agree t deeper))
        (depth_dispatchWith (depth_runScript host room) host) true (s.script name) rfl
      rw [runScript, runScript, same]

end Interpreter

/-! ## The equations without room -/

namespace Session

variable (s : Session) (host : Host)

def runScript (name : String) : Step Report := Interpreter.runScript host (s.room host) name s

theorem execute_eq (line : String) :
    s.execute host line =
      Interpreter.executeCommand host (fun name s => s.runScript host name) (.ofLine line) line s := by
  apply Interpreter.executeCommand_congr
  intro name t same
  change Interpreter.runScript host (s.room host) name t = Interpreter.runScript host (t.room host) name t
  rw [room_congr same]

theorem dispatch_eq (line : String) :
    s.dispatch host line = Interpreter.conveyed (s.execute host line) := rfl

theorem depth_dispatch (line : String) : (s.dispatch host line).2.depth = s.depth :=
  Interpreter.depth_dispatchWith (Interpreter.depth_runScript host _) host line s

theorem runScript_of_not_allowed {name : String} (refused : host.allowsScript s.depth = false) :
    s.runScript host name = (.error host.scriptRefused, s) := by
  unfold runScript
  cases s.room host with
  | zero => rfl
  | succ room => simp [Interpreter.runScript, refused]

theorem runScript_of_allowed {name : String} (allowed : host.allowsScript s.depth = true) :
    s.runScript host name =
      Interpreter.finish name (Interpreter.runLines host (fun line s => s.dispatch host line) true
        (s.script name) (Interpreter.entered name s)) := by
  obtain ⟨room, here⟩ := Nat.exists_eq_add_of_lt (allowsScript_iff_room.mp allowed)
  rw [Nat.zero_add] at here
  have agree (line : String) (t : Session) (deeper : t.depth = s.depth + 1) :
      Interpreter.dispatchWith host (Interpreter.runScript host room) line t =
        t.dispatch host line := by
    rw [dispatch, room_deeper here deeper]
  have same := Interpreter.runLines_congr host agree
    (Interpreter.depth_dispatchWith (Interpreter.depth_runScript host room) host) true
    (s.script name) (Interpreter.depth_entered name s)
  rw [runScript, here, Interpreter.runScript, if_pos allowed, same]

def dispatchAll (s : Session) (host : Host) : List String → List Reply × Session
  | [] => ([], s)
  | line :: rest =>
    let (reply, t) := s.dispatch host line
    let (replies, u) := t.dispatchAll host rest
    (reply :: replies, u)

end Session

end ScriptShell
