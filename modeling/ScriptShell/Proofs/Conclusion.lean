import ScriptShell.Proofs.AllOrNothing
import ScriptShell.Proofs.EmptySetting
import ScriptShell.Proofs.Stage

/-!
How a run of the program ends. Where its store can be opened it comes to a status that tells how its
line ended, with no temporary file left and no file being edited. Only a setting that was left empty
and input that is no text break it off.
-/

namespace ScriptShell.Program

open Interpreter (Moment)

/-! ## The line and the dialogue -/

/-- The stages of a run end in the session `final`, and the status tells how. -/
structure Concludes (host : Host) (o : Options) (input : Input) (s : Session) (status : Nat)
    (final : Session) : Prop where
  reached : Stage.Leads host (mannerOf o input) (firstStage o input s) (.over final)
  normal : final.editing = none
  clean : final.scratch.files = []
  interrupted : status = 130 ↔ ∃ line, lineOf o = some (.of line) ∧
    ∃ m n, Moment.Leads host (.start line s) m ∧ m.next host = some n ∧ m.Raises host n
  failed : status = 1 ↔ ∃ line, lineOf o = some (.of line) ∧
    ∃ report, (s.dispatch host line).1 = .done (some report) ∧ report.category = .error
  other : status ≠ 130 → status ≠ 1 → status = 0
  -- An edit that was not saved has changed nothing, in memory or on the disk.
  unsaved : ∀ a b c file, Stage.Leads host (mannerOf o input) (firstStage o input s) a →
    a.next host (mannerOf o input) = some b → a.session.editing = none →
    b.session.editing = some file → Stage.Unsaved host (mannerOf o input) file b c →
    c.session.holdings = a.session.holdings

variable {host : Host} {o : Options} {input : Input} {s : Session}

theorem interrupted_iff_raises (host : Host) (line : String) (s : Session) :
    (s.dispatch host line).1 = .interrupted ↔
      ∃ m n, Moment.Leads host (.start line s) m ∧ m.next host = some n ∧ m.Raises host n := by
  rw [Session.dispatch_eq, Interpreter.conveyed_reply]
  constructor
  · intro stopped
    exact Moment.raised_of_leads (Moment.leads_execute host [] line s) (congrArg _ stopped)
  · rintro ⟨m, n, leads, step, raises⟩
    have answer := ((Moment.passes_of_next step).raises_iff (raises.going step)).1.mp raises
    rw [Moment.execute_of_interrupted (leads.tail step) answer]

theorem tidy_firstStage (o : Options) (input : Input) (tidy : s.Tidy) :
    (firstStage o input s).session.Tidy := by
  unfold firstStage
  split
  · exact tidy
  · split
    · exact tidy
    · exact (Stage.settles_proceed (.dialogue _) _ s).tidy tidy

theorem pauses_firstStage (o : Options) (input : Input) (s : Session) :
    (firstStage o input s).session.pauses = s.pauses := by
  unfold firstStage
  split
  · rfl
  · split
    · rfl
    · exact Stage.pauses_proceed (.dialogue _) _ s

def statusOf : Reply → Nat
  | .interrupted => 130
  | .done (some report) => if report.category = .error then 1 else 0
  | .done none => 0

theorem statusOf_eq_interrupted_iff (reply : Reply) : statusOf reply = 130 ↔ reply = .interrupted := by
  unfold statusOf
  split
  · simp
  · split <;> simp
  · simp

theorem statusOf_eq_failed_iff (reply : Reply) :
    statusOf reply = 1 ↔ ∃ report, reply = .done (some report) ∧ report.category = .error := by
  unfold statusOf
  split
  · simp
  · simp
  · simp

theorem statusOf_eq_zero {reply : Reply} (going : statusOf reply ≠ 130) (fine : statusOf reply ≠ 1) :
    statusOf reply = 0 := by
  cases reply with
  | interrupted => exact absurd rfl going
  | done report =>
    cases report with
    | none => rfl
    | some report =>
      by_cases error : report.category = .error
      · exact absurd (if_pos error) fine
      · exact if_neg error

theorem status_runLine (host : Host) (line : String) (s : Session) :
    (runLine host line s).1 = statusOf (s.dispatch host line).1 := by
  unfold runLine
  split <;> simp [*, statusOf]

theorem editing_runLine (host : Host) (line : String) (s : Session) :
    (runLine host line s).2.editing = none := by
  unfold runLine
  split <;> exact Session.editing_close _

theorem runDialogue_of_whole (host : Host) (o : Options) (whole : input.torn = none) (s : Session) :
    (runDialogue host o input s).1 = .finished 0 ∧
      (runDialogue host o input s).2.editing = none := by
  rw [runDialogue, whole]
  refine ⟨rfl, ?_⟩
  change (Session.interact _ host prompt _).editing = none
  rw [interact_eq]
  exact Session.editing_close _

theorem clean_of_leads {final : Session} (tidy : s.Tidy)
    (reached : Stage.Leads host (mannerOf o input) (firstStage o input s) (.over final))
    (normal : final.editing = none) : final.scratch.files = [] := by
  have there := reached.tidy (tidy_firstStage o input tidy)
  exact there.files_eq_nil normal

theorem concludes_runLine (tidy : s.Tidy) (host : Host) {line : String}
    (found : lineOf o = some (.of line)) (input : Input) :
    Concludes host o input s (runLine host line s).1 (runLine host line s).2 := by
  have reached := leads_runLine host found input s
  have normal := editing_runLine host line s
  have alone : ∀ next, lineOf o = some (.of next) ↔ next = line := by
    intro next
    rw [found]
    simp [eq_comm]
  refine
    { reached := reached
      normal := normal
      clean := clean_of_leads tidy reached normal
      interrupted := ?_
      failed := ?_
      other := ?_
      unsaved := fun _ _ _ _ _ => Stage.holdings_of_edit }
  · simp only [alone, exists_eq_left]
    rw [status_runLine, statusOf_eq_interrupted_iff, interrupted_iff_raises]
  · simp only [alone, exists_eq_left]
    rw [status_runLine, statusOf_eq_failed_iff]
  · rw [status_runLine]
    exact statusOf_eq_zero

theorem concludes_runDialogue (tidy : s.Tidy) (host : Host) (free : lineOf o = none)
    (whole : input.torn = none) : Concludes host o input s 0 (runDialogue host o input s).2 := by
  have reached := leads_runDialogue host free input s
  have normal := (runDialogue_of_whole host o whole s).2
  exact
    { reached := reached
      normal := normal
      clean := clean_of_leads tidy reached normal
      interrupted := by simp [free]
      failed := by simp [free]
      other := by simp
      unsaved := fun _ _ _ _ _ => Stage.holdings_of_edit }

/-! ## Opening the store -/

structure Opens (naming : Naming) (o : Options) (disk : Disk) (store : Store)
    (opened : Store.Opened) : Prop where
  found : openStore naming o disk = .ok opened
  result : opened.result = .ok store

/-- A setting is empty that a run comes to need, where it breaks off so. -/
inductive Lacks (naming : Naming) (o : Options) (disk : Disk) : Crash → Prop where
  | store (kept : o.memory = false) (empty : o.store = .empty) : Lacks naming o disk .emptyStore
  | delay {store : Store} {opened : Store.Opened} (opens : Opens naming o disk store opened)
      (empty : o.delay = .empty) : Lacks naming o disk .emptyDelay
  | command {store : Store} {opened : Store.Opened} (opens : Opens naming o disk store opened)
      (delay : o.delay ≠ .empty) (empty : o.command = some .empty) : Lacks naming o disk .emptyCommand

/-- The store has a name or a text with half a character in it, or the run comes to a pause and the
delay cannot be slept. -/
inductive Strays (surroundings : Surroundings) (request : Request) (o : Options) (disk : Disk) :
    Untold → Prop where
  | store {path : String} (kept : o.memory = false) (named : o.store = .of path)
      (unpaired : (Store.openAt surroundings.naming path disk).result = .error .unpaired) :
      Strays surroundings request o disk .notText
  | pause {store : Store} {opened : Store.Opened} {delay : Number.Binary64}
      (opens : Opens surroundings.naming o disk store opened) (set : o.delay = .of delay)
      (command : o.command ≠ some .empty) (tooLong : surroundings.sleeps delay = false)
      (pauses : Stage.Pauses (hostOf surroundings o delay) (mannerOf o request.input)
        (firstStage o request.input (begin request store opened))) :
      Strays surroundings request o disk .oversleep

/-- A setting is lacking, or the input of a dialogue goes over into bytes that are no text. -/
inductive Breaks (surroundings : Surroundings) (request : Request) (o : Options) (disk : Disk) :
    Crash → Prop where
  | lacking {crash : Crash} (lacks : Lacks surroundings.naming o disk crash) :
      Breaks surroundings request o disk crash
  | torn {store : Store} {opened : Store.Opened} {failure : Text.Utf8.Failure}
      (opens : Opens surroundings.naming o disk store opened) (delay : o.delay ≠ .empty)
      (dialogue : lineOf o = none) (torn : request.input.torn = some failure)
      (slept : ¬ Strays surroundings request o disk .oversleep) :
      Breaks surroundings request o disk (.tornInput failure)

variable {naming : Naming} {disk : Disk} {path : String} {failure : Failure} {store : Store}
  {opened : Store.Opened}

theorem openStore_of_path (kept : o.memory = false) (named : o.store = .of path) :
    openStore naming o disk = .ok (Store.openAt naming path disk) := by
  simp [openStore, kept, named]

variable {surroundings : Surroundings} {request : Request}

theorem lineOf_eq_empty_iff (o : Options) : lineOf o = some .empty ↔ o.command = some .empty := by
  unfold lineOf
  cases o.command with
  | some command => rfl
  | none => cases o.script <;> simp

theorem runWith_of_unnamed (kept : o.memory = false) (empty : o.store = .empty) :
    runWith surroundings request o disk =
      .ok ⟨.crashed .emptyStore, delayOf o, [], disk, .empty⟩ := by
  simp [runWith, openStore, kept, empty]

theorem runWith_of_unpaired (kept : o.memory = false) (named : o.store = .of path)
    (unpaired : (Store.openAt surroundings.naming path disk).result = .error .unpaired) :
    runWith surroundings request o disk = .error .notText := by
  simp only [runWith, openStore_of_path kept named, unpaired]

theorem runWith_of_opens (opens : Opens surroundings.naming o disk store opened) :
    let out := runSession surroundings request o (begin request store opened)
    runWith surroundings request o disk =
      if oversleeps surroundings o out.2 then .error .oversleep
      else .ok ⟨out.1, delayOf o, (consoleOf surroundings request o).renderAll out.2.events,
        out.2.disk, out.2.scratch⟩ := by
  simp only [runWith, opens.found, opens.result]

theorem tidy_begin (request : Request) (store : Store) (opened : Store.Opened) :
    (begin request store opened).Tidy := ⟨fun _ => rfl, rfl⟩

theorem not_oversleeps (started : s.pauses = 0) : oversleeps surroundings o s = false := by
  simp [oversleeps, started]

theorem oversleeps_iff {delay : Number.Binary64} {final : Session} (set : o.delay = .of delay)
    (started : s.pauses = 0)
    (ends : Stage.Leads host (mannerOf o input) (firstStage o input s) (.over final)) :
    oversleeps surroundings o final = true ↔ surroundings.sleeps delay = false ∧
      Stage.Pauses host (mannerOf o input) (firstStage o input s) := by
  rw [← Stage.pauses_lt_iff ends, pauses_firstStage, started]
  simp [oversleeps, delayOf, set, Nat.pos_iff_ne_zero, and_comm]

theorem runSession_cases (surroundings : Surroundings) (request : Request)
    {delay : Number.Binary64} (set : o.delay = .of delay) (command : o.command ≠ some .empty)
    (tidy : s.Tidy) :
    let out := runSession surroundings request o s
    let host := hostOf surroundings o delay
    Stage.Leads host (mannerOf o request.input) (firstStage o request.input s) (.over out.2) ∧
      ((∃ failure, lineOf o = none ∧ request.input.torn = some failure ∧
          out.1 = .crashed (.tornInput failure)) ∨
        ∃ status, out.1 = .finished status ∧ Concludes host o request.input s status out.2) := by
  intro out host
  cases found : lineOf o with
  | none =>
    have ran : out = runDialogue host o request.input s := by
      simp only [out, runSession, set, found, host]
    rw [ran]
    refine ⟨leads_runDialogue host found request.input s, ?_⟩
    cases whole : request.input.torn with
    | none =>
      exact .inr ⟨0, (runDialogue_of_whole host o whole s).1, concludes_runDialogue tidy host found whole⟩
    | some failure => exact .inl ⟨failure, rfl, rfl, by rw [runDialogue, whole]⟩
  | some line =>
    cases line with
    | empty => exact absurd ((lineOf_eq_empty_iff o).mp found) command
    | of line =>
      have ran : out = (.finished (runLine host line s).1, (runLine host line s).2) := by
        simp only [out, runSession, set, found, host]
      rw [ran]
      exact ⟨leads_runLine host found request.input s,
        .inr ⟨_, rfl, concludes_runLine tidy host found request.input⟩⟩

theorem Lacks.ending {crash : Crash} (lacks : Lacks surroundings.naming o disk crash)
    (request : Request) :
    (runWith surroundings request o disk).map Outcome.ending = .ok (.crashed crash) := by
  cases lacks with
  | store kept empty =>
    rw [runWith_of_unnamed kept empty]
    rfl
  | @delay store opened opens empty =>
    have ran : runSession surroundings request o (begin request store opened) =
        (.crashed .emptyDelay, begin request store opened) := by rw [runSession, empty]
    rw [runWith_of_opens opens, ran, not_oversleeps rfl]
    rfl
  | @command store opened opens delay empty =>
    have ran : runSession surroundings request o (begin request store opened) =
        (.crashed .emptyCommand, begin request store opened) := by
      rw [runSession, (lineOf_eq_empty_iff o).mpr empty]
      cases set : o.delay with
      | empty => exact absurd set delay
      | of delay => rfl
    rw [runWith_of_opens opens, ran, not_oversleeps rfl]
    rfl

theorem Strays.runWith_eq {untold : Untold} (strays : Strays surroundings request o disk untold) :
    runWith surroundings request o disk = .error untold := by
  cases strays with
  | store kept named unpaired => exact runWith_of_unpaired kept named unpaired
  | @pause store opened delay opens set command tooLong pauses =>
    have tidy := tidy_begin request store opened
    have ends := (runSession_cases surroundings request set command tidy).1
    have overslept := (oversleeps_iff set rfl ends).mpr ⟨tooLong, pauses⟩
    rw [runWith_of_opens opens, if_pos overslept]

theorem oversleeps_iff_strays {delay : Number.Binary64}
    (opens : Opens surroundings.naming o disk store opened) (set : o.delay = .of delay)
    (command : o.command ≠ some .empty) :
    oversleeps surroundings o (runSession surroundings request o (begin request store opened)).2 =
      true ↔ Strays surroundings request o disk .oversleep := by
  have tidy := tidy_begin request store opened
  have ends := (runSession_cases surroundings request set command tidy).1
  constructor
  · intro overslept
    obtain ⟨tooLong, pauses⟩ := (oversleeps_iff set rfl ends).mp overslept
    exact .pause opens set command tooLong pauses
  · intro strays
    by_contra awake
    have strayed := strays.runWith_eq
    rw [runWith_of_opens opens, if_neg awake] at strayed
    contradiction

theorem Breaks.ending {crash : Crash} (breaks : Breaks surroundings request o disk crash) :
    (runWith surroundings request o disk).map Outcome.ending = .ok (.crashed crash) := by
  cases breaks with
  | lacking lacks => exact lacks.ending request
  | @torn store opened failure opens delay dialogue torn slept =>
    cases set : o.delay with
    | empty => exact absurd set delay
    | of delay =>
      have command : o.command ≠ some .empty := by
        rw [ne_eq, ← lineOf_eq_empty_iff, dialogue]
        simp
      have awake := (oversleeps_iff_strays opens set command).not.mpr slept
      rw [runWith_of_opens opens, if_neg awake, runSession, set, dialogue]
      simp only [runDialogue, torn]
      rfl

end ScriptShell.Program
