import ScriptShell.Proofs.Moment
import ScriptShell.Proofs.ScriptRun

namespace ScriptShell

/-! ## Replacing one file -/

namespace Table

variable {α : Type}

theorem filter_insertEntry (name : String) (value : α) (entries : List (String × α)) :
    (insertEntry name value entries).filter (fun entry => entry.1 ≠ name) =
      entries.filter fun entry => entry.1 ≠ name := by
  induction entries with
  | nil => simp [insertEntry]
  | cons entry rest ih =>
    rw [insertEntry]
    split
    next same => simp [same]
    next other =>
      simp only [ne_eq, decide_not, List.filter_cons] at ih ⊢
      rw [ih]

@[simp] theorem erase_insert (t : Table α) (name : String) (value : α) :
    (t.insert name value).erase name = t.erase name :=
  congrArg mk (filter_insertEntry name value t.entries)

@[simp] theorem get?_insert_self (t : Table α) (name : String) (value : α) :
    (t.insert name value).get? name = some value := by
  obtain ⟨entries⟩ := t
  change (insertEntry name value entries).lookup name = some value
  induction entries with
  | nil => simp [insertEntry]
  | cons entry rest ih =>
    rw [insertEntry]
    split
    · simp
    next other =>
      have skipped : (name == entry.1) = false := by simpa using Ne.symm other
      rw [List.lookup_cons, skipped]
      exact ih

end Table

/-! ## Saving -/

namespace Session

/-- The second session is still editing the file as the first one is, and no other file is changed. -/
structure StillEditing (file : String) (s t : Session) : Prop where
  mode : t.editing = some file
  vars : t.vars = s.vars
  viewing : t.viewing = s.viewing
  others : t.store.files.erase file = s.store.files.erase file
  editor : t.editor = s.editor
  scratch : t.scratch = s.scratch

structure Stores (file text : String) (s t : Session) : Prop where
  stored : t.store.get? file = some text
  others : t.store.files.erase file = s.store.files.erase file
  mode : t.editing = none
  editor : t.editor = .closed s.editor.surface
  scratch : t.scratch = s.scratch.without s.editor.temp
  vars : t.vars = s.vars
  viewing : t.viewing = s.viewing

variable {file text : String} {s t u : Session}

theorem StillEditing.congr (still : StillEditing file s t) (same : u.substance = t.substance) :
    StillEditing file s u := by
  have moved : StillEditing file s t.substance :=
    ⟨still.mode, still.vars, still.viewing, still.others, still.editor, still.scratch⟩
  rw [← same] at moved
  exact ⟨moved.mode, moved.vars, moved.viewing, moved.others, moved.editor, moved.scratch⟩

theorem StillEditing.trans (first : StillEditing file s t) (second : StillEditing file t u) :
    StillEditing file s u where
  mode := second.mode
  vars := second.vars.trans first.vars
  viewing := second.viewing.trans first.viewing
  others := second.others.trans first.others
  editor := second.editor.trans first.editor
  scratch := second.scratch.trans first.scratch

theorem StillEditing.held (still : StillEditing file s t) :
    t.editor.text t.scratch = s.editor.text s.scratch := by
  rw [still.editor, still.scratch]

theorem Stores.congr (stores : Stores file text s t) (same : u.substance = t.substance) :
    Stores file text s u := by
  have moved : Stores file text s t.substance :=
    ⟨stores.stored, stores.others, stores.mode, stores.editor, stores.scratch, stores.vars,
      stores.viewing⟩
  rw [← same] at moved
  exact ⟨moved.stored, moved.others, moved.mode, moved.editor, moved.scratch, moved.vars,
    moved.viewing⟩

theorem StillEditing.stores (still : StillEditing file s t) (stores : Stores file text t u) :
    Stores file text s u where
  stored := stores.stored
  others := stores.others.trans still.others
  mode := stores.mode
  editor := by rw [stores.editor, still.editor]
  scratch := by rw [stores.scratch, still.editor, still.scratch]
  vars := stores.vars.trans still.vars
  viewing := stores.viewing.trans still.viewing

theorem stores_ended (stored : s.store.get? file = some text) :
    Stores file text s s.closeEditor.leaveEdit := by
  have ended : Stores file text s s.closeEditor.leaveEdit.substance := by
    rw [substance_leaveEdit, substance_closeEditor]
    exact ⟨stored, rfl, rfl, rfl, rfl, rfl, rfl⟩
  exact ended.congr rfl

theorem saveFile_cases (host : Host) (mode : s.editing = some file) :
    (∃ failure t, Verb.saveFile host s = (.error (.failure failure), t) ∧ StillEditing file s t) ∨
      ∃ text t, s.editor.text s.scratch = .ok text ∧
        Verb.saveFile host s = (.ok (.success s!"File '{file}' saved."), t) ∧
        Stores file text s t := by
  unfold Verb.saveFile
  rw [mode]
  cases held : s.editor.text s.scratch with
  | error failure => exact .inl ⟨failure, s, rfl, ⟨mode, rfl, rfl, rfl, rfl, rfl⟩⟩
  | ok text =>
    simp only [putFile, applyChange]
    have store : (s.store.put host.naming s.disk file text).store =
        ⟨s.store.files.insert file text, s.store.path⟩ := rfl
    cases written : (s.store.put host.naming s.disk file text).result with
    | error failure =>
      exact .inl ⟨failure, _, rfl, ⟨mode, rfl, rfl, by simp [store], rfl, rfl⟩⟩
    | ok _ =>
      refine .inr ⟨text, _, rfl, rfl, ?_⟩
      have put : StillEditing file s { s with
          store := (s.store.put host.naming s.disk file text).store,
          disk := (s.store.put host.naming s.disk file text).disk,
          history := (s.store.put host.naming s.disk file text).store.flushed.reverse ++ s.history } :=
        ⟨mode, rfl, rfl, by simp [store], rfl, rfl⟩
      exact put.stores (stores_ended (s.store.files.get?_insert_self file text))

end Session

/-! ## Lines that come in while a file is being edited -/

def Reply.succeeds : Reply → Bool
  | .done (some report) => report.category = .success
  | _ => false

namespace Interpreter

open Session (StillEditing Stores)

variable {host : Host} {file line : String} {s : Session} {i : Invocation}

theorem isBarred_of_editing (mode : s.editing = some file) (verb : String) :
    isBarred verb s = !isEditorVerb verb := by
  simp [isBarred, Session.isEditing, mode]

theorem execute_of_editing (host : Host) (mode : s.editing = some file)
    (read : Invocation.ofWords? (Text.words line) = some i) (notSave : i.verb ≠ "SAVE")
    (notClose : i.verb ≠ "CLOSE") :
    s.execute host line = (.done (some gateReport), noted line s) := by
  apply execute_of_barred host read
  simp [isBarred_of_editing mode, isEditorVerb, notSave, notClose]

theorem save_cases (host : Host) (mode : s.editing = some file)
    (read : Invocation.ofWords? (Text.words line) = some i) (save : i.verb = "SAVE") :
    ((s.execute host line).1.succeeds = false ∧ StillEditing file s (s.execute host line).2) ∨
      ((s.execute host line).1.succeeds = true ∧
        ∃ text, s.editor.text s.scratch = .ok text ∧ Stores file text s (s.execute host line).2) := by
  have admits : Admits line s i := by
    refine ⟨read, ?_⟩
    rw [isBarred_of_editing mode, save]
    rfl
  have verb : Verb.ofName? i.verb = some .save := by
    rw [save]
    rfl
  have noted : StillEditing file s (noted line s) := ⟨mode, rfl, rfl, rfl, rfl, rfl⟩
  have executed : s.execute host line =
      conclude line (Verb.perform.reporting (Verb.saveFile host (Interpreter.noted line s))) := by
    rw [execute_of_call host admits (by simp [save]), call, verb]
    rfl
  rw [executed]
  rcases Session.saveFile_cases host noted.mode with
    ⟨failure, t, failed, still⟩ | ⟨text, t, held, saved, stores⟩
  · rw [failed]
    exact .inl ⟨rfl, (noted.trans still).congr (Session.substance_conclude line _)⟩
  · rw [saved]
    exact .inr ⟨rfl, text, held, noted.stores stores⟩

namespace Moment

/-- How a session goes on. What is being carried out takes its next step, the user types a line once
all is done, and the disk may be changed by others. -/
inductive Continues (host : Host) : Moment → Moment → Prop where
  | next {m n : Moment} (step : m.next host = some n) : Continues host m n
  | typed {reply : Reply} {s : Session} (line : String) :
      Continues host ⟨.answer reply, [], s⟩ (.start line (conveyed (reply, s)).2)
  | outside {m : Moment} (disk : Disk) :
      Continues host m { m with session := { m.session with disk := disk } }

def endsEditing (host : Host) (m : Moment) : Bool :=
  match m.control with
  | .carry line =>
    match Invocation.ofWords? (Text.words line) with
    | some i =>
      i.verb = "CLOSE" || (i.verb = "SAVE" && (m.session.execute host line).1.succeeds)
    | none => false
  | _ => false

def StaysEditing (host : Host) : Moment → Moment → Prop :=
  Relation.ReflTransGen fun m n => m.endsEditing host = false ∧ Continues host m n

variable {m n : Moment}

theorem Passes.stillEditing {s : Session} (passes : Passes host m n)
    (goes : m.endsEditing host = false) (still : StillEditing file s m.session) :
    StillEditing file s n.session := by
  rcases passes.same_or_called with same | ⟨line, i, carry, ⟨read, admitted⟩, rfl, executed⟩
  · exact still.congr same
  · -- Only SAVE and CLOSE are let through.
    rw [isBarred_of_editing still.mode] at admitted
    have verb : i.verb = "SAVE" ∨ i.verb = "CLOSE" := by
      simpa [isEditorVerb, or_iff_not_imp_left] using admitted
    simp only [endsEditing, carry, read, Bool.or_eq_false_iff, decide_eq_false_iff_not] at goes
    have save : i.verb = "SAVE" := verb.resolve_right goes.1
    rcases save_cases host still.mode read save with ⟨-, kept⟩ | ⟨succeeds, -⟩
    · rw [executed] at kept
      exact still.trans kept
    · simp [save, succeeds] at goes

theorem Continues.stillEditing {s : Session} (continues : Continues host m n)
    (goes : m.endsEditing host = false) (still : StillEditing file s m.session) :
    StillEditing file s n.session := by
  cases continues with
  | next step => exact (passes_of_next step).stillEditing goes still
  | typed line => exact still.congr (Session.substance_conveyed _)
  | outside disk =>
    exact ⟨still.mode, still.vars, still.viewing, still.others, still.editor, still.scratch⟩

theorem StaysEditing.stillEditing (stays : StaysEditing host m n)
    (mode : m.session.editing = some file) : StillEditing file m.session n.session := by
  induction stays with
  | refl => exact ⟨mode, rfl, rfl, rfl, rfl, rfl⟩
  | tail _ last ih => exact last.2.stillEditing last.1 ih

end Moment

end Interpreter

open Interpreter (Moment)

/-- While a file is being edited, and as long as it is neither closed nor saved, every other line is
turned away, be it typed or a line of a script. The mode, the variables, the viewer, the other files
and the text in the editor stay as they are, also where a SAVE has failed. The first SAVE that
succeeds stores that text, and only the file is changed by it. -/
theorem Session.edit_session_isolated (host : Host) (file text : String) (m n : Moment)
    (mode : m.session.editing = some file)
    (held : m.session.editor.text m.session.scratch = .ok text) (stays : m.StaysEditing host n) :
    StillEditing file m.session n.session ∧ n.session.editor.text n.session.scratch = .ok text ∧
    ∀ line i, Invocation.ofWords? (Text.words line) = some i →
      (i.verb ≠ "SAVE" → i.verb ≠ "CLOSE" →
        (n.session.dispatch host line).1 = .done (some Interpreter.gateReport) ∧
          StillEditing file m.session (n.session.dispatch host line).2) ∧
      (i.verb = "SAVE" → (n.session.dispatch host line).1.succeeds = false →
        StillEditing file m.session (n.session.dispatch host line).2) ∧
      (i.verb = "SAVE" → (n.session.dispatch host line).1.succeeds = true →
        Stores file text m.session (n.session.dispatch host line).2) := by
  have still := stays.stillEditing mode
  have heldStill : n.session.editor.text n.session.scratch = .ok text := still.held.trans held
  refine ⟨still, heldStill, ?_⟩
  intro line i read
  rw [dispatch_eq, Interpreter.conveyed_reply]
  refine ⟨?_, ?_, ?_⟩
  · intro notSave notClose
    rw [Interpreter.execute_of_editing host still.mode read notSave notClose]
    exact ⟨rfl, still.congr rfl⟩
  · intro save fails
    rcases Interpreter.save_cases host still.mode read save with ⟨-, kept⟩ | ⟨succeeds, -⟩
    · exact (still.trans kept).congr (substance_conveyed _)
    · exact absurd (fails.symm.trans succeeds) (by simp)
  · intro save succeeds
    rcases Interpreter.save_cases host still.mode read save with ⟨fails, -⟩ | ⟨-, saved, same, stores⟩
    · exact absurd (fails.symm.trans succeeds) (by simp)
    · cases heldStill.symm.trans same
      exact (still.stores stores).congr (substance_conveyed _)

def Session.drafting : Session :=
  let disk : Disk := ⟨[(⟨.above 0, ["store.json"]⟩, .directory)], [], none⟩
  let s := start ⟨.empty, some "store.json"⟩ disk .buffer
  (s.dispatch (.calm 3) "EDIT a.txt").2.typeText [72, 105]

theorem Session.edit_session_isolated_drafting :
    let m : Moment := ⟨.resume false, [⟨"S.ISH", ["SAVE"]⟩], drafting⟩
    m.session.editing = some "A.TXT" ∧ m.session.editor.text m.session.scratch = .ok "Hi" ∧
    ∃ n, m.StaysEditing (.calm 3) n ∧
      n.control = .answer (.done (some (.error ("An unexpected error occurred: " ++
        "[Errno 21] Is a directory: '/home/user/.iqsh-xxxxxxxx' -> 'store.json'")))) ∧
      n.session.editing = some "A.TXT" ∧
      (n.session.dispatch (.calm 3) "IF (1 === 1) \x7bSAVE\x7d").1 =
        .done (some Interpreter.gateReport) ∧
      Stores "A.TXT" "Hi" m.session (n.session.dispatch (.calm 3) "save").2 := by
  intro m
  let carried : Moment := ⟨.carry "SAVE", [⟨"S.ISH", []⟩], Interpreter.echoed "SAVE" drafting⟩
  let failed : Moment := .answered [⟨"S.ISH", []⟩] (carried.session.execute (.calm 3) "SAVE")
  let n : Moment := { failed with session := { failed.session with disk := .empty } }
  have mode : m.session.editing = some "A.TXT" := by decide +kernel
  have held : m.session.editor.text m.session.scratch = .ok "Hi" := by decide +kernel
  have resumed : m.next (.calm 3) = some carried := rfl
  have fails : carried.next (.calm 3) = some failed := by decide +kernel
  have stays : m.StaysEditing (.calm 3) n :=
    .head ⟨rfl, .next resumed⟩ (.head ⟨by decide +kernel, .next fails⟩
      (.single ⟨rfl, .outside .empty⟩))
  obtain ⟨still, -, lines⟩ := edit_session_isolated (.calm 3) "A.TXT" "Hi" m n mode held stays
  refine ⟨mode, held, n, stays, by decide +kernel, still.mode, ?_, ?_⟩
  · exact ((lines _ ⟨"IF", ["(1", "===", "1)", "\x7bSAVE\x7d"]⟩ (by decide +kernel)).1 (by decide)
      (by decide)).1
  · exact (lines _ ⟨"SAVE", []⟩ (by decide +kernel)).2.2 rfl (by decide +kernel)

end ScriptShell
