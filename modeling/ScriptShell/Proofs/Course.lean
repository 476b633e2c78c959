import ScriptShell.Proofs.EditSession
import ScriptShell.Proofs.Persistence

namespace ScriptShell

def Session.records (s : Session) : Variables × Option String × Store × Option String :=
  (s.vars, s.editing, s.store, s.viewing)

namespace Session

variable {s t : Session}

theorem records_of_substance (same : s.substance = t.substance) : s.records = t.records := by
  change s.substance.records = t.substance.records
  rw [same]

theorem records_typeText (s : Session) (bytes : List UInt8) :
    (s.typeText bytes).records = s.records := by
  unfold typeText
  split <;> rfl

def notes (s : Session) : Variables × Option String := (s.vars, s.viewing)

theorem notes_of_frame (same : s.frame = t.frame) : s.notes = t.notes := by
  simp only [frame, Prod.mk.injEq] at same
  exact Prod.ext same.2.1 same.2.2.2.2.2

theorem vars_of_records (same : s.records = t.records) : s.vars = t.vars := congrArg Prod.fst same

theorem editing_of_records (same : s.records = t.records) : s.editing = t.editing :=
  congrArg (fun records => records.2.1) same

theorem store_of_records (same : s.records = t.records) : s.store = t.store :=
  congrArg (fun records => records.2.2.1) same

theorem viewing_of_records (same : s.records = t.records) : s.viewing = t.viewing :=
  congrArg (fun records => records.2.2.2) same

end Session

namespace Verb

/-- How a verb can leave the variables and the viewer, scripts apart. -/
inductive Touches (host : Host) (i : Invocation) (s : Session) :
    Verb → Variables × Option String → Prop where
  | nothing {verb : Verb} (idle : ∀ change, verb.change? host i s = some change →
      verb = .save ∨ change.result ≠ .ok ()) :
      Touches host i s verb s.notes
  | assigned {name word value : String}
      (parts : (Text.pieces '=' i.argumentText).map Text.trim = [name, word])
      (named : name ≠ "") (given : word ≠ "") (resolved : s.vars.resolve word = .ok value) :
      Touches host i s .var (s.vars.set (Text.upper name) value, s.viewing)
  | viewed (named : names s i.fileName = true) :
      Touches host i s .view (s.vars, some i.fileName)
  | removed : Touches host i s .rm (s.vars, if s.viewing = some i.fileName then none else s.viewing)
  | cleared (confirmed : i.arguments.head?.map Text.upper = some "YES") :
      Touches host i s .format (s.vars, none)

variable {host : Host} {i : Invocation} {s : Session}

theorem touches_idle {verb : Verb} (idle : verb.change? host i s = none) :
    Touches host i s verb s.notes := by
  apply Touches.nothing
  intro change made
  rw [idle] at made
  exact nomatch made

theorem touches_hidden {verb : Verb} {change : Store.Change} (name : Option String)
    (report : Report) (made : verb.change? host i s = some change)
    (hidden : Touches host i s verb
      (s.vars, match name with
        | none => none
        | some name => if s.viewing = some name then none else s.viewing)) :
    Touches host i s verb
      (followedBy (s.applyChange change) (·.hideFile name) report).2.notes := by
  unfold Session.applyChange
  cases written : change.result with
  | error failure =>
    -- The change could not be written, and the viewer was not reached.
    apply Touches.nothing
    intro other same
    obtain rfl := Option.some.inj (made.symm.trans same)
    simp [written]
  | ok _ =>
    cases name with
    | none => exact hidden
    | some name =>
      simp only [followedBy, Session.hideFile]
      split
      next viewed => simpa [viewed, Session.notes] using hidden
      next other => simpa [other, Session.notes] using hidden

theorem touches_perform {runScript : String → Session → Step Report}
    (scripts : ∀ name, (runScript name s).2 = s) (verb : Verb) :
    Touches host i s verb (verb.perform host runScript i s).2.notes := by
  cases verb with
  | help => exact touches_idle rfl
  | echo => exact touches_idle rfl
  | cls => exact touches_idle rfl
  | ls => exact touches_idle rfl
  | var =>
    rw [perform, session_reporting, setVariable]
    split
    next name word parts =>
      split
      · exact touches_idle rfl
      next given =>
        rw [not_or] at given
        split
        · exact touches_idle rfl
        next resolved => exact .assigned parts given.1 given.2 resolved
    · exact touches_idle rfl
  | view =>
    rw [perform, session_reporting, viewFile]
    split
    next named => exact .viewed named
    · exact touches_idle rfl
  | rm =>
    rw [perform, session_reporting, removeFile]
    split
    next named =>
      have made : change? host i s .rm = some (s.store.delete host.naming s.disk i.fileName) := by
        rw [change?, if_pos named]
      exact touches_hidden (some i.fileName) _ made .removed
    next missing => exact touches_idle (by rw [change?, if_neg missing])
  | edit =>
    rw [perform, session_reporting, editFile]
    split
    · cases opened : s.openEditor host i.fileName ((s.store.get? i.fileName).getD "") with
      | mk result t =>
        have after (report : Report) :
            (followedBy (result, t) (·.enterEdit i.fileName) report).2.notes = s.notes := by
          have same : t.notes = s.notes :=
            Session.notes_of_frame (Session.frame_of_openEditor opened)
          cases result with
          | ok _ => exact same
          | error stop => exact same
        rw [after]
        exact touches_idle rfl
    · exact touches_idle rfl
  | save =>
    have idle (change : Store.Change) (_ : change? host i s .save = some change) :
        Verb.save = .save ∨ change.result ≠ .ok () := .inl rfl
    rw [perform, session_reporting, saveFile]
    split
    · exact .nothing idle
    · split
      · exact .nothing idle
      · unfold Session.putFile Session.applyChange
        split
        · change Touches host i s .save (Session.closeEditor _).notes
          rw [Session.notes_of_frame (Session.frame_closeEditor _)]
          exact .nothing idle
        · exact .nothing idle
  | close =>
    rw [perform, session_reporting, closeFile]
    split
    · exact touches_idle rfl
    · change Touches host i s .close s.closeEditor.notes
      rw [Session.notes_of_frame s.frame_closeEditor]
      exact touches_idle rfl
  | run =>
    rw [perform, session_reporting, runFile]
    split
    · rw [scripts]
      exact touches_idle rfl
    · exact touches_idle rfl
  | format =>
    rw [perform, session_reporting, formatStore]
    split
    next confirmed => exact touches_hidden none _ (if_pos confirmed) (.cleared confirmed)
    next unconfirmed => exact touches_idle (by rw [change?, if_neg unconfirmed])

end Verb

namespace Interpreter

theorem touches_alone (host : Host) (i : Invocation) (s : Session) :
    (alone host i s).2 = s ∨
      ∃ verb, Verb.ofName? i.verb = some verb ∧
        Verb.Touches host i s verb (alone host i s).2.notes := by
  unfold alone call
  cases Verb.ofName? i.verb with
  | none => exact .inl rfl
  | some verb => exact .inr ⟨verb, rfl, Verb.touches_perform (fun _ => rfl) verb⟩

theorem store_alone_cases (host : Host) (i : Invocation) (s : Session) :
    (alone host i s).2.store = s.store ∨
      ∃ verb files, Verb.ofName? i.verb = some verb ∧
        (alone host i s).2.store = ⟨files, s.store.path⟩ ∧
        ((verb = .rm ∧ files = s.store.files.erase i.fileName) ∨
          (verb = .save ∧ ∃ name text, s.editing = some name ∧
            files = s.store.files.insert name text) ∨
          (verb = .format ∧ i.arguments.head?.map Text.upper = some "YES" ∧ files = .empty)) := by
  have holdings := holdings_alone host i s
  cases made : change? host i s with
  | none =>
    rw [made] at holdings
    exact .inl (congrArg Prod.fst holdings)
  | some change =>
    rw [made] at holdings
    obtain ⟨verb, found, made⟩ := Option.bind_eq_some_iff.mp made
    obtain ⟨files, rfl, outcome⟩ := Verb.change?_cases made
    refine .inr ⟨verb, files, found, congrArg Prod.fst holdings, ?_⟩
    obtain ⟨rm, -, erased⟩ | ⟨save, name, text, mode, -, put⟩ | format := outcome
    · exact .inl ⟨rm, erased⟩
    · exact .inr (.inl ⟨save, name, text, mode, put⟩)
    · exact .inr (.inr format)

end Interpreter

namespace Interpreter.Moment

inductive Proceeds (host : Host) : Moment → Moment → Prop where
  | goes {m n : Moment} (continues : Continues host m n) : Proceeds host m n
  | written {m : Moment} (bytes : List UInt8) (mode : m.session.editing ≠ none) :
      Proceeds host m { m with session := m.session.typeText bytes }

/-- The moment comes about in a session that begins as `s`. -/
def Arises (host : Host) (s : Session) (m : Moment) : Prop :=
  ∃ line, Relation.ReflTransGen (Proceeds host) (.start line s) m

variable {host : Host} {m n : Moment}

theorem Proceeds.same_or_called (proceeds : Proceeds host m n) :
    n.session.records = m.session.records ∨
      ∃ line i, m.control = .carry line ∧ Admits line m.session i ∧
        n.session.records = (alone host i (noted line m.session)).2.records := by
  cases proceeds with
  | goes continues =>
    cases continues with
    | next step =>
      rcases (passes_of_next step).same_or_called with same | ⟨line, i, carry, admits, rfl, -⟩
      · exact .inl (Session.records_of_substance same)
      · exact .inr ⟨line, i, carry, admits,
          Session.records_of_substance (Session.substance_conclude line _)⟩
    | typed line => exact .inl (Session.records_of_substance (Session.substance_conveyed _))
    | outside disk => exact .inl rfl
  | written bytes mode => exact .inl (m.session.records_typeText bytes)

theorem Proceeds.keeps {P : Session → Prop}
    (forgets : ∀ s t : Session, s.records = t.records → P s → P t)
    (keeps : ∀ line s i, Admits line s i → P s → P (alone host i s).2)
    (proceeds : Proceeds host m n) (holds : P m.session) : P n.session := by
  rcases proceeds.same_or_called with same | ⟨line, i, -, admits, same⟩
  · exact forgets _ _ same.symm holds
  · have noted : P (noted line m.session) := forgets m.session _ rfl holds
    exact forgets _ _ same.symm (keeps line _ i admits noted)

theorem Arises.keeps {s : Session} {P : Session → Prop}
    (forgets : ∀ s t : Session, s.records = t.records → P s → P t)
    (keeps : ∀ line s i, Admits line s i → P s → P (alone host i s).2)
    (arises : Arises host s m) (holds : P s) : P m.session := by
  obtain ⟨line, path⟩ := arises
  induction path with
  | refl => exact holds
  | tail _ last ih => exact last.keeps forgets keeps ih

theorem proceeds_dispatch (host : Host) (line next : String) (s : Session) :
    Relation.ReflTransGen (Proceeds host) (.start line s)
      (.start next (s.dispatch host line).2) := by
  have steps : Relation.ReflTransGen (Proceeds host) (.start line s)
      (answered [] (s.execute host line)) := by
    refine Relation.ReflTransGen.mono ?_ _ _ (leads_execute host [] line s)
    intro a b step
    exact .goes (.next step)
  exact steps.tail (.goes (.typed next))

theorem arises_dispatchAll (host : Host) (s : Session) (lines : List String) (next : String) :
    Arises host s (.start next (s.dispatchAll host lines).2) := by
  induction lines generalizing s with
  | nil => exact ⟨next, .refl⟩
  | cons line rest ih =>
    obtain ⟨first, path⟩ := ih (s.dispatch host line).2
    exact ⟨line, (proceeds_dispatch host line first s).trans path⟩

end Interpreter.Moment

end ScriptShell
