import ScriptShell.Proofs.Course
import ScriptShell.Proofs.FailedLine
import ScriptShell.Proofs.FileNames
import ScriptShell.Proofs.Stage

namespace ScriptShell

def Session.ViewsStored (s : Session) : Prop := ∀ name, s.viewing = some name → name ∈ s.store.list

theorem Session.ViewsStored.congr {s t : Session} (same : s.records = t.records)
    (views : s.ViewsStored) : t.ViewsStored := by
  intro name viewing
  rw [← store_of_records same]
  exact views name ((viewing_of_records same).trans viewing)

theorem Verb.mem_list_of_names {s : Session} {name : String} (named : names s name = true) :
    name ∈ s.store.list := by
  simp only [names, Bool.and_eq_true] at named
  exact Table.mem_names_iff.mpr (Option.isSome_iff_exists.mp named.2)

namespace Verb

variable {host : Host} {i : Invocation} {s : Session} {verb : Verb}
  {notes : Variables × Option String}

theorem Touches.hidden {name : String} (touches : Touches host i s verb notes)
    (shown : s.viewing = some name) (gone : notes.2 = none) :
    (verb = .rm ∧ i.fileName = name) ∨
      (verb = .format ∧ i.arguments.head?.map Text.upper = some "YES") := by
  cases touches with
  | nothing idle => exact nomatch shown.symm.trans gone
  | assigned parts named given resolved => exact nomatch shown.symm.trans gone
  | viewed named => exact nomatch gone
  | removed =>
    by_cases here : s.viewing = some i.fileName
    · exact .inl ⟨rfl, Option.some.inj (here.symm.trans shown)⟩
    · rw [if_neg here] at gone
      exact nomatch shown.symm.trans gone
  | cleared confirmed => exact .inr ⟨rfl, confirmed⟩

theorem Touches.entered {name : String} (touches : Touches host i s verb notes)
    (other : s.viewing ≠ some name) (shown : notes.2 = some name) :
    verb = .view ∧ i.fileName = name ∧ names s name = true := by
  cases touches with
  | nothing idle => exact absurd shown other
  | assigned parts named given resolved => exact absurd shown other
  | viewed named =>
    obtain rfl := Option.some.inj shown
    exact ⟨rfl, rfl, named⟩
  | removed =>
    split at shown
    · exact nomatch shown
    · exact absurd shown other
  | cleared confirmed => exact nomatch shown

theorem Touches.kept {change : Store.Change} {name : String}
    (touches : Touches host i s verb notes) (made : verb.change? host i s = some change)
    (written : change.result = .ok ()) (views : s.ViewsStored) (shown : notes.2 = some name) :
    name ∈ change.store.list := by
  obtain ⟨files, rfl, ⟨rfl, -, rfl⟩ | ⟨rfl, file, text, -, -, rfl⟩ | ⟨rfl, -, rfl⟩⟩ :=
    change?_cases made
  · change name ∈ (s.store.files.erase i.fileName).names
    -- The removal could be written, so the viewer was told of it.
    cases touches with
    | nothing idle => exact absurd written ((idle _ made).resolve_left nofun)
    | removed =>
      split at shown
      · exact nomatch shown
      next other =>
        have apart : name ≠ i.fileName := by
          rintro rfl
          exact other shown
        rw [Table.names_erase, List.mem_filter]
        exact ⟨views name shown, by simpa using apart⟩
  · change name ∈ (s.store.files.insert file text).names
    cases touches with
    | nothing idle => exact (Table.mem_names_insertEntry _ name).mpr (.inr (views name shown))
  · cases touches with
    | nothing idle => exact absurd written ((idle _ made).resolve_left nofun)
    | cleared confirmed => exact nomatch shown

end Verb

namespace Interpreter

variable {host : Host} {i : Invocation} {s : Session}

theorem viewsStored_alone
    (written : ∀ change, change? host i s = some change → change.result = .ok ())
    (views : s.ViewsStored) : (alone host i s).2.ViewsStored := by
  obtain same | ⟨verb, found, touches⟩ := touches_alone host i s
  · rwa [same]
  · have holdings := holdings_alone host i s
    have change : change? host i s = verb.change? host i s := by
      rw [change?, found]
      rfl
    rw [change] at holdings written
    intro name shown
    cases made : verb.change? host i s with
    | none =>
      rw [made] at holdings
      rw [show (alone host i s).2.store = s.store from congrArg Prod.fst holdings]
      by_cases old : s.viewing = some name
      · exact views name old
      · exact Verb.mem_list_of_names (touches.entered old shown).2.2
    | some change =>
      rw [made] at holdings
      rw [show (alone host i s).2.store = change.store from congrArg Prod.fst holdings]
      exact touches.kept made (written change made) views shown

end Interpreter

namespace Interpreter.Moment

variable {host : Host} {m n : Moment} {s : Session}

/-- The moment comes about in a session that begins as `s`, and up to it no change of the store
failed to be written. -/
def ArisesWritten (host : Host) (s : Session) (m : Moment) : Prop :=
  ∃ line, Relation.ReflTransGen (fun m n => m.failsToWrite host = false ∧ Proceeds host m n)
    (.start line s) m

theorem Proceeds.viewsStored (proceeds : Proceeds host m n) (written : m.failsToWrite host = false)
    (views : m.session.ViewsStored) : n.session.ViewsStored := by
  rcases proceeds.same_or_called with same | ⟨line, i, carry, admits, same⟩
  · exact views.congr same.symm
  · refine Session.ViewsStored.congr same.symm (viewsStored_alone ?_ views)
    intro change made
    exact result_of_written carry admits written made

theorem ArisesWritten.viewsStored (arises : ArisesWritten host s m) (views : s.ViewsStored) :
    m.session.ViewsStored := by
  obtain ⟨line, path⟩ := arises
  induction path with
  | refl => exact views
  | tail _ last ih => exact last.2.viewsStored last.1 ih

theorem Proceeds.viewing_same_or_touched (proceeds : Proceeds host m n) :
    n.session.viewing = m.session.viewing ∨
      ∃ line i verb vars, m.control = .carry line ∧ Admits line m.session i ∧ i.verb = verb.name ∧
        Verb.Touches host i (noted line m.session) verb (vars, n.session.viewing) := by
  rcases proceeds.same_or_called with same | ⟨line, i, carry, admits, same⟩
  · exact .inl (Session.viewing_of_records same)
  · rw [Session.viewing_of_records same]
    obtain kept | ⟨verb, found, touches⟩ := touches_alone host i (noted line m.session)
    · rw [kept]
      exact .inl rfl
    · exact .inr ⟨line, i, verb, _, carry, admits, (Verb.name_of_ofName? found).symm, touches⟩

theorem failsToWrite_inMemory (memory : m.session.store.path = none) :
    m.failsToWrite host = false := by
  unfold failsToWrite
  split
  next line carry =>
    split
    next i read =>
      rw [Bool.and_eq_false_iff]
      refine .inr ?_
      cases made : change? host i m.session with
      | none => rfl
      | some change =>
        obtain ⟨verb, -, made⟩ := Option.bind_eq_some_iff.mp made
        simp [Verb.change?_inMemory memory made, Except.isOk, Except.toBool]
    · rfl
  · rfl

theorem Proceeds.path (proceeds : Proceeds host m n) :
    n.session.store.path = m.session.store.path := by
  rcases proceeds.same_or_called with same | ⟨line, i, -, -, same⟩
  · rw [Session.store_of_records same]
  · rw [Session.store_of_records same]
    obtain kept | ⟨-, files, -, store, -⟩ := store_alone_cases host i (noted line m.session)
    · rw [kept]
      rfl
    · rw [store]
      rfl

theorem Arises.written (arises : Arises host s m) (memory : s.store.path = none) :
    ArisesWritten host s m := by
  obtain ⟨line, path⟩ := arises
  refine ⟨line, ?_⟩
  -- That the store has no document is carried along, for no write to fail at the next step.
  suffices both : Relation.ReflTransGen (fun m n => m.failsToWrite host = false ∧ Proceeds host m n)
      (.start line s) m ∧ m.session.store.path = none from both.1
  induction path with
  | refl => exact ⟨.refl, memory⟩
  | tail _ last ih =>
    obtain ⟨before, memory⟩ := ih
    exact ⟨before.tail ⟨failsToWrite_inMemory memory, last⟩, last.path.trans memory⟩

end Interpreter.Moment

namespace Session

open Interpreter (Moment Admits)

/-- As long as no change of the store fails to be written, the viewer shows a file of the store or
nothing. A file leaves the viewer for nothing only by RM of that very file or by FORMAT YES, and it
comes in only by VIEW. -/
theorem viewer_shows_stored_files (host : Host) (store : Store) (disk : Disk) (surface : Surface)
    (m : Moment) (arises : Moment.ArisesWritten host (start store disk surface) m) :
    (m.session.viewing = none ∨ ∃ name ∈ m.session.store.list, m.session.viewing = some name) ∧
    ∀ n name, Moment.Proceeds host m n →
      (m.session.viewing = some name → n.session.viewing = none →
        ∃ line i, m.control = .carry line ∧ Admits line m.session i ∧
          ((i.verb = "RM" ∧ i.fileName = name) ∨
            (i.verb = "FORMAT" ∧ i.arguments.head?.map Text.upper = some "YES"))) ∧
      (m.session.viewing ≠ some name → n.session.viewing = some name →
        ∃ line i, m.control = .carry line ∧ Admits line m.session i ∧
          i.verb = "VIEW" ∧ i.fileName = name) := by
  constructor
  · have views := arises.viewsStored nofun
    cases viewing : m.session.viewing with
    | none => exact .inl rfl
    | some name => exact .inr ⟨name, views name viewing, rfl⟩
  · intro n name proceeds
    rcases proceeds.viewing_same_or_touched with
      same | ⟨line, i, verb, vars, carry, admits, verbName, touches⟩
    · rw [same]
      constructor
      · intro shown gone
        exact nomatch shown.symm.trans gone
      · intro other shown
        exact absurd shown other
    · constructor
      · intro shown gone
        refine ⟨line, i, carry, admits, ?_⟩
        rcases touches.hidden shown gone with ⟨rfl, file⟩ | ⟨rfl, confirmed⟩
        · exact .inl ⟨verbName, file⟩
        · exact .inr ⟨verbName, confirmed⟩
      · intro other shown
        obtain ⟨rfl, file, -⟩ := touches.entered other shown
        exact ⟨line, i, carry, admits, verbName, file⟩

theorem viewer_shows_stored_files_removed :
    let s := start (.inMemory ⟨[("S.ISH", "RM a b.txt"), ("A B.TXT", "text")]⟩) .empty .buffer
    let t := (s.dispatch (.calm 3) "VIEW a b.txt").2
    let m : Moment := ⟨.carry "RM a b.txt", [⟨"S.ISH", []⟩], Interpreter.echoed "RM a b.txt"
      (Interpreter.entered "S.ISH" (Interpreter.noted "RUN s.ish" t))⟩
    Moment.ArisesWritten (.calm 3) s m ∧ m.session.viewing = some "A B.TXT" ∧
    "A B.TXT" ∈ m.session.store.list ∧
    ∃ n, m.next (.calm 3) = some n ∧ n.session.viewing = none ∧
      ∃ line i, m.control = .carry line ∧ Admits line m.session i ∧
        ((i.verb = "RM" ∧ i.fileName = "A B.TXT") ∨
          (i.verb = "FORMAT" ∧ i.arguments.head?.map Text.upper = some "YES")) := by
  intro s t m
  let running : Moment := ⟨.resume true, [⟨"S.ISH", ["RM a b.txt"]⟩],
    Interpreter.entered "S.ISH" (Interpreter.noted "RUN s.ish" t)⟩
  have starts : (Moment.start "RUN s.ish" t).next (.calm 3) = some running := by decide +kernel
  have resumes : running.next (.calm 3) = some m := rfl
  have arises : Moment.Arises (.calm 3) s m :=
    ⟨_, ((Moment.proceeds_dispatch (.calm 3) "VIEW a b.txt" "RUN s.ish" s).tail
      (.goes (.next starts))).tail (.goes (.next resumes))⟩
  have written := arises.written rfl
  have shown : m.session.viewing = some "A B.TXT" := by decide +kernel
  obtain ⟨n, step, gone⟩ : ∃ n, m.next (.calm 3) = some n ∧ n.session.viewing = none :=
    ⟨_, rfl, by decide +kernel⟩
  obtain ⟨stored, changes⟩ :=
    viewer_shows_stored_files (.calm 3) _ .empty .buffer m written
  refine ⟨written, shown, ?_, n, step, gone,
    (changes n "A B.TXT" (.goes (.next step))).1 shown gone⟩
  rcases stored with none | ⟨name, listed, viewing⟩
  · exact nomatch shown.symm.trans none
  · cases shown.symm.trans viewing
    exact listed

end Session

end ScriptShell
