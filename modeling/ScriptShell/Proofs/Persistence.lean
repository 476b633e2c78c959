import ScriptShell.Proofs.Document
import ScriptShell.Proofs.Reentry
import ScriptShell.Proofs.Replace

/-!
A store that is kept in a document is there again when the document is opened. Every change of a
store writes the whole document, and all names that come into a store are in upper case, as the
reader makes them, so what is read is what the session holds.
-/

namespace ScriptShell

/-! ## The document of a store -/

namespace Store

structure Saved (store : Store) (path : String) (disk : Disk) : Prop where
  kept : store.path = some path
  canonical : store.files.Canonical
  document : load disk path = .ok (some store.files)

variable {naming : Naming} {path : String} {store : Store} {disk : Disk}

theorem hasNull_of_load {found : Option (Table String)} (loaded : load disk path = .ok found) :
    Disk.hasNull path = false := by
  cases null : Disk.hasNull path with
  | false => rfl
  | true => simp [load, Disk.read, Disk.find, null] at loaded

theorem flush_cases (naming : Naming) (kept : store.path = some path) (disk : Disk) :
    (∃ failure, store.flush naming disk = (.error failure, disk)) ∨
      ∃ p, disk.target path = .ok p ∧ store.flush naming disk =
        (.ok (), disk.put p (.file (Text.Utf8.encode (Json.write store.files)))) := by
  rw [flush, kept]
  simp only
  obtain ⟨failure, replaced⟩ | ⟨p, found, replaced⟩ :=
    disk.replace_cases naming path (Text.Utf8.encode (Json.write store.files))
  · rw [replaced]
    exact .inl ⟨_, rfl⟩
  · rw [replaced]
    exact .inr ⟨p, found, rfl⟩

theorem flush_ok (kept : store.path = some path) (written : (store.flush naming disk).1 = .ok ()) :
    ∃ p, disk.target path = .ok p ∧ (store.flush naming disk).2 =
      disk.put p (.file (Text.Utf8.encode (Json.write store.files))) := by
  obtain ⟨failure, failed⟩ | ⟨p, found, same⟩ := flush_cases naming kept disk
  · rw [failed] at written
    contradiction
  · exact ⟨p, found, congrArg Prod.snd same⟩

theorem flush_of_replaceable (kept : store.path = some path)
    (able : disk.Replaceable naming path) : (store.flush naming disk).1 = .ok () := by
  have replaced := able.replace (Text.Utf8.encode (Json.write store.files))
  rw [flush, kept]
  simp only
  cases written : disk.replace naming path (Text.Utf8.encode (Json.write store.files)) with
  | mk result after =>
    rw [written] at replaced
    cases replaced
    rfl

theorem commit_eq (naming : Naming) (store : Store) (disk : Disk) :
    commit naming store disk =
      ⟨store, (store.flush naming disk).2, (store.flush naming disk).1⟩ := rfl

theorem saved_of_flush (noNull : Disk.hasNull path = false) (kept : store.path = some path)
    (canonical : store.files.Canonical) (written : (store.flush naming disk).1 = .ok ()) :
    store.Saved path (store.flush naming disk).2 := by
  obtain ⟨p, found, after⟩ := flush_ok kept written
  refine ⟨kept, canonical, load_of_read canonical ?_⟩
  rw [after]
  exact Disk.read_put noNull found

theorem canonical_of_load {files : Table String} (loaded : load disk path = .ok (some files)) :
    files.Canonical := by
  unfold load at loaded
  split at loaded
  · cases loaded
  · contradiction
  · split at loaded
    · contradiction
    · split at loaded
      · contradiction
      · split at loaded
        next files held =>
          cases loaded
          exact canonical_filesOf held
        · contradiction
      · contradiction

theorem saved_of_openAt (opened : (openAt naming path disk).result = .ok store) :
    store.Saved path (openAt naming path disk).disk := by
  cases loaded : load disk path with
  | error failure =>
    rw [openAt, loaded] at opened
    contradiction
  | ok found =>
    cases found with
    | some files =>
      rw [openAt, loaded] at opened ⊢
      cases opened
      exact ⟨rfl, canonical_of_load loaded, loaded⟩
    | none =>
      have noNull := hasNull_of_load loaded
      let seeded : Store := ⟨defaultFiles, some path⟩
      have saved : (seeded.flush naming disk).1 = .ok () →
          seeded.Saved path (seeded.flush naming disk).2 :=
        saved_of_flush noNull rfl canonical_defaultFiles
      rw [openAt, loaded] at opened ⊢
      simp only at opened ⊢
      cases written : seeded.flush naming disk with
      | mk result after =>
        rw [written] at opened saved
        cases result with
        | error failure => contradiction
        | ok _ =>
          cases opened
          exact saved rfl

theorem Saved.openAt (saved : store.Saved path disk) (naming : Naming) :
    openAt naming path disk = ⟨.ok store, disk, []⟩ := by
  rw [Store.openAt, saved.document]
  simp only [← saved.kept]

end Store

/-! ## The changes that verbs make -/

namespace Session

def holdings (s : Session) : Store × Disk := (s.store, s.disk)

def after (s : Session) : Option Store.Change → Store × Disk
  | none => s.holdings
  | some change => (change.store, change.disk)

theorem holdings_of_frame {s t : Session} (same : s.frame = t.frame) : s.holdings = t.holdings := by
  simp only [frame, Prod.mk.injEq] at same
  exact Prod.ext same.2.2.2.1 same.2.2.2.2.1

theorem editing_of_frame {s t : Session} (same : s.frame = t.frame) : s.editing = t.editing := by
  simp only [frame, Prod.mk.injEq] at same
  exact same.2.2.1

end Session

namespace Verb

variable {host : Host} {i : Invocation} {s t : Session} {verb : Verb}

theorem Leaves.holdings (leaves : Leaves host i s verb t) :
    t.holdings = s.after (verb.change? host i s) := by
  cases leaves with
  | shown none vars viewing history =>
    rw [none]
    rfl
  | changed made viewing history =>
    rw [made]
    rfl
  | saved made written history =>
    rw [made]
    exact Session.holdings_of_frame (Session.frame_closeEditor _)
  | @opened content t editable result =>
    change t.holdings = s.holdings
    exact Session.holdings_of_frame (Session.frame_of_openEditor result)
  | stopped editable result => exact Session.holdings_of_frame (Session.frame_of_openEditor result)
  | closed =>
    change s.closeEditor.holdings = s.holdings
    exact Session.holdings_of_frame s.frame_closeEditor

theorem Leaves.editing (leaves : Leaves host i s verb t) :
    t.editing = s.editing ∨ t.editing = none ∨
      (t.editing = some i.fileName ∧ isEditableName i.fileName = true) := by
  cases leaves with
  | shown none vars viewing history => exact .inl rfl
  | changed made viewing history => exact .inl rfl
  | saved made written history => exact .inr (.inl rfl)
  | opened editable result => exact .inr (.inr ⟨rfl, editable⟩)
  | stopped editable result =>
    exact .inl (Session.editing_of_frame (Session.frame_of_openEditor result))
  | closed => exact .inr (.inl rfl)

end Verb

/-! ## Lines -/

structure Session.Saved (s : Session) (path : String) : Prop where
  files : s.store.Saved path s.disk
  mode : ∀ name, s.editing = some name → Text.upper name = name

namespace Interpreter

def change? (host : Host) (i : Invocation) (s : Session) : Option Store.Change :=
  (Verb.ofName? i.verb).bind fun verb => verb.change? host i s

variable {host : Host} {i : Invocation} {s : Session} {path : String}

theorem holdings_alone (host : Host) (i : Invocation) (s : Session) :
    (alone host i s).2.holdings = s.after (change? host i s) := by
  unfold alone call change?
  cases Verb.ofName? i.verb with
  | none => rfl
  | some verb => exact (Verb.leaves_perform (fun _ => rfl) verb).holdings

theorem editing_alone (host : Host) (i : Invocation) (s : Session) :
    (alone host i s).2.editing = s.editing ∨ (alone host i s).2.editing = none ∨
      ((alone host i s).2.editing = some i.fileName ∧ isEditableName i.fileName = true) := by
  unfold alone call
  cases Verb.ofName? i.verb with
  | none => exact .inl rfl
  | some verb => exact (Verb.leaves_perform (fun _ => rfl) verb).editing

theorem change?_eq_commit {change : Store.Change} (made : change? host i s = some change) :
    ∃ files : Table String, change = Store.commit host.naming ⟨files, s.store.path⟩ s.disk ∧
      (s.store.files.Canonical → (∀ name, s.editing = some name → Text.upper name = name) →
        files.Canonical) := by
  obtain ⟨verb, -, made⟩ := Option.bind_eq_some_iff.mp made
  obtain ⟨files, rfl, ⟨-, -, rfl⟩ | ⟨-, name, text, editing, -, rfl⟩ | ⟨-, -, rfl⟩⟩ :=
    Verb.change?_cases made
  · exact ⟨_, rfl, fun canonical _ => canonical.erase⟩
  · exact ⟨_, rfl, fun canonical mode => canonical.insert (mode name editing)⟩
  · exact ⟨_, rfl, fun _ _ => .empty⟩

/-- No change that carrying out the line makes fails to be written. -/
def WritesSucceed (host : Host) (line : String) (s : Session) : Prop :=
  ∀ next t i change, Reaches host (line, s) (next, t) → Command.ofLine next = .call i →
    isBarred i.verb t = false → change? host i t = some change → change.result = .ok ()

theorem saved_alone (saved : s.Saved path)
    (written : ∀ change, change? host i s = some change → change.result = .ok ()) :
    (alone host i s).2.Saved path where
  files := by
    have held := holdings_alone host i s
    cases made : change? host i s with
    | none =>
      rw [made] at held
      obtain ⟨store, disk⟩ := Prod.mk.inj held
      rw [store, disk]
      exact saved.files
    | some change =>
      rw [made] at held
      obtain ⟨store, disk⟩ := Prod.mk.inj held
      obtain ⟨files, commit, canonical⟩ := change?_eq_commit made
      have noNull := Store.hasNull_of_load saved.files.document
      have ok := written change made
      rw [store, disk]
      rw [commit, Store.commit_eq] at ok ⊢
      have kept : (⟨files, s.store.path⟩ : Store).path = some path := saved.files.kept
      exact Store.saved_of_flush noNull kept (canonical saved.files.canonical saved.mode) ok
  mode name entered := by
    obtain same | none | ⟨named, -⟩ := editing_alone host i s
    · exact saved.mode name (same.symm.trans entered)
    · exact absurd (none.symm.trans entered) (by simp)
    · rw [← Option.some.inj (named.symm.trans entered)]
      exact Text.upper_upper _

theorem saved_congr {t : Session} (same : s.substance = t.substance) (saved : s.Saved path) :
    t.Saved path := by
  have moved : s.substance.Saved path := ⟨saved.files, saved.mode⟩
  rw [same] at moved
  exact ⟨moved.files, moved.mode⟩

theorem saved_dispatch (saved : s.Saved path) {line : String} (written : WritesSucceed host line s) :
    (s.dispatch host line).2.Saved path := by
  have executed : (s.execute host line).2.Saved path := by
    refine execute_keeps (fun _ _ => saved_congr) line s ?_ saved
    intro next t i reached read passes saved
    exact saved_alone saved fun change => written next t i change reached read passes
  exact saved_congr (Session.substance_conveyed _).symm executed

/-! ## A document that can be written stays so -/

structure Writable (host : Host) (path : String) (s : Session) : Prop where
  kept : s.store.path = some path
  able : s.disk.Replaceable host.naming path

theorem Writable.change (writable : Writable host path s) {change : Store.Change}
    (made : change? host i s = some change) :
    change.result = .ok () ∧ change.store.path = some path ∧
      change.disk.Replaceable host.naming path := by
  obtain ⟨files, commit, -⟩ := change?_eq_commit made
  have kept : (⟨files, s.store.path⟩ : Store).path = some path := writable.kept
  have written := Store.flush_of_replaceable kept writable.able
  obtain ⟨p, found, after⟩ := Store.flush_ok kept written
  rw [Store.commit_eq, after] at commit
  rw [commit]
  exact ⟨written, kept, writable.able.put found⟩

theorem Writable.alone (writable : Writable host path s) (i : Invocation) :
    Writable host path (alone host i s).2 := by
  have held := holdings_alone host i s
  cases made : change? host i s with
  | none =>
    rw [made] at held
    obtain ⟨store, disk⟩ := Prod.mk.inj held
    exact ⟨by rw [store]; exact writable.kept, by rw [disk]; exact writable.able⟩
  | some change =>
    rw [made] at held
    obtain ⟨store, disk⟩ := Prod.mk.inj held
    obtain ⟨-, kept, able⟩ := writable.change made
    exact ⟨by rw [store]; exact kept, by rw [disk]; exact able⟩

theorem Writable.congr {t : Session} (same : s.substance = t.substance)
    (writable : Writable host path s) : Writable host path t := by
  have moved : Writable host path s.substance := ⟨writable.kept, writable.able⟩
  rw [same] at moved
  exact ⟨moved.kept, moved.able⟩

theorem Writable.writesSucceed (writable : Writable host path s) (line : String) :
    WritesSucceed host line s := by
  intro next t i change reached _ _ made
  have here : Writable host path t :=
    reaches_keeps (fun _ _ => Writable.congr) (fun _ i writable => writable.alone i) reached writable
  exact (here.change made).1

theorem Writable.dispatch (writable : Writable host path s) (line : String) :
    Writable host path (s.dispatch host line).2 :=
  .congr (Session.substance_conveyed _).symm
    (execute_keeps (fun _ _ => Writable.congr) line s (fun _ _ i _ _ _ here => here.alone i) writable)

end Interpreter

namespace Session

open Interpreter (WritesSucceed)

def AllWritesSucceed (host : Host) : Session → List String → Prop
  | _, [] => True
  | s, line :: rest => WritesSucceed host line s ∧ AllWritesSucceed host (s.dispatch host line).2 rest

theorem allWritesSucceed_of_writable {host : Host} {s : Session} {path : String}
    (writable : Interpreter.Writable host path s) (lines : List String) :
    s.AllWritesSucceed host lines := by
  induction lines generalizing s with
  | nil => trivial
  | cons line rest ih => exact ⟨writable.writesSucceed line, ih (writable.dispatch line)⟩

theorem saved_dispatchAll {host : Host} {s : Session} {path : String} (saved : s.Saved path)
    {lines : List String} (written : s.AllWritesSucceed host lines) (count : Nat) :
    (s.dispatchAll host (lines.take count)).2.Saved path := by
  induction lines generalizing s count with
  | nil => simpa [dispatchAll] using saved
  | cons line rest ih =>
    cases count with
    | zero => exact saved
    | succ count => exact ih (Interpreter.saved_dispatch saved written.1) written.2 count

end Session

/-- After each of the lines, opening the document again gives the files that the session holds, in
their order and with their texts. The document is found as it is: nothing is written anew, also where
the session has emptied the store. -/
theorem Session.reopen_eq_store (host : Host) (path : String) (disk : Disk) (store : Store)
    (opened : (Store.openAt host.naming path disk).result = .ok store) (s : Session)
    (held : s.holdings = (store, (Store.openAt host.naming path disk).disk))
    (normal : s.editing = none) (lines : List String) (written : s.AllWritesSucceed host lines)
    (count : Nat) :
    let t := (s.dispatchAll host (lines.take count)).2
    Store.openAt host.naming path t.disk = ⟨.ok t.store, t.disk, []⟩ := by
  obtain ⟨rfl, onDisk⟩ := Prod.mk.inj held
  have saved : s.Saved path := by
    refine ⟨?_, fun name editing => absurd (normal.symm.trans editing) (by simp)⟩
    rw [onDisk]
    exact Store.saved_of_openAt opened
  exact (saved_dispatchAll saved written count).files.openAt host.naming

def Session.fresh : Session :=
  start ⟨Store.defaultFiles, some "store.json"⟩ (Store.openAt .plain "store.json" .empty).disk .buffer

theorem Session.fresh_writable : Interpreter.Writable (.calm 3) "store.json" fresh where
  kept := rfl
  able := ⟨by decide, ⟨_, rfl⟩, rfl, ⟨_, rfl⟩⟩

theorem Session.reopen_eq_store_fresh :
    let lines := ["RM EXAMPLE.TXT", "EDIT \"é\\.txt", "SAVE", "RUN AUTOEXEC.ISH", "FORMAT YES"]
    fresh.AllWritesSucceed (.calm 3) lines ∧
    (fresh.dispatchAll (.calm 3) (lines.take 3)).2.store.list = ["AUTOEXEC.ISH", "\"É\\.TXT"] ∧
    (fresh.dispatchAll (.calm 3) (lines.take 5)).2.store.list = [] ∧
    ∀ count,
      let t := (fresh.dispatchAll (.calm 3) (lines.take count)).2
      Store.openAt .plain "store.json" t.disk = ⟨.ok t.store, t.disk, []⟩ := by
  intro lines
  have written := allWritesSucceed_of_writable fresh_writable lines
  refine ⟨written, by decide +kernel, by decide +kernel, ?_⟩
  exact reopen_eq_store (.calm 3) "store.json" .empty _ rfl fresh rfl rfl lines written

end ScriptShell
