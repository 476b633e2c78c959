import ScriptShell.Proofs.EditSession
import ScriptShell.Proofs.Persistence

/-!
What calls of a store leave behind. On the disk a call is all or nothing: the whole new document is
there, or everything is as it was, and no draft is left. In memory it is not: a change that could not
be written stands all the same, and goes out with the next one that can be.
-/

namespace ScriptShell

/-! ## Replacing a file -/

namespace Disk

/-- The path leads to these bytes now, and nothing else has changed. -/
structure Replaced (path : String) (bytes : List UInt8) (before after : Disk) : Prop where
  holds : after.read path = .ok bytes
  others : ∃ p, before.resolve path = .ok p ∧ ∀ q, q ≠ p → after.entry? q = before.entry? q
  drafts : after.drafts = before.drafts

variable {d : Disk} {path : String} {bytes : List UInt8}

theorem replaced_of_put (noNull : hasNull path = false) {p : Place} (found : d.target path = .ok p) :
    Replaced path bytes d (d.put p (.file bytes)) where
  holds := read_put noNull found
  others := ⟨p, (target_eq_ok_iff.mp found).2.1, fun _ => entry?_put_of_ne⟩
  drafts := rfl

end Disk

/-! ## Tables -/

namespace Table

variable {α : Type}

theorem insert_of_get? {t : Table α} {name : String} {value : α} (here : t.get? name = some value) :
    t.insert name value = t := by
  obtain ⟨entries⟩ := t
  refine congrArg mk ?_
  induction entries with
  | nil => contradiction
  | cons entry rest ih =>
    obtain ⟨name', value'⟩ := entry
    rw [insertEntry]
    split
    next same =>
      cases same
      simp only [get?, List.lookup_cons_self, Option.some.injEq] at here
      rw [here]
    next other =>
      have skipped : (name == name') = false := by simpa using Ne.symm other
      rw [get?, List.lookup_cons, skipped] at here
      rw [ih here]

theorem contains_erase_self (t : Table α) (name : String) :
    (t.erase name).contains name = false := by
  rw [contains, get?, erase, lookup_filter_self]
  rfl

end Table

/-! ## Calls -/

namespace Store

def document (files : Table String) : List UInt8 := Text.Utf8.encode (Json.write files)

structure KeptAt (store : Store) (path : String) : Prop where
  kept : store.path = some path
  noNull : Disk.hasNull path = false

inductive Answer where
  | text (content : Option String)
  | stored (found : Bool)
  | names (names : List String)
  | nothing
  deriving DecidableEq, Repr

inductive Query where
  | get (name : String)
  | contains (name : String)
  | list
  deriving DecidableEq, Repr

def Query.answer (store : Store) : Query → Answer
  | .get name => .text (store.get? name)
  | .contains name => .stored (store.contains name)
  | .list => .names store.list

inductive Operation where
  | put (name content : String)
  | delete (name : String)
  | clear
  deriving DecidableEq, Repr

namespace Operation

def apply (naming : Naming) (store : Store) (disk : Disk) : Operation → Change
  | .put name content => store.put naming disk name content
  | .delete name => store.delete naming disk name
  | .clear => store.clear naming disk

def effect (files : Table String) : Operation → Option (Table String)
  | .put name content => some (files.insert name content)
  | .delete name => if files.contains name then some (files.erase name) else none
  | .clear => some .empty

/-- The operation makes no difference to the store. -/
def Idle (store : Store) : Operation → Prop
  | .put name content => store.get? name = some content
  | .delete name => store.contains name = false
  | .clear => store.list = []

variable {naming : Naming} {store : Store} {disk : Disk} {op : Operation} {files : Table String}

theorem apply_of_effect (made : op.effect store.files = some files) :
    op.apply naming store disk = commit naming ⟨files, store.path⟩ disk := by
  cases op with
  | put name content =>
    cases made
    rfl
  | delete name =>
    rw [effect] at made
    split at made
    next stored =>
      cases made
      exact if_pos stored
    · contradiction
  | clear =>
    cases made
    rfl

theorem apply_of_no_effect (naming : Naming) (disk : Disk) (none : op.effect store.files = none) :
    ∃ name, op.apply naming store disk = ⟨store, disk, .error (.unknownFile name)⟩ := by
  cases op with
  | put name content => contradiction
  | delete name =>
    rw [effect] at none
    split at none
    · contradiction
    next missing => exact ⟨name, if_neg missing⟩
  | clear => contradiction

theorem store_of_idle (idle : op.Idle store) : (op.apply naming store disk).store = store := by
  cases op with
  | put name content =>
    have same : store.files.insert name content = store.files := Table.insert_of_get? idle
    change (⟨store.files.insert name content, store.path⟩ : Store) = store
    rw [same]
  | delete name =>
    have missing : ¬ store.contains name = true := by simpa [Idle] using idle
    rw [apply, Store.delete, if_neg missing]
  | clear =>
    obtain ⟨⟨entries⟩, path⟩ := store
    have none : entries = [] := List.map_eq_nil_iff.mp idle
    rw [none]
    rfl

theorem idle_of_answers
    (same : ∀ q : Query, q.answer (op.apply naming store disk).store = q.answer store) :
    op.Idle store := by
  cases op with
  | put name content =>
    have asked := Answer.text.inj (same (.get name))
    exact asked.symm.trans (store.files.get?_insert_self name content)
  | delete name =>
    have asked := Answer.stored.inj (same (.contains name))
    cases stored : store.contains name with
    | false => exact stored
    | true =>
      rw [apply, Store.delete, if_pos stored, stored] at asked
      exact absurd (asked.symm.trans (store.files.contains_erase_self name)) (by simp)
  | clear => exact (Answer.names.inj (same .list)).symm

end Operation

inductive Call where
  | query (q : Query)
  | change (op : Operation)
  | flush
  | reopen
  deriving DecidableEq, Repr

namespace Call

def run (naming : Naming) (path : String) (store : Store) (disk : Disk) :
    Call → Except Failure Answer × Store × Disk
  | .query q => (.ok (q.answer store), store, disk)
  | .change op =>
    let change := op.apply naming store disk
    (change.result.map fun _ => .nothing, change.store, change.disk)
  | .flush =>
    let (result, disk) := store.flush naming disk
    (result.map fun _ => .nothing, store, disk)
  | .reopen =>
    let opened := openAt naming path disk
    match opened.result with
    | .ok store => (.ok .nothing, store, opened.disk)
    | .error failure => (.error failure, store, opened.disk)

def writes (path : String) (disk : Disk) : Call → Bool
  | .query _ => false
  | .change _ => true
  | .flush => true
  | .reopen => !disk.contains path

end Call

theorem contains_of_load {disk : Disk} {path : String} {found : Option (Table String)}
    (loaded : load disk path = .ok found) : disk.contains path = found.isSome := by
  have noNull := hasNull_of_load loaded
  unfold load Disk.read Disk.find at loaded
  unfold Disk.contains
  rw [noNull] at loaded
  simp only [Bool.false_eq_true, if_false] at loaded
  cases resolved : disk.resolve path with
  | error cause =>
    rw [resolved] at loaded
    cases cause with
    | missing =>
      cases loaded
      rfl
    | _ => contradiction
  | ok p =>
    rw [resolved] at loaded
    simp only at loaded ⊢
    cases here : disk.entry? p with
    | none =>
      rw [here] at loaded
      cases loaded
      rfl
    | some entry =>
      cases entry with
      | directory =>
        rw [here] at loaded
        contradiction
      | file bytes =>
        rw [here] at loaded
        simp only at loaded
        split at loaded
        · contradiction
        split at loaded
        · contradiction
        · split at loaded
          · cases loaded
            rfl
          · contradiction
        · contradiction

structure AllOrNothing (path : String) (files : Table String) (wrote : Prop) (before after : Disk) :
    Prop where
  written : wrote → Disk.Replaced path (document files) before after
  untouched : ¬ wrote → after = before

variable {naming : Naming} {path : String} {store : Store} {disk before after : Disk}

theorem AllOrNothing.of_iff {files : Table String} {wrote wrote' : Prop}
    (settled : AllOrNothing path files wrote before after) (same : wrote' ↔ wrote) :
    AllOrNothing path files wrote' before after :=
  ⟨fun done => settled.written (same.mp done), fun failed => settled.untouched (mt same.mpr failed)⟩

theorem AllOrNothing.drafts {files : Table String} {wrote : Prop}
    (settled : AllOrNothing path files wrote before after) : after.drafts = before.drafts := by
  by_cases done : wrote
  · exact (settled.written done).drafts
  · rw [settled.untouched done]

theorem flush_error {failure : Failure} (failed : (store.flush naming disk).1 = .error failure) :
    (store.flush naming disk).2 = disk := by
  cases kept : store.path with
  | none => rw [flush, kept]
  | some path =>
    obtain ⟨_, same⟩ | ⟨p, -, same⟩ := flush_cases naming kept disk
    · rw [same]
    · rw [same] at failed
      contradiction

theorem KeptAt.flush (kept : store.KeptAt path) (naming : Naming) (disk : Disk) :
    AllOrNothing path store.files ((store.flush naming disk).1 = .ok ()) disk
      (store.flush naming disk).2 where
  written ok := by
    obtain ⟨p, found, after⟩ := flush_ok kept.kept ok
    rw [after]
    exact Disk.replaced_of_put kept.noNull found
  untouched failed := by
    cases result : (store.flush naming disk).1 with
    | ok _ => exact absurd result failed
    | error failure => exact flush_error result

/-! ## Opening -/

theorem openAt_error {failure : Failure} (failed : (openAt naming path disk).result = .error failure) :
    (openAt naming path disk).disk = disk := by
  unfold openAt at failed ⊢
  split
  · rfl
  · rfl
  next none =>
    let seeded : Store := ⟨defaultFiles, some path⟩
    have same : (seeded.flush naming disk).1 = .error failure → (seeded.flush naming disk).2 = disk :=
      flush_error
    rw [none] at failed
    simp only at failed ⊢
    cases written : seeded.flush naming disk with
    | mk result after =>
      rw [written] at failed same
      cases result with
      | ok _ => contradiction
      | error failure => exact same (congrArg _ (Except.error.inj failed))

theorem keptAt_of_openAt (opened : (openAt naming path disk).result = .ok store) :
    store.KeptAt path := by
  have saved := saved_of_openAt opened
  exact ⟨saved.kept, hasNull_of_load saved.document⟩

theorem allOrNothing_openAt (opened : (openAt naming path disk).result = .ok store) :
    AllOrNothing path store.files (disk.contains path = false) disk
      (openAt naming path disk).disk := by
  have kept := keptAt_of_openAt opened
  cases loaded : load disk path with
  | error failure =>
    rw [openAt, loaded] at opened
    contradiction
  | ok found =>
    have there := contains_of_load loaded
    cases found with
    | some files =>
      rw [openAt, loaded]
      exact ⟨fun missing => absurd (missing.symm.trans there) (by simp), fun _ => rfl⟩
    | none =>
      have seeded : KeptAt ⟨defaultFiles, some path⟩ path := ⟨rfl, kept.noNull⟩
      have settled := seeded.flush naming disk
      rw [openAt, loaded] at opened ⊢
      simp only at opened ⊢
      cases written : flush naming ⟨defaultFiles, some path⟩ disk with
      | mk result after =>
        rw [written] at opened settled
        cases result with
        | error failure => contradiction
        | ok _ =>
          cases opened
          exact ⟨fun _ => settled.written rfl, fun present => absurd there present⟩

/-! ## One call and many -/

theorem isOk_iff (result : Except Failure Unit) :
    (result.map fun _ => Answer.nothing).isOk = true ↔ result = .ok () := by
  cases result <;> simp [Except.map, Except.isOk, Except.toBool]

theorem KeptAt.apply (kept : store.KeptAt path) (naming : Naming) (disk : Disk) (op : Operation) :
    let change := op.apply naming store disk
    change.store.KeptAt path ∧
      AllOrNothing path change.store.files (change.result = .ok ()) disk change.disk := by
  cases made : op.effect store.files with
  | none =>
    obtain ⟨name, same⟩ := op.apply_of_no_effect naming disk made
    rw [same]
    exact ⟨kept, ⟨fun done => absurd done (by simp), fun _ => rfl⟩⟩
  | some files =>
    have changed : KeptAt ⟨files, store.path⟩ path := ⟨kept.kept, kept.noNull⟩
    rw [op.apply_of_effect made, commit_eq]
    exact ⟨changed, changed.flush naming disk⟩

theorem KeptAt.run (kept : store.KeptAt path) (naming : Naming) (disk : Disk) (call : Call) :
    let out := call.run naming path store disk
    out.2.1.KeptAt path ∧
      AllOrNothing path out.2.1.files (call.writes path disk = true ∧ out.1.isOk = true) disk
        out.2.2 := by
  cases call with
  | query q => exact ⟨kept, ⟨fun wrote => absurd wrote.1 (by simp [Call.writes]), fun _ => rfl⟩⟩
  | flush => exact ⟨kept, (kept.flush naming disk).of_iff (by simp [Call.writes, Call.run, isOk_iff])⟩
  | change op =>
    obtain ⟨changed, settled⟩ := kept.apply naming disk op
    exact ⟨changed, settled.of_iff (by simp [Call.writes, Call.run, isOk_iff])⟩
  | reopen =>
    simp only [Call.run]
    cases result : (openAt naming path disk).result with
    | error failure =>
      exact ⟨kept, ⟨fun wrote => absurd wrote.2 (by simp [Except.isOk, Except.toBool]),
        fun _ => openAt_error result⟩⟩
    | ok store =>
      have settled := allOrNothing_openAt result
      exact ⟨keptAt_of_openAt result,
        settled.of_iff (by simp [Call.writes, Except.isOk, Except.toBool])⟩

/-- What happens to a store and its disk: a call, or a change that others make to the entries and to
the room there is. -/
inductive Occasion where
  | called (call : Call)
  | outside (entries : List (Place × Entry)) (room : Option Nat)
  deriving DecidableEq, Repr

def Occasion.pass (naming : Naming) (path : String) (now : Store × Disk) :
    Occasion → Store × Disk
  | .called call => (call.run naming path now.1 now.2).2
  | .outside entries room => (now.1, { now.2 with entries := entries, room := room })

structure Clean (path : String) (now : Store × Disk) : Prop where
  keptAt : now.1.KeptAt path
  drafts : now.2.drafts = []

theorem Clean.pass {now : Store × Disk} (clean : Clean path now) (naming : Naming)
    (occasion : Occasion) : Clean path (occasion.pass naming path now) := by
  cases occasion with
  | called call =>
    obtain ⟨kept, settled⟩ := clean.keptAt.run naming now.2 call
    exact ⟨kept, settled.drafts.trans clean.drafts⟩
  | outside entries room => exact ⟨clean.keptAt, clean.drafts⟩

theorem Clean.passAll {now : Store × Disk} (clean : Clean path now) (naming : Naming)
    (occasions : List Occasion) : Clean path (occasions.foldl (Occasion.pass naming path) now) := by
  induction occasions generalizing now with
  | nil => exact clean
  | cons occasion rest ih => exact ih (clean.pass naming occasion)

/-- Opening a store and every later call of it, whatever others do to the disk in between, either
writes the whole document or changes nothing, and leaves no draft. -/
theorem document_all_or_nothing (naming : Naming) (path : String) (disk : Disk)
    (clean : disk.drafts = []) :
    let opened := openAt naming path disk
    (∀ failure, opened.result = .error failure → opened.disk = disk) ∧
      ∀ store, opened.result = .ok store →
        AllOrNothing path store.files (disk.contains path = false) disk opened.disk ∧
          ∀ (occasions : List Occasion) (call : Call),
            let now := occasions.foldl (Occasion.pass naming path) (store, opened.disk)
            let out := call.run naming path now.1 now.2
            AllOrNothing path out.2.1.files (call.writes path now.2 = true ∧ out.1.isOk = true)
                now.2 out.2.2 ∧
              out.2.2.drafts = [] := by
  refine ⟨fun failure => openAt_error, fun store opened => ?_⟩
  have settled := allOrNothing_openAt opened
  refine ⟨settled, fun occasions call => ?_⟩
  intro now
  have reached : Clean path now :=
    Clean.passAll ⟨keptAt_of_openAt opened, settled.drafts.trans clean⟩ naming occasions
  have called := (reached.keptAt.run naming now.2 call).2
  exact ⟨called, called.drafts.trans reached.drafts⟩

def inTheWay : List (Place × Entry) := [(⟨.above 0, ["store.json"]⟩, .directory)]

def disturbed : List Occasion :=
  [.called (.change (.put "A.TXT" "a")), .outside inTheWay none, .called (.change .clear),
    .outside [] (some 1), .called .flush, .outside [] none]

theorem document_all_or_nothing_disturbed :
    let opened := openAt .plain "store.json" .empty
    let store : Store := ⟨defaultFiles, some "store.json"⟩
    let blocked := (disturbed.take 2).foldl (Occasion.pass .plain "store.json") (store, opened.disk)
    let failed := Call.run .plain "store.json" blocked.1 blocked.2 (.change .clear)
    let full := (disturbed.take 4).foldl (Occasion.pass .plain "store.json") (store, opened.disk)
    let unwritten := Call.run .plain "store.json" full.1 full.2 .flush
    let freed := disturbed.foldl (Occasion.pass .plain "store.json") (store, opened.disk)
    let out := Call.run .plain "store.json" freed.1 freed.2 (.change (.put "B.TXT" "b"))
    Disk.empty.drafts = [] ∧ opened.result = .ok store ∧
      Disk.Replaced "store.json" (document defaultFiles) .empty opened.disk ∧
      failed.1.isOk = false ∧ failed.2.2 = blocked.2 ∧
      unwritten.1 = .error (.disk .noSpace) ∧ unwritten.2.2 = full.2 ∧ out.1.isOk = true ∧
      Disk.Replaced "store.json" (document ⟨[("B.TXT", "b")]⟩) freed.2 out.2.2 ∧
      out.2.2.drafts = [] := by
  have opened : (openAt .plain "store.json" .empty).result = .ok ⟨defaultFiles, some "store.json"⟩ :=
    rfl
  obtain ⟨settled, later⟩ := (document_all_or_nothing .plain "store.json" .empty rfl).2 _ opened
  have failed := (later (disturbed.take 2) (.change .clear)).1
  have unwritten := (later (disturbed.take 4) .flush).1
  have out := later disturbed (.change (.put "B.TXT" "b"))
  refine ⟨rfl, opened, settled.written (by decide), by decide +kernel,
    failed.untouched (by decide +kernel), by decide +kernel, unwritten.untouched (by decide +kernel),
    by decide +kernel, out.1.written (by decide +kernel), out.2⟩

/-! ## Changes that could not be written -/

theorem store_apply (naming : Naming) (store : Store) (disk : Disk) (op : Operation) :
    (op.apply naming store disk).store = ⟨(op.effect store.files).getD store.files, store.path⟩ := by
  cases made : op.effect store.files with
  | none =>
    obtain ⟨name, same⟩ := op.apply_of_no_effect naming disk made
    rw [same]
    rfl
  | some files =>
    rw [op.apply_of_effect made, commit_eq]
    rfl

theorem answers_iff_idle (naming : Naming) (store : Store) (disk : Disk) (op : Operation) :
    (∀ q : Query, q.answer (op.apply naming store disk).store = q.answer store) ↔ op.Idle store := by
  constructor
  · exact Operation.idle_of_answers
  · intro idle q
    rw [Operation.store_of_idle idle]

theorem KeptAt.written_of_ok (kept : store.KeptAt path) {op : Operation}
    (ok : (op.apply naming store disk).result = .ok ()) :
    ∃ files, op.effect store.files = some files ∧
      Disk.Replaced path (document files) disk (op.apply naming store disk).disk := by
  have replaced := (kept.apply naming disk op).2.written ok
  cases made : op.effect store.files with
  | none =>
    obtain ⟨name, same⟩ := op.apply_of_no_effect naming disk made
    rw [same] at ok
    contradiction
  | some files =>
    rw [store_apply, made] at replaced
    exact ⟨files, rfl, replaced⟩

/-- A change that could not be written stands in memory. Only one that makes no difference goes
unseen; any other parts the store from its document, and the next change that can be written takes
it along. -/
theorem failed_change_stands (naming : Naming) (path : String) (store : Store)
    (kept : store.KeptAt path) (disk : Disk) (op : Operation) (failure : Failure)
    (failed : (op.apply naming store disk).result = .error failure) :
    let after := op.apply naming store disk
    after.disk = disk ∧ after.store.files = (op.effect store.files).getD store.files ∧
      ((∀ q : Query, q.answer after.store = q.answer store) ↔ op.Idle store) ∧
      (load disk path = .ok (some store.files) →
        (load after.disk path = .ok (some after.store.files) ↔ op.Idle store)) ∧
      ∀ (later : Operation) (disk' : Disk),
        (later.apply naming after.store disk').result = .ok () →
          ∃ files, later.effect after.store.files = some files ∧
            Disk.Replaced path (document files) disk'
              (later.apply naming after.store disk').disk := by
  obtain ⟨changed, settled⟩ := kept.apply naming disk op
  have same : (op.apply naming store disk).disk = disk :=
    settled.untouched (by rw [failed]; simp)
  have seen := answers_iff_idle naming store disk op
  refine ⟨same, by rw [store_apply], seen, fun agreed => ?_, fun later disk' => changed.written_of_ok⟩
  rw [same, agreed, ← seen]
  constructor
  -- A store that still agrees with its document is the one from before, for the path never changes.
  · intro files q
    have unchanged : (op.apply naming store disk).store = store := by
      have equal : store.files = (op.apply naming store disk).store.files := by simpa using files
      rw [store_apply] at equal ⊢
      exact congrArg (fun files => Store.mk files store.path) equal.symm
    rw [unchanged]
  · intro answers
    rw [Operation.store_of_idle (seen.mp answers)]

theorem failed_put_stands :
    let store : Store := ⟨.empty, some "store.json"⟩
    let failed := store.put .plain ⟨inTheWay, [], none⟩ "A.TXT" "a"
    let later := failed.store.put .plain .empty "B.TXT" "b"
    failed.result.isOk = false ∧ store.contains "A.TXT" = false ∧
      failed.store.contains "A.TXT" = true ∧ later.result = .ok () ∧
      load later.disk "store.json" = .ok (some ⟨[("A.TXT", "a"), ("B.TXT", "b")]⟩) := by
  decide +kernel

theorem failed_change_stands_inTheWay :
    let store : Store := ⟨.empty, some "store.json"⟩
    let disk : Disk := ⟨inTheWay, [], none⟩
    let after := Operation.apply .plain store disk (.put "A.TXT" "a")
    store.KeptAt "store.json" ∧ after.result.isOk = false ∧ after.disk = disk ∧
      after.store.files = ⟨[("A.TXT", "a")]⟩ ∧
      ¬ (∀ q : Query, q.answer after.store = q.answer store) := by
  have kept : KeptAt ⟨.empty, some "store.json"⟩ "store.json" := ⟨rfl, by decide⟩
  obtain ⟨disk, files, seen, -⟩ :=
    failed_change_stands .plain "store.json" _ kept ⟨inTheWay, [], none⟩ (.put "A.TXT" "a") _ rfl
  refine ⟨kept, rfl, disk, files, fun same => ?_⟩
  have idle := seen.mp same
  contradiction

end Store

end ScriptShell
