import ScriptShell.Proofs.Course
import ScriptShell.Proofs.History
import ScriptShell.Proofs.RoundTrip

namespace ScriptShell

/-- A name as lines give it to files. -/
structure IsFileName (name : String) : Prop where
  capital : Text.upper name = name
  single : Text.normal name = name
  editable : isEditableName name = true

namespace IsFileName

variable {name : String}

theorem ends (isName : IsFileName name) :
    Text.endsWith name ".TXT" = true ∨ Text.endsWith name ".ISH" = true := by
  simpa [isEditableName, isName.capital] using isName.editable

theorem ne_empty (isName : IsFileName name) : name ≠ "" := by
  rintro rfl
  exact absurd isName.editable (by decide)

theorem spelled (isName : IsFileName name) : Text.upper (Text.normal name) = name := by
  rw [isName.single, isName.capital]

theorem fileName_words (isName : IsFileName name) (verb : String) :
    Invocation.fileName ⟨verb, Text.words name⟩ = name := isName.spelled

theorem of_read {line : String} {i : Invocation}
    (read : Invocation.ofWords? (Text.words line) = some i)
    (editable : isEditableName i.fileName = true) : IsFileName i.fileName :=
  ⟨Text.upper_upper _, Invocation.normal_fileName read, editable⟩

end IsFileName

/-! ## Names of a table -/

namespace Table

variable {α : Type} {t : Table α} {name other : String}

theorem mem_names_iff : name ∈ t.names ↔ ∃ value, t.get? name = some value := by
  obtain ⟨entries⟩ := t
  change name ∈ entries.map Prod.fst ↔ ∃ value, entries.lookup name = some value
  induction entries with
  | nil => simp
  | cons entry rest ih =>
    obtain ⟨key, value⟩ := entry
    rw [List.map_cons, List.mem_cons, ih, List.lookup_cons]
    by_cases here : name = key
    · simp [here]
    · have skipped : (name == key) = false := by simpa using here
      simp [here, skipped]

theorem get?_erase_of_ne (apart : other ≠ name) : (t.erase name).get? other = t.get? other :=
  lookup_filter_ne apart t.entries

theorem get?_erase_self (t : Table α) (name : String) : (t.erase name).get? name = none :=
  lookup_filter_self name t.entries

theorem names_erase (t : Table α) (name : String) :
    (t.erase name).names = t.names.filter (· ≠ name) := by
  rw [names, names, List.filter_map]
  rfl

structure Spelled (t : Table α) : Prop where
  distinct : t.names.Nodup
  listed : ∀ name ∈ t.names, IsFileName name

theorem spelled_empty : (empty : Table α).Spelled := ⟨List.nodup_nil, nofun⟩

theorem Spelled.insert (spelled : t.Spelled) (isName : IsFileName name) (value : α) :
    (t.insert name value).Spelled where
  distinct := nodup_insertEntry spelled.distinct
  listed x member := by
    obtain rfl | old := (mem_names_insertEntry t.entries x).mp member
    · exact isName
    · exact spelled.listed x old

theorem Spelled.erase (spelled : t.Spelled) (name : String) : (t.erase name).Spelled := by
  constructor
  · rw [names_erase]
    exact spelled.distinct.filter _
  · intro x member
    rw [names_erase] at member
    exact spelled.listed x (List.mem_filter.mp member).1

theorem spelled_defaultFiles : Store.defaultFiles.Spelled := by
  have listed : ∀ name ∈ Store.defaultFiles.names,
      Text.upper name = name ∧ Text.normal name = name ∧ isEditableName name = true := by
    decide +kernel
  refine ⟨Store.canonical_defaultFiles.distinct, ?_⟩
  intro name member
  obtain ⟨capital, single, editable⟩ := listed name member
  exact ⟨capital, single, editable⟩

end Table

/-! ## What a session keeps -/

structure Session.WellNamed (s : Session) : Prop where
  files : s.store.files.Spelled
  mode : ∀ name, s.editing = some name → IsFileName name
  memory : s.store.path = none

namespace Session

theorem WellNamed.congr {s t : Session} (same : s.records = t.records) (named : s.WellNamed) :
    t.WellNamed := by
  obtain ⟨files, mode, memory⟩ := named
  rw [store_of_records same] at files memory
  rw [editing_of_records same] at mode
  exact ⟨files, mode, memory⟩

theorem wellNamed_start {files : Table String}
    (seeded : files = .empty ∨ files = Store.defaultFiles) (disk : Disk) (surface : Surface) :
    (start (.inMemory files) disk surface).WellNamed := by
  rcases seeded with rfl | rfl
  · exact ⟨Table.spelled_empty, nofun, rfl⟩
  · exact ⟨Table.spelled_defaultFiles, nofun, rfl⟩

end Session

namespace Interpreter

open Session (WellNamed)

variable {host : Host} {line : String} {i : Invocation} {s : Session}

theorem wellNamed_alone (admits : Admits line s i) (named : s.WellNamed) :
    (alone host i s).2.WellNamed := by
  -- EDIT alone brings in a name, and it is one that the line has spelled.
  have mode (name : String) (entered : (alone host i s).2.editing = some name) :
      IsFileName name := by
    obtain same | none | ⟨opened, editable⟩ := editing_alone host i s
    · exact named.mode name (same.symm.trans entered)
    · exact nomatch none.symm.trans entered
    · cases opened.symm.trans entered
      exact .of_read admits.1 editable
  obtain same | ⟨verb, files, -, store, outcome⟩ := store_alone_cases host i s
  · refine ⟨?_, mode, ?_⟩
    · rw [same]
      exact named.files
    · rw [same]
      exact named.memory
  · refine ⟨?_, mode, ?_⟩
    · rw [store]
      rcases outcome with ⟨-, rfl⟩ | ⟨-, name, text, editing, rfl⟩ | ⟨-, -, rfl⟩
      · exact named.files.erase i.fileName
      · exact named.files.insert (named.mode name editing) text
      · exact Table.spelled_empty
    · rw [store]
      exact named.memory

theorem Moment.Arises.wellNamed {m : Moment} (arises : Arises host s m) (named : s.WellNamed) :
    m.session.WellNamed :=
  arises.keeps (fun _ _ => WellNamed.congr) (fun _ _ _ => wellNamed_alone) named

end Interpreter

/-! ## Lines that name a file -/

theorem Session.store_hideFile (s : Session) (name : Option String) :
    (s.hideFile name).store = s.store := by
  cases name with
  | none => rfl
  | some name =>
    rw [hideFile]
    split <;> rfl

theorem Verb.removeFile_inMemory (host : Host) {s : Session} {name : String}
    (memory : s.store.path = none) (named : names s name = true) :
    ∃ t, removeFile host name s = (.ok (.success s!"File '{name}' deleted."), t) ∧
      t.store = ⟨s.store.files.erase name, none⟩ := by
  have stored : s.store.contains name = true := by
    simp only [names, Bool.and_eq_true] at named
    exact named.2
  have change : s.store.delete host.naming s.disk name =
      ⟨⟨s.store.files.erase name, none⟩, s.disk, .ok ()⟩ := by
    rw [Store.delete, if_pos stored, memory]
    rfl
  rw [removeFile, if_pos named, Session.deleteFile, change]
  exact ⟨_, rfl, Session.store_hideFile _ _⟩

namespace Session

structure Views (host : Host) (s : Session) (name content : String) : Prop where
  reply : (s.dispatch host ("VIEW " ++ name)).1 = .done (some (.info s!"Viewing file '{name}'."))
  viewing : (s.dispatch host ("VIEW " ++ name)).2.viewing = some name
  output : (s.dispatch host ("VIEW " ++ name)).2.output =
    s.output ++ [.shown name content, .reported (.info s!"Viewing file '{name}'.")]

/-- EDIT hands the name and the text to the editor, which holds them unless an outside program
cannot be used. -/
inductive Edits (host : Host) (s : Session) (name content : String) : Prop where
  | opened {t : Session} (handed : s.openEditor host name content = (.ok (), t))
      (file : t.editor.fileName = some name) (text : t.editor.buffer = content)
      (reply : (s.dispatch host ("EDIT " ++ name)).1 =
        .done (some (.info s!"Editing file '{name}'. Use SAVE or CLOSE when done.")))
      (after : (s.dispatch host ("EDIT " ++ name)).2.substance = (t.enterEdit name).substance)
  | stopped {stop : Stop} {t : Session} (outside : s.editor.surface ≠ .buffer)
      (handed : s.openEditor host name content = (.error stop, t))
      (after : (s.dispatch host ("EDIT " ++ name)).2.substance = t.substance)

structure Removes (host : Host) (s : Session) (name : String) : Prop where
  reply : (s.dispatch host ("RM " ++ name)).1 = .done (some (.success s!"File '{name}' deleted."))
  gone : (s.dispatch host ("RM " ++ name)).2.store.get? name = none
  others : ∀ other, other ≠ name →
    (s.dispatch host ("RM " ++ name)).2.store.get? other = s.store.get? other
  list : (s.dispatch host ("RM " ++ name)).2.store.list = s.store.list.filter (· ≠ name)

variable {host : Host} {s : Session} {name content : String}

theorem names_of_stored (isName : IsFileName name) (stored : s.store.get? name = some content) :
    Verb.names s name = true := by
  have found : s.store.contains name = true := by
    change (s.store.get? name).isSome = true
    rw [stored]
    rfl
  simp [Verb.names, isName.ne_empty, found]

theorem output_record (s : Session) (event : Event) :
    (s.record event).output = s.output ++ shownOf [event] := by
  cases logged : event.isLogged <;> simp [output_eq, record, shownOf, logged]

theorem output_conveyed_shown (s : Session) (line name content : String) (report : Report) :
    (Interpreter.conveyed (.done (some report),
      (Interpreter.noted line s).showFile name content)).2.output =
        s.output ++ [.shown name content, .reported report] := by
  calc (((Interpreter.noted line s).record (.shown name content)).record (.reported report)).output
    _ = ((Interpreter.noted line s).output ++ [.shown name content]) ++ [.reported report] := by
      rw [output_record, output_record]
      rfl
    _ = (s.output ++ [.shown name content]) ++ [.reported report] := by
      rw [output_of_quiet (quiet_noted s line)]
    _ = s.output ++ [.shown name content, .reported report] := by
      rw [List.append_assoc, List.singleton_append]

theorem views (host : Host) (normal : s.editing = none) (isName : IsFileName name)
    (stored : s.store.get? name = some content) : Views host s name content := by
  have named : Verb.names (Interpreter.noted ("VIEW " ++ name) s) name = true :=
    names_of_stored isName stored
  have found : (Interpreter.noted ("VIEW " ++ name) s).store.get? name = some content := stored
  have line : "VIEW " ++ name = Verb.view.name ++ " " ++ name := rfl
  have executed : s.execute host ("VIEW " ++ name) =
      (.done (some (.info s!"Viewing file '{name}'.")),
        (Interpreter.noted ("VIEW " ++ name) s).showFile name content) := by
    rw [line, Interpreter.execute_verb host normal .view name, ← line, Verb.perform,
      isName.fileName_words, Verb.viewFile, if_pos named, found, Option.getD_some]
    rfl
  have dispatched := dispatch_eq s host ("VIEW " ++ name)
  rw [executed] at dispatched
  refine ⟨?_, ?_, ?_⟩
  · rw [dispatched]
    rfl
  · rw [dispatched]
    rfl
  · rw [dispatched]
    exact output_conveyed_shown _ _ _ _ _

theorem edits (host : Host) (normal : s.editing = none) (isName : IsFileName name)
    (stored : s.store.get? name = some content) : Edits host s name content := by
  obtain ⟨t, opened, reply, after⟩ | ⟨stop, t, opened, after⟩ :=
    Interpreter.dispatch_edit_cases host normal isName.editable isName.spelled stored
  · obtain ⟨-, editor⟩ | ⟨command, temp, -, editor, -⟩ := openEditor_ok opened
    · exact .opened opened (by rw [editor]) (by rw [editor]) reply after
    · exact .opened opened (by rw [editor]) (by rw [editor]) reply after
  · refine .stopped ?_ opened after
    intro buffer
    simp [openEditor, buffer] at opened

theorem removes (host : Host) (normal : s.editing = none) (memory : s.store.path = none)
    (isName : IsFileName name) (stored : s.store.get? name = some content) :
    Removes host s name := by
  let noted := Interpreter.noted ("RM " ++ name) s
  have named : Verb.names noted name = true := names_of_stored isName stored
  have line : "RM " ++ name = Verb.rm.name ++ " " ++ name := rfl
  obtain ⟨t, removed, store⟩ :=
    Verb.removeFile_inMemory host (show noted.store.path = none from memory) named
  have executed : s.execute host ("RM " ++ name) =
      (.done (some (.success s!"File '{name}' deleted.")), t) := by
    rw [line, Interpreter.execute_verb host normal .rm name, ← line, Verb.perform,
      isName.fileName_words, removed]
    rfl
  have dispatched := dispatch_eq s host ("RM " ++ name)
  rw [executed] at dispatched
  have after : (s.dispatch host ("RM " ++ name)).2.store = ⟨s.store.files.erase name, none⟩ := by
    rw [dispatched]
    exact store
  refine ⟨?_, ?_, ?_, ?_⟩
  · rw [dispatched]
    rfl
  · rw [after]
    exact Table.get?_erase_self _ _
  · intro other apart
    rw [after]
    exact Table.get?_erase_of_ne apart
  · rw [after]
    exact Table.names_erase _ _

open Interpreter (Moment)

/-- In every session that begins with no files or with the default ones, however it goes on, a name
is listed once, in upper case and with one of the two endings. Any verb followed by the name as it
is listed reads that name. So VIEW shows this file, EDIT hands it to the editor, and RM takes it
away. -/
theorem listed_files_can_be_named (host : Host) (files : Table String) (disk : Disk)
    (surface : Surface) (m : Moment) (name : String)
    (seeded : files = .empty ∨ files = Store.defaultFiles)
    (arises : Moment.Arises host (start (.inMemory files) disk surface) m)
    (listed : name ∈ m.session.store.list) :
    m.session.store.list.count name = 1 ∧ Text.upper name = name ∧
    (Text.endsWith name ".TXT" = true ∨ Text.endsWith name ".ISH" = true) ∧
    (∀ verb : String, Text.IsWord verb.toList →
      ∃ i, Invocation.ofWords? (Text.words (verb ++ " " ++ name)) = some i ∧
        i.verb = Text.upper verb ∧ i.fileName = name) ∧
    ∃ content, m.session.store.get? name = some content ∧
      (m.session.editing = none →
        Views host m.session name content ∧ Edits host m.session name content ∧
          Removes host m.session name) := by
  have named := arises.wellNamed (wellNamed_start seeded disk surface)
  have isName := named.files.listed name listed
  obtain ⟨content, stored⟩ := Table.mem_names_iff.mp listed
  refine ⟨?_, isName.capital, isName.ends, ?_, content, stored, ?_⟩
  · exact List.count_eq_one_of_mem named.files.distinct listed
  · intro verb isWord
    exact ⟨_, Invocation.ofWords?_spaced isWord name, rfl, isName.fileName_words _⟩
  · intro normal
    exact ⟨views host normal isName stored, edits host normal isName stored,
      removes host normal named.memory isName stored⟩

theorem listed_files_can_be_named_wide :
    let s := start (.inMemory Store.defaultFiles) .empty .buffer
    let t := (s.dispatch (.calm 3) "EDIT straße\u3000notes.txt").2
    let u := ((t.typeText [72, 105]).dispatch (.calm 3) "SAVE").2
    u.store.list = ["AUTOEXEC.ISH", "EXAMPLE.TXT", "STRASSE NOTES.TXT"] ∧ u.editing = none ∧
    (∃ i, Invocation.ofWords? (Text.words ("view" ++ " " ++ "STRASSE NOTES.TXT")) = some i ∧
      i.verb = "VIEW" ∧ i.fileName = "STRASSE NOTES.TXT") ∧
    Views (.calm 3) u "STRASSE NOTES.TXT" "Hi" ∧ Edits (.calm 3) u "STRASSE NOTES.TXT" "Hi" ∧
    Removes (.calm 3) u "STRASSE NOTES.TXT" := by
  intro s t u
  have outcome : t.editing ≠ none ∧
      u.store.list = ["AUTOEXEC.ISH", "EXAMPLE.TXT", "STRASSE NOTES.TXT"] ∧ u.editing = none ∧
      u.store.get? "STRASSE NOTES.TXT" = some "Hi" := by decide +kernel
  obtain ⟨mode, list, normal, text⟩ := outcome
  have written : Moment.Proceeds (.calm 3) (.start "SAVE" t)
      (.start "SAVE" (t.typeText [72, 105])) := .written [72, 105] mode
  have arises : Moment.Arises (.calm 3) s (.start "" u) :=
    ⟨_, (Moment.proceeds_dispatch (.calm 3) "EDIT straße\u3000notes.txt" "SAVE" s).trans
      (.head written (Moment.proceeds_dispatch (.calm 3) "SAVE" "" _))⟩
  obtain ⟨-, -, -, read, content, stored, lines⟩ :=
    listed_files_can_be_named (.calm 3) _ .empty .buffer _ "STRASSE NOTES.TXT" (.inr rfl) arises
      (show _ ∈ u.store.list by simp [list])
  obtain rfl : "Hi" = content := Option.some.inj (text.symm.trans stored)
  obtain ⟨i, words, verb, file⟩ := read "view" (Text.isWord_of_inked (by decide) rfl)
  exact ⟨list, normal, ⟨i, words, verb.trans (by decide +kernel), file⟩, lines normal⟩

end Session

end ScriptShell
