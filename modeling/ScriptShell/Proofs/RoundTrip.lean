import ScriptShell.Proofs.AllOrNothing
import ScriptShell.Proofs.Spelling
import ScriptShell.Proofs.Stage

namespace ScriptShell

namespace Text

/-! ## Line ends -/

theorem return_not_mem_unifyNewlinesChars (cs : List Char) : '\r' ∉ unifyNewlinesChars cs := by
  induction cs using unifyNewlinesChars.induct with
  | case1 => simp [unifyNewlinesChars]
  | case2 cs ih => simp [unifyNewlinesChars, ih]
  | case3 c cs other ih =>
    rw [unifyNewlinesChars, List.mem_cons, not_or]
    · refine ⟨?_, ih⟩
      split
      · decide
      next kept => exact Ne.symm kept
    · exact other

theorem unifyNewlines_eq_self_iff (s : String) : unifyNewlines s = s ↔ '\r' ∉ s.toList := by
  constructor
  · intro same
    rw [← same, unifyNewlines, String.toList_ofList]
    exact return_not_mem_unifyNewlinesChars s.toList
  · exact unifyNewlines_of_not_mem

def returnsEndLines : List Char → Bool
  | [] => true
  | '\r' :: cs => cs.head? = some '\n' && returnsEndLines cs
  | _ :: cs => returnsEndLines cs

theorem map_dropReturn_piecesChars {c : Char} (inside : c ≠ '\n') (other : c ≠ '\r')
    (cs : List Char) :
    (piecesChars '\n' (c :: cs)).map dropReturn =
      match (piecesChars '\n' cs).map dropReturn with
      | [] => [[c]]
      | line :: rest => (c :: line) :: rest := by
  rw [piecesChars, if_neg inside]
  cases piecesChars '\n' cs with
  | nil => simp [dropReturn, other]
  | cons line rest => cases line <;> simp [dropReturn, other]

theorem scriptLines_unifyNewlines {content : String}
    (ends : returnsEndLines content.toList = true) :
    scriptLines (unifyNewlines content) = scriptLines content := by
  suffices same : ∀ cs, returnsEndLines cs = true →
      (piecesChars '\n' (unifyNewlinesChars cs)).map dropReturn =
        (piecesChars '\n' cs).map dropReturn by
    rw [scriptLines, scriptLines, unifyNewlines, String.toList_ofList, same _ ends]
  intro cs ends
  induction cs using unifyNewlinesChars.induct with
  | case1 => rfl
  | case2 cs ih =>
    have rest : returnsEndLines cs = true := by simpa [returnsEndLines] using ends
    simpa [unifyNewlinesChars, piecesChars, dropReturn] using ih rest
  | case3 c cs other ih =>
    -- A carriage return here would have no newline after it.
    have kept : c ≠ '\r' := by
      rintro rfl
      cases cs with
      | nil => simp [returnsEndLines] at ends
      | cons d cs =>
        rw [returnsEndLines, Bool.and_eq_true] at ends
        have next : d = '\n' := by simpa using ends.1
        exact other cs rfl (by rw [next])
    have rest : returnsEndLines cs = true := by simpa [returnsEndLines, kept] using ends
    rw [unifyNewlinesChars, if_neg kept]
    · by_cases newline : c = '\n'
      · simpa [piecesChars, newline, dropReturn] using ih rest
      · rw [map_dropReturn_piecesChars newline kept, map_dropReturn_piecesChars newline kept,
          ih rest]
    · exact other

@[simp] theorem Utf8.decodeLossy_encode (s : String) : decodeLossy (encode s) = s := by
  rw [decodeLossy, pieces_encode, List.map_map]
  simp [Function.comp_def]

end Text

/-! ## Putting a text in the place of another -/

namespace Table

variable {α : Type} {t : Table α} {name : String}

theorem get?_insert (t : Table α) (name other : String) (value : α) :
    (t.insert name value).get? other = if name = other then some value else t.get? other := by
  split
  next same => rw [← same, get?_insert_self]
  next apart =>
    obtain ⟨entries⟩ := t
    change (insertEntry name value entries).lookup other = entries.lookup other
    induction entries with
    | nil => simp [insertEntry, Ne.symm apart]
    | cons entry rest ih =>
      rw [insertEntry]
      split
      next here =>
        have skipped : (other == name) = false := by simpa using Ne.symm apart
        rw [List.lookup_cons, List.lookup_cons, here, skipped]
      · rw [List.lookup_cons, List.lookup_cons, ih]

theorem names_insert_of_get? {old : α} (here : t.get? name = some old) (value : α) :
    (t.insert name value).names = t.names := by
  obtain ⟨entries⟩ := t
  change (insertEntry name value entries).map Prod.fst = entries.map Prod.fst
  induction entries with
  | nil => contradiction
  | cons entry rest ih =>
    rw [insertEntry]
    split
    next same => rw [List.map_cons, List.map_cons, same]
    next other =>
      have skipped : (name == entry.1) = false := by simpa using Ne.symm other
      rw [get?, List.lookup_cons, skipped] at here
      rw [List.map_cons, List.map_cons, ih here]

end Table

/-! ## What the editor gives back -/

theorem Scratch.read?_of_create {scratch scratch' : Scratch} {naming : Naming} {ending : String}
    {bytes : List UInt8} {temp : TempFile}
    (made : scratch.create naming ending bytes = .ok (temp, scratch')) :
    scratch'.read? temp.number = some bytes := by
  simp only [create] at made
  split at made
  · contradiction
  · split at made
    · contradiction
    · cases made
      simp [read?]

/-- Whether the outside editor leaves the temporary file as it is, if it comes to its end. -/
def Launch.sparesFile : Launch → Bool
  | .ran .removes .returned | .ran (.writes _) .returned => false
  | _ => true

/-- What comes back from the editor where nothing is done to the text. -/
def Surface.returned : Surface → String → String
  | .buffer, content => content
  | .external _, content => Text.unifyNewlines content

namespace Session

variable {host : Host} {name content : String} {s t : Session}

theorem launchEditor_ok {temp : TempFile} {command : String}
    (launched : s.launchEditor host command temp = (.ok (), t)) :
    t.editor = s.editor ∧
      ((host.launch s.launches).sparesFile = true → t.scratch = s.scratch) := by
  unfold launchEditor at launched
  split at launched
  · cases launched
  · split at launched
    · cases launched
      exact ⟨rfl, fun _ => rfl⟩
    next touch ending ran =>
      rw [ran]
      cases ending with
      | returned =>
        cases launched
        refine ⟨rfl, fun spares => ?_⟩
        cases touch with
        | leaves => rfl
        | _ => contradiction
      | _ => cases launched

theorem openEditor_ok (opened : s.openEditor host name content = (.ok (), t)) :
    (s.editor.surface = .buffer ∧
        t.editor = { s.editor with fileName := some name, buffer := content }) ∨
      ∃ command temp, s.editor.surface = .external command ∧
        t.editor =
          { s.editor with fileName := some name, buffer := content, temp := some temp } ∧
        ((∀ program, command = some program → program ≠ "" →
            (host.launch s.launches).sparesFile = true) →
          t.scratch.read? temp.number = some (Text.Utf8.encode content)) := by
  unfold openEditor at opened
  cases surface : s.editor.surface with
  | buffer =>
    rw [surface] at opened
    cases opened
    exact .inl ⟨rfl, rfl⟩
  | external command =>
    rw [surface] at opened
    simp only at opened
    split at opened
    · cases opened
    next temp scratch made =>
      have there := Scratch.read?_of_create made
      refine .inr ⟨command, temp, rfl, ?_⟩
      cases command with
      | none =>
        cases opened
        exact ⟨rfl, fun _ => there⟩
      | some program =>
        simp only at opened
        split at opened
        · cases opened
          exact ⟨rfl, fun _ => there⟩
        next given =>
          obtain ⟨editor, scratch⟩ := launchEditor_ok opened
          refine ⟨editor, ?_⟩
          intro spares
          rw [scratch (spares program rfl given)]
          exact there

theorem text_of_openEditor (bare : s.editor.surface = .buffer → s.editor.temp = none)
    (spares : ∀ command, s.editor.command = some command → command ≠ "" →
      (host.launch s.launches).sparesFile = true)
    (opened : s.openEditor host name content = (.ok (), t)) :
    t.editor.text t.scratch = .ok (s.editor.surface.returned content) := by
  obtain ⟨surface, editor⟩ | ⟨command, temp, surface, editor, there⟩ := openEditor_ok opened
  · simp only [Editor.text, editor, bare surface, surface, Surface.returned]
  · have program : s.editor.command = command := by rw [Editor.command, surface]
    rw [program] at spares
    simp only [Editor.text, editor, there spares, Text.Utf8.decodeLossy_encode, surface,
      Surface.returned]

end Session

/-! ## Opening and saving -/

namespace Interpreter

variable {host : Host} {name content text : String} {s : Session}

theorem execute_edit (host : Host) (normal : s.editing = none)
    (editable : isEditableName name = true) (spelled : Text.upper (Text.normal name) = name)
    (stored : s.store.get? name = some content) :
    s.execute host ("EDIT " ++ name) =
      conclude ("EDIT " ++ name) (Verb.perform.reporting (Verb.followedBy
        ((noted ("EDIT " ++ name) s).openEditor host name content) (·.enterEdit name)
        (.info s!"Editing file '{name}'. Use SAVE or CLOSE when done."))) := by
  have fileName : Invocation.fileName ⟨"EDIT", Text.words name⟩ = name := spelled
  have found : (noted ("EDIT " ++ name) s).store.get? name = some content := stored
  have line : "EDIT " ++ name = Verb.edit.name ++ " " ++ name := rfl
  rw [line, execute_verb host normal .edit name, ← line, Verb.perform, Verb.name, fileName,
    Verb.editFile, if_pos editable, found, Option.getD_some]

theorem dispatch_edit_cases (host : Host) (normal : s.editing = none)
    (editable : isEditableName name = true) (spelled : Text.upper (Text.normal name) = name)
    (stored : s.store.get? name = some content) :
    (∃ t, s.openEditor host name content = (.ok (), t) ∧
        (s.dispatch host ("EDIT " ++ name)).1 =
          .done (some (.info s!"Editing file '{name}'. Use SAVE or CLOSE when done.")) ∧
        (s.dispatch host ("EDIT " ++ name)).2.substance = (t.enterEdit name).substance) ∨
      ∃ stop t, s.openEditor host name content = (.error stop, t) ∧
        (s.dispatch host ("EDIT " ++ name)).2.substance = t.substance := by
  have same := (Session.stripped_openEditor (noted ("EDIT " ++ name) s) host name content).trans
    (Session.stripped_openEditor s host name content).symm
  rw [Session.dispatch_eq, Session.substance_conveyed, conveyed_reply,
    execute_edit host normal editable spelled stored, Session.substance_conclude,
    Verb.session_reporting]
  -- The session that has noted the line differs only in its history, which opening does not read.
  generalize (noted ("EDIT " ++ name) s).openEditor host name content = step at same ⊢
  generalize s.openEditor host name content = plain at same ⊢
  obtain ⟨result, t⟩ := step
  obtain ⟨result', u⟩ := plain
  obtain ⟨rfl, substance⟩ := Prod.mk.inj same
  cases result with
  | ok _ =>
    refine .inl ⟨u, rfl, rfl, ?_⟩
    change (t.substance.enterEdit name).substance = (u.substance.enterEdit name).substance
    rw [show t.substance = u.substance from substance]
  | error stop => exact .inr ⟨stop, u, rfl, substance⟩

theorem holdings_dispatch_save (host : Host) (s : Session) :
    (s.dispatch host "SAVE").2.holdings = s.after (Verb.change? host ⟨"SAVE", []⟩ s .save) := by
  have read : Invocation.ofWords? (Text.words "SAVE") = some ⟨"SAVE", []⟩ := by decide +kernel
  have admits : Admits "SAVE" s ⟨"SAVE", []⟩ := ⟨read, by simp [isBarred, isEditorVerb]⟩
  have other (name : String) : ¬ Starts ⟨"SAVE", []⟩ s name := by
    intro starts
    exact absurd starts.1 (by decide)
  have ends : s.execute host "SAVE" = conclude "SAVE" (alone host _ (noted "SAVE" s)) :=
    (Executes.called admits (by simp) other).eq_execute
  rw [Session.dispatch_eq, Session.holdings_of_substance (Session.substance_conveyed _), ends,
    Session.holdings_of_substance (Session.substance_conclude _ _), holdings_alone]
  rfl

end Interpreter

namespace Session

variable {host : Host} {name content text : String} {s : Session}

theorem store_save (host : Host) (mode : s.editing = some name)
    (held : s.editor.text s.scratch = .ok text) :
    (s.dispatch host "SAVE").2.store = ⟨s.store.files.insert name text, s.store.path⟩ := by
  have holdings := Interpreter.holdings_dispatch_save host s
  simp only [Verb.change?, mode, held] at holdings
  exact congrArg Prod.fst holdings

theorem store_save_of_normal (host : Host) (normal : s.editing = none) :
    (s.dispatch host "SAVE").2.store = s.store := by
  have holdings := Interpreter.holdings_dispatch_save host s
  simp only [Verb.change?, normal] at holdings
  exact congrArg Prod.fst holdings

theorem store_edit_save (host : Host) (normal : s.editing = none)
    (bare : s.editor.surface = .buffer → s.editor.temp = none)
    (editable : isEditableName name = true) (spelled : Text.upper (Text.normal name) = name)
    (stored : s.store.get? name = some content)
    (spares : ∀ command, s.editor.command = some command → command ≠ "" →
      (host.launch s.launches).sparesFile = true) :
    let edited := (s.dispatch host ("EDIT " ++ name)).2
    let saved := (edited.dispatch host "SAVE").2
    ((∃ stop, (s.openEditor host name content).1 = .error stop) ∧ edited.editing = none ∧
        saved.store = s.store) ∨
      ((s.openEditor host name content).1 = .ok () ∧ edited.editing = some name ∧
        saved.store =
          ⟨s.store.files.insert name (s.editor.surface.returned content), s.store.path⟩) := by
  intro edited saved
  obtain ⟨t, opened, -, same⟩ | ⟨stop, t, opened, same⟩ :=
    Interpreter.dispatch_edit_cases host normal editable spelled stored
  · have store : edited.store = s.store := by
      rw [← substance_store, show edited.substance = _ from same]
      exact congrArg Prod.fst (holdings_of_frame (frame_of_openEditor opened))
    have editing : edited.editing = some name := by
      rw [← substance_editing, show edited.substance = _ from same]
      rfl
    have held : edited.editor.text edited.scratch = .ok (s.editor.surface.returned content) := by
      rw [← text_of_openEditor bare spares opened, ← substance_editor, ← substance_scratch edited,
        show edited.substance = _ from same]
      rfl
    refine .inr ⟨by rw [opened], editing, ?_⟩
    rw [show saved.store = _ from store_save host editing held, store]
  · have frame := frame_of_openEditor opened
    have store : edited.store = s.store := by
      rw [← substance_store, show edited.substance = _ from same]
      exact congrArg Prod.fst (holdings_of_frame frame)
    have editing : edited.editing = none := by
      rw [← substance_editing, show edited.substance = _ from same]
      exact (editing_of_frame frame).trans normal
    exact .inl ⟨⟨stop, by rw [opened]⟩, editing, (store_save_of_normal host editing).trans store⟩

theorem store_insert_eq_iff (stored : s.store.get? name = some content) :
    (⟨s.store.files.insert name text, s.store.path⟩ : Store) = s.store ↔ text = content := by
  constructor
  · intro same
    have put : s.store.get? name = some text := by
      rw [← same]
      exact Table.get?_insert_self _ _ _
    exact Option.some.inj (put.symm.trans stored)
  · rintro rfl
    rw [Table.insert_of_get? stored]

theorem returned_eq_iff (surface : Surface) (content : String) :
    surface.returned content = content ↔ surface = .buffer ∨ '\r' ∉ content.toList := by
  cases surface with
  | buffer => simp [Surface.returned]
  | external command => simp [Surface.returned, Text.unifyNewlines_eq_self_iff]

theorem scriptLines_returned (surface : Surface)
    (ends : Text.returnsEndLines content.toList = true) :
    scriptLines (surface.returned content) = scriptLines content := by
  cases surface with
  | buffer => rfl
  | external command => exact Text.scriptLines_unifyNewlines ends

/-- To open a stored file and save it at once leaves the store as it is where the text stays in the
buffer, where the file could not be opened, and where it has no carriage return. Otherwise the line
ends of that one file are unified, which a script does not show if its carriage returns all stand
before newlines. -/
theorem edit_save_unifies_newlines (host : Host) (s : Session) (name content : String)
    (normal : s.editing = none) (bare : s.editor.surface = .buffer → s.editor.temp = none)
    (editable : isEditableName name = true) (spelled : Text.upper (Text.normal name) = name)
    (stored : s.store.get? name = some content)
    (spares : ∀ command, s.editor.command = some command → command ≠ "" →
      (host.launch s.launches).sparesFile = true) :
    let edited := (s.dispatch host ("EDIT " ++ name)).2
    let saved := (edited.dispatch host "SAVE").2
    (edited.editing = some name ↔ (s.openEditor host name content).1 = .ok ()) ∧
    (edited.editing = none ↔ (s.openEditor host name content).1 ≠ .ok ()) ∧
    (saved.store = s.store ↔
      edited.editing = none ∨ s.editor.surface = .buffer ∨ '\r' ∉ content.toList) ∧
    (edited.editing = some name →
      saved.store.get? name = some (s.editor.surface.returned content)) ∧
    saved.store.list = s.store.list ∧
    (∀ other, other ≠ name → saved.store.get? other = s.store.get? other) ∧
    (∀ other, other ≠ name ∨ Text.returnsEndLines content.toList = true →
      saved.script other = s.script other) := by
  intro edited saved
  have outcome : (_ ∧ edited.editing = none ∧ saved.store = s.store) ∨
      (_ ∧ edited.editing = some name ∧ saved.store = _) :=
    store_edit_save host normal bare editable spelled stored spares
  obtain ⟨⟨stop, failed⟩, editing, store⟩ | ⟨opened, editing, store⟩ := outcome
  · simp [failed, editing, store, script]
  · have get (other : String) : saved.store.get? other =
        if name = other then some (s.editor.surface.returned content)
        else s.store.get? other := by
      rw [store]
      exact Table.get?_insert _ _ _ _
    refine ⟨by simp [editing, opened], by simp [editing, opened], ?_, ?_, ?_, ?_, ?_⟩
    · rw [store, store_insert_eq_iff stored, returned_eq_iff, editing]
      simp
    · intro _
      rw [get, if_pos rfl]
    · rw [store]
      exact Table.names_insert_of_get? stored _
    · intro other apart
      rw [get, if_neg (Ne.symm apart)]
    · intro other same
      rw [script, script, get]
      split
      next here =>
        have ends := same.resolve_left fun apart => apart here.symm
        rw [← here, stored, Option.getD_some, Option.getD_some, scriptLines_returned _ ends]
      · rfl

def withReturns : Session :=
  .start (.inMemory ⟨[("S.ISH", "ECHO a\r\nECHO b\r\n"), ("N.TXT", "one\rtwo")]⟩) .empty
    (.external (some "vi"))

theorem edit_save_unifies_newlines_withReturns :
    let edited := (withReturns.dispatch (.calm 3) "EDIT S.ISH").2
    let saved := (edited.dispatch (.calm 3) "SAVE").2
    edited.editing = some "S.ISH" ∧ saved.store ≠ withReturns.store ∧
    saved.store.get? "S.ISH" = some "ECHO a\nECHO b\n" ∧
    saved.store.list = ["S.ISH", "N.TXT"] ∧ saved.store.get? "N.TXT" = some "one\rtwo" ∧
    saved.script "S.ISH" = withReturns.script "S.ISH" := by
  intro edited saved
  obtain ⟨opens, -, keeps, text, list, others, scripts⟩ :=
    edit_save_unifies_newlines (.calm 3) withReturns "S.ISH" "ECHO a\r\nECHO b\r\n" rfl (by decide)
      (by decide +kernel) (by decide +kernel) (by decide +kernel) (fun _ _ _ => rfl)
  have mode : edited.editing = some "S.ISH" := opens.mpr (by decide +kernel)
  refine ⟨mode, ?_, ?_, list, others "N.TXT" (by decide), scripts "S.ISH" (.inr (by decide))⟩
  · intro same
    rcases keeps.mp same with closed | buffer | plain
    · exact nomatch mode.symm.trans closed
    · exact nomatch buffer
    · exact plain (by decide)
  · rw [show saved.store.get? "S.ISH" = _ from text mode]
    decide

theorem edit_save_splits_script_line :
    let s : Session :=
      .start (.inMemory ⟨[("S.ISH", "ECHO a\rECHO b")]⟩) .empty (.external none)
    let saved := ((s.dispatch (.calm 3) "EDIT S.ISH").2.dispatch (.calm 3) "SAVE").2
    saved.store.get? "S.ISH" = some "ECHO a\nECHO b" ∧ saved.store ≠ s.store ∧
    s.script "S.ISH" = ["ECHO a\rECHO b"] ∧ saved.script "S.ISH" = ["ECHO a", "ECHO b"] := by
  decide +kernel

end Session

end ScriptShell
