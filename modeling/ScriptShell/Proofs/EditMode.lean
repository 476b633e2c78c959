import ScriptShell.Proofs.Reentry
import ScriptShell.Proofs.UpperCase

namespace ScriptShell

/-! ## Endings of temporary files -/

namespace Editor

theorem extension_of_ending (front word : List Char) (noDot : '.' ∉ word) (noSlash : '/' ∉ word) :
    extension (String.ofList (front ++ '.' :: word)) = "" ∨
      extension (String.ofList (front ++ '.' :: word)) = String.ofList ('.' :: word) := by
  have plain : ∀ c ∈ word.reverse, decide (c ≠ '.') = true := by
    intro c member
    rw [List.mem_reverse] at member
    exact decide_eq_true fun same => noDot (same ▸ member)
  have inside : ∀ c ∈ word.reverse ++ ['.'], decide (c ≠ '/') = true := by
    intro c member
    rw [List.mem_append, List.mem_reverse, List.mem_singleton] at member
    rcases member with member | rfl
    · exact decide_eq_true fun same => noSlash (same ▸ member)
    · rfl
  -- The last component is what follows the last slash of `front`, and then the ending.
  have last : ((front ++ '.' :: word).reverse.takeWhile (· ≠ '/')).reverse =
      (front.reverse.takeWhile (· ≠ '/')).reverse ++ '.' :: word := by
    have turned : (front ++ '.' :: word).reverse = (word.reverse ++ ['.']) ++ front.reverse := by simp
    rw [turned, List.takeWhile_append_of_pos inside]
    simp
  unfold extension
  simp only [String.toList_ofList, last]
  generalize (front.reverse.takeWhile (· ≠ '/')).reverse = stem
  rw [List.dropWhile_append]
  split
  · left
    have body : ('.' :: word).dropWhile (· = '.') = word := by
      cases word with
      | nil => rfl
      | cons c rest =>
        have other : c ≠ '.' := fun same => noDot (same ▸ List.mem_cons_self)
        simp [List.dropWhile, other]
    rw [body, if_neg (by simpa using noDot)]
  · right
    have cut : ((stem.dropWhile (· = '.') ++ '.' :: word).reverse.takeWhile (· ≠ '.')).reverse =
        word := by
      have turned : (stem.dropWhile (· = '.') ++ '.' :: word).reverse =
          word.reverse ++ '.' :: (stem.dropWhile (· = '.')).reverse := by simp
      rw [turned, List.takeWhile_append_of_pos plain]
      simp
    rw [cut, if_pos (by simp)]

end Editor

def Scratch.endings : List String := ["", ".txt", ".ish"]

theorem Invocation.upper_fileName (i : Invocation) : Text.upper i.fileName = i.fileName :=
  Text.upper_upper _

theorem Editor.extension_of_endsWith {name ending : String} (word : List Char)
    (split : ending.toList = '.' :: word) (noDot : '.' ∉ word) (noSlash : '/' ∉ word)
    (ends : Text.endsWith name ending = true) : extension name = "" ∨ extension name = ending := by
  obtain ⟨front, whole⟩ := List.isSuffixOf_iff_suffix.mp ends
  have text : name = String.ofList (front ++ '.' :: word) := by
    rw [← split, whole, String.ofList_toList]
  have same : ending = String.ofList ('.' :: word) := by rw [← split, String.ofList_toList]
  rw [text, same]
  exact extension_of_ending front word noDot noSlash

theorem Scratch.mem_endings {name : String} (editable : isEditableName name = true)
    (upper : Text.upper name = name) : Text.lower (Editor.extension name) ∈ endings := by
  unfold isEditableName at editable
  rw [upper, Bool.or_eq_true] at editable
  rcases editable with text | script
  · obtain none | ending :=
      Editor.extension_of_endsWith ['T', 'X', 'T'] rfl (by decide) (by decide) text
    · rw [none]
      decide
    · rw [ending]
      decide
  · obtain none | ending :=
      Editor.extension_of_endsWith ['I', 'S', 'H'] rfl (by decide) (by decide) script
    · rw [none]
      decide
    · rw [ending]
      decide

/-! ## The invariant -/

/-- Whether a temporary file for editing can always be made, as the directory for them should allow. -/
def Naming.MakesTempFiles (naming : Naming) : Prop :=
  ∀ (scratch : Scratch) (ending : String) (bytes : List UInt8), ending ∈ Scratch.endings →
    ∃ made, scratch.create naming ending bytes = .ok made

theorem Naming.plain_makesTempFiles : plain.MakesTempFiles := by
  intro scratch ending bytes member
  have fits : ∀ ending ∈ Scratch.endings,
      ¬Disk.hasNull ("/tmp" ++ "/" ++ ("iqsh-" ++ "xxxxxxxx" ++ ending)) ∧
        ¬Disk.isLongName ("iqsh-" ++ "xxxxxxxx" ++ ending) := by decide
  obtain ⟨noNull, short⟩ := fits ending member
  exact ⟨_, (if_neg noNull).trans (if_neg short)⟩

def Scratch.HoldsOnly (scratch : Scratch) : Option TempFile → Prop
  | none => scratch.files = []
  | some temp => scratch.files = [] ∨ ∃ bytes, scratch.files = [(temp.number, bytes)]

/-- The editor agrees with the mode, and keeps no more than it needs for it. -/
structure Editor.InStep (editor : Editor) (scratch : Scratch) (mode : Option String) : Prop where
  file : mode = editor.fileName
  empty : mode = none → editor.buffer = "" ∧ editor.temp = none
  bare : editor.surface = .buffer → editor.temp = none
  backed : ∀ command, mode ≠ none → editor.surface = .external command → editor.temp.isSome = true
  files : scratch.HoldsOnly editor.temp

def Session.InStep (s : Session) : Prop := s.editor.InStep s.scratch s.editing

namespace Scratch

variable {scratch : Scratch} {temp : TempFile}

theorem HoldsOnly.without {temp : Option TempFile} (only : scratch.HoldsOnly temp) :
    (scratch.without temp).HoldsOnly none := by
  cases temp with
  | none => exact only
  | some temp =>
    change scratch.files.filter (fun file => file.1 ≠ temp.number) = []
    obtain none | ⟨bytes, one⟩ := only
    · rw [none]
      rfl
    · simp [one]

theorem HoldsOnly.remove (only : scratch.HoldsOnly (some temp)) :
    (scratch.remove temp.number).HoldsOnly (some temp) := .inl only.without

theorem HoldsOnly.write (only : scratch.HoldsOnly (some temp)) (bytes : List UInt8) :
    (scratch.write temp.number bytes).HoldsOnly (some temp) := by
  have none : (scratch.remove temp.number).files = [] := only.without
  exact .inr ⟨bytes, by simp [Scratch.write, none]⟩

theorem HoldsOnly.touch (only : scratch.HoldsOnly (some temp)) (touch : Touch) :
    (touch.apply scratch temp.number).HoldsOnly (some temp) := by
  cases touch with
  | leaves => exact only
  | removes => exact only.remove
  | writes bytes => exact only.write bytes

theorem HoldsOnly.create {naming : Naming} {ending : String} {bytes : List UInt8}
    {made : TempFile × Scratch} (none : scratch.files = [])
    (created : scratch.create naming ending bytes = .ok made) : made.2.HoldsOnly (some made.1) := by
  simp only [Scratch.create] at created
  split at created
  · contradiction
  · split at created
    · contradiction
    · cases created
      exact .inr ⟨bytes, by rw [none]⟩

end Scratch

/-! ## What each change of the editor keeps -/

namespace Session

variable {s : Session}

theorem inStep_congr {t : Session} (same : s.substance = t.substance) (inStep : s.InStep) :
    t.InStep := by
  have moved : s.substance.InStep := inStep
  rw [same] at moved
  exact moved

theorem inStep_start (store : Store) (disk : Disk) (surface : Surface) :
    (start store disk surface).InStep where
  file := rfl
  empty _ := ⟨rfl, rfl⟩
  bare _ := rfl
  backed _ editing _ := absurd rfl editing
  files := rfl

theorem inStep_closeEditor (normal : s.editing = none)
    (files : s.scratch.HoldsOnly s.editor.temp) : s.closeEditor.InStep := by
  have closed : s.closeEditor.substance.InStep := by
    rw [substance_closeEditor]
    exact
      { file := normal
        empty := fun _ => ⟨rfl, rfl⟩
        bare := fun _ => rfl
        backed := fun _ editing _ => absurd normal editing
        files := files.without }
  exact closed

theorem inStep_ended (inStep : s.InStep) : s.closeEditor.leaveEdit.InStep := by
  have normal : ({ s with editing := none } : Session).closeEditor.InStep :=
    inStep_closeEditor rfl inStep.files
  refine inStep_congr ?_ normal
  rw [substance_leaveEdit, substance_closeEditor, substance_closeEditor]
  rfl

structure Handed (s : Session) (name : String) (temp : TempFile) : Prop where
  normal : s.editing = none
  file : s.editor.fileName = some name
  backing : s.editor.temp = some temp
  files : s.scratch.HoldsOnly (some temp)

theorem Handed.inStep_enterEdit {name : String} {temp : TempFile} (handed : s.Handed name temp)
    (outside : s.editor.surface ≠ .buffer) : (s.enterEdit name).InStep where
  file := handed.file.symm
  empty editing := nomatch editing
  bare inside := absurd inside outside
  backed _ _ _ := by
    change s.editor.temp.isSome = true
    rw [handed.backing]
    rfl
  files := by
    change s.scratch.HoldsOnly s.editor.temp
    rw [handed.backing]
    exact handed.files

theorem Handed.inStep_closeEditor {name : String} {temp : TempFile} (handed : s.Handed name temp) :
    s.closeEditor.InStep :=
  Session.inStep_closeEditor handed.normal (handed.backing ▸ handed.files)

theorem Handed.launchEditor {name : String} {temp : TempFile} (handed : s.Handed name temp)
    (outside : s.editor.surface ≠ .buffer) (host : Host) (command : String) :
    match s.launchEditor host command temp with
    | (.ok _, t) => (t.enterEdit name).InStep
    | (.error _, t) => t.InStep := by
  unfold Session.launchEditor
  cases Editor.splitCommand command with
  | error failure => exact handed.inStep_closeEditor
  | ok words =>
    -- Whatever the program does to its file, what has been handed over stays so.
    have launched (touch : Touch) : Handed { s.record (.launched (words ++ [temp.path])) with
        launches := s.launches + 1, scratch := touch.apply s.scratch temp.number } name temp :=
      ⟨handed.normal, handed.file, handed.backing, handed.files.touch touch⟩
    cases host.launch s.launches with
    | notFound => exact (launched .leaves).inStep_enterEdit outside
    | ran touch ending =>
      cases ending with
      | returned => exact (launched touch).inStep_enterEdit outside
      | _ => exact (launched touch).inStep_closeEditor

theorem inStep_openEditor (inStep : s.InStep) (normal : s.editing = none) (host : Host)
    (name content : String)
    (makes : ∃ made, s.scratch.create host.naming (Text.lower (Editor.extension name))
      (Text.Utf8.encode content) = .ok made) :
    match s.openEditor host name content with
    | (.ok _, t) => (t.enterEdit name).InStep
    | (.error _, t) => t.InStep := by
  obtain ⟨made, created⟩ := makes
  have rest : s.scratch.files = [] := by
    have files := inStep.files
    rwa [(inStep.empty normal).2] at files
  unfold openEditor
  cases surface : s.editor.surface with
  | buffer =>
    exact
      { file := rfl
        empty := fun editing => nomatch editing
        bare := fun _ => (inStep.empty normal).2
        backed := fun command _ outside => nomatch surface.symm.trans outside
        files := inStep.files }
  | external command =>
    simp only [created]
    have handed : Handed { s with
        editor := { s.editor with fileName := some name, buffer := content, temp := some made.1 },
        scratch := made.2 } name made.1 :=
      ⟨normal, rfl, rfl, .create rest created⟩
    have outside : s.editor.surface ≠ .buffer := by
      rw [surface]
      exact Surface.noConfusion
    cases command with
    | none => exact handed.inStep_enterEdit outside
    | some command =>
      simp only
      by_cases plain : command = ""
      · rw [if_pos plain]
        exact handed.inStep_enterEdit outside
      · rw [if_neg plain]
        exact handed.launchEditor outside host command

end Session

/-! ## What each verb keeps -/

theorem Verb.name_of_ofName? {name : String} {verb : Verb} (found : ofName? name = some verb) :
    verb.name = name := by
  simpa using List.find?_some found

theorem Session.editing_eq_none {s : Session} (normal : s.isEditing = false) : s.editing = none := by
  simpa [isEditing] using normal

namespace Verb

variable {host : Host} {s : Session}

theorem inStep_openFile {i : Invocation} (makes : host.naming.MakesTempFiles)
    (editable : isEditableName i.fileName = true)
    (passes : Interpreter.isBarred Verb.edit.name s = false) (inStep : s.InStep) (content : String) :
    match s.openEditor host i.fileName content with
    | (.ok _, t) => (t.enterEdit i.fileName).InStep
    | (.error _, t) => t.InStep := by
  have normal : s.editing = none :=
    Session.editing_eq_none (by simpa [Interpreter.isBarred, Interpreter.isEditorVerb, name] using passes)
  have ending := Scratch.mem_endings editable i.upper_fileName
  exact Session.inStep_openEditor inStep normal host _ content (makes _ _ _ ending)

theorem Leaves.inStep {i : Invocation} {verb : Verb} {t : Session} (leaves : Leaves host i s verb t)
    (makes : host.naming.MakesTempFiles) (passes : Interpreter.isBarred verb.name s = false)
    (inStep : s.InStep) : t.InStep := by
  cases leaves with
  | shown none vars viewing history => exact inStep
  | changed made viewing history => exact inStep
  | saved made written history => exact Session.inStep_ended inStep
  | @opened content t editable result =>
    have kept := inStep_openFile makes editable passes inStep content
    rwa [result] at kept
  | @stopped content stop t editable result =>
    have kept := inStep_openFile makes editable passes inStep content
    rwa [result] at kept
  | closed => exact Session.inStep_ended inStep

end Verb

namespace Session

variable {host : Host} {s : Session}

theorem inStep_execute (makes : host.naming.MakesTempFiles) (inStep : s.InStep) (line : String) :
    (s.execute host line).2.InStep := by
  refine Interpreter.execute_keeps (fun _ _ => inStep_congr) line s ?_ inStep
  intro next t i _ _ passes kept
  unfold Interpreter.alone Interpreter.call
  cases found : Verb.ofName? i.verb with
  | none => exact kept
  | some verb =>
    rw [← Verb.name_of_ofName? found] at passes
    exact (Verb.leaves_perform (fun _ => rfl) verb).inStep makes passes kept

theorem inStep_dispatch (makes : host.naming.MakesTempFiles) (inStep : s.InStep) (line : String) :
    (s.dispatch host line).2.InStep :=
  inStep_congr (substance_conveyed _).symm (inStep_execute makes inStep line)

theorem inStep_boot (makes : host.naming.MakesTempFiles) (inStep : s.InStep) :
    (s.boot host).2.InStep := by
  unfold boot
  split
  · exact inStep_dispatch makes inStep _
  · exact inStep

theorem inStep_close (inStep : s.InStep) : s.close.InStep := by
  unfold close
  split
  · exact inStep_ended inStep
  · exact inStep

theorem inStep_typeText (inStep : s.InStep) (editing : s.editing ≠ none) (bytes : List UInt8) :
    (s.typeText bytes).InStep := by
  unfold typeText
  cases backing : s.editor.temp with
  | none =>
    exact
      { file := inStep.file
        empty := fun normal => absurd normal editing
        bare := inStep.bare
        backed := inStep.backed
        files := inStep.files }
  | some temp =>
    have files := inStep.files
    rw [backing] at files
    exact
      { file := inStep.file
        empty := inStep.empty
        bare := inStep.bare
        backed := inStep.backed
        files := by
          change (s.scratch.write temp.number bytes).HoldsOnly s.editor.temp
          rw [backing]
          exact files.write bytes }

theorem inStep_turn (makes : host.naming.MakesTempFiles) (inStep : s.InStep) (line : Option String) :
    (s.turn host line).InStep := by
  cases line with
  | none => exact inStep
  | some line =>
    have dispatched := inStep_dispatch makes inStep line
    rw [turn]
    split
    next report t done => simpa only [done] using dispatched
    next t stopped =>
      rw [stopped] at dispatched
      exact inStep_congr (s := t) rfl dispatched

theorem inStep_interact (makes : host.naming.MakesTempFiles) (inStep : s.InStep) (prompt : String)
    (lines : List (Option String)) : (s.interact host prompt lines).InStep := by
  induction lines generalizing s with
  | nil => exact inStep_close (s := (s.ask prompt).print .out "") inStep
  | cons line rest ih => exact ih (inStep_turn (s := s.ask prompt) makes inStep line)

/-- The sessions that come about from a new one. Between two lines the user may write in the editor,
and the disk may change so that a document cannot be written any more. -/
inductive Reachable (host : Host) : Session → Prop where
  | start (store : Store) (disk : Disk) (surface : Surface) :
      Reachable host (start store disk surface)
  | dispatch {s : Session} (line : String) :
      Reachable host s → Reachable host (s.dispatch host line).2
  | boot {s : Session} : Reachable host s → Reachable host (s.boot host).2
  | interact {s : Session} (prompt : String) (lines : List (Option String)) :
      Reachable host s → Reachable host (s.interact host prompt lines)
  | close {s : Session} : Reachable host s → Reachable host s.close
  | typeText {s : Session} (bytes : List UInt8) :
      Reachable host s → s.editing ≠ none → Reachable host (s.typeText bytes)
  | outside {s : Session} (disk : Disk) : Reachable host s → Reachable host { s with disk := disk }

theorem Reachable.inStep (makes : host.naming.MakesTempFiles) (reachable : Reachable host s) :
    s.InStep := by
  induction reachable with
  | start store disk surface => exact inStep_start store disk surface
  | dispatch line _ ih => exact inStep_dispatch makes ih line
  | boot _ ih => exact inStep_boot makes ih
  | interact prompt lines _ ih => exact inStep_interact makes ih prompt lines
  | close _ ih => exact inStep_close ih
  | typeText bytes _ editing ih => exact inStep_typeText ih editing bytes
  | outside disk _ ih => exact ih

end Session

/-- In every session that comes about the mode names the file that the editor holds. With no file
the editor is empty and no temporary file is there. With a file an outside editor has its temporary
file, and there is no other. -/
theorem Session.mode_matches_editor (host : Host) (makes : host.naming.MakesTempFiles) (s : Session)
    (reachable : Reachable host s) :
    s.editing = s.editor.fileName ∧
    (s.editing = none →
      s.editor.buffer = "" ∧ s.editor.temp = none ∧ s.scratch.files = []) ∧
    (s.editing ≠ none → s.editor.surface = .buffer → s.scratch.files = []) ∧
    (∀ command, s.editing ≠ none → s.editor.surface = .external command →
      ∃ temp, s.editor.temp = some temp ∧ s.scratch.count ≤ 1 ∧
        ∀ file ∈ s.scratch.files, file.1 = temp.number) := by
  have inStep := reachable.inStep makes
  have files := inStep.files
  refine ⟨inStep.file, ?_, ?_, ?_⟩
  · intro normal
    obtain ⟨buffer, temp⟩ := inStep.empty normal
    rw [temp] at files
    exact ⟨buffer, temp, files⟩
  · intro _ inside
    rwa [inStep.bare inside] at files
  · intro command editing outside
    obtain ⟨temp, backing⟩ := Option.isSome_iff_exists.mp (inStep.backed command editing outside)
    rw [backing] at files
    refine ⟨temp, backing, ?_, ?_⟩
    · obtain none | ⟨bytes, one⟩ := files
      · simp [Scratch.count, none]
      · simp [Scratch.count, one]
    · obtain none | ⟨bytes, one⟩ := files
      · simp [none]
      · simp [one]

def Host.unruly : Host :=
  { calm 3 with
    launch := fun count => .ran (.writes [72]) (if count = 0 then .interrupted else .returned) }

def Session.editedTwice : Session :=
  let s := start (.inMemory ⟨[("S.ISH", "EDIT A.TXT")]⟩) .empty (.external (some "vi"))
  ((s.dispatch .unruly "RUN S.ISH").2.dispatch .unruly "RUN S.ISH").2

theorem Session.mode_matches_editor_editedTwice :
    Host.unruly.naming.MakesTempFiles ∧ Reachable .unruly editedTwice ∧
    editedTwice.editing = some "A.TXT" ∧ editedTwice.editor.fileName = some "A.TXT" ∧
    ∃ temp, editedTwice.editor.temp = some temp ∧ editedTwice.scratch.count ≤ 1 ∧
      ∀ file ∈ editedTwice.scratch.files, file.1 = temp.number := by
  have reachable : Reachable .unruly editedTwice := .dispatch _ (.dispatch _ (.start _ _ _))
  have editing : editedTwice.editing = some "A.TXT" := by decide +kernel
  have surface : editedTwice.editor.surface = .external (some "vi") := by decide +kernel
  obtain ⟨file, _, _, outside⟩ :=
    mode_matches_editor .unruly Naming.plain_makesTempFiles editedTwice reachable
  refine ⟨Naming.plain_makesTempFiles, reachable, editing, file.symm.trans editing, ?_⟩
  exact outside _ (by simp [editing]) surface

end ScriptShell
