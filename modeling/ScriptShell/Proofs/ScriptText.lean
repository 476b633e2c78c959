import ScriptShell.Proofs.Cascade
import ScriptShell.Proofs.History

namespace ScriptShell

namespace Text

/-! ## Rows -/

theorem join_pieces (s : String) : join "\n" (pieces '\n' s) = s := by
  suffices whole : ∀ cs, (join "\n" ((piecesChars '\n' cs).map String.ofList)).toList = cs from
    String.ext (whole s.toList)
  intro cs
  induction cs with
  | nil => rfl
  | cons c cs ih =>
    obtain ⟨first, rest, cut, -, -⟩ := piecesChars_eq_cons '\n' cs
    rw [cut] at ih
    rw [piecesChars, cut]
    split
    next newline => simpa [join, newline] using ih
    · cases rest with
      | nil => simpa [join] using ih
      | cons second rest => simpa [join] using ih

theorem not_mem_of_mem_pieces {mark : Char} {s row : String} (listed : row ∈ pieces mark s) :
    mark ∉ row.toList := by
  obtain ⟨piece, among, rfl⟩ := List.mem_map.mp listed
  rw [String.toList_ofList]
  exact not_mem_of_mem_piecesChars among

theorem pieces_of_not_mem {mark : Char} {s : String} (none : mark ∉ s.toList) : pieces mark s = [s] := by
  rw [pieces, piecesChars_of_not_mem none, List.map_singleton, String.ofList_toList]

theorem isBlankText_of_mem_pieces {mark : Char} {s row : String} (blank : isBlankText s = true)
    (listed : row ∈ pieces mark s) : isBlankText row = true := by
  obtain ⟨piece, among, rfl⟩ := List.mem_map.mp listed
  rw [isBlankText, List.all_eq_true] at blank ⊢
  rw [String.toList_ofList]
  intro c member
  exact blank c ((within_of_mem_piecesChars among).subset member)

end Text

/-! ## The line of a row -/

theorem dropReturn_append (cs : List Char) : dropReturn (cs ++ ['\r']) = cs := by
  induction cs with
  | nil => rfl
  | cons c cs ih => cases cs <;> simp_all [dropReturn]

theorem dropReturn_of_not_suffix {cs : List Char} (bare : ¬ ['\r'] <:+ cs) : dropReturn cs = cs := by
  induction cs with
  | nil => rfl
  | cons c cs ih =>
    rw [List.suffix_cons_iff, not_or] at bare
    rw [dropReturn, ih bare.2]
    rintro rfl rfl
    exact bare.1 rfl

def lineOf (row : String) : String := String.ofList (dropReturn row.toList)

inductive Holds : String → String → Prop where
  | alone {line : String} (bare : ¬ "\r".toList <:+ line.toList) : Holds line line
  | returned (line : String) : Holds (line ++ "\r") line

theorem Holds.lineOf_eq {row line : String} (holds : Holds row line) : lineOf row = line := by
  cases holds with
  | alone bare => rw [lineOf, dropReturn_of_not_suffix bare, String.ofList_toList]
  | returned =>
    rw [lineOf, String.toList_append]
    exact (congrArg String.ofList (dropReturn_append line.toList)).trans String.ofList_toList

theorem holds_lineOf (row : String) : Holds row (lineOf row) := by
  by_cases ends : "\r".toList <:+ row.toList
  · obtain ⟨cs, whole⟩ := ends
    obtain rfl : String.ofList cs ++ "\r" = row := by
      apply String.ext
      simpa using whole
    rw [(Holds.returned (String.ofList cs)).lineOf_eq]
    exact .returned _
  · rw [(Holds.alone ends).lineOf_eq]
    exact .alone ends

theorem Holds.words_eq {row line : String} (holds : Holds row line) :
    Text.words row = Text.words line := by
  cases holds with
  | alone bare => rfl
  | returned =>
    have gone : Text.wordsChars (line.toList ++ ['\r']) = Text.wordsChars line.toList := by
      rw [Text.wordsChars_append_blank rfl]
      exact List.append_nil _
    rw [Text.words, String.toList_append]
    exact congrArg (List.map String.ofList) gone

theorem Holds.subset {row line : String} (holds : Holds row line) {c : Char}
    (member : c ∈ line.toList) : c ∈ row.toList := by
  cases holds with
  | alone bare => exact member
  | returned =>
    rw [String.toList_append]
    exact List.mem_append_left _ member

/-! ## The lines of a text -/

theorem scriptLines_eq (content : String) :
    scriptLines content =
      ((Text.pieces '\n' content).filter fun row => Text.words row ≠ []).map lineOf := by
  have blank (cs : List Char) : (!(dropReturn cs).all Text.isBlank) =
      decide (Text.words (String.ofList cs) ≠ []) := by
    have line : lineOf (String.ofList cs) = String.ofList (dropReturn cs) := by
      rw [lineOf, String.toList_ofList]
    have same := Text.words_eq_nil_iff (lineOf (String.ofList cs))
    rw [← (holds_lineOf _).words_eq, Text.isBlankText, line, String.toList_ofList] at same
    rw [Bool.eq_iff_iff]
    simp [same]
  rw [scriptLines, Text.pieces, List.filter_map, List.filter_map, List.map_map, List.map_map]
  simp only [Function.comp_def, blank, lineOf, String.toList_ofList]

theorem scriptLines_append (a b : String) :
    scriptLines (a ++ "\n" ++ b) = scriptLines a ++ scriptLines b := by
  have whole : (a ++ "\n" ++ b).toList = a.toList ++ '\n' :: b.toList := by
    simp only [String.toList_append, List.append_assoc]
    rfl
  simp only [scriptLines, whole, Text.piecesChars_append, List.map_append, List.filter_append]

theorem mem_scriptLines {content line : String} (listed : line ∈ scriptLines content) :
    ∃ row ∈ Text.pieces '\n' content, Text.words row ≠ [] ∧ Holds row line := by
  rw [scriptLines_eq] at listed
  obtain ⟨row, kept, rfl⟩ := List.mem_map.mp listed
  obtain ⟨among, written⟩ := List.mem_filter.mp kept
  exact ⟨row, among, by simpa using written, holds_lineOf row⟩

theorem scriptLines_of_blank {gap : String} (blank : Text.isBlankText gap = true) :
    scriptLines gap = [] := by
  rw [List.eq_nil_iff_forall_not_mem]
  intro line listed
  obtain ⟨row, among, written, -⟩ := mem_scriptLines listed
  exact written ((Text.words_eq_nil_iff row).mpr (Text.isBlankText_of_mem_pieces blank among))

theorem scriptLines_of_holds {row line : String} (oneRow : '\n' ∉ row.toList)
    (written : Text.words line ≠ []) (holds : Holds row line) : scriptLines row = [line] := by
  rw [scriptLines_eq, Text.pieces_of_not_mem oneRow, List.filter_singleton, holds.words_eq]
  simp [written, holds.lineOf_eq]

/-! ## Lines written down -/

inductive LineEnd where
  | newline
  | returnNewline
  deriving DecidableEq, Repr

def LineEnd.text : LineEnd → String
  | .newline => "\n"
  | .returnNewline => "\r\n"

/-- Rows with their line ends, and a last one that has none. -/
def layOut (last : String) : List (String × LineEnd) → String
  | [] => last
  | (row, ending) :: rest => row ++ ending.text ++ layOut last rest

structure IsScriptLine (line : String) : Prop where
  written : Text.isBlankText line = false
  oneRow : '\n' ∉ line.toList
  bare : ¬ "\r".toList <:+ line.toList

namespace IsScriptLine

variable {line : String}

theorem words_ne_nil (isLine : IsScriptLine line) : Text.words line ≠ [] := by
  rw [ne_eq, Text.words_eq_nil_iff, isLine.written]
  exact Bool.false_ne_true

theorem scriptLines_eq (isLine : IsScriptLine line) : scriptLines line = [line] :=
  scriptLines_of_holds isLine.oneRow isLine.words_ne_nil (.alone isLine.bare)

theorem scriptLines_returned (isLine : IsScriptLine line) : scriptLines (line ++ "\r") = [line] := by
  apply scriptLines_of_holds _ isLine.words_ne_nil (.returned line)
  rw [String.toList_append, List.mem_append, not_or]
  exact ⟨isLine.oneRow, by decide⟩

end IsScriptLine

theorem scriptLines_row (row : String) (isLine : Text.isBlankText row = false → IsScriptLine row)
    (ending : LineEnd) (rest : String) :
    scriptLines (row ++ ending.text ++ rest) = scriptLines row ++ scriptLines rest := by
  cases ending with
  | newline => exact scriptLines_append row rest
  | returnNewline =>
    have split : row ++ "\r\n" ++ rest = row ++ "\r" ++ "\n" ++ rest := by
      apply String.ext
      simp
    have same : scriptLines (row ++ "\r") = scriptLines row := by
      cases blank : Text.isBlankText row with
      | true =>
        have more : Text.isBlankText (row ++ "\r") = true := by
          rw [Text.isBlankText] at blank ⊢
          rw [String.toList_append, List.all_append, blank]
          rfl
        rw [scriptLines_of_blank more, scriptLines_of_blank blank]
      | false => rw [(isLine blank).scriptLines_returned, (isLine blank).scriptLines_eq]
    rw [LineEnd.text, split, scriptLines_append, same]

theorem scriptLines_eq_filter {row : String}
    (isLine : Text.isBlankText row = false → IsScriptLine row) :
    scriptLines row = [row].filter (!Text.isBlankText ·) := by
  cases blank : Text.isBlankText row with
  | true => simp [scriptLines_of_blank blank, blank]
  | false => simp [(isLine blank).scriptLines_eq, blank]

theorem scriptLines_layOut {last : String} {rows : List (String × LineEnd)}
    (isLine : ∀ row ∈ rows.map Prod.fst ++ [last], Text.isBlankText row = false → IsScriptLine row) :
    scriptLines (layOut last rows) = (rows.map Prod.fst ++ [last]).filter (!Text.isBlankText ·) := by
  induction rows with
  | nil => exact scriptLines_eq_filter (isLine last List.mem_cons_self)
  | cons first rest ih =>
    obtain ⟨here, below⟩ := List.forall_mem_cons.mp isLine
    rw [layOut, scriptLines_row first.1 here, scriptLines_eq_filter here, ih below]
    exact (List.filter_append [first.1] _).symm

/-! ## What a line does -/

namespace Interpreter

variable (host : Host) (line : String) (s : Session)

theorem history_executeCommand {run : String → Session → Step Report} (unswayed : Unswayed run)
    {command : Command} (some : command ≠ .blank) :
    ∃ more, (executeCommand host run command line s).2.history = more ++ notedPast line s := by
  cases command with
  | blank => contradiction
  | call i =>
    simp only [executeCommand, gate]
    split
    · exact ⟨[], rfl⟩
    · rw [noted_eq, call_upon host _ _ unswayed, conclude_behind]
      exact ⟨_, rfl⟩
  | malformed refusal =>
    simp only [executeCommand, gate]
    split <;> exact ⟨[], rfl⟩
  | conditional c body command =>
    have begun : branched body (weighed c body (noted line s)) =
        (branched body (weighed c body s.silent)).upon (notedPast line s) := rfl
    simp only [executeCommand, gate]
    split
    · exact ⟨[], rfl⟩
    · split
      · exact ⟨[_], rfl⟩
      · exact ⟨[_], rfl⟩
      · rw [begun, executeCommand_upon host _ _ unswayed]
        exact ⟨_, rfl⟩

theorem ofLine_ne_blank {line : String} (written : Text.words line ≠ []) :
    Command.ofLine line ≠ .blank := by
  obtain ⟨verb, arguments, words⟩ := List.exists_cons_of_ne_nil written
  rw [Command.ofLine_eq, words, Invocation.ofWords?]
  simp only
  split
  · split <;> exact Command.noConfusion
  · exact Command.noConfusion

theorem events_execute {line : String} (written : Text.words line ≠ []) :
    ∃ more, (s.execute host line).2.events = s.events ++ .carrying line :: more := by
  obtain ⟨more, told⟩ := history_executeCommand host line s (unswayed_runScript host (s.room host))
    (ofLine_ne_blank written)
  refine ⟨more.reverse, ?_⟩
  have history : (s.execute host line).2.history = more ++ notedPast line s := told
  rw [Session.events, history, notedPast, List.reverse_append, List.reverse_cons, List.append_assoc]
  rfl

end Interpreter

/-! ## The statement -/

/-- Texts put under one another are read one after the other. The lines read are those of the rows that
have words, in order and each but for a carriage return at its end; carrying one of them out is told, while
a row that is passed over would have done nothing. Lines that are written down with either line end, with
blank rows anywhere between them, are read as they are. -/
theorem scriptLines_loses_nothing :
    (∀ a b, scriptLines (a ++ "\n" ++ b) = scriptLines a ++ scriptLines b) ∧
    (∀ content, ∃ rows, Text.join "\n" rows = content ∧ (∀ row ∈ rows, '\n' ∉ row.toList) ∧
      List.Forall₂ Holds (rows.filter fun row => Text.words row ≠ []) (scriptLines content)) ∧
    (∀ content, ∀ line ∈ scriptLines content, '\n' ∉ line.toList ∧ Text.words line ≠ [] ∧
      ∀ (host : Host) (s : Session),
        ∃ more, (s.execute host line).2.events = s.events ++ .carrying line :: more) ∧
    (∀ row, Text.words row = [] →
      ∀ (host : Host) (s : Session), s.execute host row = (.done none, s)) ∧
    ∀ lines rows last, (∀ line ∈ lines, IsScriptLine line) →
      (rows.map Prod.fst ++ [last]).filter (!Text.isBlankText ·) = lines →
      scriptLines (layOut last rows) = lines := by
  refine ⟨scriptLines_append, ?_, ?_, ?_, ?_⟩
  · intro content
    refine ⟨Text.pieces '\n' content, Text.join_pieces content,
      fun row => Text.not_mem_of_mem_pieces, ?_⟩
    rw [scriptLines_eq, List.forall₂_map_right_iff, List.forall₂_same]
    exact fun row _ => holds_lineOf row
  · intro content line listed
    obtain ⟨row, among, written, holds⟩ := mem_scriptLines listed
    rw [holds.words_eq] at written
    exact ⟨fun member => Text.not_mem_of_mem_pieces among (holds.subset member), written,
      fun host s => Interpreter.events_execute host s written⟩
  · intro row none host s
    exact Interpreter.execute_of_blank host (by rw [none]; rfl)
  · rintro _ rows last isLine rfl
    apply scriptLines_layOut
    intro row listed written
    exact isLine row (List.mem_filter.mpr ⟨listed, by simp [written]⟩)

theorem scriptLines_loses_nothing_mixed :
    let lines := ["ECHO a\rb", " VAR x = 1 "]
    let rows := [("\t", .newline), ("ECHO a\rb", .returnNewline), ("\r\u3000", .returnNewline),
      (" VAR x = 1 ", .newline)]
    (∀ line ∈ lines, IsScriptLine line) ∧
    (rows.map Prod.fst ++ ["\r"]).filter (!Text.isBlankText ·) = lines ∧
    layOut "\r" rows = "\t\nECHO a\rb\r\n\r\u3000\r\n VAR x = 1 \n\r" ∧
    scriptLines (layOut "\r" rows) = lines ∧ Text.words "\t\r" = [] ∧
    Session.branching.execute .unhurried "\t\r" = (.done none, Session.branching) := by
  intro lines rows
  have isLine : ∀ line ∈ lines, IsScriptLine line := by
    intro line listed
    rcases List.mem_cons.mp listed with rfl | listed
    · exact ⟨by decide, by decide, by decide⟩
    · cases List.mem_singleton.mp listed
      exact ⟨by decide, by decide, by decide⟩
  have kept : (rows.map Prod.fst ++ ["\r"]).filter (!Text.isBlankText ·) = lines := by decide
  obtain ⟨-, -, -, passed, reads⟩ := scriptLines_loses_nothing
  exact ⟨isLine, kept, by decide, reads lines rows "\r" isLine kept, by decide,
    passed "\t\r" (by decide) .unhurried .branching⟩

end ScriptShell
