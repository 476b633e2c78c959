import ScriptShell.Proofs.Termination
import ScriptShell.Proofs.UpperCase
import ScriptShell.Proofs.Words

namespace ScriptShell

namespace Text

/-! ## Upper case and delimiters -/

def isDelimiter (c : Char) : Bool := isBlank c || (c == '=' || c == ')')

namespace Case

def delimiterSpans : List Span := [
  ⟨0x09, 0x0D⟩, ⟨0x1C, 0x20⟩, ⟨0x29, 0x29⟩, ⟨0x3D, 0x3D⟩, ⟨0x85, 0x85⟩, ⟨0xA0, 0xA0⟩,
  ⟨0x1680, 0x1680⟩, ⟨0x2000, 0x200A⟩, ⟨0x2028, 0x2029⟩, ⟨0x202F, 0x202F⟩, ⟨0x205F, 0x205F⟩, ⟨0x3000, 0x3000⟩]

def clear (first last : Nat) : Bool :=
  delimiterSpans.all fun span => last.blt span.first || span.last.blt first

theorem settled_delimiterSpans :
    (delimiterSpans.all fun span => Run.settled span.first span.last 1) = true := by decide +kernel

theorem clear_upperRuns :
    (upperRuns.all fun run => clear run.target (run.target + (run.last - run.first))) = true := by
  decide +kernel

theorem clear_upperExpansions :
    (upperExpansions.all fun entry =>
      !entry.image.isEmpty && entry.image.all fun code => clear code code) = true := by
  decide +kernel

theorem exists_delimiterSpan {c : Char} (delimiter : isDelimiter c = true) :
    ∃ span ∈ delimiterSpans, span.first ≤ c.toNat ∧ c.toNat ≤ span.last := by
  simp only [delimiterSpans, List.mem_cons, List.not_mem_nil, or_false, exists_eq_or_imp,
    exists_eq_left]
  simp only [isDelimiter, Bool.or_eq_true, beq_iff_eq] at delimiter
  rcases delimiter with blank | rfl | rfl
  · simp only [isBlank, Bool.or_eq_true, Bool.and_eq_true, decide_eq_true_eq, beq_iff_eq] at blank
    omega
  · decide
  · decide

theorem not_delimiter_of_clear {first last : Nat} (checked : clear first last = true) {c : Char}
    (least : first ≤ c.toNat) (most : c.toNat ≤ last) : isDelimiter c = false := by
  by_contra delimiter
  obtain ⟨span, listed, begins, ends⟩ := exists_delimiterSpan (by simpa using delimiter)
  have apart := List.all_eq_true.mp checked span listed
  simp only [Bool.or_eq_true, Nat.blt_eq] at apart
  omega

end Case

theorem upperChar_of_delimiter {c : Char} (delimiter : isDelimiter c = true) :
    upperChar c = [c] := by
  obtain ⟨span, listed, begins, ends⟩ := Case.exists_delimiterSpan delimiter
  have settled := List.all_eq_true.mp Case.settled_delimiterSpans span listed
  have code : span.first + (c.toNat - span.first) = c.toNat := by omega
  have same := Case.upperChar_of_settled settled (code ▸ ends) (Nat.mod_one _)
  rwa [code, Char.ofNat_toNat] at same

theorem eq_of_delimiter_mem_upperChar {c d : Char} (member : d ∈ upperChar c)
    (delimiter : isDelimiter d = true) : d = c := by
  obtain ⟨-, same⟩ | ⟨run, listed, k, within, -, rfl⟩ | ⟨entry, listed, code, image, rfl⟩ :=
    mem_upperChar_cases member
  · exact same
  -- What runs and expansions make lies where there are no delimiters.
  · obtain ⟨-, settled⟩ :=
      Bool.and_eq_true _ _ ▸ List.all_eq_true.mp Case.settled_upperRuns run listed
    have code := Case.Run.toNat_of_settled (k := k) settled (by omega)
    have clear := List.all_eq_true.mp Case.clear_upperRuns run listed
    rw [Case.not_delimiter_of_clear clear (by omega) (by omega)] at delimiter
    contradiction
  · have settled := List.all_eq_true.mp
      (List.all_eq_true.mp Case.settled_upperExpansions entry listed) code image
    have same : (Char.ofNat code).toNat = code := Case.Run.toNat_of_settled (k := 0) settled le_rfl
    have clear := List.all_eq_true.mp Case.clear_upperExpansions entry listed
    rw [Bool.and_eq_true, List.all_eq_true] at clear
    rw [Case.not_delimiter_of_clear (clear.2 code image) same.ge same.le] at delimiter
    contradiction

theorem isDelimiter_of_mem_upperChar {c d : Char} (member : d ∈ upperChar c) :
    isDelimiter d = isDelimiter c := by
  cases before : isDelimiter c with
  | true =>
    rw [upperChar_of_delimiter before, List.mem_singleton] at member
    rw [member, before]
  | false =>
    by_contra after
    rw [eq_of_delimiter_mem_upperChar member (by simpa using after), before] at after
    contradiction

theorem isBlank_of_mem_upperChar {c d : Char} (member : d ∈ upperChar c) :
    isBlank d = isBlank c := by
  cases before : isDelimiter c with
  | true =>
    rw [upperChar_of_delimiter before, List.mem_singleton] at member
    rw [member]
  | false =>
    have after := isDelimiter_of_mem_upperChar member
    rw [before] at after
    rw [isDelimiter, Bool.or_eq_false_iff] at before after
    rw [before.1, after.1]

theorem upperChar_ne_nil (c : Char) : upperChar c ≠ [] := by
  rw [upperChar, Case.mapChar]
  split
  · simp
  · split
    next codes found =>
      obtain ⟨entry, listed, -, rfl⟩ := Case.Expansion.exists_of_image? found
      have checked := List.all_eq_true.mp Case.clear_upperExpansions entry listed
      rw [Bool.and_eq_true] at checked
      simpa using checked.1
    · simp

/-! ## Words in upper case -/

theorem upperChars_ne_nil {cs : List Char} (some : cs ≠ []) : upperChars cs ≠ [] := by
  intro none
  obtain ⟨c, rest, rfl⟩ := List.exists_cons_of_ne_nil some
  rw [upperChars, List.flatMap_cons, List.append_eq_nil_iff] at none
  exact upperChar_ne_nil c none.1

theorem isWord_of_inked {word : List Char} (some : word ≠ [])
    (inked : (word.all fun c => !isBlank c) = true) : IsWord word := by
  refine ⟨some, ?_⟩
  intro c member
  simpa using List.all_eq_true.mp inked c member

theorem isWord_of_mem_words {word line : String} (listed : word ∈ words line) :
    IsWord word.toList := by
  obtain ⟨cs, found, rfl⟩ := List.mem_map.mp listed
  rw [String.toList_ofList]
  exact isWord_of_mem found

theorem upperChars_append (xs ys : List Char) :
    upperChars (xs ++ ys) = upperChars xs ++ upperChars ys := List.flatMap_append

theorem upperChars_unwordsChars (ws : List (List Char)) :
    upperChars (unwordsChars ws) = unwordsChars (ws.map upperChars) := by
  induction ws with
  | nil => rfl
  | cons word rest ih =>
    cases rest with
    | nil => rfl
    | cons next rest =>
      have space : upperChars (' ' :: unwordsChars (next :: rest)) =
          ' ' :: upperChars (unwordsChars (next :: rest)) := by
        rw [upperChars, List.flatMap_cons, upperChar_of_delimiter rfl]
        rfl
      rw [unwordsChars, upperChars_append, space, ih]
      rfl

theorem mem_upperChars_iff {d : Char} (delimiter : isDelimiter d = true) (cs : List Char) :
    d ∈ upperChars cs ↔ d ∈ cs := by
  constructor
  · intro member
    obtain ⟨c, listed, image⟩ := List.mem_flatMap.mp member
    exact eq_of_delimiter_mem_upperChar image delimiter ▸ listed
  · intro listed
    apply List.mem_flatMap.mpr ⟨d, listed, ?_⟩
    rw [upperChar_of_delimiter delimiter]
    exact List.mem_singleton_self d

theorem endsWord_upperChars (cs : List Char) : endsWord (upperChars cs) = endsWord cs := by
  cases cs with
  | nil => rfl
  | cons c cs =>
    obtain ⟨d, ds, image⟩ := List.exists_cons_of_ne_nil (upperChar_ne_nil c)
    rw [upperChars, List.flatMap_cons, image]
    exact isBlank_of_mem_upperChar (image ▸ List.mem_cons_self)

theorem wordsChars_upperChars (cs : List Char) :
    wordsChars (upperChars cs) = (wordsChars cs).map upperChars := by
  induction cs with
  | nil => rfl
  | cons c cs ih =>
    have split : upperChars (c :: cs) = upperChar c ++ upperChars cs := List.flatMap_cons
    rw [wordsChars, split]
    cases blank : isBlank c with
    | true =>
      rw [upperChar_of_delimiter (by simp [isDelimiter, blank]), List.singleton_append, wordsChars,
        if_pos blank, ih]
      rfl
    | false =>
      have inked : ∀ d ∈ upperChar c, isBlank d = false :=
        fun d image => (isBlank_of_mem_upperChar image).trans blank
      rw [if_neg (by simp)]
      cases ends : endsWord cs with
      | true =>
        rw [wordsChars_append ⟨upperChar_ne_nil c, inked⟩ (by rw [endsWord_upperChars, ends]), ih]
        simp [upperChars]
      | false =>
        obtain ⟨word, rest, words⟩ := List.exists_cons_of_ne_nil (wordsChars_ne_nil_of_goes ends)
        rw [words, List.map_cons] at ih
        rw [wordsChars_extend inked (by rw [endsWord_upperChars, ends]) ih, words]
        rfl

theorem upper_normal (s : String) : upper (normal s) = normal (upper s) := by
  rw [String.ext_iff, toList_normal, upper, upper, String.toList_ofList, String.toList_ofList,
    toList_normal, upperChars_unwordsChars, wordsChars_upperChars]

theorem normal_upper_unwords {ws : List String} (all : ∀ word ∈ ws, IsWord word.toList) :
    normal (upper (unwords ws)) = upper (unwords ws) := by
  rw [← upper_normal, normal, words_unwords all]

/-! ## A word and what follows it -/

theorem words_spaced {verb : String} (isWord : IsWord verb.toList) (rest : String) :
    words (verb ++ " " ++ rest) = verb :: words rest := by
  have whole : (verb ++ " " ++ rest).toList = verb.toList ++ ' ' :: rest.toList := by
    simp only [String.toList_append, List.append_assoc]
    rfl
  have space : isBlank ' ' = true := rfl
  rw [words, whole, wordsChars_append isWord rfl, wordsChars, if_pos space, List.map_cons,
    String.ofList_toList]
  rfl

end Text

namespace Invocation

open Text (IsWord)

theorem ofWords?_spaced {verb : String} (isWord : IsWord verb.toList) (rest : String) :
    ofWords? (Text.words (verb ++ " " ++ rest)) = some ⟨Text.upper verb, Text.words rest⟩ := by
  rw [Text.words_spaced isWord]
  rfl

theorem isWord_of_read {line : String} {i : Invocation}
    (read : ofWords? (Text.words line) = some i) : ∀ word ∈ i.arguments, IsWord word.toList := by
  have parts : ∃ verb, verb :: i.arguments = Text.words line := by
    cases words : Text.words line with
    | nil =>
      rw [words] at read
      contradiction
    | cons verb rest =>
      rw [words] at read
      cases read
      exact ⟨verb, rfl⟩
  obtain ⟨verb, parts⟩ := parts
  intro word listed
  have member : word ∈ Text.words line := by
    rw [← parts]
    exact List.mem_cons_of_mem verb listed
  exact Text.isWord_of_mem_words member

theorem normal_fileName {line : String} {i : Invocation}
    (read : ofWords? (Text.words line) = some i) : Text.normal i.fileName = i.fileName :=
  Text.normal_upper_unwords (isWord_of_read read)

end Invocation

/-! ## Lines that begin with a verb -/

namespace Verb

theorem isWord_name (verb : Verb) : Text.IsWord verb.name.toList := by
  apply Text.isWord_of_inked
  · cases verb <;> decide
  · cases verb <;> rfl

theorem upper_name (verb : Verb) : Text.upper verb.name = verb.name := by
  cases verb <;> decide +kernel

theorem ofName?_name (verb : Verb) : ofName? verb.name = some verb := by
  cases verb <;> rfl

theorem name_ne_if (verb : Verb) : verb.name ≠ "IF" := by
  cases verb <;> decide

end Verb

namespace Interpreter

theorem admits_verb {s : Session} (normal : s.editing = none) (verb : Verb) (rest : String) :
    Admits (verb.name ++ " " ++ rest) s ⟨verb.name, Text.words rest⟩ := by
  refine ⟨?_, by simp [isBarred, Session.isEditing, normal]⟩
  rw [Invocation.ofWords?_spaced verb.isWord_name, verb.upper_name]

theorem execute_verb (host : Host) {s : Session} (normal : s.editing = none) (verb : Verb)
    (rest : String) :
    s.execute host (verb.name ++ " " ++ rest) =
      conclude (verb.name ++ " " ++ rest) (verb.perform host (fun name s => s.runScript host name)
        ⟨verb.name, Text.words rest⟩ (noted (verb.name ++ " " ++ rest) s)) := by
  rw [execute_of_call host (admits_verb normal verb rest) verb.name_ne_if, call, verb.ofName?_name]

end Interpreter

end ScriptShell
