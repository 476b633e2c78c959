import ScriptShell.Text.Blank

namespace ScriptShell.Text

def normal (s : String) : String := unwords (words s)

theorem toList_normal (s : String) : (normal s).toList = unwordsChars (wordsChars s.toList) := by
  simp [normal, unwords, words, Function.comp_def]

/-! ## Words are read back -/

def IsWord (word : List Char) : Prop := word ≠ [] ∧ ∀ c ∈ word, isBlank c = false

theorem isWord_singleton {c : Char} (inked : isBlank c = false) : IsWord [c] :=
  ⟨by simp, by simpa using inked⟩

theorem IsWord.cons {c : Char} {word : List Char} (inked : isBlank c = false)
    (isWord : IsWord word) : IsWord (c :: word) :=
  ⟨by simp, List.forall_mem_cons.mpr ⟨inked, isWord.2⟩⟩

theorem isWord_of_mem {cs word : List Char} (listed : word ∈ wordsChars cs) : IsWord word := by
  induction cs generalizing word with
  | nil => simp [wordsChars] at listed
  | cons c cs ih =>
    rw [wordsChars] at listed
    split at listed
    · exact ih listed
    next inked =>
      have inked : isBlank c = false := by simpa using inked
      split at listed
      · rcases List.mem_cons.mp listed with rfl | later
        · exact isWord_singleton inked
        · exact ih later
      · cases rest : wordsChars cs with
        | nil =>
          rw [rest, extendFirst, List.mem_singleton] at listed
          exact listed ▸ isWord_singleton inked
        | cons first others =>
          rw [rest] at ih
          rw [rest, extendFirst] at listed
          rcases List.mem_cons.mp listed with rfl | later
          · exact .cons inked (ih List.mem_cons_self)
          · exact ih (List.mem_cons_of_mem _ later)

theorem wordsChars_append {word rest : List Char} (isWord : IsWord word) (ends : endsWord rest = true) :
    wordsChars (word ++ rest) = word :: wordsChars rest := by
  obtain ⟨first, inked⟩ := isWord
  induction word with
  | nil => contradiction
  | cons c word ih =>
    obtain ⟨here, later⟩ := List.forall_mem_cons.mp inked
    rw [List.cons_append, wordsChars, if_neg (by simp [here])]
    cases word with
    | nil => rw [List.nil_append, if_pos ends]
    | cons d word =>
      have goes : ¬ endsWord (d :: word ++ rest) = true := by simp [endsWord, later d]
      rw [if_neg goes, ih (by simp) later]
      rfl

theorem wordsChars_ne_nil_of_goes {cs : List Char} (goes : endsWord cs = false) :
    wordsChars cs ≠ [] := by
  cases cs with
  | nil => contradiction
  | cons c cs =>
    rw [wordsChars, if_neg (by simpa [endsWord] using goes)]
    split
    · simp
    · cases wordsChars cs <;> simp [extendFirst]

theorem wordsChars_extend {part cs word : List Char} {rest : List (List Char)}
    (inked : ∀ c ∈ part, isBlank c = false) (goes : endsWord cs = false)
    (words : wordsChars cs = word :: rest) : wordsChars (part ++ cs) = (part ++ word) :: rest := by
  induction part with
  | nil => exact words
  | cons c part ih =>
    obtain ⟨here, later⟩ := List.forall_mem_cons.mp inked
    have more : endsWord (part ++ cs) = false := by
      cases part with
      | nil => exact goes
      | cons d part => exact later d List.mem_cons_self
    rw [List.cons_append, wordsChars, if_neg (by simp [here]), if_neg (by simp [more]), ih later]
    rfl

theorem wordsChars_unwordsChars {ws : List (List Char)} (all : ∀ word ∈ ws, IsWord word) :
    wordsChars (unwordsChars ws) = ws := by
  induction ws with
  | nil => rfl
  | cons word rest ih =>
    obtain ⟨isWord, others⟩ := List.forall_mem_cons.mp all
    cases rest with
    | nil => simpa [wordsChars, unwordsChars] using wordsChars_append isWord (rfl : endsWord [] = true)
    | cons next rest =>
      have space : isBlank ' ' = true := rfl
      rw [unwordsChars, wordsChars_append isWord rfl, wordsChars, if_pos space, ih others]

theorem words_unwords {ws : List String} (all : ∀ word ∈ ws, IsWord word.toList) :
    words (unwords ws) = ws := by
  have chars : ∀ word ∈ ws.map String.toList, IsWord word := by simpa using all
  rw [words, unwords, String.toList_ofList, wordsChars_unwordsChars chars, List.map_map]
  simp [Function.comp_def]

theorem words_normal (s : String) : words (normal s) = words s := by
  rw [words, toList_normal, wordsChars_unwordsChars fun _ => isWord_of_mem]
  rfl

theorem words_eq_nil_iff (s : String) : words s = [] ↔ isBlankText s = true := by
  suffices same : ∀ cs : List Char, wordsChars cs = [] ↔ cs.all isBlank = true by
    rw [words, List.map_eq_nil_iff]
    exact same s.toList
  intro cs
  induction cs with
  | nil => simp [wordsChars]
  | cons c cs ih =>
    rw [wordsChars]
    cases blank : isBlank c with
    | true => simpa [blank] using ih
    | false =>
      have some (ws : List (List Char)) : extendFirst c ws ≠ [] := by cases ws <;> simp [extendFirst]
      simp only [Bool.false_eq_true, if_false, List.all_cons, blank, Bool.false_and, iff_false]
      split
      · simp
      · exact some _

/-! ## Squeezing -/

def startsBlank : List Char → Bool
  | [] => false
  | c :: _ => isBlank c

/-- Put one space for every stretch of blanks. -/
def squeezeChars : List Char → List Char
  | [] => []
  | c :: cs =>
    if isBlank c then if startsBlank cs then squeezeChars cs else ' ' :: squeezeChars cs
    else c :: squeezeChars cs

theorem squeezeChars_inked {c : Char} (inked : isBlank c = false) (cs : List Char) :
    squeezeChars (c :: cs) = c :: squeezeChars cs := by
  simp [squeezeChars, inked]

theorem squeezeChars_append {d : Char} (inked : isBlank d = false) (xs ys : List Char) :
    squeezeChars (xs ++ d :: ys) = squeezeChars xs ++ d :: squeezeChars ys := by
  induction xs with
  | nil => exact squeezeChars_inked inked ys
  | cons c xs ih =>
    have starts : startsBlank (xs ++ d :: ys) = startsBlank xs := by
      cases xs with
      | nil => exact inked
      | cons e xs => rfl
    rw [List.cons_append, squeezeChars, squeezeChars, starts, ih]
    repeat' split
    all_goals rfl

theorem mem_squeezeChars {cs : List Char} {d : Char} (listed : d ∈ squeezeChars cs) :
    d = ' ' ∨ d ∈ cs ∧ isBlank d = false := by
  induction cs with
  | nil => simp [squeezeChars] at listed
  | cons c cs ih =>
    have later (inside : d ∈ squeezeChars cs) : d = ' ' ∨ d ∈ c :: cs ∧ isBlank d = false :=
      (ih inside).imp_right fun found => ⟨List.mem_cons_of_mem c found.1, found.2⟩
    rw [squeezeChars] at listed
    split at listed
    · split at listed
      · exact later listed
      · rcases List.mem_cons.mp listed with rfl | inside
        · exact .inl rfl
        · exact later inside
    next inked =>
      rcases List.mem_cons.mp listed with rfl | inside
      · exact .inr ⟨List.mem_cons_self, by simpa using inked⟩
      · exact later inside

/-! ## Trimming -/

theorem trimEndChars_cons_inked {c : Char} (inked : isBlank c = false) (cs : List Char) :
    trimEndChars (c :: cs) = c :: trimEndChars cs := by
  rw [trimEndChars]
  split
  next none => simp [inked, none]
  next some => rw [some]

theorem trimEndChars_cons_of_ne_nil (c : Char) {cs : List Char} (some : trimEndChars cs ≠ []) :
    trimEndChars (c :: cs) = c :: trimEndChars cs := by
  rw [trimEndChars]
  split
  next none => contradiction
  next found => rw [found]

theorem trimEndChars_append_inked {z : Char} (inked : isBlank z = false) (cs : List Char) :
    trimEndChars (cs ++ [z]) = cs ++ [z] := by
  induction cs with
  | nil => simp [trimEndChars, inked]
  | cons c cs ih =>
    rw [List.cons_append, trimEndChars_cons_of_ne_nil c (by simp [ih]), ih]

theorem trimChars_of_inked {a z : Char} (first : isBlank a = false) (last : isBlank z = false)
    (cs : List Char) : trimChars (a :: (cs ++ [z])) = a :: (cs ++ [z]) := by
  rw [trimChars, List.dropWhile_cons_of_neg (by simp [first]), trimEndChars_cons_inked first,
    trimEndChars_append_inked last]

/-! ## The normal form -/

theorem dropWhile_squeezeChars_inked {c : Char} (inked : isBlank c = false) (cs : List Char) :
    (squeezeChars (c :: cs)).dropWhile isBlank = squeezeChars (c :: cs) := by
  rw [squeezeChars_inked inked, List.dropWhile_cons_of_neg (by simp [inked])]

theorem dropWhile_squeezeChars_blank {c : Char} (blank : isBlank c = true) (cs : List Char) :
    (squeezeChars (c :: cs)).dropWhile isBlank = (squeezeChars cs).dropWhile isBlank := by
  rw [squeezeChars, if_pos blank]
  split
  · rfl
  · exact List.dropWhile_cons_of_pos rfl

theorem squeezeChars_of_startsBlank {cs : List Char} (starts : startsBlank cs = true) :
    squeezeChars cs = ' ' :: (squeezeChars cs).dropWhile isBlank := by
  induction cs with
  | nil => contradiction
  | cons c cs ih =>
    rw [dropWhile_squeezeChars_blank starts, squeezeChars, if_pos (show isBlank c = true from starts)]
    split
    next again => exact ih again
    next finished =>
      cases cs with
      | nil => rfl
      | cons d cs => rw [dropWhile_squeezeChars_inked (by simpa [startsBlank] using finished)]

theorem unwordsChars_cons {word : List Char} {ws : List (List Char)} (more : ws ≠ []) :
    unwordsChars (word :: ws) = word ++ ' ' :: unwordsChars ws := by
  cases ws with
  | nil => contradiction
  | cons next rest => rfl

theorem unwordsChars_extendFirst (c : Char) (ws : List (List Char)) :
    unwordsChars (extendFirst c ws) = c :: unwordsChars ws := by
  cases ws with
  | nil => rfl
  | cons word rest => cases rest <;> rfl

theorem unwordsChars_ne_nil {cs : List Char} (some : wordsChars cs ≠ []) :
    unwordsChars (wordsChars cs) ≠ [] := by
  intro none
  have back : wordsChars (unwordsChars (wordsChars cs)) = wordsChars cs :=
    wordsChars_unwordsChars fun _ => isWord_of_mem
  rw [none] at back
  exact some back.symm

theorem wordsChars_ne_nil_of_written {s : String} (written : isBlankText s = false) :
    wordsChars s.toList ≠ [] := by
  intro none
  have blank := (words_eq_nil_iff s).mp (by rw [words, none, List.map_nil])
  simp [blank] at written

theorem toList_normal_ne_nil {s : String} (written : isBlankText s = false) :
    (normal s).toList ≠ [] := by
  rw [toList_normal]
  exact unwordsChars_ne_nil (wordsChars_ne_nil_of_written written)

theorem unwordsChars_wordsChars (cs : List Char) :
    unwordsChars (wordsChars cs) = trimChars (squeezeChars cs) := by
  unfold trimChars
  induction cs with
  | nil => rfl
  | cons c cs ih =>
    cases blank : isBlank c with
    | true => rw [wordsChars, if_pos blank, dropWhile_squeezeChars_blank blank, ih]
    | false =>
      rw [dropWhile_squeezeChars_inked blank, squeezeChars_inked blank, trimEndChars_cons_inked blank,
        wordsChars, if_neg (by simp [blank])]
      cases cs with
      | nil => rfl
      | cons d cs =>
        cases next : isBlank d with
        | false =>
          rw [if_neg (by simp [endsWord, next]), unwordsChars_extendFirst, ih,
            dropWhile_squeezeChars_inked next]
        | true =>
          -- The word ends here. One space is left in front of the next one, if there is a next one.
          have starts : startsBlank (d :: cs) = true := next
          rw [if_pos (show endsWord (d :: cs) = true from next), squeezeChars_of_startsBlank starts]
          by_cases finished : wordsChars (d :: cs) = []
          · rw [finished] at ih ⊢
            rw [trimEndChars, ← ih]
            rfl
          · have some := unwordsChars_ne_nil finished
            rw [ih] at some
            rw [unwordsChars_cons finished, ih, trimEndChars_cons_of_ne_nil _ some]
            rfl

end ScriptShell.Text
