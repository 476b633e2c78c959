import Mathlib.Data.List.DropRight
import ScriptShell.Proofs.Spelling
import ScriptShell.Text.Search

namespace ScriptShell.Text

/-! ## Trimming -/

theorem trimEndChars_append_blank {z : Char} (blank : isBlank z = true) (cs : List Char) :
    trimEndChars (cs ++ [z]) = trimEndChars cs := by
  induction cs with
  | nil => simp [trimEndChars, blank]
  | cons c cs ih => rw [List.cons_append, trimEndChars, ih, trimEndChars]

theorem trimEndChars_eq_rdropWhile (cs : List Char) : trimEndChars cs = cs.rdropWhile isBlank := by
  induction cs using List.reverseRecOn with
  | nil => rfl
  | append_singleton cs z ih =>
    cases blank : isBlank z with
    | true => rw [trimEndChars_append_blank blank, List.rdropWhile_concat_pos _ _ _ blank, ih]
    | false =>
      rw [trimEndChars_append_inked blank, List.rdropWhile_concat_neg _ _ _ (by simp [blank])]

theorem trimChars_within (cs : List Char) : trimChars cs <:+: cs := by
  have front : cs.dropWhile isBlank <:+ cs := List.dropWhile_suffix isBlank
  have back : trimChars cs <+: cs.dropWhile isBlank := by
    rw [trimChars, trimEndChars_eq_rdropWhile]
    exact List.rdropWhile_prefix isBlank _
  exact back.isInfix.trans front.isInfix

theorem dropWhile_isBlank_eq_self_iff (cs : List Char) :
    cs.dropWhile isBlank = cs ↔ ∀ c ∈ cs.head?, isBlank c = false := by
  cases cs with
  | nil => simp
  | cons c cs => simp [List.dropWhile_eq_self_iff]

theorem rdropWhile_isBlank_eq_self_iff (cs : List Char) :
    cs.rdropWhile isBlank = cs ↔ ∀ c ∈ cs.getLast?, isBlank c = false := by
  rw [List.rdropWhile_eq_self_iff]
  cases cs using List.reverseRecOn with
  | nil => simp
  | append_singleton cs z => simp

theorem trimChars_eq_self_iff (cs : List Char) :
    trimChars cs = cs ↔
      (∀ c ∈ cs.head?, isBlank c = false) ∧ ∀ c ∈ cs.getLast?, isBlank c = false := by
  rw [← dropWhile_isBlank_eq_self_iff, ← rdropWhile_isBlank_eq_self_iff, trimChars,
    trimEndChars_eq_rdropWhile]
  constructor
  · intro same
    -- The whole text is a part of what is left of it in front, so nothing was dropped there.
    have back := List.rdropWhile_prefix isBlank (cs.dropWhile isBlank)
    have front := List.dropWhile_suffix (l := cs) isBlank
    rw [same] at back
    have all := front.eq_of_length_le back.length_le
    rw [all] at same
    exact ⟨all, same⟩
  · rintro ⟨front, back⟩
    rw [front, back]

theorem endsWord_of_trimmed {cs : List Char} (some : cs ≠ []) (trimmed : trimChars cs = cs) :
    endsWord cs = false := by
  obtain ⟨c, rest, rfl⟩ := List.exists_cons_of_ne_nil some
  exact ((trimChars_eq_self_iff _).mp trimmed).1 c rfl

theorem trimChars_trimChars (cs : List Char) : trimChars (trimChars cs) = trimChars cs := by
  rw [trimChars_eq_self_iff, trimChars, trimEndChars_eq_rdropWhile]
  constructor
  · intro c first
    obtain ⟨rest, whole⟩ := List.rdropWhile_prefix isBlank (cs.dropWhile isBlank)
    apply (dropWhile_isBlank_eq_self_iff _).mp (List.dropWhile_idempotent isBlank cs)
    rw [← whole, List.head?_append, first]
    rfl
  · exact (rdropWhile_isBlank_eq_self_iff _).mp (List.rdropWhile_idempotent _ _)

theorem trimChars_upperChars {cs : List Char} (trimmed : trimChars cs = cs) :
    trimChars (upperChars cs) = upperChars cs := by
  rw [trimChars_eq_self_iff] at trimmed ⊢
  constructor
  · intro d first
    cases cs with
    | nil => simp [upperChars] at first
    | cons c cs =>
      have image : d ∈ upperChar c := by
        rw [upperChars, List.flatMap_cons,
          List.head?_append_of_ne_nil _ (upperChar_ne_nil c)] at first
        exact List.mem_of_mem_head? first
      rw [isBlank_of_mem_upperChar image]
      exact trimmed.1 c rfl
  · intro d last
    cases cs using List.reverseRecOn with
    | nil => simp [upperChars] at last
    | append_singleton cs z =>
      have image : d ∈ upperChar z := by
        rw [upperChars_append, List.getLast?_append_of_ne_nil] at last
        · simpa [upperChars] using List.mem_of_mem_getLast? last
        · simpa [upperChars] using upperChar_ne_nil z
      rw [isBlank_of_mem_upperChar image]
      exact trimmed.2 z (by simp)

/-! ## Pieces -/

theorem piecesChars_eq_cons (mark : Char) (cs : List Char) :
    ∃ first rest, piecesChars mark cs = first :: rest ∧ first <+: cs ∧
      ∀ piece ∈ rest, piece <:+: cs := by
  induction cs with
  | nil => exact ⟨[], [], rfl, List.prefix_rfl, nofun⟩
  | cons c cs ih =>
    -- The first piece is the one that may still grow in front, so of it more is kept in mind.
    obtain ⟨first, rest, cut, starts, inside⟩ := ih
    have later (piece : List Char) (within : piece <:+: cs) : piece <:+: c :: cs :=
      within.trans (List.suffix_cons c cs).isInfix
    rw [piecesChars, cut]
    split
    · refine ⟨[], first :: rest, rfl, List.nil_prefix, ?_⟩
      intro piece listed
      rcases List.mem_cons.mp listed with rfl | listed
      · exact later piece starts.isInfix
      · exact later piece (inside piece listed)
    · exact ⟨c :: first, rest, rfl, List.prefix_cons_inj c |>.mpr starts,
        fun piece listed => later piece (inside piece listed)⟩

theorem within_of_mem_piecesChars {mark : Char} {cs piece : List Char}
    (listed : piece ∈ piecesChars mark cs) : piece <:+: cs := by
  obtain ⟨first, rest, cut, starts, inside⟩ := piecesChars_eq_cons mark cs
  rw [cut] at listed
  rcases List.mem_cons.mp listed with rfl | listed
  · exact starts.isInfix
  · exact inside piece listed

theorem not_mem_of_mem_piecesChars {mark : Char} {cs piece : List Char}
    (listed : piece ∈ piecesChars mark cs) : mark ∉ piece := by
  induction cs generalizing piece with
  | nil => simp_all [piecesChars]
  | cons c cs ih =>
    rw [piecesChars] at listed
    split at listed
    · rcases List.mem_cons.mp listed with rfl | listed
      · simp
      · exact ih listed
    next other =>
      obtain ⟨first, rest, cut, -, -⟩ := piecesChars_eq_cons mark cs
      rw [cut] at listed ih
      rcases List.mem_cons.mp listed with rfl | listed
      · rw [List.mem_cons, not_or]
        exact ⟨Ne.symm other, ih List.mem_cons_self⟩
      · exact ih (List.mem_cons_of_mem _ listed)

theorem piecesChars_of_not_mem {mark : Char} {cs : List Char} (none : mark ∉ cs) :
    piecesChars mark cs = [cs] := by
  induction cs with
  | nil => rfl
  | cons c cs ih =>
    rw [List.mem_cons, not_or] at none
    rw [piecesChars, if_neg (Ne.symm none.1), ih none.2]

theorem piecesChars_append (mark : Char) (xs ys : List Char) :
    piecesChars mark (xs ++ mark :: ys) = piecesChars mark xs ++ piecesChars mark ys := by
  induction xs with
  | nil => simp [piecesChars]
  | cons c xs ih =>
    obtain ⟨first, rest, cut, -, -⟩ := piecesChars_eq_cons mark xs
    rw [List.cons_append, piecesChars, piecesChars, ih, cut]
    split <;> rfl

/-! ## Single spaces -/

structure SingleSpaced (cs : List Char) : Prop where
  spaces : ∀ c ∈ cs, isBlank c = true → c = ' '
  apart : ¬ [' ', ' '] <:+: cs

theorem SingleSpaced.within {part cs : List Char} (single : SingleSpaced cs)
    (inside : part <:+: cs) : SingleSpaced part where
  spaces c member := single.spaces c (inside.subset member)
  apart double := single.apart (double.trans inside)

def Parted (cs : List Char) : Prop :=
  cs.IsChain fun a b => isBlank a = false ∨ isBlank b = false

theorem IsWord.parted {word : List Char} (isWord : IsWord word) : Parted word := by
  obtain ⟨-, inked⟩ := isWord
  induction word with
  | nil => exact List.isChain_nil
  | cons c word ih =>
    obtain ⟨here, later⟩ := List.forall_mem_cons.mp inked
    exact List.isChain_cons.mpr ⟨fun _ _ => .inl here, ih later⟩

theorem isBlank_head?_unwordsChars {word : List Char} (isWord : IsWord word)
    (rest : List (List Char)) : ∀ c ∈ (unwordsChars (word :: rest)).head?, isBlank c = false := by
  obtain ⟨some, inked⟩ := isWord
  obtain ⟨d, word, rfl⟩ := List.exists_cons_of_ne_nil some
  have head : (unwordsChars ((d :: word) :: rest)).head? = Option.some d := by cases rest <;> rfl
  intro c first
  cases head.symm.trans first
  exact inked d List.mem_cons_self

theorem parted_unwordsChars {ws : List (List Char)} (all : ∀ word ∈ ws, IsWord word) :
    Parted (unwordsChars ws) := by
  induction ws with
  | nil => exact List.isChain_nil
  | cons word rest ih =>
    obtain ⟨isWord, others⟩ := List.forall_mem_cons.mp all
    cases rest with
    | nil => exact isWord.parted
    | cons next rest =>
      have begins := isBlank_head?_unwordsChars (others next List.mem_cons_self) rest
      rw [unwordsChars]
      apply List.isChain_append.mpr
      refine ⟨isWord.parted, ?_, ?_⟩
      · exact List.isChain_cons.mpr ⟨fun c first => .inr (begins c first), ih others⟩
      · intro c last _ _
        exact .inl (isWord.2 c (List.mem_of_mem_getLast? last))

theorem singleSpaced_unwordsChars {ws : List (List Char)} (all : ∀ word ∈ ws, IsWord word) :
    SingleSpaced (unwordsChars ws) where
  spaces c member blank := by
    have words : wordsChars (unwordsChars ws) = ws := wordsChars_unwordsChars all
    have squeezed := unwordsChars_wordsChars (unwordsChars ws)
    rw [words] at squeezed
    rw [squeezed] at member
    rcases mem_squeezeChars ((trimChars_within _).subset member) with space | ⟨-, inked⟩
    · exact space
    · rw [inked] at blank
      contradiction
  apart double := by
    -- Two blanks in a row would be neighbours that are both blank.
    have pair : Parted [' ', ' '] := List.IsChain.infix (parted_unwordsChars all) double
    simp [Parted, isBlank] at pair

theorem of_mem_parts {mark : Char} {text part : String}
    (listed : part ∈ (pieces mark text).map trim) :
    trim part = part ∧ mark ∉ part.toList ∧ part.toList <:+: text.toList := by
  rw [pieces, List.map_map] at listed
  obtain ⟨piece, member, rfl⟩ := List.mem_map.mp listed
  simp only [Function.comp_apply, trim, String.toList_ofList, trimChars_trimChars, true_and]
  have inside := trimChars_within piece
  refine ⟨?_, inside.trans (within_of_mem_piecesChars member)⟩
  intro found
  exact not_mem_of_mem_piecesChars member (inside.subset found)

/-! ## The characters of a normal form -/

theorem flatten_wordsChars (cs : List Char) : (wordsChars cs).flatten = cs.filter (!isBlank ·) := by
  induction cs with
  | nil => rfl
  | cons c cs ih =>
    have extended : (extendFirst c (wordsChars cs)).flatten = c :: (wordsChars cs).flatten := by
      cases wordsChars cs <;> rfl
    rw [wordsChars, List.filter_cons]
    cases blank : isBlank c with
    | true => simpa using ih
    | false =>
      simp only [Bool.false_eq_true, if_false, Bool.not_false, if_true, ← ih]
      split
      · rfl
      · exact extended

theorem filter_unwordsChars (ws : List (List Char)) :
    (unwordsChars ws).filter (!isBlank ·) = ws.flatten.filter (!isBlank ·) := by
  induction ws with
  | nil => rfl
  | cons word rest ih =>
    cases rest with
    | nil => simp [unwordsChars]
    | cons next rest =>
      have space : isBlank ' ' = true := rfl
      rw [List.flatten_cons, List.filter_append, ← ih, unwordsChars, List.filter_append,
        List.filter_cons_of_neg (by simp [space])]

theorem filter_normal (s : String) :
    (normal s).toList.filter (!isBlank ·) = s.toList.filter (!isBlank ·) := by
  rw [toList_normal, filter_unwordsChars, flatten_wordsChars, List.filter_filter]
  simp

theorem count_normal {c : Char} (inked : isBlank c = false) (s : String) :
    (normal s).toList.count c = s.toList.count c := by
  have visible (cs : List Char) : (cs.filter (!isBlank ·)).count c = cs.count c :=
    List.count_filter (by simp [inked])
  rw [← visible, filter_normal, visible]

theorem mem_normal_iff {c : Char} (inked : isBlank c = false) (s : String) :
    c ∈ (normal s).toList ↔ c ∈ s.toList := by
  rw [← List.count_pos_iff, count_normal inked, List.count_pos_iff]

theorem trimChars_normal (s : String) : trimChars (normal s).toList = (normal s).toList := by
  rw [toList_normal, unwordsChars_wordsChars, trimChars_trimChars]

theorem trimChars_append_blank {z : Char} (blank : isBlank z = true) (cs : List Char) :
    trimChars (cs ++ [z]) = trimChars cs := by
  rw [trimChars, List.dropWhile_append, trimChars]
  split
  next none =>
    rw [List.isEmpty_iff.mp none]
    simp [blank]
  · exact trimEndChars_append_blank blank _

/-! ## Two texts with a word between them -/

theorem wordsChars_append_blank {z : Char} (blank : isBlank z = true) (xs ys : List Char) :
    wordsChars (xs ++ z :: ys) = wordsChars xs ++ wordsChars ys := by
  induction xs with
  | nil => simp [wordsChars, blank]
  | cons c xs ih =>
    have ends : endsWord (xs ++ z :: ys) = endsWord xs := by
      cases xs with
      | nil => exact blank
      | cons d xs => rfl
    rw [List.cons_append, wordsChars, wordsChars, ih, ends]
    split
    · rfl
    · split
      · rfl
      next goes =>
        -- The word goes on in `xs`, which therefore has a first word to be extended.
        have some := wordsChars_ne_nil_of_goes (by simpa using goes)
        obtain ⟨word, rest, words⟩ := List.exists_cons_of_ne_nil some
        rw [words]
        rfl

theorem normal_trim (s : String) : normal (trim s) = normal s := by
  have front (cs : List Char) : wordsChars (cs.dropWhile isBlank) = wordsChars cs := by
    induction cs with
    | nil => rfl
    | cons c cs ih =>
      rw [List.dropWhile_cons]
      split
      next blank => rw [ih, wordsChars, if_pos blank]
      · rfl
  have back (cs : List Char) : wordsChars (trimEndChars cs) = wordsChars cs := by
    induction cs using List.reverseRecOn with
    | nil => rfl
    | append_singleton cs z ih =>
      cases blank : isBlank z with
      | true => simp [trimEndChars_append_blank blank, ih, wordsChars_append_blank blank, wordsChars]
      | false => rw [trimEndChars_append_inked blank]
  rw [String.ext_iff, toList_normal, toList_normal, trim, String.toList_ofList, trimChars, back, front]

def gap (ws : List (List Char)) : List Char := if ws = [] then [] else [' ']

theorem unwordsChars_append (ws : List (List Char)) {vs : List (List Char)} (more : vs ≠ []) :
    unwordsChars (ws ++ vs) = unwordsChars ws ++ gap ws ++ unwordsChars vs := by
  induction ws with
  | nil => rfl
  | cons word ws ih =>
    rw [List.cons_append, unwordsChars_cons (List.append_ne_nil_of_right_ne_nil ws more), ih]
    cases ws with
    | nil => simp [unwordsChars, gap]
    | cons next ws => simp [unwordsChars, gap]

theorem unwordsChars_cons_gap (word : List Char) (ws : List (List Char)) :
    unwordsChars (word :: ws) = word ++ gap ws ++ unwordsChars ws := by
  cases ws with
  | nil => simp [unwordsChars, gap]
  | cons next ws => simp [unwordsChars, gap]

theorem toList_normal_around (mark : String) (isWord : IsWord mark.toList) (s t : String) :
    (normal (s ++ (" " ++ mark ++ " ") ++ t)).toList =
      (normal s).toList ++ gap (wordsChars s.toList) ++
        (mark.toList ++ (gap (wordsChars t.toList) ++ (normal t).toList)) := by
  have space : isBlank ' ' = true := rfl
  have whole : (s ++ (" " ++ mark ++ " ") ++ t).toList =
      s.toList ++ ' ' :: (mark.toList ++ ' ' :: t.toList) := by
    simp [String.toList_append]
  rw [toList_normal, whole, wordsChars_append_blank space, wordsChars_append isWord rfl, wordsChars,
    if_pos space, unwordsChars_append _ (List.cons_ne_nil _ _), unwordsChars_cons_gap, toList_normal,
    toList_normal, List.append_assoc mark.toList]

theorem trimChars_append_gap (s : String) (ws : List (List Char)) :
    trimChars ((normal s).toList ++ gap ws) = (normal s).toList := by
  unfold gap
  split
  · rw [List.append_nil, trimChars_normal]
  · rw [trimChars_append_blank rfl, trimChars_normal]

theorem trimChars_gap_append (s : String) (ws : List (List Char)) :
    trimChars (gap ws ++ (normal s).toList) = (normal s).toList := by
  unfold gap
  split
  · rw [List.nil_append, trimChars_normal]
  · rw [List.singleton_append, trimChars, List.dropWhile_cons_of_pos rfl, ← trimChars, trimChars_normal]

theorem not_mem_gap {c : Char} (inked : isBlank c = false) (ws : List (List Char)) : c ∉ gap ws := by
  unfold gap
  split
  · simp
  · rintro member
    cases List.mem_singleton.mp member
    contradiction

/-! ## A name and a value -/

theorem length_piecesChars (mark : Char) (cs : List Char) :
    (piecesChars mark cs).length = cs.count mark + 1 := by
  induction cs with
  | nil => rfl
  | cons c cs ih =>
    obtain ⟨first, rest, cut, -, -⟩ := piecesChars_eq_cons mark cs
    rw [cut] at ih
    rw [piecesChars, cut, List.count_cons]
    by_cases here : c = mark
    · simpa [here] using ih
    · simpa [here] using ih

theorem parts_assignment {name word : String} (noEquals : '=' ∉ name.toList)
    (noEquals' : '=' ∉ word.toList) :
    (pieces '=' (normal (name ++ " = " ++ word))).map trim = [normal name, normal word] := by
  have front : '=' ∉ (normal name).toList ++ gap (wordsChars name.toList) := by
    simp [mem_normal_iff, noEquals, not_mem_gap, isBlank]
  have back : '=' ∉ gap (wordsChars word.toList) ++ (normal word).toList := by
    simp [mem_normal_iff, noEquals', not_mem_gap, isBlank]
  have whole := toList_normal_around "=" (isWord_singleton rfl) name word
  rw [pieces, show name ++ " = " ++ word = name ++ (" " ++ "=" ++ " ") ++ word from rfl, whole,
    show "=".toList = ['='] from rfl, List.singleton_append, piecesChars_append,
    piecesChars_of_not_mem front, piecesChars_of_not_mem back, List.singleton_append]
  simp only [List.map_cons, List.map_nil, trim, String.toList_ofList, trimChars_append_gap,
    trimChars_gap_append, String.ofList_toList]

theorem no_equals_of_parts {name word first second : String}
    (two : (pieces '=' (normal (name ++ " = " ++ word))).map trim = [first, second]) :
    '=' ∉ name.toList ∧ '=' ∉ word.toList := by
  have counted := congrArg List.length two
  have inked : isBlank '=' = false := rfl
  simp only [pieces, List.length_map, length_piecesChars, count_normal inked, String.toList_append,
    List.count_append, List.length_cons, List.length_nil] at counted
  have one : " = ".toList.count '=' = 1 := rfl
  rw [← List.count_eq_zero, ← List.count_eq_zero]
  omega

end ScriptShell.Text

theorem ScriptShell.Invocation.singleSpaced_argumentText {line : String} {i : Invocation}
    (read : ofWords? (Text.words line) = some i) : Text.SingleSpaced i.argumentText.toList := by
  rw [argumentText, Text.unwords, String.toList_ofList]
  apply Text.singleSpaced_unwordsChars
  simpa using isWord_of_read read
