namespace ScriptShell.Text

/-- White space: the ASCII controls for tab, line and field separation, and Unicode's spaces. -/
def isBlank (c : Char) : Bool :=
  let n := c.toNat
  (0x09 ≤ n && n ≤ 0x0D) || (0x1C ≤ n && n ≤ 0x20) || n == 0x85 || n == 0xA0 || n == 0x1680 ||
    (0x2000 ≤ n && n ≤ 0x200A) || n == 0x2028 || n == 0x2029 || n == 0x202F || n == 0x205F ||
    n == 0x3000

def trimEndChars : List Char → List Char
  | [] => []
  | c :: cs =>
    match trimEndChars cs with
    | [] => if isBlank c then [] else [c]
    | d :: ds => c :: d :: ds

def trimChars (cs : List Char) : List Char := trimEndChars (cs.dropWhile isBlank)

def trim (s : String) : String := String.ofList (trimChars s.toList)

def isBlankText (s : String) : Bool := s.toList.all isBlank

/-- Whether a word cannot go on into this text: it is over, or a blank comes next. -/
def endsWord : List Char → Bool
  | [] => true
  | c :: _ => isBlank c

def extendFirst (c : Char) : List (List Char) → List (List Char)
  | [] => [[c]]
  | word :: rest => (c :: word) :: rest

def wordsChars : List Char → List (List Char)
  | [] => []
  | c :: cs =>
    if isBlank c then wordsChars cs
    else if endsWord cs then [c] :: wordsChars cs
    else extendFirst c (wordsChars cs)

def unwordsChars : List (List Char) → List Char
  | [] => []
  | [word] => word
  | word :: next :: rest => word ++ ' ' :: unwordsChars (next :: rest)

def words (line : String) : List String := (wordsChars line.toList).map String.ofList

def unwords (ws : List String) : String := String.ofList (unwordsChars (ws.map String.toList))

theorem length_trimEndChars_le (cs : List Char) : (trimEndChars cs).length ≤ cs.length := by
  induction cs with
  | nil => simp [trimEndChars]
  | cons c cs ih =>
    rw [trimEndChars]
    split
    next h => split <;> simp
    next d ds h =>
      rw [h] at ih
      simpa using ih

theorem length_trimChars_le (cs : List Char) : (trimChars cs).length ≤ cs.length :=
  Nat.le_trans (length_trimEndChars_le _) (List.dropWhile_sublist isBlank).length_le

theorem length_unwordsChars_cons (word : List Char) (rest : List (List Char)) :
    (unwordsChars (word :: rest)).length =
      word.length + if rest = [] then 0 else 1 + (unwordsChars rest).length := by
  cases rest with
  | nil => simp [unwordsChars]
  | cons next rest => simp [unwordsChars]; omega

theorem length_unwordsChars_extendFirst (c : Char) (ws : List (List Char)) :
    (unwordsChars (extendFirst c ws)).length = (unwordsChars ws).length + 1 := by
  cases ws with
  | nil => simp [extendFirst, unwordsChars]
  | cons word rest =>
    simp only [extendFirst, length_unwordsChars_cons, List.length_cons]
    omega

theorem length_unwordsChars_wordsChars_le (cs : List Char) :
    (unwordsChars (wordsChars cs)).length ≤ cs.length ∧
      (endsWord cs → (unwordsChars (wordsChars cs)).length ≤ cs.length - 1) := by
  induction cs with
  | nil => simp [wordsChars, unwordsChars]
  | cons c cs ih =>
    rw [wordsChars]
    by_cases blank : isBlank c
    · simp only [if_pos blank, List.length_cons, Nat.add_sub_cancel]
      exact ⟨by omega, fun _ => ih.1⟩
    · refine ⟨?_, fun here => absurd here (by simpa [endsWord] using blank)⟩
      rw [if_neg blank]
      by_cases ends : endsWord cs
      · rw [if_pos ends, length_unwordsChars_cons]
        have shorter := ih.2 ends
        cases cs with
        | nil => simp [wordsChars]
        | cons d ds =>
          simp only [List.length_cons, List.length_nil] at shorter ⊢
          split <;> omega
      · rw [if_neg ends, length_unwordsChars_extendFirst, List.length_cons]
        omega

end ScriptShell.Text
