import ScriptShell.Proofs.ConditionalForm

namespace ScriptShell

namespace Text

/-! ## The first place of a mark -/

structure FirstCut (mark cs before after : List Char) : Prop where
  whole : cs = before ++ (mark ++ after)
  first : ∀ before' after', cs = before' ++ (mark ++ after') → before.length ≤ before'.length

theorem FirstCut.unique {mark cs before after before' after' : List Char}
    (cut : FirstCut mark cs before after) (cut' : FirstCut mark cs before' after') :
    before = before' ∧ after = after' := by
  have length := (cut.first _ _ cut'.whole).antisymm (cut'.first _ _ cut.whole)
  obtain ⟨front, back⟩ := List.append_inj (cut.whole.symm.trans cut'.whole) length
  exact ⟨front, List.append_cancel_left back⟩

theorem firstCut_of_cutChars {mark cs before after : List Char}
    (cut : cutChars mark cs = some (before, after)) : FirstCut mark cs before after := by
  refine ⟨cutChars_eq_some cut, ?_⟩
  induction cs generalizing before with
  | nil =>
    rw [cutChars] at cut
    split at cut
    · cases cut
      exact fun _ _ _ => Nat.zero_le _
    · contradiction
  | cons c cs ih =>
    intro before' after' whole
    rw [cutChars] at cut
    split at cut
    · cases cut
      exact Nat.zero_le _
    next elsewhere =>
      obtain ⟨⟨front, back⟩, found, same⟩ := Option.map_eq_some_iff.mp cut
      cases same
      cases before' with
      | nil => exact absurd (List.isPrefixOf_iff_prefix.mpr ⟨after', whole.symm⟩) elsewhere
      | cons d before' =>
        rw [List.cons_append, List.cons.injEq] at whole
        exact Nat.succ_le_succ (ih found _ _ whole.2)

theorem cutChars_eq_some_iff {mark cs before after : List Char} :
    cutChars mark cs = some (before, after) ↔ FirstCut mark cs before after := by
  refine ⟨firstCut_of_cutChars, fun cut => ?_⟩
  have stands : mark <:+: cs := ⟨before, after, by rw [cut.whole, List.append_assoc]⟩
  have found := cutChars_of_infix stands
  obtain ⟨⟨front, back⟩, found⟩ := Option.isSome_iff_exists.mp found
  obtain ⟨rfl, rfl⟩ := (firstCut_of_cutChars found).unique cut
  exact found

theorem cutChars_eq_none_iff {mark cs : List Char} : cutChars mark cs = none ↔ ¬ mark <:+: cs := by
  constructor
  · intro none stands
    have some := cutChars_of_infix stands
    simp [none] at some
  · intro absent
    rw [Option.eq_none_iff_forall_ne_some]
    rintro ⟨before, after⟩ cut
    exact absent ⟨before, after, by rw [cutChars_eq_some cut, List.append_assoc]⟩

/-! ## Words and blanks -/

theorem trimChars_append_blanks (cs : List Char) {gap : List Char} (blank : gap.all isBlank = true) :
    trimChars (cs ++ gap) = trimChars cs := by
  induction gap using List.reverseRecOn with
  | nil => rw [List.append_nil]
  | append_singleton gap z ih =>
    rw [List.all_append, Bool.and_eq_true] at blank
    rw [← List.append_assoc, trimChars_append_blank (by simpa using blank.2), ih blank.1]

theorem trimChars_blanks_append (cs : List Char) {gap : List Char} (blank : gap.all isBlank = true) :
    trimChars (gap ++ cs) = trimChars cs := by
  rw [trimChars, List.dropWhile_append_of_pos (by simpa using blank), trimChars]

section

variable {word : List Char}

theorem IsWord.infix_blanks_append_iff (isWord : IsWord word) {gap : List Char}
    (blank : gap.all isBlank = true) (cs : List Char) : word <:+: gap ++ cs ↔ word <:+: cs := by
  obtain ⟨some, inked⟩ := isWord
  induction gap with
  | nil => rfl
  | cons z gap ih =>
    rw [List.all_cons, Bool.and_eq_true] at blank
    rw [List.cons_append, List.infix_cons_iff, ih blank.2, or_iff_right]
    intro first
    obtain ⟨c, rest, rfl⟩ := List.exists_cons_of_ne_nil some
    obtain ⟨rfl, -⟩ := List.cons_prefix_cons.mp first
    exact absurd blank.1 (by simp [inked c])

theorem IsWord.infix_append_blanks_append_iff (isWord : IsWord word) {gap : List Char} (some : gap ≠ [])
    (blank : gap.all isBlank = true) (xs ys : List Char) :
    word <:+: xs ++ (gap ++ ys) ↔ word <:+: xs ∨ word <:+: ys := by
  rw [List.infix_append_iff, isWord.infix_blanks_append_iff blank, ← or_assoc, or_iff_left_of_imp]
  rintro ⟨start, rest, rfl, ends, begins⟩
  obtain ⟨z, gap, rfl⟩ := List.exists_cons_of_ne_nil some
  cases rest with
  | nil => exact .inl (by simpa using ends.isInfix)
  | cons c rest =>
    obtain ⟨rfl, -⟩ := List.cons_prefix_cons.mp begins
    simp [isWord.2 c] at blank

theorem IsWord.infix_append_blanks_iff (isWord : IsWord word) {gap : List Char}
    (blank : gap.all isBlank = true) (cs : List Char) : word <:+: cs ++ gap ↔ word <:+: cs := by
  rcases eq_or_ne gap [] with rfl | some
  · rw [List.append_nil]
  · have split := isWord.infix_append_blanks_append_iff some blank cs []
    have nothing : ¬ word <:+: [] := by simpa using isWord.1
    simpa [nothing] using split

theorem IsWord.firstCut (isWord : IsWord word) {front gap : List Char} (none : ¬ word <:+: front)
    (some : gap ≠ []) (blank : gap.all isBlank = true) (back : List Char) :
    FirstCut word (front ++ gap ++ (word ++ back)) (front ++ gap) back := by
  refine ⟨rfl, fun before after whole => ?_⟩
  by_contra early
  have near : before <+: front ++ gap ++ (word ++ back) := ⟨_, whole.symm⟩
  have far : before ++ word <+: front ++ gap ++ (word ++ back) := ⟨after, by rw [whole, List.append_assoc]⟩
  rcases List.prefix_or_prefix_of_prefix far (List.prefix_append _ _) with inside | across
  · -- The word ends before the gap does.
    have stands : word <:+: front ++ gap := (List.suffix_append before word).isInfix.trans inside.isInfix
    exact none ((isWord.infix_append_blanks_iff blank front).mp stands)
  · -- The word reaches over the last blank of the gap.
    obtain ⟨part, reaches⟩ := List.prefix_of_prefix_length_le near (List.prefix_append _ _) (by omega)
    rw [← reaches, List.prefix_append_right_inj] at across
    obtain ⟨gap, z, rfl⟩ := (List.eq_nil_or_concat' gap).resolve_left some
    obtain rfl | ⟨part, y, rfl⟩ := List.eq_nil_or_concat' part
    · simp [← reaches] at early
    · rw [← List.append_assoc, ← List.append_assoc] at reaches
      obtain rfl : y = z := by simpa using (List.append_inj' reaches rfl).2
      have inked := isWord.2 y (across.subset (by simp))
      simp [inked] at blank

end

end Text

/-! ## Operators and operands -/

namespace Operator

def above : Operator → List Operator
  | .equal => []
  | .greater => [.equal]
  | .less => [.equal, .greater]

theorem ranked_eq (op : Operator) : ∃ below, ranked = op.above ++ op :: below := by
  cases op with
  | equal => exact ⟨[.greater, .less], rfl⟩
  | greater => exact ⟨[.less], rfl⟩
  | less => exact ⟨[], rfl⟩

theorem exists_highest {cs : List Char} {op : Operator} (stands : op.symbol.toList <:+: cs) :
    ∃ op' : Operator, op'.symbol.toList <:+: cs ∧ ∀ higher ∈ op'.above, ¬ higher.symbol.toList <:+: cs := by
  by_cases equal : equal.symbol.toList <:+: cs
  · exact ⟨.equal, equal, by simp [above]⟩
  by_cases greater : greater.symbol.toList <:+: cs
  · exact ⟨.greater, greater, by simpa [above] using equal⟩
  cases op with
  | equal => contradiction
  | greater => contradiction
  | less => exact ⟨.less, stands, by simpa [above] using ⟨equal, greater⟩⟩

end Operator

namespace Operand

/-- How an operand is written: a variable with a dollar sign in front of its name, and any other text for
itself. -/
inductive Written : String → Operand → Prop
  | reference (name : String) : Written ("$" ++ name) (.reference name)
  | literal {text : String} (plain : ¬ "$".toList <+: text.toList) : Written text (.literal text)

theorem written_ofChars (cs : List Char) : Written (String.ofList cs) (ofChars cs) := by
  unfold ofChars
  split
  next name =>
    have dollar : String.ofList ('$' :: name) = "$" ++ String.ofList name := by
      apply String.ext
      simp
    rw [dollar]
    exact .reference _
  next other =>
    apply Written.literal
    rintro ⟨name, whole⟩
    exact other name (by simpa using whole.symm)

end Operand

namespace Condition

theorem ofChars_of_firstCut {cs before after : List Char} {op : Operator}
    (highest : ∀ higher ∈ op.above, ¬ higher.symbol.toList <:+: cs)
    (cut : Text.FirstCut op.symbol.toList cs before after) :
    ofChars cs =
      .ok ⟨Operand.ofChars (Text.trimChars before), op, Operand.ofChars (Text.trimChars after)⟩ := by
  have found := Text.cutChars_eq_some_iff.mpr cut
  obtain ⟨below, ranked⟩ := op.ranked_eq
  rw [ofChars, ranked]
  simp only [List.findSome?_append, List.findSome?_cons, found, Option.map_some]
  rw [List.findSome?_eq_none_iff.mpr]
  · rfl
  · intro higher member
    rw [Text.cutChars_eq_none_iff.mpr (highest higher member)]
    rfl

structure Cut (text left : String) (op : Operator) (right : String) : Prop where
  whole : text = left ++ op.symbol ++ right
  first : ∀ left' right', text = left' ++ op.symbol ++ right' → left.length ≤ left'.length

theorem cut_iff {text left right : String} {op : Operator} :
    Cut text left op right ↔ Text.FirstCut op.symbol.toList text.toList left.toList right.toList := by
  constructor
  · intro cut
    refine ⟨by simp [cut.whole], fun before after whole => ?_⟩
    have written : text = String.ofList before ++ op.symbol ++ String.ofList after := by
      apply String.ext
      simpa using whole
    simpa [String.length_toList] using cut.first _ _ written
  · intro cut
    have written : text = left ++ op.symbol ++ right := by
      apply String.ext
      simpa using cut.whole
    refine ⟨written, fun left' right' whole => ?_⟩
    simpa [String.length_toList] using cut.first left'.toList right'.toList (by simp [whole])

theorem ofText_of_cut {text left right : String} {op : Operator}
    (highest : ∀ higher ∈ op.above, ¬ higher.symbol.toList <:+: text.toList)
    (cut : Cut text left op right) :
    ∃ l r, Operand.Written (Text.trim left) l ∧ Operand.Written (Text.trim right) r ∧
      ofText text = .ok ⟨l, op, r⟩ :=
  ⟨_, _, Operand.written_ofChars _, Operand.written_ofChars _,
    ofChars_of_firstCut highest (cut_iff.mp cut)⟩

theorem exists_cut {text : String} {op : Operator} (stands : op.symbol.toList <:+: text.toList) :
    ∃ left right, Cut text left op right := by
  have found := Text.cutChars_of_infix stands
  obtain ⟨⟨before, after⟩, found⟩ := Option.isSome_iff_exists.mp found
  refine ⟨String.ofList before, String.ofList after, cut_iff.mpr ?_⟩
  simpa using Text.cutChars_eq_some_iff.mp found

/-! ## Operands apart from their operator -/

structure Fits (left : String) (op : Operator) (right : String) : Prop where
  left_trimmed : Text.trim left = left
  right_trimmed : Text.trim right = right
  first : ¬ op.symbol.toList <:+: left.toList
  highest : ∀ higher ∈ op.above,
    ¬ higher.symbol.toList <:+: left.toList ∧ ¬ higher.symbol.toList <:+: right.toList

namespace Fits

variable {op : Operator} {left gap gap' right : String}

theorem outranks (fits : Fits left op right) (apart : gap ≠ "") (blank : Text.isBlankText gap = true)
    (apart' : gap' ≠ "") (blank' : Text.isBlankText gap' = true) :
    ∀ higher ∈ op.above,
      ¬ higher.symbol.toList <:+: (left ++ gap ++ op.symbol ++ gap' ++ right).toList := by
  intro higher member stands
  have word := higher.isWord_symbol
  obtain ⟨notLeft, notRight⟩ := fits.highest higher member
  have other : ¬ higher.symbol.toList <:+: op.symbol.toList := by
    revert member
    cases op <;> cases higher <;> decide
  simp only [String.toList_append, List.append_assoc] at stands
  rw [word.infix_append_blanks_append_iff (by simpa using apart) blank,
    word.infix_append_blanks_append_iff (by simpa using apart') blank'] at stands
  exact stands.elim notLeft fun later => later.elim other notRight

theorem cut (fits : Fits left op right) (apart : gap ≠ "") (blank : Text.isBlankText gap = true) :
    Cut (left ++ gap ++ op.symbol ++ gap' ++ right) (left ++ gap) op (gap' ++ right) := by
  rw [cut_iff]
  simpa using
    op.isWord_symbol.firstCut fits.first (by simpa using apart) blank (gap'.toList ++ right.toList)

theorem trim_left (fits : Fits left op right) (blank : Text.isBlankText gap = true) :
    Text.trim (left ++ gap) = left := by
  rw [Text.trim, String.toList_append, Text.trimChars_append_blanks _ blank, ← Text.trim, fits.left_trimmed]

theorem trim_right (fits : Fits left op right) (blank : Text.isBlankText gap = true) :
    Text.trim (gap ++ right) = right := by
  rw [Text.trim, String.toList_append, Text.trimChars_blanks_append _ blank, ← Text.trim,
    fits.right_trimmed]

end Fits

/-- A text is refused exactly where no operator stands in it. Any other is cut where the operator of
highest rank in it stands first, and its operands are what is written on the two sides. Operands around
which blanks are put, and which fit their operator, are read as they are. -/
theorem ofText_cuts_by_rank :
    (∀ text, ofText text = .error .missingOperator ↔ ¬ HasOperator text) ∧
    (∀ text, HasOperator text → ∃ c left right, ofText text = .ok c ∧
      c.operator.symbol.toList <:+: text.toList ∧
      (∀ higher ∈ c.operator.above, ¬ higher.symbol.toList <:+: text.toList) ∧
      Cut text left c.operator right ∧
      Operand.Written (Text.trim left) c.left ∧ Operand.Written (Text.trim right) c.right) ∧
    ∀ left op right gap gap', Fits left op right → gap ≠ "" → Text.isBlankText gap = true →
      gap' ≠ "" → Text.isBlankText gap' = true →
      ∃ l r, Operand.Written left l ∧ Operand.Written right r ∧
        ofText (left ++ gap ++ op.symbol ++ gap' ++ right) = .ok ⟨l, op, r⟩ := by
  refine ⟨fun text => ⟨?_, ofText_of_not_hasOperator⟩, ?_, ?_⟩
  · intro refused operator
    obtain ⟨c, read⟩ := ofText_of_hasOperator operator
    cases read.symm.trans refused
  · intro text operator
    obtain ⟨op, somewhere⟩ := (hasOperator_iff text).mp operator
    obtain ⟨op, stands, highest⟩ := Operator.exists_highest somewhere
    obtain ⟨left, right, cut⟩ := exists_cut stands
    obtain ⟨l, r, before, after, read⟩ := ofText_of_cut highest cut
    exact ⟨⟨l, op, r⟩, left, right, read, stands, highest, cut, before, after⟩
  · intro left op right gap gap' fits apart blank apart' blank'
    obtain ⟨l, r, before, after, read⟩ :=
      ofText_of_cut (fits.outranks apart blank apart' blank') (fits.cut apart blank)
    rw [fits.trim_left blank] at before
    rw [fits.trim_right blank'] at after
    exact ⟨l, r, before, after, read⟩

theorem ofText_cuts_by_rank_signs :
    HasOperator "$x= \t=== =b > c" ∧ Fits "$x=" .equal "=b > c" ∧
      ∃ l r, Operand.Written "$x=" l ∧ Operand.Written "=b > c" r ∧
        ofText "$x= \t=== =b > c" = .ok ⟨l, .equal, r⟩ := by
  have fits : Fits "$x=" .equal "=b > c" :=
    ⟨by decide, by decide, by decide, by simp [Operator.above]⟩
  obtain ⟨-, -, reads⟩ := ofText_cuts_by_rank
  refine ⟨⟨"===", by decide, by decide⟩, fits, ?_⟩
  exact reads "$x=" .equal "=b > c" " \t" " " fits (by decide) (by decide) (by decide) (by decide)

-- Without the blanks the sign that ends the operand `a=` is taken for the start of the operator.
example : ofText "a====b" = .ok ⟨.literal "a", .equal, .literal "=b"⟩ := by decide

end Condition

end ScriptShell
