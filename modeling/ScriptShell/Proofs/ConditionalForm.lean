import ScriptShell.Proofs.Assignment
import ScriptShell.Proofs.Transparency

namespace ScriptShell

namespace Text

/-! ## Trimming around a word -/

theorem trimEndChars_append {ys : List Char} (some : trimEndChars ys ≠ []) (xs : List Char) :
    trimEndChars (xs ++ ys) = xs ++ trimEndChars ys := by
  induction xs with
  | nil => rfl
  | cons x xs ih => rw [List.cons_append, trimEndChars_cons_of_ne_nil x (by simp [ih, some]), ih]; rfl

theorem trimEndChars_word_append {word : List Char} (inked : ∀ c ∈ word, isBlank c = false)
    (ys : List Char) : trimEndChars (word ++ ys) = word ++ trimEndChars ys := by
  induction word with
  | nil => rfl
  | cons c word ih =>
    obtain ⟨here, later⟩ := List.forall_mem_cons.mp inked
    rw [List.cons_append, trimEndChars_cons_inked here, ih later]
    rfl

theorem trimChars_around {word : List Char} (isWord : IsWord word) (xs ys : List Char) :
    trimChars (xs ++ (word ++ ys)) = xs.dropWhile isBlank ++ (word ++ trimEndChars ys) := by
  obtain ⟨some, inked⟩ := isWord
  have front : (xs ++ (word ++ ys)).dropWhile isBlank = xs.dropWhile isBlank ++ (word ++ ys) := by
    obtain ⟨c, rest, rfl⟩ := List.exists_cons_of_ne_nil some
    rw [List.dropWhile_append]
    split
    next none =>
      rw [List.isEmpty_iff.mp none, List.cons_append, List.dropWhile_cons_of_neg]
      · rfl
      · simp [inked c]
    · rfl
  have back := trimEndChars_word_append inked ys
  rw [trimChars, front, trimEndChars_append (by simp [back, some]), back]

theorem word_infix_trimChars_iff {word : List Char} (isWord : IsWord word) (cs : List Char) :
    word <:+: trimChars cs ↔ word <:+: cs := by
  constructor
  · intro inside
    exact inside.trans (trimChars_within cs)
  · rintro ⟨xs, ys, rfl⟩
    rw [List.append_assoc, trimChars_around isWord]
    exact ⟨_, _, List.append_assoc _ _ _⟩

theorem trimChars_eq_nil_iff (cs : List Char) : trimChars cs = [] ↔ cs.all isBlank = true := by
  constructor
  · intro none
    by_contra written
    obtain ⟨c, member, inked⟩ : ∃ c ∈ cs, isBlank c = false := by simpa using written
    have inside : [c] <:+: trimChars cs :=
      (word_infix_trimChars_iff (isWord_singleton inked) cs).mpr
        (List.singleton_infix_iff c cs |>.mpr member)
    simp [none] at inside
  · intro blank
    have nothing : cs.dropWhile isBlank = [] := by simpa using blank
    rw [trimChars, nothing]
    rfl

theorem cutChars_eq_some {mark cs before after : List Char}
    (cut : cutChars mark cs = some (before, after)) : cs = before ++ (mark ++ after) := by
  induction cs generalizing before with
  | nil =>
    rw [cutChars] at cut
    split at cut
    next empty =>
      cases cut
      simp [empty]
    · contradiction
  | cons c cs ih =>
    rw [cutChars] at cut
    split at cut
    next here =>
      cases cut
      obtain ⟨rest, whole⟩ := List.isPrefixOf_iff_prefix.mp here
      simp [← whole]
    · obtain ⟨⟨front, back⟩, found, same⟩ := Option.map_eq_some_iff.mp cut
      cases same
      rw [ih found]
      rfl

end Text

/-! ## Operators -/

theorem Operator.isWord_symbol (op : Operator) : Text.IsWord op.symbol.toList := by
  apply Text.isWord_of_inked
  · cases op <;> decide
  · cases op <;> rfl

namespace Condition

def HasOperator (guard : String) : Prop :=
  ∃ symbol ∈ ["===", ">", "<"], symbol.toList <:+: guard.toList

theorem hasOperator_iff (guard : String) :
    HasOperator guard ↔ ∃ op : Operator, op.symbol.toList <:+: guard.toList := by
  constructor
  · rintro ⟨symbol, listed, stands⟩
    simp only [List.mem_cons, List.not_mem_nil, or_false] at listed
    obtain rfl | rfl | rfl := listed
    · exact ⟨.equal, stands⟩
    · exact ⟨.greater, stands⟩
    · exact ⟨.less, stands⟩
  · rintro ⟨op, stands⟩
    refine ⟨op.symbol, ?_, stands⟩
    cases op <;> simp [Operator.symbol]

theorem hasOperator_trim_iff (guard : String) : HasOperator (Text.trim guard) ↔ HasOperator guard := by
  rw [hasOperator_iff, hasOperator_iff, Text.trim, String.toList_ofList]
  exact exists_congr fun op => Text.word_infix_trimChars_iff op.isWord_symbol guard.toList

theorem ofText_of_hasOperator {guard : String} (operator : HasOperator guard) :
    ∃ c, ofText guard = .ok c := by
  obtain ⟨op, stands⟩ := (hasOperator_iff guard).mp operator
  exact ofChars_of_operator stands

theorem ofText_of_not_hasOperator {guard : String} (none : ¬ HasOperator guard) :
    ofText guard = .error .missingOperator := by
  unfold ofText ofChars
  simp only
  split
  next before op after found =>
    obtain ⟨op', -, cut⟩ := List.exists_of_findSome?_eq_some found
    obtain ⟨⟨before', after'⟩, cut, same⟩ := Option.map_eq_some_iff.mp cut
    rw [hasOperator_iff] at none
    exact absurd ⟨op', before', after', by rw [Text.cutChars_eq_some cut, List.append_assoc]⟩ none
  · rfl

end Condition

/-! ## The form -/

namespace Conditional

structure Form (text guard gap body : String) : Prop where
  whole : text = "(" ++ guard ++ ")" ++ gap ++ "\x7b" ++ body ++ "\x7d"
  enclosed : ')' ∉ guard.toList
  guarded : Text.isBlankText guard = false
  apart : Text.isBlankText gap = true
  oneLine : '\n' ∉ body.toList
  written : Text.isBlankText body = false

theorem written_of_parts? {cs guard body : List Char} (found : parts? cs = some (guard, body)) :
    ∃ gap, cs = '(' :: (guard ++ ')' :: (gap ++ '{' :: (body ++ ['}']))) ∧
      ')' ∉ guard ∧ gap.all Text.isBlank = true ∧ '\n' ∉ body := by
  unfold parts? at found
  split at found
  next rest =>
    split at found
    next after closes =>
      split at found
      next inside opens =>
        split at found
        next inner ends =>
          split at found
          · contradiction
          next oneLine =>
            cases found
            refine ⟨after.takeWhile Text.isBlank, ?_, ?_, List.all_takeWhile, by simpa using oneLine⟩
            · have last : inner.reverse ++ ['}'] = inside := by
                simpa using (congrArg List.reverse ends).symm
              rw [last, ← opens, List.takeWhile_append_dropWhile, ← closes,
                List.takeWhile_append_dropWhile]
            · intro member
              simpa using List.mem_takeWhile_imp member
        · contradiction
      · contradiction
    · contradiction
  · contradiction

namespace Form

variable {text guard gap body : String}

theorem toList (form : Form text guard gap body) :
    text.toList = '(' :: (guard.toList ++ ')' :: (gap.toList ++ '{' :: (body.toList ++ ['}']))) := by
  simp [form.whole]

theorem parts? (form : Form text guard gap body) :
    parts? text.toList = some (guard.toList, body.toList) := by
  rw [form.toList, parts?_written form.enclosed form.apart form.oneLine]

theorem unique {guard' gap' body' : String} (form : Form text guard gap body)
    (form' : Form text guard' gap' body') : guard = guard' ∧ gap = gap' ∧ body = body' := by
  have same := form.parts?.symm.trans form'.parts?
  simp only [Option.some.injEq, Prod.mk.injEq, String.toList_inj] at same
  obtain ⟨rfl, rfl⟩ := same
  have whole := form.toList.symm.trans form'.toList
  simpa [String.toList_inj] using whole

end Form

section

variable {s guard gap body : String}

theorem ofText_of_form (form : Form (Text.trim s) guard gap body) :
    ofText s = (Condition.ofText (Text.trim guard)).map (⟨·, Text.trim body⟩) := by
  have guarded : Text.trimChars guard.toList ≠ [] := by
    rw [ne_eq, Text.trimChars_eq_nil_iff]
    simpa [Text.isBlankText] using form.guarded
  have written : Text.trimChars body.toList ≠ [] := by
    rw [ne_eq, Text.trimChars_eq_nil_iff]
    simpa [Text.isBlankText] using form.written
  have parts : Conditional.parts? (Text.trimChars s.toList) = some (guard.toList, body.toList) := by
    simpa [Text.trim] using form.parts?
  rw [ofText, parts]
  simp only [guarded, written, or_self, if_false, Condition.ofText, Text.trim, String.toList_ofList]
  cases Condition.ofChars (Text.trimChars guard.toList) <;> rfl

theorem ofText_of_formless (none : ¬ ∃ guard gap body, Form (Text.trim s) guard gap body) :
    ofText s = .error .malformedIf := by
  unfold ofText
  split
  · rfl
  next guard body found =>
    split
    · rfl
    next some =>
      obtain ⟨gap, whole, enclosed, apart, oneLine⟩ := written_of_parts? found
      rw [not_or, Text.trimChars_eq_nil_iff, Text.trimChars_eq_nil_iff] at some
      refine absurd ⟨String.ofList guard, String.ofList gap, String.ofList body, ?_⟩ none
      constructor
      · apply String.ext
        simp [Text.trim, whole]
      · simpa using enclosed
      · simpa [Text.isBlankText] using some.1
      · simpa [Text.isBlankText] using apart
      · simpa using oneLine
      · simpa [Text.isBlankText] using some.2

theorem ofText_of_hasOperator (form : Form (Text.trim s) guard gap body)
    (operator : Condition.HasOperator guard) :
    ∃ c, Condition.ofText (Text.trim guard) = .ok c ∧ ofText s = .ok ⟨c, Text.trim body⟩ := by
  obtain ⟨c, read⟩ :=
    Condition.ofText_of_hasOperator ((Condition.hasOperator_trim_iff guard).mpr operator)
  refine ⟨c, read, ?_⟩
  rw [ofText_of_form form, read]
  rfl

theorem ofText_of_not_hasOperator (form : Form (Text.trim s) guard gap body)
    (none : ¬ Condition.HasOperator guard) : ofText s = .error .missingOperator := by
  rw [ofText_of_form form, Condition.ofText_of_not_hasOperator]
  · rfl
  · rwa [Condition.hasOperator_trim_iff]

theorem ofText_cases (s : String) :
    ((¬ ∃ guard gap body, Form (Text.trim s) guard gap body) ∧ ofText s = .error .malformedIf) ∨
      ∃ guard gap body, Form (Text.trim s) guard gap body ∧
        ((¬ Condition.HasOperator guard ∧ ofText s = .error .missingOperator) ∨
          Condition.HasOperator guard ∧ ∃ c, ofText s = .ok c) := by
  by_cases some : ∃ guard gap body, Form (Text.trim s) guard gap body
  · obtain ⟨guard, gap, body, form⟩ := some
    refine .inr ⟨guard, gap, body, form, ?_⟩
    by_cases operator : Condition.HasOperator guard
    · obtain ⟨c, -, read⟩ := ofText_of_hasOperator form operator
      exact .inr ⟨operator, _, read⟩
    · exact .inl ⟨operator, ofText_of_not_hasOperator form operator⟩
  · exact .inl ⟨some, ofText_of_formless some⟩

end

/-- A text is read as a conditional if, trimmed, it has the written form and an operator stands in its
guard; the form is unique, and it is the guard and the body of the form that are read, trimmed. A form
without an operator is refused for that, and a text without a form as malformed. -/
theorem ofText_exact (s : String) :
    ((∃ c, ofText s = .ok c) ↔
      ∃ guard gap body, Form (Text.trim s) guard gap body ∧ Condition.HasOperator guard) ∧
    (∀ guard gap body guard' gap' body', Form (Text.trim s) guard gap body →
      Form (Text.trim s) guard' gap' body' → guard = guard' ∧ gap = gap' ∧ body = body') ∧
    (∀ c guard gap body, ofText s = .ok c → Form (Text.trim s) guard gap body →
      Condition.ofText (Text.trim guard) = .ok c.condition ∧ c.body = Text.trim body) ∧
    (ofText s = .error .missingOperator ↔
      ∃ guard gap body, Form (Text.trim s) guard gap body ∧ ¬ Condition.HasOperator guard) ∧
    (ofText s = .error .malformedIf ↔ ¬ ∃ guard gap body, Form (Text.trim s) guard gap body) := by
  have outcome := ofText_cases s
  refine ⟨⟨?_, ?_⟩, fun _ _ _ _ _ _ => Form.unique, ?_, ⟨?_, ?_⟩, ⟨?_, ofText_of_formless⟩⟩
  · rintro ⟨c, read⟩
    obtain ⟨-, refused⟩ | ⟨guard, gap, body, form, ⟨-, refused⟩ | ⟨operator, -⟩⟩ := outcome
    · cases read.symm.trans refused
    · cases read.symm.trans refused
    · exact ⟨guard, gap, body, form, operator⟩
  · rintro ⟨guard, gap, body, form, operator⟩
    obtain ⟨c, -, read⟩ := ofText_of_hasOperator form operator
    exact ⟨_, read⟩
  · intro c guard gap body read form
    rw [ofText_of_form form] at read
    cases condition : Condition.ofText (Text.trim guard) with
    | error refusal =>
      rw [condition] at read
      cases read
    | ok condition =>
      rw [condition] at read
      cases read
      exact ⟨rfl, rfl⟩
  · intro refused
    obtain ⟨-, read⟩ | ⟨guard, gap, body, form, ⟨operator, -⟩ | ⟨-, c, read⟩⟩ := outcome
    · cases read.symm.trans refused
    · exact ⟨guard, gap, body, form, operator⟩
    · cases read.symm.trans refused
  · rintro ⟨guard, gap, body, form, none⟩
    exact ofText_of_not_hasOperator form none
  · intro refused
    obtain ⟨none, -⟩ | ⟨guard, gap, body, form, ⟨-, read⟩ | ⟨-, c, read⟩⟩ := outcome
    · exact none
    · cases read.symm.trans refused
    · cases read.symm.trans refused

end Conditional

end ScriptShell
