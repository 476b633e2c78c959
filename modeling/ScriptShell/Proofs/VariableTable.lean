import ScriptShell.Proofs.Assignment
import ScriptShell.Proofs.Course
import ScriptShell.Proofs.RoundTrip
import ScriptShell.Proofs.Transparency

namespace ScriptShell

/-! ## The table -/

theorem Table.mem_insertEntry {α : Type} {name : String} {value : α} {entries : List (String × α)}
    {entry : String × α} (member : entry ∈ insertEntry name value entries) :
    entry = (name, value) ∨ entry ∈ entries := by
  induction entries with
  | nil => simpa [insertEntry] using member
  | cons first rest ih =>
    rw [insertEntry] at member
    split at member
    · rcases List.mem_cons.mp member with rfl | later
      · exact .inl rfl
      · exact .inr (List.mem_cons_of_mem _ later)
    · rcases List.mem_cons.mp member with rfl | later
      · exact .inr List.mem_cons_self
      · exact (ih later).imp_right (List.mem_cons_of_mem _)

theorem Table.mem_of_get? {α : Type} {t : Table α} {name : String} {value : α}
    (found : t.get? name = some value) : (name, value) ∈ t.entries := by
  obtain ⟨before, after, whole, -⟩ := List.lookup_eq_some_iff.mp found
  simp [whole]

namespace Variables

structure IsKey (key : String) : Prop where
  nonempty : key ≠ ""
  trimmed : Text.trim key = key
  noEquals : '=' ∉ key.toList
  capital : Text.upper key = key

structure IsValue (value : String) : Prop where
  nonempty : value ≠ ""
  trimmed : Text.trim value = value
  noEquals : '=' ∉ value.toList
  spaced : Text.SingleSpaced value.toList
  literal : value.toList.head? ≠ some '$'

def Sound (vars : Variables) : Prop := ∀ entry ∈ vars.entries, IsKey entry.1 ∧ IsValue entry.2

variable {vars : Variables} {name word value : String}

theorem isKey_upper (nonempty : name ≠ "") (trimmed : Text.trim name = name)
    (noEquals : '=' ∉ name.toList) : IsKey (Text.upper name) where
  nonempty := by
    have some : name.toList ≠ [] := by simpa using nonempty
    simpa [Text.upper] using Text.upperChars_ne_nil some
  trimmed := by
    have trimmed : Text.trimChars name.toList = name.toList := by
      simpa [Text.trim] using congrArg String.toList trimmed
    rw [Text.trim, Text.upper, String.toList_ofList, Text.trimChars_upperChars trimmed]
  noEquals := by
    rw [Text.upper, String.toList_ofList]
    intro member
    obtain ⟨c, listed, image⟩ := List.mem_flatMap.mp member
    cases Text.eq_of_delimiter_mem_upperChar image rfl
    exact noEquals listed
  capital := Text.upper_upper name

theorem resolve_cases (resolved : vars.resolve word = .ok value) :
    (word.toList.head? ≠ some '$' ∧ value = word) ∨
      ∃ name, vars.get? (Text.upper name) = some value := by
  unfold resolve at resolved
  split at resolved
  next name starts =>
    unfold lookup at resolved
    split at resolved
    next found =>
      cases resolved
      exact .inr ⟨_, found⟩
    · contradiction
  next other =>
    cases resolved
    refine .inl ⟨?_, rfl⟩
    intro first
    obtain ⟨name, starts⟩ := List.head?_eq_some_iff.mp first
    exact other name starts

theorem Sound.set (sound : vars.Sound) (key : IsKey (Text.upper name)) (plain : IsValue value) :
    Sound (Variables.set vars name value) := by
  intro entry member
  rcases Table.mem_insertEntry member with rfl | old
  · exact ⟨key, plain⟩
  · exact sound entry old

end Variables

namespace Interpreter

variable {host : Host} {line : String} {i : Invocation} {s : Session}

theorem sound_alone (admits : Admits line s i) (sound : s.vars.Sound) :
    (alone host i s).2.vars.Sound := by
  obtain same | ⟨verb, -, touches⟩ := touches_alone host i s
  · rwa [same]
  · change Variables.Sound (alone host i s).2.notes.1
    generalize (alone host i s).2.notes = notes at touches
    cases touches with
    | nothing idle => exact sound
    | viewed named => exact sound
    | removed => exact sound
    | cleared confirmed => exact sound
    | @assigned name word value parts named given resolved =>
      have single := Invocation.singleSpaced_argumentText admits.1
      obtain ⟨trimmedName, noEqualsName, -⟩ := Text.of_mem_parts (parts ▸ List.mem_cons_self)
      obtain ⟨trimmed, noEquals, inside⟩ :=
        Text.of_mem_parts (parts ▸ List.mem_cons_of_mem name List.mem_cons_self)
      have key := Variables.isKey_upper named trimmedName noEqualsName
      rw [← Text.upper_upper name] at key
      refine sound.set key ?_
      -- A value that is copied is sound since the table has been so far.
      rcases Variables.resolve_cases resolved with ⟨literal, rfl⟩ | ⟨source, copied⟩
      · exact ⟨given, trimmed, noEquals, single.within inside, literal⟩
      · exact (sound _ (Table.mem_of_get? copied)).2

theorem Moment.Arises.sound {m : Moment} (arises : Arises host s m) (sound : s.vars.Sound) :
    m.session.vars.Sound := by
  refine arises.keeps ?_ (fun _ _ _ => sound_alone) sound
  intro s t same sound
  rwa [← Session.vars_of_records same]

end Interpreter

/-! ## Assignments as lines -/

namespace Variables

variable {vars : Variables} {name other value word : String}

structure IsName (name : String) : Prop where
  nonempty : name ≠ ""
  single : Text.normal name = name
  noEquals : '=' ∉ name.toList

theorem IsName.written (isName : IsName name) : Text.isBlankText name = false := by
  by_contra blank
  have none := (Text.words_eq_nil_iff name).mpr (by simpa using blank)
  have normal := isName.single
  rw [Text.normal, none] at normal
  exact isName.nonempty normal.symm

theorem toList_reference (name : String) : ("$" ++ name).toList = '$' :: name.toList :=
  String.toList_append

theorem normal_reference {name : String} (starts : Text.endsWord name.toList = false) :
    Text.normal ("$" ++ name) = "$" ++ Text.normal name := by
  have dollar : ¬ Text.isBlank '$' = true := by decide
  apply String.ext
  rw [Text.toList_normal, toList_reference, toList_reference, Text.wordsChars, if_neg dollar,
    if_neg (by simp [starts]), Text.unwordsChars_extendFirst, Text.toList_normal]

theorem IsName.normal_reference (isName : IsName name) :
    Text.normal ("$" ++ name) = "$" ++ name := by
  have starts : Text.endsWord name.toList = false :=
    Text.endsWord_of_trimmed (by simpa using isName.nonempty)
      (by rw [← isName.single, Text.trimChars_normal])
  rw [Variables.normal_reference starts, isName.single]

theorem resolve_reference (found : vars.value? name = some value) :
    vars.resolve ("$" ++ name) = .ok value := by
  rw [resolve, toList_reference]
  simp only [lookup, String.ofList_toList, found]

theorem resolve_literal (literal : word.toList.head? ≠ some '$') :
    vars.resolve word = .ok word := by
  unfold resolve
  split
  next name starts => simp [starts] at literal
  · rfl

theorem value?_set (vars : Variables) (name other value : String) :
    value? (vars.set (Text.upper name) value) other =
      if Text.upper name = Text.upper other then some value else vars.value? other := by
  rw [Variables.set, Text.upper_upper]
  exact Table.get?_insert vars _ _ _

def assignLine (name word : String) : String := "VAR " ++ (name ++ " = " ++ word)

def copyLines : String → List String → List String
  | _, [] => []
  | name, next :: rest => assignLine next ("$" ++ name) :: copyLines next rest

end Variables

namespace Session

open Variables (IsName assignLine copyLines)

variable {host : Host} {s : Session} {name word value : String}

theorem dispatch_assign (host : Host) (normal : s.editing = none)
    (named : Text.isBlankText name = false) (given : Text.isBlankText word = false)
    (noEquals : '=' ∉ name.toList) (noEquals' : '=' ∉ word.toList)
    (resolved : s.vars.resolve (Text.normal word) = .ok value) :
    ∃ t, s.dispatch host (assignLine name word) =
        (.done (some (.success
          s!"Variable '{Text.upper (Text.normal name)}' set to '{value}'.")), t) ∧
      t.vars = s.vars.set (Text.upper (Text.normal name)) value ∧ t.editing = none := by
  have line : assignLine name word = Verb.var.name ++ " " ++ (name ++ " = " ++ word) := rfl
  have parts := Text.parts_assignment noEquals noEquals'
  have some {u : String} (written : Text.isBlankText u = false) : Text.normal u ≠ "" := by
    intro none
    apply Text.toList_normal_ne_nil written
    rw [none]
    rfl
  have set : Verb.setVariable ⟨Verb.var.name, Text.words (name ++ " = " ++ word)⟩
      (Interpreter.noted (assignLine name word) s) =
        (.ok (.success s!"Variable '{Text.upper (Text.normal name)}' set to '{value}'."),
          { Interpreter.noted (assignLine name word) s with
            vars := s.vars.set (Text.upper (Text.normal name)) value }) := by
    have resolved : (Interpreter.noted (assignLine name word) s).vars.resolve (Text.normal word) =
        .ok value := resolved
    rw [Verb.setVariable, Invocation.argumentText_words, parts]
    simp only [some named, some given, or_self, if_false, resolved]
    rfl
  rw [dispatch_eq, line, Interpreter.execute_verb host normal .var, ← line, Verb.perform, set]
  exact ⟨_, rfl, rfl, normal⟩

theorem dispatchAll_copyLines (host : Host) (names : List String) {first : String}
    {seen : List String} (normal : s.editing = none) (isName : ∀ n ∈ first :: names, IsName n)
    (known : first ∈ seen) (held : ∀ n ∈ seen, s.vars.value? n = some value) :
    (∀ reply ∈ (s.dispatchAll host (copyLines first names)).1, reply.succeeds = true) ∧
      ∀ n ∈ seen ++ names,
        (s.dispatchAll host (copyLines first names)).2.vars.value? n = some value := by
  -- Every name seen so far holds the value, also one that has been copied to before.
  induction names generalizing s first seen with
  | nil => exact ⟨nofun, by simpa [copyLines, dispatchAll] using held⟩
  | cons next rest ih =>
    obtain ⟨firstName, others⟩ := List.forall_mem_cons.mp isName
    have nextName := others next List.mem_cons_self
    have resolved : s.vars.resolve (Text.normal ("$" ++ first)) = .ok value := by
      rw [firstName.normal_reference]
      exact Variables.resolve_reference (held first known)
    have written : Text.isBlankText ("$" ++ first) = false := by
      rw [Text.isBlankText, Variables.toList_reference]
      rfl
    have noEquals : '=' ∉ ("$" ++ first).toList := by
      rw [Variables.toList_reference, List.mem_cons, not_or]
      exact ⟨by decide, firstName.noEquals⟩
    obtain ⟨t, dispatched, vars, editing⟩ := dispatch_assign host normal nextName.written written
      nextName.noEquals noEquals resolved
    rw [nextName.single] at vars
    have held' : ∀ n ∈ seen ++ [next], t.vars.value? n = some value := by
      intro n listed
      rw [vars, Variables.value?_set]
      split
      · rfl
      next apart =>
        rcases List.mem_append.mp listed with old | new
        · exact held n old
        · exact absurd (congrArg Text.upper (List.mem_singleton.mp new).symm) apart
    obtain ⟨replies, values⟩ := ih editing others (by simp) held'
    simp only [copyLines, dispatchAll, dispatched]
    constructor
    · exact List.forall_mem_cons.mpr ⟨rfl, replies⟩
    · intro n listed
      exact values n (by simpa using listed)

open Interpreter (Moment)

/-- However a session goes on, the names of variables are in upper case, the values are texts with
single spaces that are no references, and neither has an equals sign. A value that is copied from
variable to variable is still the text that was assigned first. -/
theorem variables_hold_literals (host : Host) (store : Store) (disk : Disk) (surface : Surface)
    (m : Moment) (arises : Moment.Arises host (start store disk surface) m) :
    (∀ entry ∈ m.session.vars.entries, Variables.IsKey entry.1 ∧ Variables.IsValue entry.2) ∧
    (m.session.editing = none → ∀ (first literal : String) (names : List String),
      (∀ n ∈ first :: names, IsName n) → Text.isBlankText literal = false →
      '=' ∉ literal.toList → (Text.normal literal).toList.head? ≠ some '$' →
      let out := m.session.dispatchAll host (assignLine first literal :: copyLines first names)
      (∀ reply ∈ out.1, reply.succeeds = true) ∧
        ∀ n ∈ first :: names, out.2.vars.value? n = some (Text.normal literal)) := by
  refine ⟨arises.sound nofun, ?_⟩
  intro normal first literal names isName written noEquals plain
  have firstName := isName first List.mem_cons_self
  obtain ⟨t, dispatched, vars, editing⟩ := dispatch_assign host normal firstName.written written
    firstName.noEquals noEquals (Variables.resolve_literal plain)
  rw [firstName.single] at vars
  have held : ∀ n ∈ [first], t.vars.value? n = some (Text.normal literal) := by
    intro n listed
    rw [vars, Variables.value?_set, List.mem_singleton.mp listed, if_pos rfl]
  obtain ⟨replies, values⟩ :=
    dispatchAll_copyLines host names editing isName List.mem_cons_self held
  simp only [dispatchAll, dispatched]
  exact ⟨List.forall_mem_cons.mpr ⟨rfl, replies⟩, values⟩

theorem variables_hold_literals_copied :
    let s := start (.inMemory .empty) .empty .buffer
    let t := (s.dispatchAll (.calm 3)
      ["VAR maß  stab = a\t b", "IF (1 === 1) \x7bVAR c = $maß stab\x7d"]).2
    let out := t.dispatchAll (.calm 3) (assignLine "x" " 1  2 " :: copyLines "x" ["y z", "C"])
    t.vars.entries = [("MASS STAB", "a b"), ("C", "a b")] ∧ t.editing = none ∧
    Variables.IsKey "MASS STAB" ∧ Variables.IsValue "a b" ∧
    (∀ reply ∈ out.1, reply.succeeds = true) ∧ out.2.vars.value? "y z" = some "1 2" ∧
    out.2.vars.value? "C" = some "1 2" := by
  intro s t out
  have entries : t.vars.entries = [("MASS STAB", "a b"), ("C", "a b")] := by decide +kernel
  have normal : t.editing = none := by decide +kernel
  obtain ⟨sound, copies⟩ := variables_hold_literals (.calm 3) (.inMemory .empty) .empty .buffer
    (.start "" t) (Moment.arises_dispatchAll (.calm 3) s _ "")
  have first := sound ("MASS STAB", "a b") (show _ ∈ t.vars.entries by simp [entries])
  have isName : ∀ n ∈ ["x", "y z", "C"], IsName n := by
    have all : ∀ n ∈ ["x", "y z", "C"], n ≠ "" ∧ Text.normal n = n ∧ '=' ∉ n.toList := by
      decide +kernel
    intro n listed
    obtain ⟨nonempty, single, noEquals⟩ := all n listed
    exact ⟨nonempty, single, noEquals⟩
  obtain ⟨replies, values⟩ := copies normal "x" " 1  2 " ["y z", "C"] isName (by decide +kernel)
    (by decide +kernel) (by decide +kernel)
  have text : Text.normal " 1  2 " = "1 2" := by decide +kernel
  rw [text] at values
  exact ⟨entries, normal, first.1, first.2, replies, values "y z" (by simp), values "C" (by simp)⟩

end Session

end ScriptShell
