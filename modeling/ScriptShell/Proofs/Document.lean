import Mathlib.Data.List.Nodup
import ScriptShell.Proofs.UpperCase
import ScriptShell.Proofs.Utf8
import ScriptShell.Store

namespace ScriptShell

/-! ## Lists -/

section

variable {α β : Type} {f : α → Option β} {xs : List α} {ys : List β}

theorem mapM_eq_some_iff : xs.mapM f = some ys ↔ List.Forall₂ (fun x y => f x = some y) xs ys := by
  induction xs generalizing ys with
  | nil => simp [eq_comm]
  | cons x xs ih =>
    rw [List.mapM_cons, List.forall₂_cons_left_iff]
    constructor
    · intro read
      obtain ⟨y, found, read⟩ := Option.bind_eq_some_iff.mp read
      obtain ⟨rest, read, same⟩ := Option.bind_eq_some_iff.mp read
      exact ⟨y, rest, found, ih.mp read, (Option.some.inj same).symm⟩
    · rintro ⟨y, rest, found, read, rfl⟩
      rw [found, ih.mpr read]
      rfl

theorem exists_of_mapM_eq_some (read : xs.mapM f = some ys) {y : β} (member : y ∈ ys) :
    ∃ x ∈ xs, f x = some y := by
  rw [mapM_eq_some_iff] at read
  induction read with
  | nil => contradiction
  | cons found _ ih =>
    obtain rfl | member := List.mem_cons.mp member
    · exact ⟨_, List.mem_cons_self, found⟩
    · obtain ⟨x, here, found⟩ := ih member
      exact ⟨x, List.mem_cons_of_mem _ here, found⟩

end

/-! ## Hexadecimal digits -/

namespace Text

theorem hexDigits_succ {width : Nat} (positive : 0 < width) (n : Nat) :
    hexDigits (width + 1) n = hexDigits width (n / 16) ++ [Nat.digitChar (n % 16)] := by
  unfold hexDigits
  rw [Nat.toDigits_eq_if (by decide : 1 < 16)]
  split
  next small =>
    rw [Nat.div_eq_of_lt small, Nat.mod_eq_of_lt small, Nat.toDigits_zero]
    obtain ⟨width, rfl⟩ := Nat.exists_eq_succ_of_ne_zero (Nat.ne_of_gt positive)
    simp [← List.replicate_succ']
  · simp

theorem hexDigits_four {n : Nat} (small : n < 0x10000) :
    hexDigits 4 n = [Nat.digitChar (n / 16 / 16 / 16), Nat.digitChar (n / 16 / 16 % 16),
      Nat.digitChar (n / 16 % 16), Nat.digitChar (n % 16)] := by
  have leading : n / 16 / 16 / 16 < 16 := by omega
  rw [hexDigits_succ (by decide), hexDigits_succ (by decide), hexDigits_succ (by decide)]
  simp [hexDigits, Nat.toDigits_of_lt_base leading]

end Text

namespace Json

theorem hexValue?_digitChar {n : Nat} (digit : n < 16) : hexValue? (Nat.digitChar n) = some n := by
  have all : ∀ n < 16, hexValue? (Nat.digitChar n) = some n := by decide
  exact all n digit

theorem codeUnit_eq {n : Nat} (small : n < 0x10000) :
    ∃ a b c d, codeUnit n = ['\\', 'u', a, b, c, d] ∧ hexCode? a b c d = some n := by
  refine ⟨_, _, _, _, congrArg (fun digits => '\\' :: 'u' :: digits) (Text.hexDigits_four small), ?_⟩
  have value : ((n / 16 / 16 / 16 * 16 + n / 16 / 16 % 16) * 16 + n / 16 % 16) * 16 + n % 16 = n := by
    omega
  rw [hexCode?, hexValue?_digitChar (by omega), hexValue?_digitChar (by omega),
    hexValue?_digitChar (by omega), hexValue?_digitChar (by omega)]
  exact congrArg some value

/-! ## Strings -/

theorem escapeChar_cases (c : Char) :
    (∃ letter, escapeChar c = ['\\', letter] ∧ letter ≠ 'u' ∧ simpleEscape? letter = some c) ∨
      (escapeChar c = [c] ∧ c ≠ '"' ∧ c ≠ '\\' ∧ 0x20 ≤ c.toNat) ∨
      (escapeChar c = codeUnit c.toNat ∧ c.toNat < 0x10000) ∨
      (escapeChar c = codeUnit (0xD800 + (c.toNat - 0x10000) / 0x400) ++
        codeUnit (0xDC00 + (c.toNat - 0x10000) % 0x400) ∧ 0x10000 ≤ c.toNat) := by
  unfold escapeChar
  by_cases quote : c = '"'
  · exact .inl ⟨'"', by simp [quote], by decide, by simp [quote, simpleEscape?]⟩
  by_cases backslash : c = '\\'
  · exact .inl ⟨'\\', by simp [backslash], by decide, by simp [backslash, simpleEscape?]⟩
  rw [if_neg quote, if_neg backslash]
  split
  next newline => exact .inl ⟨'n', rfl, by decide, by simp [newline, simpleEscape?]⟩
  split
  next back => exact .inl ⟨'r', rfl, by decide, by simp [back, simpleEscape?]⟩
  split
  next tab => exact .inl ⟨'t', rfl, by decide, by simp [tab, simpleEscape?]⟩
  split
  next page => exact .inl ⟨'f', rfl, by decide, by simp [page, simpleEscape?]⟩
  split
  next bell => exact .inl ⟨'b', rfl, by decide, by simp [bell, simpleEscape?]⟩
  split
  next plain => exact .inr (.inl ⟨rfl, quote, backslash, plain.1⟩)
  split
  next small => exact .inr (.inr (.inl ⟨rfl, small⟩))
  next large => exact .inr (.inr (.inr ⟨rfl, Nat.le_of_not_lt large⟩))

theorem readUnits_letter (start : Nat) {letter c : Char} (plain : letter ≠ 'u')
    (escape : simpleEscape? letter = some c) (rest : List Char) :
    readUnits start ('\\' :: letter :: rest) = prepend (.char c) (readUnits start rest) := by
  rw [readUnits, escape]
  intro _ _ _ _ _ unit
  exact absurd unit plain

theorem readUnits_plain (start : Nat) {c : Char} (quote : c ≠ '"') (backslash : c ≠ '\\')
    (printable : 0x20 ≤ c.toNat) (rest : List Char) :
    readUnits start (c :: rest) = prepend (.char c) (readUnits start rest) := by
  rw [readUnits, if_neg (Nat.not_lt_of_ge printable)]
  all_goals simp_all

theorem readUnits_codeUnit (start : Nat) {n : Nat} (small : n < 0x10000) {rest : List Char}
    (more : rest ≠ []) :
    readUnits start (codeUnit n ++ rest) = prepend (.code n) (readUnits start rest) := by
  obtain ⟨a, b, c, d, digits, code⟩ := codeUnit_eq small
  rw [digits]
  simp only [List.cons_append, List.nil_append, readUnits, code, more, if_false]

theorem joinUnits_single {n : Nat} (notHigh : isHigh n = false) (notLow : isLow n = false)
    (rest : List Unit16) : joinUnits (.code n :: rest) = .char (Char.ofNat n) :: joinUnits rest := by
  cases rest with
  | nil => simp [joinUnits, letterOf, notHigh, notLow]
  | cons unit rest => cases unit <;> simp [joinUnits, letterOf, notHigh, notLow]

theorem joinUnits_pair {n : Nat} (bound : n < 0x100000) (rest : List Unit16) :
    joinUnits (.code (0xD800 + n / 0x400) :: .code (0xDC00 + n % 0x400) :: rest) =
      .char (Char.ofNat (0x10000 + n)) :: joinUnits rest := by
  have high : isHigh (0xD800 + n / 0x400) = true := by
    simp [isHigh]
    omega
  have low : isLow (0xDC00 + n % 0x400) = true := by
    simp [isLow]
    omega
  have value : 0x10000 + (0xD800 + n / 0x400 - 0xD800) * 0x400 + (0xDC00 + n % 0x400 - 0xDC00) =
      0x10000 + n := by omega
  rw [joinUnits, high, low, value]
  rfl

/-- The units stand for the character, whatever follows them. -/
def Spells (units : List Unit16) (c : Char) : Prop :=
  ∀ later, joinUnits (units ++ later) = .char c :: joinUnits later

theorem spells_single {c : Char} (small : c.toNat < 0x10000) : Spells [.code c.toNat] c := by
  have valid := Text.Utf8.scalar c
  intro later
  have notHigh : isHigh c.toNat = false := by
    simp [isHigh]
    omega
  have notLow : isLow c.toNat = false := by
    simp [isLow]
    omega
  rw [List.cons_append, List.nil_append, joinUnits_single notHigh notLow, Char.ofNat_toNat]

theorem spells_pair {c : Char} (large : 0x10000 ≤ c.toNat) :
    Spells [.code (0xD800 + (c.toNat - 0x10000) / 0x400),
      .code (0xDC00 + (c.toNat - 0x10000) % 0x400)] c := by
  have valid := Text.Utf8.scalar c
  intro later
  rw [List.cons_append, List.cons_append, List.nil_append, joinUnits_pair (by omega),
    Nat.add_sub_of_le large, Char.ofNat_toNat]

theorem readUnits_escapeChar (start : Nat) (c : Char) :
    ∃ units, Spells units c ∧ ∀ rest later after, readUnits start rest = .ok (later, after) →
      readUnits start (escapeChar c ++ rest) = .ok (units ++ later, after) := by
  obtain ⟨letter, written, plain, escape⟩ | ⟨written, quote, backslash, printable⟩ |
    ⟨written, small⟩ | ⟨written, large⟩ := escapeChar_cases c
  · refine ⟨[.char c], fun later => rfl, ?_⟩
    intro rest later after read
    rw [written, List.cons_append, List.cons_append, List.nil_append,
      readUnits_letter start plain escape, read]
    rfl
  · refine ⟨[.char c], fun later => rfl, ?_⟩
    intro rest later after read
    rw [written, List.cons_append, List.nil_append,
      readUnits_plain start quote backslash printable, read]
    rfl
  · refine ⟨_, spells_single small, ?_⟩
    intro rest later after read
    have more : rest ≠ [] := by
      rintro rfl
      contradiction
    rw [written, readUnits_codeUnit start small more, read]
    rfl
  · have valid := Text.Utf8.scalar c
    refine ⟨_, spells_pair large, ?_⟩
    intro rest later after read
    have more : rest ≠ [] := by
      rintro rfl
      contradiction
    have high : 0xD800 + (c.toNat - 0x10000) / 0x400 < 0x10000 := by omega
    have low : 0xDC00 + (c.toNat - 0x10000) % 0x400 < 0x10000 := by omega
    have second : codeUnit (0xDC00 + (c.toNat - 0x10000) % 0x400) ++ rest ≠ [] :=
      List.append_ne_nil_of_right_ne_nil _ more
    rw [written, List.append_assoc, readUnits_codeUnit start high second,
      readUnits_codeUnit start low more, read]
    rfl

theorem readUnits_text (start : Nat) (cs : List Char) :
    ∃ units, joinUnits units = cs.map .char ∧ ∀ after,
      readUnits start (cs.flatMap escapeChar ++ '"' :: after) = .ok (units, after) := by
  induction cs with
  | nil => exact ⟨[], rfl, fun after => rfl⟩
  | cons c cs ih =>
    obtain ⟨units, spells, reads⟩ := readUnits_escapeChar start c
    obtain ⟨later, joined, rest⟩ := ih
    refine ⟨units ++ later, (spells later).trans (by rw [joined, List.map_cons]), ?_⟩
    intro after
    rw [List.flatMap_cons, List.append_assoc]
    exact reads _ _ _ (rest after)

def letters (s : String) : List Letter := s.toList.map .char

theorem text?_letters (s : String) : text? (letters s) = some s := by
  have read (cs : List Char) : (cs.map Letter.char).mapM Letter.char? = some cs := by
    induction cs with
    | nil => rfl
    | cons c cs ih => simp [Letter.char?, ih]
  rw [text?, letters, read]
  exact congrArg some String.ofList_toList

theorem letters_injective : Function.Injective letters := by
  intro s t same
  have read := congrArg text? same
  rw [text?_letters, text?_letters] at read
  exact Option.some.inj read

theorem readString_stringChars (s : String) (after : List Char) :
    readString (s.toList.flatMap escapeChar ++ '"' :: after) = .ok (letters s, after) := by
  obtain ⟨units, joined, reads⟩ := readUnits_text
    ((s.toList.flatMap escapeChar ++ '"' :: after).length + 1) s.toList
  rw [readString, reads after]
  simp only [joined, letters]

/-! ## Objects -/

def asField (field : String × String) : List Letter × Value :=
  (letters field.1, .string (letters field.2))

theorem skipBlanks_fieldChars (field : String × String) (tail : List Char) :
    skipBlanks (fieldChars field ++ tail) =
      '"' :: (field.1.toList.flatMap escapeChar ++ '"' :: ':' :: ' ' :: '"' ::
        (field.2.toList.flatMap escapeChar ++ '"' :: tail)) := by
  simp [fieldChars, stringChars, skipBlanks, isJsonBlank]

theorem readFields_fieldChars (fuel : Nat) (field : String × String) (tail : List Char) :
    readFields (fuel + 2) (skipBlanks (fieldChars field ++ tail)) =
      match skipBlanks tail with
      | '}' :: rest => .ok ([asField field], rest)
      | ',' :: rest =>
        match readFields (fuel + 1) (skipBlanks rest) with
        | .ok (fields, rest) => .ok (asField field :: fields, rest)
        | .error flaw => .error flaw
      | rest => .error (.problem .comma rest.length) := by
  rw [skipBlanks_fieldChars, readFields, readString_stringChars]
  have colon (rest : List Char) : skipBlanks (':' :: rest) = ':' :: rest := rfl
  have quote (rest : List Char) : skipBlanks (' ' :: '"' :: rest) = '"' :: rest := rfl
  simp only [colon, quote, readValue, if_true, readString_stringChars]
  rfl

theorem readFields_fieldsChars (field : String × String) (rest : List (String × String))
    (after : List Char) {fuel : Nat} (enough : rest.length ≤ fuel) :
    readFields (fuel + 2) (skipBlanks (fieldsChars (field :: rest) ++ '\n' :: '}' :: after)) =
      .ok ((field :: rest).map asField, after) := by
  induction rest generalizing field fuel with
  | nil =>
    rw [fieldsChars, readFields_fieldChars]
    rfl
  | cons next rest ih =>
    obtain ⟨fuel, rfl⟩ := Nat.exists_eq_succ_of_ne_zero (Nat.ne_zero_of_lt enough)
    have comma (text : List Char) : skipBlanks (',' :: text) = ',' :: text := rfl
    rw [fieldsChars, List.append_assoc, readFields_fieldChars, List.cons_append, comma]
    simp only
    rw [ih next (Nat.le_of_succ_le_succ enough)]
    rfl

theorem length_lt_fieldsChars (field : String × String) (rest : List (String × String)) :
    rest.length < (fieldsChars (field :: rest)).length := by
  induction rest generalizing field with
  | nil => simp [fieldsChars, fieldChars]
  | cons next rest ih =>
    have later := ih next
    simp only [fieldsChars, List.length_append, List.length_cons] at later ⊢
    omega

theorem readValue_object (field : String × String) (rest : List (String × String))
    (after : List Char) {fuel : Nat} (enough : rest.length ≤ fuel) :
    readValue (fuel + 3) ('{' :: (fieldsChars (field :: rest) ++ '\n' :: '}' :: after)) =
      .ok (.object (Table.insertAll ((field :: rest).map asField)), after) := by
  have read := readFields_fieldsChars field rest after enough
  have opening : ∃ text, skipBlanks (fieldsChars (field :: rest) ++ '\n' :: '}' :: after) =
      '"' :: text := by
    cases rest with
    | nil => exact ⟨_, skipBlanks_fieldChars field _⟩
    | cons next rest =>
      rw [fieldsChars, List.append_assoc]
      exact ⟨_, skipBlanks_fieldChars field _⟩
  obtain ⟨text, opening⟩ := opening
  rw [opening] at read
  rw [readValue, if_neg (by decide), if_neg (by decide), if_pos rfl, opening]
  change (match readFields (fuel + 2) ('"' :: text) with
    | .ok (fields, rest) => Except.ok (Value.object (Table.insertAll fields), rest)
    | .error flaw => .error flaw) = _
  rw [read]

theorem readChars_objectChars (fields : List (String × String)) :
    readChars (objectChars fields) = .ok (.object (Table.insertAll (fields.map asField))) := by
  cases fields with
  | nil => rfl
  | cons field rest =>
    have shorter := length_lt_fieldsChars field rest
    have fuel : ∃ fuel, 2 * (objectChars (field :: rest)).length + 2 = fuel + 3 ∧
        rest.length ≤ fuel := by
      refine ⟨2 * (objectChars (field :: rest)).length - 1, ?_, ?_⟩
      all_goals
        simp only [objectChars, List.cons_append, List.length_cons, List.length_append]
        omega
    obtain ⟨fuel, same, enough⟩ := fuel
    have start : skipBlanks (objectChars (field :: rest)) =
        '{' :: (fieldsChars (field :: rest) ++ ['\n', '}']) := rfl
    have noMark : (objectChars (field :: rest)).head? ≠ some (Char.ofNat 0xFEFF) := by
      change some '{' ≠ some (Char.ofNat 0xFEFF)
      decide
    rw [readChars, if_neg noMark, same, start, readValue_object field rest [] enough]
    rfl

theorem read_write (t : Table String) :
    read (write t) = .ok (.object (Table.insertAll (t.entries.map asField))) := by
  rw [read, write, String.toList_ofList, readChars_objectChars]

/-! ## Line ends -/

theorem return_not_mem_codeUnit {n : Nat} (small : n < 0x10000) : '\r' ∉ codeUnit n := by
  have digit : ∀ n < 16, '\r' ≠ Nat.digitChar n := by decide
  rw [codeUnit, Text.hexDigits_four small]
  simp only [List.mem_cons, List.not_mem_nil, or_false, not_or]
  exact ⟨by decide, by decide, digit _ (by omega), digit _ (by omega), digit _ (by omega),
    digit _ (by omega)⟩

theorem return_not_mem_escapeChar (c : Char) : '\r' ∉ escapeChar c := by
  obtain ⟨letter, written, -, escape⟩ | ⟨written, -, -, printable⟩ | ⟨written, small⟩ |
    ⟨written, large⟩ := escapeChar_cases c
  · have other : '\r' ≠ letter := by
      rintro rfl
      contradiction
    simpa [written] using other
  · have other : '\r' ≠ c := by
      rintro rfl
      contradiction
    simpa [written] using other
  · rw [written]
    exact return_not_mem_codeUnit small
  · have valid := Text.Utf8.scalar c
    rw [written, List.mem_append, not_or]
    exact ⟨return_not_mem_codeUnit (by omega), return_not_mem_codeUnit (by omega)⟩

theorem return_not_mem_stringChars (s : String) : '\r' ∉ stringChars s := by
  simp [stringChars, return_not_mem_escapeChar]

theorem return_not_mem_fieldsChars (fields : List (String × String)) :
    '\r' ∉ fieldsChars fields := by
  induction fields using fieldsChars.induct with
  | case1 => simp [fieldsChars]
  | case2 field => simp [fieldsChars, fieldChars, return_not_mem_stringChars]
  | case3 field next rest ih => simp [fieldsChars, fieldChars, return_not_mem_stringChars, ih]

theorem return_not_mem_write (t : Table String) : '\r' ∉ (write t).toList := by
  rw [write, String.toList_ofList]
  cases t.entries with
  | nil => simp [objectChars]
  | cons field rest => simp [objectChars, return_not_mem_fieldsChars]

end Json

namespace Text

theorem unifyNewlinesChars_of_not_mem {cs : List Char} (plain : '\r' ∉ cs) :
    unifyNewlinesChars cs = cs := by
  induction cs with
  | nil => rfl
  | cons c cs ih =>
    rw [List.mem_cons, not_or] at plain
    rw [unifyNewlinesChars, if_neg (Ne.symm plain.1), ih plain.2]
    intro _ back
    exact absurd back.symm plain.1

theorem unifyNewlines_of_not_mem {s : String} (plain : '\r' ∉ s.toList) : unifyNewlines s = s := by
  rw [unifyNewlines, unifyNewlinesChars_of_not_mem plain, String.ofList_toList]

end Text

/-! ## Tables -/

namespace Table

variable {α : Type} {name : String} {value : α}

theorem mem_names_insertEntry (entries : List (String × α)) (x : String) :
    x ∈ (insertEntry name value entries).map Prod.fst ↔ x = name ∨ x ∈ entries.map Prod.fst := by
  induction entries with
  | nil => simp [insertEntry]
  | cons entry rest ih =>
    rw [insertEntry]
    split
    next same => simp [← same]
    next other =>
      simp only [List.map_cons, List.mem_cons, ih]
      tauto

theorem nodup_insertEntry {entries : List (String × α)} (distinct : (entries.map Prod.fst).Nodup) :
    ((insertEntry name value entries).map Prod.fst).Nodup := by
  induction entries with
  | nil => simp [insertEntry]
  | cons entry rest ih =>
    rw [List.map_cons, List.nodup_cons] at distinct
    rw [insertEntry]
    split
    next same =>
      rw [List.map_cons, List.nodup_cons, ← same]
      exact distinct
    next other =>
      rw [List.map_cons, List.nodup_cons, mem_names_insertEntry, not_or]
      exact ⟨⟨other, distinct.1⟩, ih distinct.2⟩

theorem insertEntry_of_not_mem {κ : Type} [DecidableEq κ] {name : κ} {entries : List (κ × α)}
    (new : name ∉ entries.map Prod.fst) :
    insertEntry name value entries = entries ++ [(name, value)] := by
  induction entries with
  | nil => rfl
  | cons entry rest ih =>
    rw [List.map_cons, List.mem_cons, not_or] at new
    rw [insertEntry, if_neg (Ne.symm new.1), ih new.2, List.cons_append]

theorem insertAll_of_nodup {κ : Type} [DecidableEq κ] {pairs : List (κ × α)}
    (distinct : (pairs.map Prod.fst).Nodup) : insertAll pairs = pairs := by
  have added (before after : List (κ × α)) (distinct : ((before ++ after).map Prod.fst).Nodup) :
      after.foldl (fun entries pair => insertEntry pair.1 pair.2 entries) before = before ++ after := by
    induction after generalizing before with
    | nil => simp
    | cons pair after ih =>
      have new : pair.1 ∉ before.map Prod.fst := by
        intro old
        rw [List.map_append, List.nodup_append] at distinct
        exact distinct.2.2 _ old _ (by simp) rfl
      rw [List.foldl_cons, insertEntry_of_not_mem new, ih _ (by simpa using distinct)]
      simp
  exact added [] pairs distinct

/-- Names in upper case, each of them once, as those of a store are. -/
structure Canonical (t : Table α) : Prop where
  distinct : t.names.Nodup
  upper : ∀ name ∈ t.names, Text.upper name = name

theorem Canonical.empty : (empty : Table α).Canonical := ⟨List.nodup_nil, by simp [names, Table.empty]⟩

theorem Canonical.insert {t : Table α} (canonical : t.Canonical) (upper : Text.upper name = name) :
    (t.insert name value).Canonical where
  distinct := nodup_insertEntry canonical.distinct
  upper x member := by
    obtain rfl | old := (mem_names_insertEntry t.entries x).mp member
    · exact upper
    · exact canonical.upper x old

theorem Canonical.erase {t : Table α} (canonical : t.Canonical) : (t.erase name).Canonical := by
  have kept : (t.erase name).names.Sublist t.names := List.filter_sublist.map _
  exact ⟨kept.nodup canonical.distinct, fun x member => canonical.upper x (kept.subset member)⟩

theorem canonical_ofPairs {pairs : List (String × α)}
    (upper : ∀ pair ∈ pairs, Text.upper pair.1 = pair.1) : (ofPairs pairs).Canonical := by
  have added (entries : List (String × α)) (canonical : (⟨entries⟩ : Table α).Canonical) :
      (⟨pairs.foldl (fun entries pair => insertEntry pair.1 pair.2 entries) entries⟩ :
        Table α).Canonical := by
    induction pairs generalizing entries with
    | nil => exact canonical
    | cons pair rest ih =>
      exact ih (fun pair member => upper pair (List.mem_cons_of_mem _ member)) _
        (canonical.insert (upper pair List.mem_cons_self))
  exact added [] .empty

end Table

namespace Store

theorem upper_of_named {fields : List (List Json.Letter × Json.Value)}
    {named : List (String × Option String)} (read : fields.mapM named? = some named) :
    ∀ pair ∈ named, Text.upper pair.1 = pair.1 := by
  intro pair member
  obtain ⟨field, -, found⟩ := exists_of_mapM_eq_some read member
  obtain ⟨name, -, rfl⟩ := Option.map_eq_some_iff.mp found
  exact Text.upper_upper name

theorem names_of_held {entries : List (String × Option String)} {files : List (String × String)}
    (read : entries.mapM held? = some files) : files.map Prod.fst = entries.map Prod.fst := by
  rw [mapM_eq_some_iff] at read
  induction read with
  | nil => rfl
  | cons found _ ih =>
    obtain ⟨text, -, rfl⟩ := Option.map_eq_some_iff.mp found
    simp [ih]

theorem canonical_filesOf {fields : List (List Json.Letter × Json.Value)} {files : Table String}
    (held : filesOf fields = some files) : files.Canonical := by
  obtain ⟨named, read, held⟩ := Option.bind_eq_some_iff.mp held
  obtain ⟨entries, kept, rfl⟩ := Option.map_eq_some_iff.mp held
  have canonical := Table.canonical_ofPairs (upper_of_named read)
  have names : (⟨entries⟩ : Table String).names = (Table.ofPairs named).names := names_of_held kept
  exact ⟨names ▸ canonical.distinct, fun name member => canonical.upper name (names ▸ member)⟩

theorem canonical_defaultFiles : defaultFiles.Canonical := by
  constructor <;> decide +kernel

theorem filesOf_asField {files : Table String} (canonical : files.Canonical) :
    filesOf (files.entries.map Json.asField) = some files := by
  let written (entry : String × String) : String × Option String := (entry.1, some entry.2)
  have named : (files.entries.map Json.asField).mapM named? = some (files.entries.map written) := by
    rw [mapM_eq_some_iff, List.forall₂_map_left_iff, List.forall₂_map_right_iff, List.forall₂_same]
    intro entry member
    have upper : Text.upper entry.1 = entry.1 :=
      canonical.upper entry.1 (List.mem_map_of_mem member)
    simp [named?, Json.asField, Json.Value.text?, Json.text?_letters, upper, written]
  have distinct : ((files.entries.map written).map Prod.fst).Nodup := by
    rw [List.map_map]
    exact canonical.distinct
  have held : (files.entries.map written).mapM held? = some files.entries := by
    rw [mapM_eq_some_iff, List.forall₂_map_left_iff, List.forall₂_same]
    intro entry _
    rfl
  rw [filesOf, named, Option.bind_some, Table.insertAll_of_nodup distinct, held, Option.map_some]

theorem load_of_read {disk : Disk} {path : String} {files : Table String}
    (canonical : files.Canonical)
    (read : disk.read path = .ok (Text.Utf8.encode (Json.write files))) :
    load disk path = .ok (some files) := by
  have distinct : ((files.entries.map Json.asField).map Prod.fst).Nodup := by
    have names : (files.entries.map Json.asField).map Prod.fst = files.names.map Json.letters := by
      simp [Table.names, Json.asField]
    rw [names]
    exact List.Nodup.map Json.letters_injective canonical.distinct
  rw [load, read]
  simp only [Text.Utf8.decode_encode, Text.unifyNewlines_of_not_mem (Json.return_not_mem_write files),
    Json.read_write, Table.insertAll_of_nodup distinct, filesOf_asField canonical]

end Store

end ScriptShell
