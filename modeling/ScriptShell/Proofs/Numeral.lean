import Mathlib.Data.Nat.Digits.Defs
import Mathlib.Tactic.FieldSimp
import ScriptShell.Proofs.Rounding
import ScriptShell.Value

namespace ScriptShell.Number

/-! ## The grammar -/

inductive Sign where
  | none
  | plus
  | minus

namespace Sign

def chars : Sign → List Char
  | none => []
  | plus => ['+']
  | minus => ['-']

def isMinus : Sign → Bool
  | minus => true
  | _ => false

def factor : Sign → Int
  | minus => -1
  | _ => 1

theorem signed_eq (sign : Sign) (x : Int) :
    (if sign.isMinus = true then -x else x) = sign.factor * x := by
  cases sign <;> simp [isMinus, factor]

end Sign

structure DigitRun where
  chars : List Char
  all : ∀ c ∈ chars, Text.isDigit c = true

theorem ofDigits_eq (digits : List Nat) : ofDigits digits = Nat.ofDigits 10 digits.reverse := by
  rw [Nat.ofDigits_eq_foldr, List.foldr_reverse, ofDigits]
  simp only [Nat.cast_id, Nat.add_comm]

namespace DigitRun

def values (digits : DigitRun) : List Nat := digits.chars.map fun c => (Text.digitValue? c).getD 0

def number (digits : DigitRun) : Nat := Nat.ofDigits 10 digits.values.reverse

def empty : DigitRun := ⟨[], nofun⟩

end DigitRun

structure Exponent where
  mark : Char
  sign : Sign
  digits : DigitRun
  marks : mark = 'e' ∨ mark = 'E'
  some : digits.chars ≠ []

namespace Exponent

def chars (e : Exponent) : List Char := e.mark :: (e.sign.chars ++ e.digits.chars)

def value (e : Exponent) : Int := e.sign.factor * e.digits.number

end Exponent

/-- A numeral. The `fraction` is there if there is a point, and has the digits after it. -/
structure Numeral where
  sign : Sign
  whole : DigitRun
  fraction : Option DigitRun
  exponent : Option Exponent
  some : whole.chars ≠ [] ∨ ∃ digits ∈ fraction, digits.chars ≠ []

def fractionChars (fraction : Option DigitRun) : List Char := fraction.elim [] ('.' :: ·.chars)

def exponentChars (exponent : Option Exponent) : List Char := exponent.elim [] Exponent.chars

namespace Numeral

def chars (n : Numeral) : List Char :=
  n.sign.chars ++ (n.whole.chars ++ (fractionChars n.fraction ++ exponentChars n.exponent))

def Spells (n : Numeral) (s : String) : Prop := s.toList = n.chars ∨ s.toList = n.chars ++ ['\n']

def power (n : Numeral) : Int := n.exponent.elim 0 Exponent.value

def decimals (n : Numeral) : DigitRun := n.fraction.getD .empty

def value (n : Numeral) : ℚ :=
  n.sign.factor * (n.whole.number + n.decimals.number / 10 ^ n.decimals.chars.length) * 10 ^ n.power

def decimal (n : Numeral) : Decimal where
  negative := n.sign.isMinus
  coefficient := ofDigits (n.whole.values ++ n.decimals.values)
  exponent := n.power - n.decimals.chars.length

/-! ## Its value -/

theorem coefficient_decimal (n : Numeral) :
    n.decimal.coefficient = n.whole.number * 10 ^ n.decimals.chars.length + n.decimals.number := by
  rw [decimal, ofDigits_eq, List.reverse_append, Nat.ofDigits_append, List.length_reverse,
    DigitRun.values, List.length_map, Nat.add_comm, Nat.mul_comm]
  rfl

theorem size_decimal (n : Numeral) :
    n.decimal.size =
      (n.whole.number + n.decimals.number / 10 ^ n.decimals.chars.length) * 10 ^ n.power := by
  have exponent : n.decimal.exponent = n.power - n.decimals.chars.length := rfl
  rw [Decimal.size, coefficient_decimal, exponent, zpow_sub₀ (by norm_num), zpow_natCast]
  push_cast
  field_simp

theorem value_decimal (n : Numeral) : n.decimal.value = n.value := by
  have negative : n.decimal.negative = n.sign.isMinus := rfl
  rw [Decimal.value, negative, size_decimal, value]
  cases n.sign with
  | none => simp [Sign.isMinus, Sign.factor]
  | plus => simp [Sign.isMinus, Sign.factor]
  | minus =>
    simp only [Sign.isMinus, Sign.factor, if_true]
    push_cast
    ring

end Numeral

/-! ## Reading what is written -/

theorem takeDigits_run (run : DigitRun) {rest : List Char}
    (stops : ∀ c ∈ rest.head?, Text.isDigit c = false) :
    takeDigits (run.chars ++ rest) = (run.values, rest) := by
  obtain ⟨chars, all⟩ := run
  unfold DigitRun.values
  induction chars with
  | nil =>
    cases rest with
    | nil => rfl
    | cons c rest =>
      have none : Text.digitValue? c = none := by simpa [Text.isDigit] using stops c rfl
      simp [takeDigits, none]
  | cons c chars ih =>
    obtain ⟨digit, others⟩ := List.forall_mem_cons.mp all
    obtain ⟨value, found⟩ := Option.isSome_iff_exists.mp digit
    have rest := ih others
    simp only at rest
    simp [takeDigits, found, rest]

theorem takeSign_chars (sign : Sign) (rest : List Char)
    (stops : ∀ c ∈ rest.head?, c ≠ '-' ∧ c ≠ '+') :
    takeSign (sign.chars ++ rest) = (sign.isMinus, rest) := by
  cases sign with
  | plus => rfl
  | minus => rfl
  | none =>
    change takeSign rest = _
    unfold takeSign
    split
    · exact absurd rfl (stops '-' rfl).1
    · exact absurd rfl (stops '+' rfl).2
    · rfl

theorem takeFraction_chars (fraction : Option DigitRun) {rest : List Char}
    (stops : ∀ c ∈ rest.head?, Text.isDigit c = false ∧ c ≠ '.') :
    takeFraction (fractionChars fraction ++ rest) = ((fraction.getD .empty).values, rest) := by
  cases fraction with
  | some run => exact takeDigits_run run fun c first => (stops c first).1
  | none =>
    change takeFraction rest = _
    unfold takeFraction
    split
    · exact absurd rfl (stops '.' rfl).2
    · rfl

theorem number_eq (run : DigitRun) : ofDigits run.values = run.number := ofDigits_eq run.values

theorem DigitRun.head_isDigit (run : DigitRun) (some : run.chars ≠ []) (rest : List Char) :
    ∀ c ∈ (run.chars ++ rest).head?, Text.isDigit c = true := by
  intro c first
  rw [List.head?_append_of_ne_nil _ some] at first
  exact run.all c (List.mem_of_mem_head? first)

theorem ne_of_isDigit {c d : Char} (digit : Text.isDigit c = true) (other : Text.isDigit d = false) :
    c ≠ d := by
  rintro rfl
  rw [digit] at other
  contradiction

theorem takeExponent_chars (exponent : Option Exponent) {rest : List Char}
    (stops : ∀ c ∈ rest.head?, Text.isDigit c = false ∧ c ≠ 'e' ∧ c ≠ 'E') :
    takeExponent (exponentChars exponent ++ rest) = (exponent.elim 0 Exponent.value, rest) := by
  cases exponent with
  | some e =>
    have sign := takeSign_chars e.sign (e.digits.chars ++ rest) fun c first =>
      have digit := e.digits.head_isDigit e.some rest c first
      ⟨ne_of_isDigit digit rfl, ne_of_isDigit digit rfl⟩
    have digits := takeDigits_run e.digits fun c first => (stops c first).1
    have chars : exponentChars (some e) ++ rest =
        e.mark :: (e.sign.chars ++ (e.digits.chars ++ rest)) := by
      simp [exponentChars, Exponent.chars]
    -- The digits are some, so the first case of the match is out.
    have written : e.digits.values ≠ [] := by simpa [DigitRun.values] using e.some
    rw [chars, takeExponent, if_pos e.marks, sign]
    simp only [digits, number_eq, Option.elim_some, Exponent.value, Sign.signed_eq]
  | none =>
    change takeExponent rest = _
    cases rest with
    | nil => rfl
    | cons c rest =>
      obtain ⟨-, lower, upper⟩ := stops c rfl
      rw [takeExponent, if_neg (by simp [lower, upper])]
      rfl

theorem head_exponentChars {exponent : Option Exponent} {rest : List Char} {c : Char}
    (first : c ∈ (exponentChars exponent ++ rest).head?) : c = 'e' ∨ c = 'E' ∨ c ∈ rest.head? := by
  cases exponent with
  | none => exact .inr (.inr first)
  | some e =>
    obtain rfl : e.mark = c := by simpa [exponentChars, Exponent.chars] using first
    exact e.marks.imp_right .inl

theorem head_fractionChars {fraction : Option DigitRun} {rest : List Char} {c : Char}
    (first : c ∈ (fractionChars fraction ++ rest).head?) : c = '.' ∨ c ∈ rest.head? := by
  cases fraction with
  | none => exact .inr first
  | some run => exact .inl (by simpa [fractionChars] using first.symm)

theorem scan?_chars (n : Numeral) (rest : List Char)
    (stops : ∀ c ∈ rest.head?, Text.isDigit c = false ∧ c ≠ '.' ∧ c ≠ 'e' ∧ c ≠ 'E') :
    Decimal.scan? (n.chars ++ rest) = some (n.decimal, rest) := by
  have afterFraction : ∀ c ∈ (exponentChars n.exponent ++ rest).head?,
      Text.isDigit c = false ∧ c ≠ '.' := by
    intro c first
    obtain rfl | rfl | first := head_exponentChars first
    · decide
    · decide
    · exact ⟨(stops c first).1, (stops c first).2.1⟩
  have afterWhole : ∀ c ∈ (fractionChars n.fraction ++ (exponentChars n.exponent ++ rest)).head?,
      Text.isDigit c = false := by
    intro c first
    obtain rfl | first := head_fractionChars first
    · decide
    · exact (afterFraction c first).1
  have afterSign : ∀ c ∈ (n.whole.chars ++
      (fractionChars n.fraction ++ (exponentChars n.exponent ++ rest))).head?, c ≠ '-' ∧ c ≠ '+' := by
    intro c first
    by_cases whole : n.whole.chars = []
    · obtain ⟨run, point, -⟩ := n.some.resolve_left (not_not_intro whole)
      rw [whole, point] at first
      obtain rfl : '.' = c := by simpa [fractionChars] using first
      decide
    · have digit := n.whole.head_isDigit whole _ c first
      exact ⟨ne_of_isDigit digit rfl, ne_of_isDigit digit rfl⟩
  have written : ¬ (n.whole.values = [] ∧ (n.fraction.getD .empty).values = []) := by
    rintro ⟨whole, fraction⟩
    obtain some | ⟨run, point, some⟩ := n.some
    · exact some (by simpa [DigitRun.values] using whole)
    · rw [point] at fraction
      exact some (by simpa [DigitRun.values] using fraction)
  have chars : n.chars ++ rest = n.sign.chars ++ (n.whole.chars ++
      (fractionChars n.fraction ++ (exponentChars n.exponent ++ rest))) := by
    simp [Numeral.chars]
  rw [chars, Decimal.scan?, takeSign_chars n.sign _ afterSign]
  simp only [takeDigits_run n.whole afterWhole, takeFraction_chars n.fraction afterFraction,
    if_neg written, takeExponent_chars n.exponent fun c first => ⟨(stops c first).1, (stops c first).2.2⟩]
  simp [Numeral.decimal, Numeral.power, Numeral.decimals, DigitRun.values]

/-! ## What is read is written -/

theorem exists_sign (cs : List Char) :
    ∃ sign : Sign, cs = sign.chars ++ (takeSign cs).2 ∧ sign.isMinus = (takeSign cs).1 := by
  unfold takeSign
  split
  · exact ⟨.minus, rfl, rfl⟩
  · exact ⟨.plus, rfl, rfl⟩
  · exact ⟨.none, rfl, rfl⟩

theorem exists_run (cs : List Char) :
    ∃ run : DigitRun, cs = run.chars ++ (takeDigits cs).2 ∧ run.values = (takeDigits cs).1 := by
  induction cs with
  | nil => exact ⟨.empty, rfl, rfl⟩
  | cons c cs ih =>
    obtain ⟨run, whole, values⟩ := ih
    rw [takeDigits]
    split
    next value found =>
      refine ⟨⟨c :: run.chars, ?_⟩, ?_, ?_⟩
      · exact List.forall_mem_cons.mpr ⟨by simp [Text.isDigit, found], run.all⟩
      · exact congrArg (c :: ·) whole
      · simp [DigitRun.values, found, ← values]
    · exact ⟨.empty, rfl, rfl⟩

theorem exists_fraction (cs : List Char) :
    ∃ fraction : Option DigitRun, cs = fractionChars fraction ++ (takeFraction cs).2 ∧
      (fraction.getD .empty).values = (takeFraction cs).1 := by
  unfold takeFraction
  split
  next cs =>
    obtain ⟨run, whole, values⟩ := exists_run cs
    exact ⟨some run, congrArg ('.' :: ·) whole, values⟩
  · exact ⟨none, rfl, rfl⟩

theorem exists_exponent (cs : List Char) :
    ∃ exponent : Option Exponent, cs = exponentChars exponent ++ (takeExponent cs).2 ∧
      exponent.elim 0 Exponent.value = (takeExponent cs).1 := by
  cases cs with
  | nil => exact ⟨none, rfl, rfl⟩
  | cons c cs =>
    rw [takeExponent]
    split
    next marks =>
      obtain ⟨sign, whole, minus⟩ := exists_sign cs
      obtain ⟨run, unsigned, values⟩ := exists_run (takeSign cs).2
      split
      · exact ⟨none, rfl, rfl⟩
      next digits rest written found =>
        simp only [found] at unsigned values
        subst values
        have some : run.chars ≠ [] := fun none => written (by simp [DigitRun.values, none])
        refine ⟨Option.some ⟨c, sign, run, marks, some⟩, ?_, ?_⟩
        · rw [whole, unsigned]
          simp [exponentChars, Exponent.chars]
        · rw [← minus, number_eq, Option.elim_some, Exponent.value, Sign.signed_eq]
    · exact ⟨none, rfl, rfl⟩

theorem written_of_scan? {cs rest : List Char} {d : Decimal}
    (scanned : Decimal.scan? cs = some (d, rest)) :
    ∃ n : Numeral, cs = n.chars ++ rest ∧ n.decimal = d := by
  obtain ⟨sign, whole, minus⟩ := exists_sign cs
  obtain ⟨run, unsigned, values⟩ := exists_run (takeSign cs).2
  obtain ⟨fraction, afterWhole, fractionValues⟩ := exists_fraction (takeDigits (takeSign cs).2).2
  obtain ⟨exponent, afterFraction, power⟩ :=
    exists_exponent (takeFraction (takeDigits (takeSign cs).2).2).2
  unfold Decimal.scan? at scanned
  simp only at scanned
  split at scanned
  · contradiction
  next written =>
    cases scanned
    have some : run.chars ≠ [] ∨ ∃ digits ∈ fraction, digits.chars ≠ [] := by
      rw [← values, ← fractionValues] at written
      by_contra none
      rw [not_or, not_not] at none
      refine written ⟨by simp [DigitRun.values, none.1], ?_⟩
      cases fraction with
      | none => rfl
      | some digits =>
        have empty : digits.chars = [] := by simpa using none.2
        simp [DigitRun.values, empty]
    refine ⟨⟨sign, run, fraction, exponent, some⟩, ?_, ?_⟩
    · calc cs
        _ = sign.chars ++ (run.chars ++ (fractionChars fraction ++ (exponentChars exponent ++ _))) := by
          rw [← afterFraction, ← afterWhole, ← unsigned, ← whole]
        _ = _ := by simp [Numeral.chars]
    · have length : (fraction.getD .empty).chars.length = (fraction.getD .empty).values.length := by
        simp [DigitRun.values]
      simp only [Numeral.decimal, Numeral.power, Numeral.decimals, length, minus, values, fractionValues,
        power]

namespace Decimal

theorem ofText?_eq_some_iff (s : String) (d : Decimal) :
    ofText? s = some d ↔ ∃ n : Numeral, n.Spells s ∧ n.decimal = d := by
  constructor
  · intro read
    unfold ofText? at read
    split at read
    next scanned =>
      cases read
      obtain ⟨n, chars, rfl⟩ := written_of_scan? scanned
      exact ⟨n, .inl (by simpa using chars), rfl⟩
    next scanned =>
      cases read
      obtain ⟨n, chars, rfl⟩ := written_of_scan? scanned
      exact ⟨n, .inr chars, rfl⟩
    · contradiction
  · rintro ⟨n, spells, rfl⟩
    have stops : ∀ c ∈ ['\n'].head?, Text.isDigit c = false ∧ c ≠ '.' ∧ c ≠ 'e' ∧ c ≠ 'E' := by
      intro c first
      obtain rfl : '\n' = c := by simpa using first
      decide
    obtain chars | chars := spells
    · have scanned := scan?_chars n [] nofun
      rw [List.append_nil, ← chars] at scanned
      rw [ofText?, scanned]
    · have scanned := scan?_chars n _ stops
      rw [← chars] at scanned
      rw [ofText?, scanned]
      rfl

end Decimal

end ScriptShell.Number

namespace ScriptShell.Value

open Number

/-- Reading a text keeps it as it is. It is a number exactly if it spells a numeral that denotes a number
of magnitude below `2 ^ 1024 - 2 ^ 970`, and a text otherwise; what it denotes does not depend on how the
numeral is made out. -/
theorem number_iff_finite_numeral (s : String) :
    (ofText s).source = s ∧
    ((∃ x, ofText s = .number x s) ↔ ∃ n : Numeral, n.Spells s ∧ |n.value| < 2 ^ 1024 - 2 ^ 970) ∧
    (ofText s = .text s ↔ ¬ ∃ n : Numeral, n.Spells s ∧ |n.value| < 2 ^ 1024 - 2 ^ 970) ∧
    ∀ n n' : Numeral, n.Spells s → n'.Spells s → n.value = n'.value := by
  have read {n : Numeral} (spells : n.Spells s) : Decimal.ofText? s = some n.decimal :=
    (Decimal.ofText?_eq_some_iff s n.decimal).mpr ⟨n, spells, rfl⟩
  have finite (n : Numeral) :
      n.decimal.toBinary64.isFinite = true ↔ |n.value| < 2 ^ 1024 - 2 ^ 970 := by
    rw [Decimal.isFinite_toBinary64_iff, n.value_decimal, Decimal.overflow]
  have same (n n' : Numeral) (spells : n.Spells s) (spells' : n'.Spells s) : n.value = n'.value := by
    have decimal := (read spells).symm.trans (read spells')
    rw [← n.value_decimal, ← n'.value_decimal, Option.some.inj decimal]
  by_cases bounded : ∃ n : Numeral, n.Spells s ∧ |n.value| < 2 ^ 1024 - 2 ^ 970
  · have isBounded := bounded
    obtain ⟨n, spells, bound⟩ := isBounded
    have number : ofText s = .number n.decimal.toBinary64 s := by
      rw [ofText, read spells]
      exact if_pos ((finite n).mpr bound)
    rw [number]
    refine ⟨rfl, iff_of_true ⟨_, rfl⟩ bounded, iff_of_false ?_ (not_not_intro bounded), same⟩
    simp
  · have text : ofText s = .text s := by
      unfold ofText
      split
      next d found =>
        obtain ⟨n, spells, rfl⟩ := (Decimal.ofText?_eq_some_iff s d).mp found
        exact if_neg fun small => bounded ⟨n, spells, (finite n).mp small⟩
      · rfl
    rw [text]
    refine ⟨rfl, iff_of_false ?_ bounded, iff_of_true rfl bounded, same⟩
    simp

end ScriptShell.Value
