import ScriptShell.Proofs.Numeral

namespace ScriptShell.Number

namespace Binary64

def numberOf (magnitude : Nat) : ℚ := unitsOf magnitude / 2 ^ 1074

def value (x : Binary64) : ℚ := if x.negative then -numberOf x.magnitude else numberOf x.magnitude

theorem strictMono_numberOf : StrictMono numberOf := fun _ _ less =>
  div_lt_div_of_pos_right (Nat.cast_lt.mpr (strictMono_unitsOf less)) (by positivity)

theorem numberOf_zero : numberOf 0 = 0 := by
  have none : unitsOf 0 = 0 := rfl
  rw [numberOf, none, Nat.cast_zero, zero_div]

theorem value_lt_value_iff (x y : Binary64) : x.value < y.value ↔ x.rank < y.rank := by
  obtain ⟨negative, m⟩ := x
  obtain ⟨negative', n⟩ := y
  have least (k : Nat) : 0 ≤ numberOf k := numberOf_zero ▸ strictMono_numberOf.monotone k.zero_le
  have some (k : Nat) : 0 < numberOf k ↔ 0 < k := numberOf_zero ▸ strictMono_numberOf.lt_iff_lt
  cases negative <;> cases negative' <;> simp only [value, rank, Bool.false_eq_true, if_true, if_false]
  · rw [strictMono_numberOf.lt_iff_lt, Nat.cast_lt]
  · exact iff_of_false (by linarith [least m, least n]) (by omega)
  · rcases Nat.eq_zero_or_pos m with rfl | pos
    · simpa [numberOf_zero] using some n
    · exact iff_of_true (by linarith [(some m).mpr pos, least n]) (by omega)
  · rw [neg_lt_neg_iff, neg_lt_neg_iff, strictMono_numberOf.lt_iff_lt, Nat.cast_lt]

theorem halfway_eq (n : Nat) : halfway n = (numberOf n + numberOf (n + 1)) / 2 := by
  rw [halfway, middle, numberOf, numberOf, pow_succ, ← add_div, div_div, Nat.cast_add]

theorem upTo_numberOf_iff (m n : Nat) : UpTo m (numberOf n) ↔ n ≤ m := by
  constructor
  · intro upTo
    by_contra above
    have next : numberOf m < numberOf (m + 1) := strictMono_numberOf m.lt_add_one
    have far : numberOf (m + 1) ≤ numberOf n := strictMono_numberOf.monotone (by omega)
    have within := upTo.le
    rw [halfway_eq] at within
    linarith
  · intro le
    have here : UpTo n (numberOf n) := by
      have next : numberOf n < numberOf (n + 1) := strictMono_numberOf n.lt_add_one
      left
      rw [halfway_eq]
      linarith
    exact here.mono le

theorem exists_numberOf {k : Nat} (small : k ≤ 2 ^ 53) : ∃ n < infinity, numberOf n = k := by
  rcases Nat.eq_zero_or_pos k with rfl | some
  · exact ⟨0, by decide, by rw [numberOf_zero, Nat.cast_zero]⟩
  · -- The integer with 53 bits in front of the point, or one more if it is the top of its scale.
    let bits := min k.log2 52
    have low : 2 ^ bits ≤ k :=
      (Nat.pow_le_pow_right two_pos (min_le_left _ _)).trans (Nat.log2_self_le some.ne')
    have high : k ≤ 2 ^ (bits + 1) := by
      rcases le_total k.log2 52 with few | many
      · rw [show bits = k.log2 from min_eq_left few]
        exact Nat.lt_log2_self.le
      · rwa [show bits = 52 from min_eq_right many]
    have few : bits ≤ 52 := min_le_right _ _
    generalize bits = bits at low high few
    have least : 2 ^ 52 ≤ k * 2 ^ (52 - bits) :=
      calc 2 ^ 52 = 2 ^ bits * 2 ^ (52 - bits) := by rw [← pow_add, Nat.add_sub_cancel' few]
        _ ≤ k * 2 ^ (52 - bits) := Nat.mul_le_mul_right _ low
    have most : k * 2 ^ (52 - bits) ≤ 2 ^ 53 :=
      calc k * 2 ^ (52 - bits) ≤ 2 ^ (bits + 1) * 2 ^ (52 - bits) := Nat.mul_le_mul_right _ high
        _ = 2 ^ 53 := by rw [← pow_add, show bits + 1 + (52 - bits) = 53 by omega]
    refine ⟨(1022 + bits) * 2 ^ 52 + k * 2 ^ (52 - bits), ?_, ?_⟩
    · have top : infinity = 2047 * 2 ^ 52 := rfl
      omega
    · have units : k * 2 ^ (52 - bits) * 2 ^ (1022 + bits) = k * 2 ^ 1074 := by
        rw [mul_assoc, ← pow_add, show 52 - bits + (1022 + bits) = 1074 by omega]
      rw [numberOf, unitsOf_scaled most (.inr least), units, Nat.cast_mul, Nat.cast_pow, Nat.cast_ofNat,
        mul_div_cancel_right₀ _ (by positivity)]

end Binary64

open Binary64

namespace Decimal

variable {d d' : Decimal}

theorem roundMagnitude_le_roundMagnitude (le : d.size ≤ d'.size)
    (finite : d'.toBinary64.isFinite = true) : d.roundMagnitude ≤ d'.roundMagnitude := by
  have finite : d'.roundMagnitude < infinity := of_decide_eq_true finite
  rw [roundMagnitude_le_iff d finite]
  exact ((roundMagnitude_le_iff d' finite).mp le_rfl).of_le le

theorem roundMagnitude_eq_zero (none : d.size ≤ 0) : d.roundMagnitude = 0 := by
  have first : 0 < infinity := by decide
  rw [← Nat.le_zero, roundMagnitude_le_iff d first]
  exact upTo_zero (none.trans (by positivity))

theorem rank_le_rank (le : d.value ≤ d'.value) (finite : d.toBinary64.isFinite = true)
    (finite' : d'.toBinary64.isFinite = true) : d.toBinary64.rank ≤ d'.toBinary64.rank := by
  have nonneg := d.size_nonneg
  have nonneg' := d'.size_nonneg
  have ranked (d : Decimal) :
      d.toBinary64.rank = if d.negative then -(d.roundMagnitude : ℤ) else d.roundMagnitude := rfl
  rw [ranked, ranked]
  cases sign : d.negative <;> cases sign' : d'.negative <;>
    simp only [value, sign, sign', Bool.false_eq_true, if_true, if_false] at le ⊢
  · exact Nat.cast_le.mpr (roundMagnitude_le_roundMagnitude le finite')
  · -- Both values are zero.
    have none := roundMagnitude_eq_zero (d := d) (by linarith)
    have none' := roundMagnitude_eq_zero (d := d') (by linarith)
    rw [none, none']
    rfl
  · omega
  · exact neg_le_neg (Nat.cast_le.mpr (roundMagnitude_le_roundMagnitude (neg_le_neg_iff.mp le) finite))

theorem roundMagnitude_eq {n : Nat} (exact : d.size = numberOf n) (finite : n < infinity) :
    d.roundMagnitude = n := by
  have rounds {m : Nat} (finite : m < infinity) : d.roundMagnitude ≤ m ↔ n ≤ m := by
    rw [roundMagnitude_le_iff d finite, exact, upTo_numberOf_iff]
  have most : d.roundMagnitude ≤ n := (rounds finite).mpr le_rfl
  exact most.antisymm ((rounds (most.trans_lt finite)).mp le_rfl)

theorem value_toBinary64_of_integer {i : ℤ} (whole : d.value = i) (small : |i| ≤ 2 ^ 53) :
    d.toBinary64.value = i := by
  have size : d.size = i.natAbs := by
    rw [← abs_value, whole, ← Int.cast_abs, Int.abs_eq_natAbs, Int.cast_natCast]
  rw [Int.abs_eq_natAbs] at small
  obtain ⟨n, finite, number⟩ := exists_numberOf (k := i.natAbs) (by omega)
  rw [← whole, Binary64.value, toBinary64, roundMagnitude_eq (size.trans number.symm) finite, number, ← size]
  rfl

end Decimal

end ScriptShell.Number

namespace ScriptShell.Value

open Number

def Denotes (s : String) (x : ℚ) : Prop := ∃ n : Numeral, n.Spells s ∧ n.value = x

theorem exists_decimal {s : String} {v : Binary64} (number : ofText s = .number v s) :
    ∃ d : Decimal, d.toBinary64 = v ∧ v.isFinite = true ∧ ∀ x, Denotes s x ↔ x = d.value := by
  unfold ofText at number
  split at number
  next d found =>
    split at number
    next finite =>
      cases number
      refine ⟨d, rfl, finite, fun x => ⟨?_, ?_⟩⟩
      · rintro ⟨n, spells, rfl⟩
        have read := (Decimal.ofText?_eq_some_iff s _).mpr ⟨n, spells, rfl⟩
        rw [← n.value_decimal, Option.some.inj (found.symm.trans read)]
      · rintro rfl
        obtain ⟨n, spells, rfl⟩ := (Decimal.ofText?_eq_some_iff s d).mp found
        exact ⟨n, spells, n.value_decimal.symm⟩
    · contradiction
  · contradiction

/-- Two texts that are read as numbers each denote one value. If the one is told to be greater or less
than the other, its value is, and if the values are the same the texts are told to be equal. Of integers up
to `2 ^ 53` in magnitude all three comparisons tell the order of the values. -/
theorem numeric_comparison_sound (a b : String) (v w : Binary64) (number : ofText a = .number v a)
    (number' : ofText b = .number w b) :
    ∃ x y : ℚ, (∀ z, Denotes a z ↔ z = x) ∧ (∀ z, Denotes b z ↔ z = y) ∧
      ((ofText a).compare .greater (ofText b) = true → x > y) ∧
      ((ofText a).compare .less (ofText b) = true → x < y) ∧
      (x = y → (ofText a).compare .equal (ofText b) = true) ∧
      ∀ i j : ℤ, x = i → y = j → |i| ≤ 2 ^ 53 → |j| ≤ 2 ^ 53 →
        ((ofText a).compare .greater (ofText b) = true ↔ i > j) ∧
        ((ofText a).compare .less (ofText b) = true ↔ i < j) ∧
        ((ofText a).compare .equal (ofText b) = true ↔ i = j) := by
  obtain ⟨d, rfl, finite, denotes⟩ := exists_decimal number
  obtain ⟨d', rfl, finite', denotes'⟩ := exists_decimal number'
  simp only [number, number', compare, decide_eq_true_eq, gt_iff_lt]
  refine ⟨d.value, d'.value, denotes, denotes', ?_, ?_, ?_, ?_⟩
  · intro greater
    by_contra le
    exact (Decimal.rank_le_rank (not_lt.mp le) finite finite').not_gt greater
  · intro less
    by_contra le
    exact (Decimal.rank_le_rank (not_lt.mp le) finite' finite).not_gt less
  · intro same
    exact (Decimal.rank_le_rank same.le finite finite').antisymm
      (Decimal.rank_le_rank same.ge finite' finite)
  · intro i j whole whole' small small'
    have left := Decimal.value_toBinary64_of_integer whole small
    have right := Decimal.value_toBinary64_of_integer whole' small'
    have less : d.toBinary64.rank < d'.toBinary64.rank ↔ i < j := by
      rw [← Binary64.value_lt_value_iff, left, right, Int.cast_lt]
    have greater : d'.toBinary64.rank < d.toBinary64.rank ↔ j < i := by
      rw [← Binary64.value_lt_value_iff, left, right, Int.cast_lt]
    exact ⟨greater, less, by omega⟩

theorem numeric_comparison_sound_tiny :
    let a := "٣e-324"
    let b := "+0.2E-323\n"
    ofText a = .number ⟨false, 1⟩ a ∧ ofText b = .number ⟨false, 0⟩ b ∧
    ∃ x y : ℚ, Denotes a x ∧ Denotes b y ∧ y < x := by
  intro a b
  have number : ofText a = .number ⟨false, 1⟩ a := by decide +kernel
  have number' : ofText b = .number ⟨false, 0⟩ b := by decide +kernel
  have greater : (ofText a).compare .greater (ofText b) = true := by
    rw [number, number']
    decide
  obtain ⟨x, y, denotes, denotes', above, -⟩ := numeric_comparison_sound a b _ _ number number'
  exact ⟨number, number', x, y, (denotes x).mpr rfl, (denotes' y).mpr rfl, above greater⟩

example : (ofText "9007199254740992").compare .equal (ofText "9007199254740993") = true := by
  decide +kernel

end ScriptShell.Value
