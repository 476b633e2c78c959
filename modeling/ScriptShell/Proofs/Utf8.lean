import ScriptShell.Text.Utf8

namespace ScriptShell.Text.Utf8

theorem toNat_toUInt8 {n : Nat} (small : n < 256) : n.toUInt8.toNat = n :=
  UInt8.toNat_ofNat_of_lt small

theorem toUInt8_lt_iff {n : Nat} (small : n < 256) (b : UInt8) : n.toUInt8 < b ↔ n < b.toNat := by
  rw [UInt8.lt_iff_toNat_lt, toNat_toUInt8 small]

theorem toUInt8_eq_iff {n : Nat} (small : n < 256) (b : UInt8) : n.toUInt8 = b ↔ n = b.toNat := by
  rw [← UInt8.toNat_inj, toNat_toUInt8 small]

theorem begin_toUInt8 {n : Nat} (byte : n < 256) :
    begin n.toUInt8 =
      if n < 0x80 then .inl (.char (Char.ofNat n))
      else if n < 0xC2 then .inl (.flawed [n.toUInt8] .start)
      else if n < 0xE0 then .inr ⟨[n.toUInt8], n - 0xC0, 1, 0x80, 0xBF⟩
      else if n < 0xF0 then
        .inr ⟨[n.toUInt8], n - 0xE0, 2, if n = 0xE0 then 0xA0 else 0x80,
          if n = 0xED then 0x9F else 0xBF⟩
      else if n < 0xF5 then
        .inr ⟨[n.toUInt8], n - 0xF0, 3, if n = 0xF0 then 0x90 else 0x80,
          if n = 0xF4 then 0x8F else 0xBF⟩
      else .inl (.flawed [n.toUInt8] .start) := by
  simp only [begin, toUInt8_lt_iff byte, toUInt8_eq_iff byte, toNat_toUInt8 byte]
  rfl

section

variable {least most : UInt8} {n : Nat} (least_le : least.toNat ≤ 0x80 + n)
  (le_most : 0x80 + n ≤ most.toNat) (bytes : List UInt8) (value : Nat) (bs : List UInt8)

include least_le le_most

theorem within_range :
    least ≤ (0x80 + n).toUInt8 ∧ (0x80 + n).toUInt8 ≤ most ∧ (0x80 + n).toUInt8.toNat = 0x80 + n := by
  have bound := most.toNat_lt
  rw [UInt8.le_iff_toNat_le, UInt8.le_iff_toNat_le, toNat_toUInt8 (by omega)]
  exact ⟨least_le, le_most, rfl⟩

theorem piecesFrom_last :
    piecesFrom (some ⟨bytes, value, 1, least, most⟩) ((0x80 + n).toUInt8 :: bs) =
      .char (Char.ofNat (value * 0x40 + n)) :: piecesFrom none bs := by
  obtain ⟨above, below, number⟩ := within_range least_le le_most
  rw [piecesFrom, if_pos ⟨above, below⟩, if_pos (Nat.le_refl 1), number, Nat.add_sub_cancel_left]

theorem piecesFrom_next (missing : Nat) :
    ∃ bytes', piecesFrom (some ⟨bytes, value, missing + 2, least, most⟩) ((0x80 + n).toUInt8 :: bs) =
      piecesFrom (some ⟨bytes', value * 0x40 + n, missing + 1, 0x80, 0xBF⟩) bs := by
  obtain ⟨above, below, number⟩ := within_range least_le le_most
  refine ⟨bytes ++ [(0x80 + n).toUInt8], ?_⟩
  rw [piecesFrom, if_pos ⟨above, below⟩, if_neg (by simp)]
  simp only [number, Nat.add_sub_cancel_left]
  rfl

end

theorem range_tail (n : Nat) :
    (0x80 : UInt8).toNat ≤ 0x80 + n % 0x40 ∧ 0x80 + n % 0x40 ≤ (0xBF : UInt8).toNat := by
  simp
  omega

theorem scalar (c : Char) : c.toNat < 0xD800 ∨ (0xDFFF < c.toNat ∧ c.toNat < 0x110000) := c.valid

theorem piecesFrom_encodeChar (c : Char) (bs : List UInt8) :
    piecesFrom none (encodeChar c ++ bs) = .char c :: piecesFrom none bs := by
  have valid := scalar c
  unfold encodeChar
  simp only
  split
  next small =>
    rw [List.cons_append, List.nil_append, piecesFrom, begin_toUInt8 (by omega), if_pos small,
      Char.ofNat_toNat]
  split
  next large small =>
    have whole : (0xC0 + c.toNat / 0x40 - 0xC0) * 0x40 + c.toNat / 1 % 0x40 = c.toNat := by
      omega
    rw [List.cons_append, List.cons_append, List.nil_append, piecesFrom, begin_toUInt8 (by omega),
      if_neg (by omega), if_neg (by omega), if_pos (by omega)]
    simp only
    rw [piecesFrom_last (range_tail _).1 (range_tail _).2, whole, Char.ofNat_toNat]
  split
  next large small =>
    have whole : ((0xE0 + c.toNat / 0x1000 - 0xE0) * 0x40 + c.toNat / 0x40 % 0x40) * 0x40 +
        c.toNat / 1 % 0x40 = c.toNat := by omega
    have least : (if 0xE0 + c.toNat / 0x1000 = 0xE0 then 0xA0 else 0x80 : UInt8).toNat ≤
        0x80 + c.toNat / 0x40 % 0x40 := by
      split
      · simp
        omega
      · simp
    have most : 0x80 + c.toNat / 0x40 % 0x40 ≤
        (if 0xE0 + c.toNat / 0x1000 = 0xED then 0x9F else 0xBF : UInt8).toNat := by
      split
      · simp
        omega
      · simp
        omega
    rw [List.cons_append, List.cons_append, List.cons_append, List.nil_append, piecesFrom,
      begin_toUInt8 (by omega), if_neg (by omega), if_neg (by omega), if_neg (by omega),
      if_pos (by omega)]
    simp only
    obtain ⟨bytes, second⟩ := piecesFrom_next least most _ _ _ 0
    rw [second, piecesFrom_last (range_tail _).1 (range_tail _).2, whole, Char.ofNat_toNat]
  next large =>
    have whole : (((0xF0 + c.toNat / 0x40000 - 0xF0) * 0x40 + c.toNat / 0x1000 % 0x40) * 0x40 +
        c.toNat / 0x40 % 0x40) * 0x40 + c.toNat / 1 % 0x40 = c.toNat := by omega
    have least : (if 0xF0 + c.toNat / 0x40000 = 0xF0 then 0x90 else 0x80 : UInt8).toNat ≤
        0x80 + c.toNat / 0x1000 % 0x40 := by
      split
      · simp
        omega
      · simp
    have most : 0x80 + c.toNat / 0x1000 % 0x40 ≤
        (if 0xF0 + c.toNat / 0x40000 = 0xF4 then 0x8F else 0xBF : UInt8).toNat := by
      split
      · simp
        omega
      · simp
        omega
    rw [List.cons_append, List.cons_append, List.cons_append, List.cons_append, List.nil_append,
      piecesFrom, begin_toUInt8 (by omega), if_neg (by omega), if_neg (by omega), if_neg (by omega),
      if_neg (by omega), if_pos (by omega)]
    simp only
    obtain ⟨bytes, second⟩ := piecesFrom_next least most _ _ _ 1
    obtain ⟨bytes', third⟩ := piecesFrom_next (range_tail _).1 (range_tail _).2 bytes _ _ 0
    rw [second, third, piecesFrom_last (range_tail _).1 (range_tail _).2, whole, Char.ofNat_toNat]

theorem pieces_encode (s : String) : pieces (encode s) = s.toList.map .char := by
  unfold pieces encode
  induction s.toList with
  | nil => rfl
  | cons c cs ih => rw [List.flatMap_cons, piecesFrom_encodeChar, ih, List.map_cons]

theorem decodeFrom_chars (position : Nat) (cs : List Char) :
    decodeFrom position (cs.map .char) = .ok cs := by
  induction cs generalizing position with
  | nil => rfl
  | cons c cs ih => rw [List.map_cons, decodeFrom, ih]

theorem decode_encode (s : String) : decode (encode s) = .ok s := by
  rw [decode, pieces_encode, decodeFrom_chars]
  simp only [String.ofList_toList]

end ScriptShell.Text.Utf8
