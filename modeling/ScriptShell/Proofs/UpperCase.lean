import Mathlib.Data.List.Chain
import ScriptShell.Text.Case

namespace ScriptShell.Text

namespace Case

namespace Run

def moves (run : Run) (code : Nat) : Bool :=
  run.first.ble code && code.ble run.last && ((code - run.first) % run.step).beq 0

/-- Whether the runs move none of the code points from `first` to `last` in steps of `step`. The runs
ascend, so after the first one that starts beyond `last` there is nothing to look at. -/
def spare (first last step : Nat) : List Run → Bool
  | [] => true
  | run :: rest =>
    bif run.first.ble last then
      bif first.ble run.last then
        ((List.range (last - first + 1)).all fun k => !(k % step).beq 0 || !run.moves (first + k)) &&
          spare first last step rest
      else spare first last step rest
    else true

def target (run : Run) : Nat := ((run.first : Int) + run.shift).toNat

def ofExpansion (entry : Expansion) : Run := ⟨entry.code, entry.code, 1, 0⟩

def settled (first last step : Nat) : Bool :=
  (last.blt 0xD800 || (Nat.blt 0xDFFF first && last.blt 0x110000)) &&
    spare first last step upperRuns && spare first last step (upperExpansions.map ofExpansion)

end Run

set_option maxRecDepth 10000 in
theorem settled_upperRuns :
    (upperRuns.all fun run =>
      decide (0 ≤ (run.first : Int) + run.shift) &&
        Run.settled run.target (run.target + (run.last - run.first)) run.step) = true := by
  decide +kernel

set_option maxRecDepth 10000 in
theorem settled_upperExpansions :
    (upperExpansions.all fun entry => entry.image.all fun code => Run.settled code code 1) = true := by
  decide +kernel

set_option maxRecDepth 10000 in
theorem ascending_upperRuns : (upperRuns.map Run.first).IsChain (· ≤ ·) := by decide +kernel

theorem ascending_upperExpansions :
    ((upperExpansions.map Run.ofExpansion).map Run.first).IsChain (· ≤ ·) := by decide +kernel

theorem Run.exists_of_image? {runs : List Run} {code image : Nat}
    (found : Run.image? runs code = some image) :
    ∃ run ∈ runs, run.moves code = true ∧ image = ((code : Int) + run.shift).toNat := by
  unfold Run.image? at found
  split at found
  · contradiction
  next run first =>
    split at found
    next inside =>
      have reaches : code ≤ run.last := by simpa using List.find?_some first
      refine ⟨run, List.mem_of_find?_eq_some first, ?_, (Option.some.inj found).symm⟩
      simp [moves, inside.1, reaches, inside.2]
    · contradiction

theorem Expansion.exists_of_image? {expansions : List Expansion} {code : Nat} {image : List Nat}
    (found : Expansion.image? expansions code = some image) :
    ∃ entry ∈ expansions, entry.code = code ∧ image = entry.image := by
  unfold Expansion.image? at found
  obtain ⟨entry, first, rfl⟩ := Option.map_eq_some_iff.mp found
  exact ⟨entry, List.mem_of_find?_eq_some first, by simpa using List.find?_some first, rfl⟩

theorem ble_eq_false_iff {m n : Nat} : m.ble n = false ↔ n < m := by
  rw [Bool.eq_false_iff, ne_eq, Nat.ble_eq, Nat.not_le]

theorem Run.not_moves_of_spare {runs : List Run} {first last step : Nat}
    (ascending : (runs.map Run.first).Pairwise (· ≤ ·)) (checked : spare first last step runs = true)
    {run : Run} (member : run ∈ runs) {k : Nat} (within : first + k ≤ last) (even : k % step = 0) :
    run.moves (first + k) = false := by
  induction runs with
  | nil => cases member
  | cons head rest ih =>
    rw [List.map_cons, List.pairwise_cons] at ascending
    obtain ⟨least, ascending⟩ := ascending
    rw [spare] at checked
    cases starts : head.first.ble last with
    | false =>
      -- The run starts beyond `last`, and so do all after it.
      have beyond : last < head.first := ble_eq_false_iff.mp starts
      have later : last < run.first := by
        rcases List.mem_cons.mp member with rfl | member
        · exact beyond
        · exact beyond.trans_le (least _ (List.mem_map_of_mem member))
      have before : run.first.ble (first + k) = false := ble_eq_false_iff.mpr (by omega)
      simp only [moves, before, Bool.false_and]
    | true =>
      rw [starts, cond_true] at checked
      cases reaches : first.ble head.last with
      | false =>
        rw [reaches, cond_false] at checked
        rcases List.mem_cons.mp member with rfl | member
        · have short : run.last < first := ble_eq_false_iff.mp reaches
          have past : (first + k).ble run.last = false := ble_eq_false_iff.mpr (by omega)
          simp only [moves, past, Bool.and_false, Bool.false_and]
        · exact ih ascending checked member
      | true =>
        rw [reaches, cond_true, Bool.and_eq_true, List.all_eq_true] at checked
        rcases List.mem_cons.mp member with rfl | member
        · have here := checked.1 k (List.mem_range.mpr (by omega))
          simpa [even] using here
        · exact ih ascending checked.2 member

theorem Run.toNat_of_settled {first last step k : Nat} (checked : settled first last step = true)
    (within : first + k ≤ last) : (Char.ofNat (first + k)).toNat = first + k := by
  simp only [settled, Bool.and_eq_true, Bool.or_eq_true, Nat.blt_eq] at checked
  have valid : (first + k).isValidChar := by
    unfold Nat.isValidChar
    omega
  rw [Char.ofNat, dif_pos valid]
  rfl

theorem upperChar_of_settled {first last step k : Nat} (checked : Run.settled first last step = true)
    (within : first + k ≤ last) (even : k % step = 0) :
    upperChar (Char.ofNat (first + k)) = [Char.ofNat (first + k)] := by
  have code := Run.toNat_of_settled checked within
  rw [Run.settled, Bool.and_eq_true, Bool.and_eq_true] at checked
  obtain ⟨⟨-, runs⟩, expansions⟩ := checked
  have noRun : Run.image? upperRuns (first + k) = none := by
    cases found : Run.image? upperRuns (first + k) with
    | none => rfl
    | some image =>
      obtain ⟨run, member, moved, -⟩ := Run.exists_of_image? found
      rw [Run.not_moves_of_spare ascending_upperRuns.pairwise runs member within even] at moved
      contradiction
  have noExpansion : Expansion.image? upperExpansions (first + k) = none := by
    cases found : Expansion.image? upperExpansions (first + k) with
    | none => rfl
    | some image =>
      obtain ⟨entry, member, same, -⟩ := Expansion.exists_of_image? found
      have moved := Run.not_moves_of_spare ascending_upperExpansions.pairwise expansions
        (List.mem_map_of_mem member) within even
      simp [Run.moves, Run.ofExpansion, same, ble_eq_false_iff] at moved
  rw [upperChar, mapChar, code, noRun, noExpansion]

end Case

theorem toList_upper (s : String) : (upper s).toList = upperChars s.toList := String.toList_ofList

theorem mem_upperChar_cases {c d : Char} (member : d ∈ upperChar c) :
    (upperChar c = [c] ∧ d = c) ∨
      (∃ run ∈ Case.upperRuns, ∃ k ≤ run.last - run.first, k % run.step = 0 ∧
        d = Char.ofNat (run.target + k)) ∨
      ∃ entry ∈ Case.upperExpansions, ∃ code ∈ entry.image, d = Char.ofNat code := by
  have runs := List.all_eq_true.mp Case.settled_upperRuns
  rw [upperChar, Case.mapChar] at member ⊢
  split at member
  next code found =>
    obtain ⟨run, listed, moved, rfl⟩ := Case.Run.exists_of_image? found
    obtain ⟨atLeast, -⟩ := Bool.and_eq_true _ _ ▸ runs run listed
    rw [List.mem_singleton] at member
    simp only [Case.Run.moves, Bool.and_eq_true, Nat.ble_eq, Nat.beq_eq] at moved
    have code : ((c.toNat : Int) + run.shift).toNat = run.target + (c.toNat - run.first) := by
      have := of_decide_eq_true atLeast
      unfold Case.Run.target
      omega
    rw [code] at member
    exact .inr (.inl ⟨run, listed, c.toNat - run.first, by omega, moved.2, member⟩)
  next noRun =>
    split at member
    next codes found =>
      obtain ⟨entry, listed, -, rfl⟩ := Case.Expansion.exists_of_image? found
      obtain ⟨code, image, rfl⟩ := List.mem_map.mp member
      exact .inr (.inr ⟨entry, listed, code, image, rfl⟩)
    next noExpansion => exact .inl ⟨rfl, List.mem_singleton.mp member⟩

theorem upperChar_of_mem_upperChar {c d : Char} (member : d ∈ upperChar c) : upperChar d = [d] := by
  obtain ⟨same, rfl⟩ | ⟨run, listed, k, within, even, rfl⟩ | ⟨entry, listed, code, image, rfl⟩ :=
    mem_upperChar_cases member
  · exact same
  · obtain ⟨-, settled⟩ :=
      Bool.and_eq_true _ _ ▸ List.all_eq_true.mp Case.settled_upperRuns run listed
    exact Case.upperChar_of_settled settled (by omega) even
  · have settled := List.all_eq_true.mp
      (List.all_eq_true.mp Case.settled_upperExpansions entry listed) code image
    exact Case.upperChar_of_settled (k := 0) settled (by omega) rfl

theorem upper_upper (s : String) : upper (upper s) = upper s := by
  have twice (cs : List Char) : upperChars (upperChars cs) = upperChars cs := by
    induction cs with
    | nil => rfl
    | cons c cs ih =>
      have fixed : (upperChar c).flatMap upperChar = upperChar c := by
        calc (upperChar c).flatMap upperChar
          _ = (upperChar c).flatMap fun d => [d] :=
            List.flatMap_congr fun d member => upperChar_of_mem_upperChar member
          _ = upperChar c := by simp
      simp only [upperChars, List.flatMap_cons, List.flatMap_append, fixed] at ih ⊢
      rw [ih]
  simp only [upper, String.toList_ofList, twice]

end ScriptShell.Text
