import Mathlib.Data.String.Basic
import Mathlib.Order.Compare
import ScriptShell.Value

namespace ScriptShell

def Operator.outcome : Operator → Ordering
  | .equal => .eq
  | .greater => .gt
  | .less => .lt

theorem Operator.existsUnique_outcome (order : Ordering) : ∃! op : Operator, order = op.outcome := by
  cases order with
  | lt => exact ⟨.less, rfl, fun op same => by cases op <;> simp_all [outcome]⟩
  | eq => exact ⟨.equal, rfl, fun op same => by cases op <;> simp_all [outcome]⟩
  | gt => exact ⟨.greater, rfl, fun op same => by cases op <;> simp_all [outcome]⟩

namespace Value

/-- How two values stand to each other: as numbers if both are numbers, else as texts. -/
def order : Value → Value → Ordering
  | .number x _, .number y _ => cmp x.rank y.rank
  | left, right => cmp left.source right.source

theorem compare_iff_order (left : Value) (op : Operator) (right : Value) :
    left.compare op right = true ↔ order left right = op.outcome := by
  cases op with
  | equal => cases left <;> cases right <;> exact decide_eq_true_iff.trans (cmp_eq_eq_iff _ _).symm
  | greater => cases left <;> cases right <;> exact decide_eq_true_iff.trans (cmp_eq_gt_iff _ _).symm
  | less => cases left <;> cases right <;> exact decide_eq_true_iff.trans (cmp_eq_lt_iff _ _).symm

theorem order_swap (left right : Value) : (order left right).swap = order right left := by
  cases left <;> cases right <;> exact cmp_swap _ _

theorem compare_greater_iff (left right : Value) :
    left.compare .greater right = true ↔ right.compare .less left = true := by
  rw [compare_iff_order, compare_iff_order, ← order_swap]
  cases order left right <;> simp [Operator.outcome]

theorem ofText_cases (s : String) : (∃ x, ofText s = .number x s) ∨ ofText s = .text s := by
  unfold ofText
  split
  · split
    · exact .inl ⟨_, rfl⟩
    · exact .inr rfl
  · exact .inr rfl

def key : Value → Int ⊕ String
  | .number x _ => .inl x.rank
  | .text s => .inr s

theorem compare_equal_iff_key (a b : String) :
    (ofText a).compare .equal (ofText b) = true ↔ (ofText a).key = (ofText b).key := by
  -- A number and a text are compared as texts, but then they are not the same text.
  have apart {a b : String} {x : Number.Binary64} (number : ofText a = .number x a)
      (text : ofText b = .text b) : a ≠ b := by
    rintro rfl
    rw [number] at text
    contradiction
  rcases ofText_cases a with ⟨x, left⟩ | left <;> rcases ofText_cases b with ⟨y, right⟩ | right
  · simp [left, right, compare, key]
  · simp [left, right, compare, key, source, apart left right]
  · simp [left, right, compare, key, source, (apart right left).symm]
  · simp [left, right, compare, key, source]

/-- Of any two texts exactly one of the three comparisons holds, and the one is greater than the other if
that is less than the first. Equality is an equivalence of all texts that holds of no number and text. -/
theorem comparison_lawful :
    (∀ a b, ∃! op, (ofText a).compare op (ofText b) = true) ∧
    (∀ a b, (ofText a).compare .greater (ofText b) = true ↔
      (ofText b).compare .less (ofText a) = true) ∧
    Equivalence (fun a b => (ofText a).compare .equal (ofText b) = true) ∧
    ∀ a b x, ofText a = .number x a → ofText b = .text b →
      (ofText a).compare .equal (ofText b) = false ∧ (ofText b).compare .equal (ofText a) = false := by
  simp only [compare_equal_iff_key, ← Bool.not_eq_true]
  refine ⟨?_, fun a b => compare_greater_iff _ _, eq_equivalence.comap _, ?_⟩
  · intro a b
    simp only [compare_iff_order]
    exact Operator.existsUnique_outcome _
  · intro a b x number text
    simp [number, text, key]

-- Two numbers are in another order than the texts between them.
example : (ofText "10").compare .less (ofText "2a") = true ∧
    (ofText "2a").compare .less (ofText "9") = true ∧
    (ofText "9").compare .less (ofText "10") = true := by decide +kernel

end Value

end ScriptShell
