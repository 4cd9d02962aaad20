/-!
# Ranges of code points

A character property is given by the closed ranges of code points that have it. The tables of this
library list them in ascending order, apart from one another.
-/

namespace SchemaDecls.Text

/-- The code point lies in one of the closed ranges. -/
def inRanges (ranges : List (Nat × Nat)) (code : Nat) : Bool :=
  ranges.any fun r => r.1 ≤ code && code ≤ r.2

theorem inRanges_eq_true_iff {ranges : List (Nat × Nat)} {code : Nat} :
    inRanges ranges code = true ↔ ∃ r ∈ ranges, r.1 ≤ code ∧ code ≤ r.2 := by
  simp [inRanges]

/-- Below the start of every range there is nothing. -/
theorem inRanges_eq_false_of_forall_lt {ranges : List (Nat × Nat)} {code : Nat}
    (h : ∀ r ∈ ranges, code < r.1) : inRanges ranges code = false := by
  simp only [inRanges, List.any_eq_false, Bool.and_eq_true, decide_eq_true_eq, not_and,
    Nat.not_le]
  intro r hr hle
  exact absurd (h r hr) (by omega)

end SchemaDecls.Text
