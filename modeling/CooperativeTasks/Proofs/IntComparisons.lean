import CooperativeTasks.Interpreter.Operators
import CooperativeTasks.Proofs.NearestDoubles

set_option autoImplicit false

/-! What the comparisons of two integers answer.

Both sides become doubles before they are compared, so that the answer is about the doubles
nearest to the integers. It keeps the order, but it does not tell all integers apart; subtraction,
which wraps but never rounds, does. -/

namespace CooperativeTasks

namespace BinaryOperator

/-- What a comparison asks of two integers. The other operators ask nothing. -/
def relation? (left right : Int) : BinaryOperator → Option Bool
  | .eq => some (left = right)
  | .ne => some (left ≠ right)
  | .lt => some (left < right)
  | .le => some (left ≤ right)
  | .gt => some (right < left)
  | .ge => some (right ≤ left)
  | _ => none

theorem apply_ints (operator : BinaryOperator) (left right : Int64) :
    operator.apply (.int left) (.int right) =
      match operator.relation? (nearestDouble left.toInt) (nearestDouble right.toInt) with
      | some truth => .ok (.bool truth)
      | none => operator.onInts left right := by
  have first := doubleOf_floatOfInt left
  have second := doubleOf_floatOfInt right
  let answer (truth : Bool) : Except Fault Value := .ok (.bool truth)
  cases operator with
  | eq => exact congrArg answer (first.beq_eq second)
  | ne =>
      change answer (!(Value.floatOfInt left == Value.floatOfInt right)) = _
      rw [first.beq_eq second, ← decide_not]
      rfl
  | lt => exact congrArg answer (decide_eq_decide.mpr (first.lt_iff second))
  | le => exact congrArg answer (decide_eq_decide.mpr (first.le_iff second))
  | gt => exact congrArg answer (decide_eq_decide.mpr (second.lt_iff first))
  | ge => exact congrArg answer (decide_eq_decide.mpr (second.le_iff first))
  | add => rfl
  | sub => rfl
  | mul => rfl
  | div => rfl
  | mod => rfl
  | and => rfl
  | or => rfl

end BinaryOperator

/-- Two neighbours, of which the first has more bits than a double. -/
theorem not_int_comparison_is_exact :
    ¬ ∀ (operator : BinaryOperator) (left right : Int64) (truth : Bool),
      operator.relation? left.toInt right.toInt = some truth →
        operator.apply (.int left) (.int right) = .ok (.bool truth) := by
  intro exact
  have distinct := exact .eq 9007199254740993 9007199254740992 false (by decide)
  have merged : BinaryOperator.equals (.int 9007199254740993) (.int 9007199254740992) = true := by
    decide
  change Except.ok (Value.bool (BinaryOperator.equals _ _)) = _ at distinct
  rw [merged] at distinct
  cases distinct

/-- Comparisons of integers answer for the doubles that are nearest to them: exactly one of `<`,
`==` and `>` holds, equal integers are equal, and the order is kept. Integers of 53 bits are
compared as they are, whereas a difference is zero for equal integers alone. -/
theorem ints_compare_as_nearest_doubles (left right : Int64) :
    (∀ (operator : BinaryOperator) (truth : Bool),
        operator.relation? (nearestDouble left.toInt) (nearestDouble right.toInt) = some truth →
          operator.apply (.int left) (.int right) = .ok (.bool truth)) ∧
      (∃ operator ∈ [BinaryOperator.lt, .eq, .gt],
        operator.apply (.int left) (.int right) = .ok (.bool true) ∧
        ∀ other ∈ [BinaryOperator.lt, .eq, .gt], other ≠ operator →
          other.apply (.int left) (.int right) = .ok (.bool false)) ∧
      (left.toInt ≤ right.toInt → nearestDouble left.toInt ≤ nearestDouble right.toInt) ∧
      (left.toInt.natAbs < 2 ^ 53 → nearestDouble left.toInt = left.toInt) ∧
      (BinaryOperator.sub.apply (.int left) (.int right) = .ok (.int 0) ↔ left = right) := by
  have compared (operator : BinaryOperator) (truth : Bool)
      (asked : operator.relation? (nearestDouble left.toInt) (nearestDouble right.toInt) =
        some truth) : operator.apply (.int left) (.int right) = .ok (.bool truth) := by
    rw [BinaryOperator.apply_ints, asked]
  refine ⟨compared, ?_, nearestDouble_mono, nearestDouble_of_natAbs_lt, ?_⟩
  · -- From here on only the order of the two doubles matters.
    generalize nearestDouble left.toInt = first at compared
    generalize nearestDouble right.toInt = second at compared
    have holds {operator : BinaryOperator} (asked : operator.relation? first second = some true) :=
      compared operator true asked
    have fails {operator : BinaryOperator} (asked : operator.relation? first second = some false) :=
      compared operator false asked
    simp only [List.mem_cons, List.not_mem_nil, or_false]
    rcases Int.lt_trichotomy first second with less | same | more
    · refine ⟨.lt, .inl rfl, holds (congrArg some (decide_eq_true less)), ?_⟩
      rintro other (rfl | rfl | rfl) different
      · exact absurd rfl different
      · exact fails (congrArg some (decide_eq_false less.ne))
      · exact fails (congrArg some (decide_eq_false (Int.not_lt.mpr less.le)))
    · refine ⟨.eq, .inr (.inl rfl), holds (congrArg some (decide_eq_true same)), ?_⟩
      rintro other (rfl | rfl | rfl) different
      · exact fails (congrArg some (decide_eq_false (Int.not_lt.mpr same.ge)))
      · exact absurd rfl different
      · exact fails (congrArg some (decide_eq_false (Int.not_lt.mpr same.le)))
    · refine ⟨.gt, .inr (.inr rfl), holds (congrArg some (decide_eq_true more)), ?_⟩
      rintro other (rfl | rfl | rfl) different
      · exact fails (congrArg some (decide_eq_false (Int.not_lt.mpr more.le)))
      · exact fails (congrArg some (decide_eq_false more.ne'))
      · exact absurd rfl different
  · change Except.ok (Value.int (left - right)) = .ok (.int 0) ↔ _
    rw [Except.ok.injEq, Value.int.injEq, Int64.sub_eq_iff_eq_add, Int64.zero_add]

/-- The largest integer that is compared as it is, against its opposite. -/
theorem ints_compare_as_nearest_doubles_largest :
    BinaryOperator.lt.apply (.int (-9007199254740991)) (.int 9007199254740991) =
        .ok (.bool true) ∧
      nearestDouble (-9007199254740991) = -9007199254740991 ∧
      nearestDouble (-9007199254740991) ≤ nearestDouble 9007199254740991 := by
  obtain ⟨compared, -, ordered, exact, -⟩ :=
    ints_compare_as_nearest_doubles (-9007199254740991) 9007199254740991
  exact ⟨compared .lt true (by decide), exact (by decide), ordered (by decide)⟩

end CooperativeTasks
