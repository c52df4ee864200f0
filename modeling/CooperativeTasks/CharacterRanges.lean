set_option autoImplicit false

/-! Sets of characters, given as ranges of their numbers. -/

namespace CooperativeTasks

/-- Ranges of character numbers, with both ends included. -/
abbrev CharacterRanges := List (Nat × Nat)

namespace CharacterRanges

def hold (ranges : CharacterRanges) (letter : Char) : Bool :=
  ranges.any fun (first, last) => decide (first ≤ letter.toNat) && decide (letter.toNat ≤ last)

end CharacterRanges

end CooperativeTasks
