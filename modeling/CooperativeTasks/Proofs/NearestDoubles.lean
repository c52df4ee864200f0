import Mathlib
import CooperativeTasks.Value

set_option autoImplicit false

/-! The doubles nearest to integers.

A double has 53 significant bits. An integer that needs more loses its last ones, by rounding to
the nearest number that does not need them, and of two that are equally near to the even one. What
the doubles of two integers compare to is what these roundings compare to, as integers. -/

namespace CooperativeTasks

open Float.Model Float.Model.UnpackedFloat

/-! ### Rounding natural numbers -/

/-- `number / 2 ^ places`, rounded to the nearest natural number, and halves to the even one. -/
def roundedShift (places number : Nat) : Nat :=
  let quotient := number / 2 ^ places
  let twice := 2 * (number % 2 ^ places)
  if twice < 2 ^ places then quotient
  else if twice = 2 ^ places then quotient + quotient % 2
  else quotient + 1

theorem roundedShift_zero (number : Nat) : roundedShift 0 number = number := by
  simp [roundedShift, Nat.mod_one]

theorem quotient_le_roundedShift (places number : Nat) :
    number / 2 ^ places ≤ roundedShift places number := by
  unfold roundedShift
  dsimp only
  split
  · exact le_rfl
  · split <;> omega

theorem roundedShift_le (places number : Nat) :
    roundedShift places number ≤ number / 2 ^ places + 1 := by
  unfold roundedShift
  dsimp only
  split
  · omega
  · split <;> omega

theorem roundedShift_mul (places more number : Nat) :
    roundedShift (places + more) (number * 2 ^ more) = roundedShift places number := by
  have positive : 0 < 2 ^ more := Nat.two_pow_pos more
  unfold roundedShift
  rw [Nat.pow_add, Nat.mul_div_mul_right _ _ positive, Nat.mul_mod_mul_right, ← Nat.mul_assoc]
  simp only [Nat.mul_lt_mul_right positive, Nat.mul_left_inj positive.ne']

theorem roundedShift_mono (places : Nat) {lower upper : Nat} (ordered : lower ≤ upper) :
    roundedShift places lower ≤ roundedShift places upper := by
  have quotients : lower / 2 ^ places ≤ upper / 2 ^ places := Nat.div_le_div_right ordered
  rcases quotients.lt_or_eq with below | same
  · exact (roundedShift_le places lower).trans
      (Nat.le_trans below (quotient_le_roundedShift places upper))
  · have remainders : lower % 2 ^ places ≤ upper % 2 ^ places := by
      have first := Nat.div_add_mod lower (2 ^ places)
      have second := Nat.div_add_mod upper (2 ^ places)
      rw [same] at first
      omega
    unfold roundedShift
    dsimp only
    rw [same]
    split <;> split <;> (try split) <;> (try split) <;> omega

/-- How many bits of a number do not fit into a double. -/
def excess (number : Nat) : Nat := number.log2 + 1 - 53

def nearestNat (number : Nat) : Nat := roundedShift (excess number) number * 2 ^ excess number

/-- The value of the double that is nearest to an integer. -/
def nearestDouble : Int → Int
  | .ofNat number => nearestNat number
  | .negSucc number => -nearestNat (number + 1)

theorem log2_lt_of_lt {number bits : Nat} (positive : 0 < bits) (short : number < 2 ^ bits) :
    number.log2 < bits := by
  rcases Nat.eq_zero_or_pos number with rfl | present
  · simpa using positive
  · exact (Nat.log2_lt present.ne').mpr short

theorem nearestNat_of_lt {number : Nat} (short : number < 2 ^ 53) : nearestNat number = number := by
  have fits : excess number = 0 := by
    have bits := log2_lt_of_lt (by decide) short
    unfold excess
    omega
  rw [nearestNat, fits, roundedShift_zero, Nat.pow_zero, Nat.mul_one]

theorem roundedShift_bounds {places number : Nat} (bits : number.log2 = 52 + places)
    (present : number ≠ 0) :
    2 ^ 52 ≤ roundedShift places number ∧ roundedShift places number ≤ 2 ^ 53 := by
  have least : 2 ^ 52 ≤ number / 2 ^ places := by
    rw [Nat.le_div_iff_mul_le (Nat.two_pow_pos places), ← Nat.pow_add, ← bits]
    exact Nat.log2_self_le present
  have most : number / 2 ^ places < 2 ^ 53 := by
    rw [Nat.div_lt_iff_lt_mul (Nat.two_pow_pos places), ← Nat.pow_add]
    have below := @Nat.lt_log2_self number
    rwa [bits, show 52 + places + 1 = 53 + places by omega] at below
  exact ⟨least.trans (quotient_le_roundedShift places number),
    (roundedShift_le places number).trans most⟩

theorem nearestNat_mono {lower upper : Nat} (ordered : lower ≤ upper) :
    nearestNat lower ≤ nearestNat upper := by
  rcases Nat.eq_zero_or_pos lower with rfl | positive
  · simp [nearestNat_of_lt]
  · have logs : lower.log2 ≤ upper.log2 := by
      rw [Nat.le_log2 (by omega)]
      exact (Nat.log2_self_le positive.ne').trans ordered
    unfold nearestNat
    by_cases same : excess lower = excess upper
    · rw [same]
      exact Nat.mul_le_mul_right _ (roundedShift_mono _ ordered)
    · -- the larger number has more bits, so its rounding starts where the other's ends
      have fewer : excess lower + 1 ≤ excess upper := by
        unfold excess at same ⊢
        omega
      have bits : upper.log2 = 52 + excess upper := by
        unfold excess at same ⊢
        omega
      have least := (roundedShift_bounds bits (by omega)).1
      have most : roundedShift (excess lower) lower ≤ 2 ^ 53 := by
        by_cases long : lower.log2 = 52 + excess lower
        · exact (roundedShift_bounds long positive.ne').2
        · have short : excess lower = 0 := by
            unfold excess at long ⊢
            omega
          have bits : lower.log2 < 53 := by
            unfold excess at short
            omega
          rw [short, roundedShift_zero]
          exact ((Nat.log2_lt positive.ne').mp bits).le
      calc roundedShift (excess lower) lower * 2 ^ excess lower
          ≤ 2 ^ 53 * 2 ^ excess lower := Nat.mul_le_mul_right _ most
        _ = 2 ^ 52 * 2 ^ (excess lower + 1) := by rw [Nat.pow_succ]; ring
        _ ≤ 2 ^ 52 * 2 ^ excess upper :=
            Nat.mul_le_mul_left _ (Nat.pow_le_pow_right (by decide) fewer)
        _ ≤ roundedShift (excess upper) upper * 2 ^ excess upper := Nat.mul_le_mul_right _ least

theorem nearestDouble_mono {lower upper : Int} (ordered : lower ≤ upper) :
    nearestDouble lower ≤ nearestDouble upper := by
  cases lower with
  | ofNat first =>
      cases upper with
      | ofNat second =>
          exact Int.ofNat_le.mpr (nearestNat_mono (Int.ofNat_le.mp ordered))
      | negSucc second => exact absurd ordered (by simp; omega)
  | negSucc first =>
      cases upper with
      | ofNat second =>
          change -(nearestNat (first + 1) : Int) ≤ nearestNat second
          omega
      | negSucc second =>
          have swapped : nearestNat (second + 1) ≤ nearestNat (first + 1) :=
            nearestNat_mono (by omega)
          change -(nearestNat (first + 1) : Int) ≤ -nearestNat (second + 1)
          omega

theorem nearestDouble_of_natAbs_lt {number : Int} (short : number.natAbs < 2 ^ 53) :
    nearestDouble number = number := by
  cases number with
  | ofNat magnitude => exact congrArg Int.ofNat (nearestNat_of_lt short)
  | negSucc magnitude =>
      have same : nearestNat (magnitude + 1) = magnitude + 1 := nearestNat_of_lt short
      change -(nearestNat (magnitude + 1) : Int) = _
      rw [same]
      rfl

/-! ### Shifting with two residual bits -/

/-- What is left of a mantissa after a shift: the quotient, the bit below it, and whether any bit
below that one is set. -/
theorem shiftRight_succ (places number : Nat) :
    ExtendedMantissa.ofMantissaAndAccuracy number .exact >>> (places + 1) =
      ⟨number / 2 ^ (places + 1), number / 2 ^ places % 2 != 0, number % 2 ^ places != 0⟩ := by
  induction places with
  | zero =>
      change ExtendedMantissa.shiftRightOne ⟨number, false, false⟩ = _
      simp [ExtendedMantissa.shiftRightOne, Nat.mod_one]
  | succ places ih =>
      change ExtendedMantissa.shiftRightOne
        (ExtendedMantissa.ofMantissaAndAccuracy number .exact >>> (places + 1)) = _
      rw [ih, ExtendedMantissa.shiftRightOne]
      congr 1
      · rw [Nat.div_div_eq_div_mul, ← Nat.pow_succ]
      · -- the new lower bits are the old ones and the bit that was kept apart from them
        have parts : number % 2 ^ (places + 1) =
            number % 2 ^ places + 2 ^ places * (number / 2 ^ places % 2) := by
          rw [Nat.pow_succ, Nat.mod_mul]
        rw [parts]
        rcases Nat.mod_two_eq_zero_or_one (number / 2 ^ places) with bit | bit <;>
          by_cases rest : number % 2 ^ places = 0 <;> simp [bit, rest]

theorem roundedMantissa_eq (quotient : Nat) (half rest : Bool) :
    (ExtendedMantissa.mk quotient half rest).roundedMantissa =
      if half then if rest then quotient + 1 else quotient + quotient % 2 else quotient := by
  cases half <;> cases rest <;> rfl

theorem roundedMantissa_shiftRight (places number : Nat) :
    (ExtendedMantissa.ofMantissaAndAccuracy number .exact >>> places).roundedMantissa =
      roundedShift places number := by
  cases places with
  | zero =>
      rw [roundedShift_zero]
      rfl
  | succ places =>
      have below : number % 2 ^ places < 2 ^ places := Nat.mod_lt _ (Nat.two_pow_pos places)
      have parts : number % 2 ^ (places + 1) =
          number % 2 ^ places + 2 ^ places * (number / 2 ^ places % 2) := by
        rw [Nat.pow_succ, Nat.mod_mul]
      have double : 2 ^ (places + 1) = 2 * 2 ^ places := Nat.pow_succ'
      rw [shiftRight_succ, roundedMantissa_eq]
      unfold roundedShift
      dsimp only
      rw [parts]
      rcases Nat.mod_two_eq_zero_or_one (number / 2 ^ places) with bit | bit
      · rw [bit, if_neg (by decide), if_pos (by omega)]
      · rw [bit, if_pos (by decide), if_neg (show ¬ _ < _ by omega)]
        by_cases rest : number % 2 ^ places = 0
        · rw [rest, if_neg (by decide), if_pos (by omega)]
        · rw [if_pos (by simpa using rest), if_neg (by omega)]

/-! ### Floats and the integers that they are -/

/-- A float in the form in which floats are compared, and the integer that is its value. -/
inductive Represents : Float.Model.UnpackedFloat → Int → Prop where
  | zero (sign : Sign) : Represents (.zero sign) 0
  | finite (sign : Sign) {mantissa scale magnitude : Nat} (positive : 0 < mantissa)
      (least : 2 ^ 52 ≤ mantissa) (most : mantissa < 2 ^ 53)
      (value : magnitude * 2 ^ 52 = mantissa * 2 ^ scale) :
      Represents (.finite sign mantissa ((scale : Int) - 52) positive) (sign.apply magnitude)

theorem log2_eq_of_mantissa {mantissa : Nat} (least : 2 ^ 52 ≤ mantissa)
    (most : mantissa < 2 ^ 53) : mantissa.log2 = 52 :=
  (Nat.log2_eq_iff (by omega)).mpr ⟨least, most⟩

theorem shiftToTargetExponent_eq (places : Nat) {number scale : Nat} {exponent : Int}
    (bits : number.log2 = 52 + places) (target : exponent + places = (scale : Int) - 52) :
    shiftToTargetExponent Format.binary64 number exponent .exact =
      (ExtendedMantissa.ofMantissaAndAccuracy number .exact >>> places, (scale : Int) - 52) := by
  have amount : (Format.binary64.targetExponent (totalExponent number exponent) -
      exponent).toNat = places := by
    simp only [Format.targetExponent, totalExponent, Format.mantissaBits, Format.minExponent, bits]
    norm_num
    omega
  unfold shiftToTargetExponent shiftToExponent
  simp only [amount, target]

/-- Rounding a number of at least 53 bits leaves 53 of them, also if it carries. -/
theorem represents_roundWithAccuracy (sign : Sign) (places scale : Nat) {number magnitude : Nat}
    {exponent : Int} (present : number ≠ 0) (bits : number.log2 = 52 + places)
    (target : exponent + places = (scale : Int) - 52)
    (value : magnitude * 2 ^ 52 = roundedShift places number * 2 ^ scale) :
    Represents (roundWithAccuracy Format.binary64 sign number exponent .exact)
      (sign.apply magnitude) := by
  obtain ⟨least, most⟩ := roundedShift_bounds bits present
  unfold roundWithAccuracy
  rw [shiftToTargetExponent_eq places bits target]
  dsimp only
  rw [roundedMantissa_shiftRight]
  rcases most.lt_or_eq with fits | carried
  · -- the second shift is by nothing
    have again : shiftToTargetExponent Format.binary64 (roundedShift places number)
        ((scale : Int) - 52) .exact =
          (⟨roundedShift places number, false, false⟩, (scale : Int) - 52) :=
      shiftToTargetExponent_eq 0 (log2_eq_of_mantissa least fits) (by omega)
    rw [again]
    dsimp only
    rw [dif_neg (by omega)]
    exact .finite sign (by omega) least fits value
  · -- the second shift drops the bit that the carry has left zero
    have again : shiftToTargetExponent Format.binary64 (2 ^ 53) ((scale : Int) - 52) .exact =
        (⟨2 ^ 52, false, false⟩, ((scale + 1 : Nat) : Int) - 52) :=
      shiftToTargetExponent_eq 1 (by decide) (by omega)
    rw [carried] at value ⊢
    rw [again]
    dsimp only
    rw [dif_neg (by decide)]
    refine .finite sign (by decide) le_rfl (by decide) ?_
    rw [value, Nat.pow_succ 2 scale]
    ring

/-! ### Packing -/

theorem unpackSign_packComponents (sign : Sign) (exponent : BitVec 11) (mantissa : BitVec 52) :
    Sign.ofBitVec (unpackSign (packComponents Format.binary64 sign exponent mantissa)) = sign := by
  simp only [unpackSign, packComponents, BitVec.extractLsb]
  rw [BitVec.extractLsb'_append_eq_of_le (by omega), BitVec.extractLsb'_append_eq_of_le (by omega)]
  cases sign <;> rfl

theorem Represents.unpack_pack {float : Float.Model.UnpackedFloat} {value : Int}
    (represents : Represents float value) (moderate : value.natAbs < 2 ^ 64) :
    (Float.Model.pack float).unpack = float := by
  cases represents with
  | zero sign => cases sign <;> rfl
  | @finite sign mantissa scale magnitude positive least most value =>
      have bounded : scale < 64 := by
        have small : magnitude < 2 ^ 64 := by
          cases sign
          · exact (Int.natAbs_neg magnitude).symm.trans_lt moderate
          · exact moderate
        rw [← Nat.pow_lt_pow_iff_right (a := 2) (by decide)]
        nlinarith [Nat.mul_le_mul_right (2 ^ scale) least]
      have biased : ((scale : Int) - 52 + (Format.binary64.exponentBias : Nat) +
          (Format.binary64.mantissaBitsWithoutImplicit : Nat)).toNat = scale + 1023 := by
        change ((scale : Int) - 52 + (1023 : Nat) + (52 : Nat)).toNat = _
        omega
      -- The leading bit is left out when packing, and the exponent is stored above its bias.
      have packed : UnpackedFloat.pack Format.binary64
          (.finite sign mantissa ((scale : Int) - 52) positive) =
            packComponents Format.binary64 sign (BitVec.ofNat 11 (scale + 1023))
              (BitVec.ofNat 52 mantissa) := by
        unfold UnpackedFloat.pack
        dsimp only
        rw [biased, log2_eq_of_mantissa least most, if_neg (by omega), if_pos (by decide)]
      have exponent : (BitVec.ofNat 11 (scale + 1023)).toNat = scale + 1023 := by
        rw [BitVec.toNat_ofNat, Nat.mod_eq_of_lt (by omega)]
      have normal : BitVec.ofNat 11 (scale + 1023) ≠ -1#11 ∧
          BitVec.ofNat 11 (scale + 1023) ≠ 0#11 := by
        constructor <;> intro same <;> rw [same] at exponent
        · change 2047 = _ at exponent
          omega
        · change 0 = _ at exponent
          omega
      -- Unpacking puts the leading bit back, as the exponent is neither all zeros nor all ones.
      have restored : (1#1 ++ BitVec.ofNat 52 mantissa).toNat = mantissa := by
        rw [BitVec.toNat_append, ← Nat.shiftLeft_add_eq_or_of_lt (BitVec.isLt _),
          BitVec.toNat_ofNat, BitVec.toNat_ofNat, Nat.shiftLeft_eq, Nat.mod_eq_sub_mod least,
          Nat.mod_eq_of_lt (show mantissa - 2 ^ 52 < 2 ^ 52 by omega)]
        exact Nat.add_sub_of_le least
      change UnpackedFloat.unpack Format.binary64 (UnpackedFloat.pack Format.binary64 _) = _
      rw [packed]
      unfold UnpackedFloat.unpack
      simp only [unpackMantissa_packComponents, unpackExponent_packComponents,
        unpackSign_packComponents, exponent, restored]
      rw [if_neg normal.1, if_neg normal.2]
      have unbiased : ((scale + 1023 : Nat) : Int) - (((Format.binary64.exponentBias : Nat) : Int) +
          ((Format.binary64.mantissaBitsWithoutImplicit : Nat) : Int)) = (scale : Int) - 52 := by
        have bias : Format.binary64.exponentBias = 1023 := by decide
        rw [bias]
        push_cast
        omega
      simp only [unbiased]

theorem Represents.neg {float : Float.Model.UnpackedFloat} {value : Int}
    (represents : Represents float value) : Represents float.neg (-value) := by
  cases represents with
  | zero sign => exact .zero (-sign)
  | @finite sign mantissa scale magnitude positive least most value =>
      have swapped : -sign.apply (magnitude : Int) = (-sign).apply (magnitude : Int) := by
        cases sign
        · exact Int.neg_neg _
        · rfl
      rw [swapped]
      exact .finite (-sign) positive least most value

/-! ### Integers as floats -/

theorem log2_mul_two_pow {number : Nat} (present : number ≠ 0) (more : Nat) :
    (number * 2 ^ more).log2 = number.log2 + more := by
  induction more with
  | zero => rw [Nat.pow_zero, Nat.mul_one, Nat.add_zero]
  | succ more ih =>
      have positive : number * 2 ^ more ≠ 0 := Nat.mul_ne_zero present (Nat.two_pow_pos more).ne'
      rw [Nat.pow_succ', Nat.mul_left_comm, Nat.log2_two_mul positive, ih, Nat.add_assoc]

/-- The value of a float, if that is an integer. -/
def DoubleOf (float : Float) (value : Int) : Prop := Represents float.toModel.unpack value

theorem Represents.doubleOf {float : Float.Model.UnpackedFloat} {value : Int}
    (represents : Represents float value) (moderate : value.natAbs < 2 ^ 64) :
    DoubleOf (.ofModel (Float.Model.pack float)) value := by
  unfold DoubleOf
  rw [represents.unpack_pack moderate]
  exact represents

theorem DoubleOf.neg {float : Float} {value : Int} (represents : DoubleOf float value)
    (moderate : value.natAbs < 2 ^ 64) : DoubleOf (-float) (-value) :=
  (Represents.neg represents).doubleOf (by rwa [Int.natAbs_neg])

theorem doubleOf_toFloat {number : Nat} (short : number < 2 ^ 53) :
    DoubleOf number.toUInt64.toFloat number := by
  have word : number.toUInt64.toNat = number := by
    change number % 2 ^ 64 = number
    omega
  have exact : Represents (UnpackedFloat.ofNat Format.binary64 number) number := by
    rcases Nat.eq_zero_or_pos number with rfl | positive
    · exact .zero .positive
    · have bits : number.log2 ≤ 52 := Nat.lt_succ_iff.mp (log2_lt_of_lt (by decide) short)
      have comparison : compare (number : Int) 0 = .gt := Int.compare_eq_gt.mpr (by omega)
      have amount : ((0 : Int) - Format.binary64.targetExponent (totalExponent number 0)).toNat =
          52 - number.log2 := by
        simp only [Format.targetExponent, totalExponent, Format.mantissaBits, Format.minExponent]
        norm_num
        omega
      unfold UnpackedFloat.ofNat UnpackedFloat.ofInt UnpackedFloat.normalize
      rw [comparison]
      dsimp only
      unfold UnpackedFloat.round decreaseExponent
      simp only [Int.toNat_natCast, amount, Nat.shiftLeft_eq]
      refine represents_roundWithAccuracy .positive 0 number.log2
        (Nat.mul_ne_zero positive.ne' (Nat.two_pow_pos _).ne') ?_ (by omega) ?_
      · rw [log2_mul_two_pow positive.ne']
        omega
      · rw [roundedShift_zero, Nat.mul_assoc, ← Nat.pow_add, Nat.sub_add_cancel bits]
  change DoubleOf (.ofModel (Float.Model.pack
    (UnpackedFloat.ofNat Format.binary64 number.toUInt64.toNat))) number
  rw [word]
  exact exact.doubleOf (by omega)

theorem Represents.mul_one {float : Float.Model.UnpackedFloat} {value : Int}
    (represents : Represents float value) :
    Represents (UnpackedFloat.mul Format.binary64 float
      (.finite .positive (2 ^ 52) (-52) (by decide))) value := by
  have unsigned (sign : Sign) : sign * .positive = sign := by cases sign <;> rfl
  cases represents with
  | zero sign => exact .zero _
  | @finite sign mantissa scale magnitude positive least most value =>
      unfold UnpackedFloat.mul
      dsimp only
      rw [unsigned]
      refine represents_roundWithAccuracy sign 52 scale
        (Nat.mul_ne_zero positive.ne' (by decide)) ?_ (by omega) ?_
      · rw [log2_mul_two_pow positive.ne', log2_eq_of_mantissa least most]
      · rw [← Nat.zero_add 52, roundedShift_mul, roundedShift_zero, Nat.zero_add]
        exact value

/-- A number that has more bits than a float is rounded once. -/
theorem represents_ofScientific {number : Nat} (long : 2 ^ 53 ≤ number) (word : number < 2 ^ 64) :
    Represents (UnpackedFloat.ofScientific Format.binary64 number 0) (nearestNat number) := by
  have present : number ≠ 0 := by omega
  have least : 53 ≤ number.log2 := (Nat.le_log2 present).mpr long
  have most : number.log2 < 64 := (Nat.log2_lt present).mpr word
  have places : number.log2 + 1 = excess number + 53 := by
    unfold excess
    omega
  unfold UnpackedFloat.ofScientific
  rw [dif_neg present, if_neg (by decide), if_neg (by simp), if_pos le_rfl]
  unfold UnpackedFloat.mul
  dsimp only
  have shifted :
      number <<< Format.binary64.mantissaBits * 10 ^ (0 : Int).toNat = number * 2 ^ 53 := by
    rw [Nat.shiftLeft_eq]
    exact Nat.mul_one _
  rw [shifted]
  refine represents_roundWithAccuracy .positive (number.log2 + 1) number.log2
    (Nat.mul_ne_zero present (by decide)) ?_ ?_ ?_
  · rw [log2_mul_two_pow present]
    omega
  · have bits : (Format.binary64.mantissaBits : Int) = 53 := rfl
    rw [bits]
    push_cast
    omega
  · have scale : number.log2 = excess number + 52 := by omega
    rw [places, roundedShift_mul, nearestNat, Nat.mul_assoc, ← Nat.pow_add, scale]

theorem nearestNat_lt {number : Nat} (word : number ≤ 2 ^ 63) : nearestNat number < 2 ^ 64 :=
  (nearestNat_mono word).trans_lt (by decide)

theorem doubleOf_ofNat {number : Nat} (word : number ≤ 2 ^ 63) :
    DoubleOf (Float.ofNat number) (nearestNat number) := by
  have moderate := nearestNat_lt word
  change DoubleOf (Float.ofScientific number false 0) _
  unfold Float.ofScientific
  by_cases short : number < 2 ^ 53
  · rw [dif_pos ⟨short, Nat.zero_le _⟩, nearestNat_of_lt short]
    have unit : (Float.ofBits 0x3FF0000000000000).toModel.unpack =
        .finite .positive (2 ^ 52) (-52) (by decide) := rfl
    change DoubleOf (.ofModel (Float.Model.pack (UnpackedFloat.mul Format.binary64
      number.toUInt64.toFloat.toModel.unpack (Float.ofBits 0x3FF0000000000000).toModel.unpack))) _
    rw [unit]
    exact (Represents.mul_one (doubleOf_toFloat short)).doubleOf (by omega)
  · rw [dif_neg (fun both => short both.1)]
    exact (represents_ofScientific (by omega) (by omega)).doubleOf moderate

/-- The float of an integer is the nearest one. -/
theorem doubleOf_floatOfInt (number : Int64) :
    DoubleOf (Value.floatOfInt number) (nearestDouble number.toInt) := by
  have least := number.le_toInt
  have most := number.toInt_lt
  unfold Value.floatOfInt
  cases same : number.toInt with
  | ofNat magnitude =>
      rw [same, Int.ofNat_eq_natCast] at most
      exact doubleOf_ofNat (by omega)
  | negSucc magnitude =>
      have word : magnitude + 1 ≤ 2 ^ 63 := by omega
      exact (doubleOf_ofNat word).neg (nearestNat_lt word)

/-! ### Comparing floats -/

theorem compare_magnitudes {firstMantissa secondMantissa firstScale secondScale first second : Nat}
    (firstLeast : 2 ^ 52 ≤ firstMantissa) (firstMost : firstMantissa < 2 ^ 53)
    (secondLeast : 2 ^ 52 ≤ secondMantissa) (secondMost : secondMantissa < 2 ^ 53)
    (firstValue : first * 2 ^ 52 = firstMantissa * 2 ^ firstScale)
    (secondValue : second * 2 ^ 52 = secondMantissa * 2 ^ secondScale) :
    (compare ((firstScale : Int) - 52) ((secondScale : Int) - 52)).then
      (compare firstMantissa secondMantissa) = compare first second := by
  have below {lower upper lowerMantissa upperMantissa lowerScale upperScale : Nat}
      (most : lowerMantissa < 2 ^ 53) (least : 2 ^ 52 ≤ upperMantissa)
      (lowerValue : lower * 2 ^ 52 = lowerMantissa * 2 ^ lowerScale)
      (upperValue : upper * 2 ^ 52 = upperMantissa * 2 ^ upperScale)
      (scales : lowerScale < upperScale) : lower < upper := by
    refine Nat.lt_of_mul_lt_mul_right (a := 2 ^ 52) ?_
    calc lower * 2 ^ 52 = lowerMantissa * 2 ^ lowerScale := lowerValue
      _ < 2 ^ 53 * 2 ^ lowerScale := Nat.mul_lt_mul_of_pos_right most (Nat.two_pow_pos _)
      _ = 2 ^ 52 * 2 ^ (lowerScale + 1) := by rw [Nat.pow_succ]; ring
      _ ≤ 2 ^ 52 * 2 ^ upperScale := Nat.mul_le_mul_left _ (Nat.pow_le_pow_right (by decide) scales)
      _ ≤ upperMantissa * 2 ^ upperScale := Nat.mul_le_mul_right _ least
      _ = upper * 2 ^ 52 := upperValue.symm
  rcases Nat.lt_trichotomy firstScale secondScale with less | same | more
  · have exponents : compare ((firstScale : Int) - 52) ((secondScale : Int) - 52) = .lt :=
      Int.compare_eq_lt.mpr (by omega)
    rw [exponents, Nat.compare_eq_lt.mpr (below firstMost secondLeast firstValue secondValue less)]
    rfl
  · have exponents : compare ((firstScale : Int) - 52) ((secondScale : Int) - 52) = .eq :=
      Int.compare_eq_eq.mpr (by omega)
    rw [exponents]
    change compare firstMantissa secondMantissa = compare first second
    subst same
    have scaled {lower upper lowerMantissa upperMantissa : Nat}
        (lowerValue : lower * 2 ^ 52 = lowerMantissa * 2 ^ firstScale)
        (upperValue : upper * 2 ^ 52 = upperMantissa * 2 ^ firstScale)
        (less : lowerMantissa < upperMantissa) : lower < upper := by
      refine Nat.lt_of_mul_lt_mul_right (a := 2 ^ 52) ?_
      rw [lowerValue, upperValue]
      exact Nat.mul_lt_mul_of_pos_right less (Nat.two_pow_pos _)
    rcases Nat.lt_trichotomy firstMantissa secondMantissa with less | equal | more
    · rw [Nat.compare_eq_lt.mpr less, Nat.compare_eq_lt.mpr (scaled firstValue secondValue less)]
    · have values : first = second := by
        subst equal
        exact Nat.eq_of_mul_eq_mul_right (by decide) (firstValue.trans secondValue.symm)
      rw [Nat.compare_eq_eq.mpr equal, Nat.compare_eq_eq.mpr values]
    · rw [Nat.compare_eq_gt.mpr more, Nat.compare_eq_gt.mpr (scaled secondValue firstValue more)]
  · have exponents : compare ((firstScale : Int) - 52) ((secondScale : Int) - 52) = .gt :=
      Int.compare_eq_gt.mpr (by omega)
    rw [exponents, Nat.compare_eq_gt.mpr (below secondMost firstLeast secondValue firstValue more)]
    rfl

theorem compare_natCast (first second : Nat) :
    compare (first : Int) (second : Int) = compare first second := by
  rcases Nat.lt_trichotomy first second with less | equal | more
  · rw [Nat.compare_eq_lt.mpr less, Int.compare_eq_lt.mpr (by omega)]
  · rw [Nat.compare_eq_eq.mpr equal, Int.compare_eq_eq.mpr (by omega)]
  · rw [Nat.compare_eq_gt.mpr more, Int.compare_eq_gt.mpr (by omega)]

theorem compare_neg (first second : Int) :
    compare (-first) (-second) = (compare first second).swap := by
  rcases Int.lt_trichotomy first second with less | equal | more
  · rw [Int.compare_eq_lt.mpr less, Int.compare_eq_gt.mpr (by omega)]
    rfl
  · rw [Int.compare_eq_eq.mpr equal, Int.compare_eq_eq.mpr (by omega)]
    rfl
  · rw [Int.compare_eq_gt.mpr more, Int.compare_eq_lt.mpr (by omega)]
    rfl

/-- Floats compare as the integers do that are their values. -/
theorem Represents.compare_eq {first second : Float.Model.UnpackedFloat} {left right : Int}
    (one : Represents first left) (other : Represents second right) :
    first.compare second = some (compare left right) := by
  have positive {mantissa scale magnitude : Nat} (least : 2 ^ 52 ≤ mantissa)
      (value : magnitude * 2 ^ 52 = mantissa * 2 ^ scale) : 0 < magnitude := by
    have power := Nat.mul_pos (show 0 < mantissa by omega) (Nat.two_pow_pos scale)
    omega
  cases one with
  | zero leftSign =>
      cases other with
      | zero rightSign => rfl
      | finite rightSign mantissa least most value =>
          have present := positive least value
          cases rightSign <;> dsimp only [Sign.apply]
          · rw [Int.compare_eq_gt.mpr (by omega)]
            rfl
          · rw [Int.compare_eq_lt.mpr (by omega)]
            rfl
  | @finite leftSign leftMantissa leftScale leftMagnitude _ leftLeast leftMost leftValue =>
      have leftPresent := positive leftLeast leftValue
      cases other with
      | zero rightSign =>
          cases leftSign <;> dsimp only [Sign.apply]
          · rw [Int.compare_eq_lt.mpr (by omega)]
            rfl
          · rw [Int.compare_eq_gt.mpr (by omega)]
            rfl
      | @finite rightSign rightMantissa rightScale rightMagnitude _ rightLeast rightMost
          rightValue =>
          have rightPresent := positive rightLeast rightValue
          have magnitudes := compare_magnitudes leftLeast leftMost rightLeast rightMost leftValue
            rightValue
          cases leftSign <;> cases rightSign <;> dsimp only [Sign.apply]
          · rw [compare_neg, compare_natCast, ← magnitudes]
            rfl
          · rw [Int.compare_eq_lt.mpr (by omega)]
            rfl
          · rw [Int.compare_eq_gt.mpr (by omega)]
            rfl
          · rw [compare_natCast, ← magnitudes]
            rfl

section Comparisons

variable {first second : Float} {left right : Int} (one : DoubleOf first left)
  (other : DoubleOf second right)

include one other

theorem DoubleOf.beq_eq : (first == second) = decide (left = right) := by
  change (first.toModel.unpack.compare second.toModel.unpack == some .eq) = _
  rw [Represents.compare_eq one other]
  rcases Int.lt_trichotomy left right with less | equal | more
  · rw [Int.compare_eq_lt.mpr less]
    simp [less.ne]
  · rw [Int.compare_eq_eq.mpr equal]
    simp [equal]
  · rw [Int.compare_eq_gt.mpr more]
    simp [more.ne']

theorem DoubleOf.lt_iff : first < second ↔ left < right := by
  change decide (first.toModel < second.toModel) = true ↔ _
  rw [decide_eq_true_iff]
  change (first.toModel.unpack.compare second.toModel.unpack == some .lt) = true ↔ _
  rw [Represents.compare_eq one other, beq_iff_eq, Option.some.injEq]
  exact Int.compare_eq_lt

theorem DoubleOf.le_iff : first ≤ second ↔ left ≤ right := by
  change decide (first.toModel ≤ second.toModel) = true ↔ _
  rw [decide_eq_true_iff]
  change (first.toModel.unpack.compare second.toModel.unpack).any (·.isLE) = true ↔ _
  rw [Represents.compare_eq one other]
  exact Int.isLE_compare

end Comparisons

end CooperativeTasks
