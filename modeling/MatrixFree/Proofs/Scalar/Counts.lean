import Mathlib
import MatrixFree.Communicator
import MatrixFree.Word

/-!
# Counts as binary64 numbers

A count that is summed over the processes is sent through binary64, which has 53 significant
bits.  From `2 ^ 53` on the binary64 numbers are the multiples of a power of two, the `grain`, and
a count between two of them is rounded to the nearest, from half way to the one with an even
mantissa.  `nearest` says this with natural numbers, and the proofs below carry it through the
definitions of `Float`: the shift that drops the last bits, the two residual bits that remember
what was dropped, the mantissa that rounding makes one bit longer, packing and unpacking.

## Main results

* `toUInt64_toFloat` — what a word becomes on its way there and back.
* `Communicator.serial_total`, `Communicator.serial_total_eq_self_iff` — the sum of a count over
  one process, and which counts it gives back.
-/

namespace MatrixFree.Binary64

open Float.Model (Format UnpackedFloat totalExponent)
open Float.Model.UnpackedFloat

/-! ## Rounding to a multiple -/

/-- `m / g`, rounded to the nearest integer, and from half way between two to the even one. -/
def roundDiv (m g : Nat) : Nat :=
  if 2 * (m % g) < g then m / g
  else if 2 * (m % g) = g then m / g + m / g % 2
  else m / g + 1

theorem roundDiv_of_dvd {m g : Nat} (pos : 0 < g) (whole : g ∣ m) : roundDiv m g = m / g := by
  rw [roundDiv, Nat.mod_eq_zero_of_dvd whole, if_pos pos]

theorem div_le_roundDiv (m g : Nat) : m / g ≤ roundDiv m g := by
  unfold roundDiv
  split_ifs <;> omega

theorem roundDiv_le (m g : Nat) : roundDiv m g ≤ m / g + 1 := by
  unfold roundDiv
  split_ifs <;> omega

/-- The distance between the binary64 numbers around an integer: they have 53 significant bits. -/
def grain (n : Nat) : Nat := 2 ^ (n.log2 - 52)

/-- The binary64 number that is nearest to an integer. -/
def nearest (n : Nat) : Nat := roundDiv n (grain n) * grain n

theorem grain_pos (n : Nat) : 0 < grain n := Nat.two_pow_pos _

/-- The integers that are binary64 numbers are the multiples of their grain. -/
theorem nearest_eq_self_iff {n : Nat} : nearest n = n ↔ grain n ∣ n := by
  constructor
  · intro same
    exact ⟨roundDiv n (grain n), same.symm.trans (Nat.mul_comm _ _)⟩
  · intro whole
    rw [nearest, roundDiv_of_dvd (grain_pos n) whole, Nat.div_mul_cancel whole]

theorem grain_dvd_of_le {n : Nat} (small : n ≤ 2 ^ 53) : grain n ∣ n := by
  rcases Nat.lt_or_eq_of_le small with below | rfl
  · have bits : n.log2 - 52 = 0 := by
      by_cases zero : n = 0
      · rw [zero]
        rfl
      · have := (Nat.log2_lt zero).mpr below
        omega
    rw [grain, bits]
    exact Nat.one_dvd n
  · rw [grain, Nat.log2_two_pow]
    decide

/-! ## Rounding in binary64 -/

/-- What `m` and the two residual bits are after the last `s` bits have been shifted out. -/
def shifted (m s : Nat) : ExtendedMantissa where
  mantissa := m / 2 ^ s
  roundBit := decide (2 ^ s ≤ 2 * (m % 2 ^ s))
  stickyBit := decide (2 * (m % 2 ^ s) ≠ 0 ∧ 2 * (m % 2 ^ s) ≠ 2 ^ s)

theorem shiftRightOne_shifted (m s : Nat) :
    (shifted m s).shiftRightOne = shifted m (s + 1) := by
  -- The bit that is shifted out next is the last one of `m / 2 ^ s`.
  have split : m % 2 ^ (s + 1) = m % 2 ^ s + 2 ^ s * (m / 2 ^ s % 2) := Nat.mod_pow_succ
  have pos : 0 < 2 ^ s := Nat.two_pow_pos s
  have rest : m % 2 ^ s < 2 ^ s := Nat.mod_lt _ pos
  have power : 2 ^ (s + 1) = 2 * 2 ^ s := Nat.pow_succ'
  unfold shifted ExtendedMantissa.shiftRightOne
  dsimp only
  rw [split, power, Nat.mul_comm 2 (2 ^ s), ← Nat.div_div_eq_div_mul]
  generalize m % 2 ^ s = r at rest
  have bit := Nat.mod_two_eq_zero_or_one (m / 2 ^ s)
  congr 1
  · rcases bit with bit | bit <;> rw [bit] <;> simp <;> omega
  · rw [Bool.eq_iff_iff]
    rcases bit with bit | bit <;> rw [bit] <;> simp <;> omega

theorem shiftRight_exact (m s : Nat) :
    ExtendedMantissa.ofMantissaAndAccuracy m .exact >>> s = shifted m s := by
  induction s with
  | zero => simp [shifted, Nat.mod_one, ExtendedMantissa.ofMantissaAndAccuracy]; rfl
  | succ s ih =>
      change (ExtendedMantissa.ofMantissaAndAccuracy m .exact >>> s).shiftRightOne = _
      rw [ih, shiftRightOne_shifted]

theorem roundedMantissa_shifted (m s : Nat) :
    (shifted m s).roundedMantissa = roundDiv m (2 ^ s) := by
  have pos : 0 < 2 ^ s := Nat.two_pow_pos s
  unfold shifted roundDiv ExtendedMantissa.roundedMantissa
  generalize m % 2 ^ s = r
  rcases Nat.lt_trichotomy (2 * r) (2 ^ s) with below | half | above
  · rw [if_pos below, decide_eq_false (by omega)]
    cases decide (2 * r ≠ 0 ∧ 2 * r ≠ 2 ^ s) <;> rfl
  · rw [if_neg (by omega), if_pos half, decide_eq_true (by omega), decide_eq_false (by omega)]
    rfl
  · rw [if_neg (by omega), if_neg (by omega), decide_eq_true (by omega), decide_eq_true (by omega)]
    rfl

theorem targetExponent_eq {m k : Nat} {e : Int} (bits : m.log2 = 52 + k) (large : -1074 ≤ e) :
    Format.binary64.targetExponent (totalExponent m e) = e + k := by
  simp only [Format.targetExponent, totalExponent, bits, Format.mantissaBits, Format.minExponent]
  omega

theorem shiftToTargetExponent_exact {m k : Nat} {e : Int} (bits : m.log2 = 52 + k)
    (large : -1074 ≤ e) :
    shiftToTargetExponent .binary64 m e .exact = (shifted m k, e + k) := by
  have amount : (e + k - e).toNat = k := by omega
  rw [shiftToTargetExponent, targetExponent_eq bits large, shiftToExponent, amount,
    shiftRight_exact]

/-- A mantissa of 53 bits or more is rounded to 53 bits; one that rounding makes longer is a power
of two. -/
theorem roundWithAccuracy_exact (sign : Sign) {m k : Nat} {e : Int} (bits : m.log2 = 52 + k)
    (large : -1074 ≤ e) :
    ∃ mantissa exponent pos,
      roundWithAccuracy .binary64 sign m e .exact = .finite sign mantissa exponent pos ∧
        2 ^ 52 ≤ mantissa ∧ mantissa < 2 ^ 53 ∧
        (exponent = e + k ∧ mantissa = roundDiv m (2 ^ k) ∨
          exponent = e + k + 1 ∧ 2 * mantissa = roundDiv m (2 ^ k)) := by
  have nonzero : m ≠ 0 := by
    rintro rfl
    rw [Nat.log2_zero] at bits
    omega
  obtain ⟨least, most⟩ := (Nat.log2_eq_iff nonzero).mp bits
  have lower : 2 ^ 52 ≤ m / 2 ^ k := by
    rwa [Nat.le_div_iff_mul_le (Nat.two_pow_pos k), ← Nat.pow_add]
  have upper : m / 2 ^ k < 2 ^ 53 := by
    rw [Nat.add_right_comm] at most
    rwa [Nat.div_lt_iff_lt_mul (Nat.two_pow_pos k), ← Nat.pow_add]
  have floor := div_le_roundDiv m (2 ^ k)
  have ceiling := roundDiv_le m (2 ^ k)
  unfold roundWithAccuracy
  rw [shiftToTargetExponent_exact bits large]
  dsimp only
  rw [roundedMantissa_shifted]
  generalize roundDiv m (2 ^ k) = r at floor ceiling
  rcases Nat.lt_or_ge r (2 ^ 53) with short | long
  · have fits : r.log2 = 52 + 0 := (Nat.log2_eq_iff (by omega)).mpr ⟨by omega, by omega⟩
    rw [shiftToTargetExponent_exact fits (by omega)]
    have kept : (shifted r 0).mantissa = r := Nat.div_one r
    refine ⟨r, e + k, by omega, ?_, by omega, short, Or.inl ⟨rfl, rfl⟩⟩
    simp only [kept]
    rw [dif_neg (by omega)]
    simp
  · obtain rfl : r = 2 ^ 53 := by omega
    rw [shiftToTargetExponent_exact (k := 1) Nat.log2_two_pow (by omega)]
    refine ⟨2 ^ 52, e + k + 1, by omega, ?_, by omega, by omega, Or.inr ⟨rfl, rfl⟩⟩
    rfl

/-! ## Packing -/

theorem unpackSign_packComponents (sign : Sign) (e : BitVec 11) (m : BitVec 52) :
    unpackSign (packComponents .binary64 sign e m) = sign.toBitVec := by
  change (sign.toBitVec ++ e ++ m).extractLsb' 63 1 = sign.toBitVec
  rw [BitVec.extractLsb'_append_eq_of_le (by decide),
    BitVec.extractLsb'_append_eq_of_le (by decide)]
  cases sign <;> rfl

/-- A number with 53 significant bits and an exponent within bounds survives packing. -/
theorem unpack_pack_finite {m : Nat} {e : Int} (pos : 0 < m) (lower : 2 ^ 52 ≤ m)
    (upper : m < 2 ^ 53) (small : -1074 ≤ e) (large : e ≤ 971) :
    unpack .binary64 (pack .binary64 (.finite .positive m e pos)) = .finite .positive m e pos := by
  have bits : m.log2 + 1 = Format.binary64.mantissaBits := by
    rw [(Nat.log2_eq_iff (by omega)).mpr ⟨lower, upper⟩]
    rfl
  -- The biased exponent is neither zero nor all ones.
  obtain ⟨b, hb⟩ : ∃ b : Nat, e + Format.binary64.exponentBias + (52 : Nat) = b :=
    ⟨(e + 1075).toNat, by change e + 1023 + 52 = _; omega⟩
  have biased : e = b - 1075 := by
    change e + 1023 + 52 = _ at hb
    omega
  have exponent : (BitVec.ofNat 11 b).toNat = b := Nat.mod_eq_of_lt (by omega)
  have ones : BitVec.ofNat 11 b ≠ -1#11 := by
    intro same
    have := congrArg BitVec.toNat same
    rw [exponent] at this
    change b = 2047 at this
    omega
  have zero : BitVec.ofNat 11 b ≠ 0#11 := by
    intro same
    have := congrArg BitVec.toNat same
    rw [exponent] at this
    change b = 0 at this
    omega
  have mantissa : (1#1 ++ BitVec.ofNat 52 m).toNat = m := by
    rw [BitVec.toNat_append, BitVec.toNat_ofNat, Nat.shiftLeft_eq, Nat.or_comm]
    change m % 2 ^ 52 ||| 2 ^ 52 = m
    rw [Nat.or_two_pow_eq_add_of_lt (Nat.mod_lt m (Nat.two_pow_pos 52))]
    omega
  have packed : pack .binary64 (.finite .positive m e pos) =
      packComponents .binary64 .positive (BitVec.ofNat 11 b) (BitVec.ofNat 52 m) := by
    simp only [pack, bits, if_true]
    rw [hb, if_neg]
    · rfl
    · change ¬2048 ≤ b + 1
      omega
  rw [packed]
  simp only [unpack, unpackExponent_packComponents, unpackMantissa_packComponents,
    unpackSign_packComponents, if_neg ones, if_neg zero, exponent]
  have unbiased : (b : Int) - (Format.binary64.exponentBias + (52 : Nat)) = e := by
    change (b : Int) - (1023 + 52) = e
    omega
  congr 1

/-! ## There and back -/

/-- A positive number with 53 significant bits and an exponent within bounds, and its value without
the part behind the point. -/
def Represents (u : UnpackedFloat) (value : Nat) : Prop :=
  ∃ mantissa exponent pos, u = .finite .positive mantissa exponent pos ∧
    2 ^ 52 ≤ mantissa ∧ mantissa < 2 ^ 53 ∧ -1074 ≤ exponent ∧ exponent ≤ 971 ∧
    mantissa * 2 ^ exponent.toNat / 2 ^ (-exponent).toNat = value

theorem Represents.unpack_pack {u : UnpackedFloat} {value : Nat} (h : Represents u value) :
    unpack .binary64 (pack .binary64 u) = u := by
  obtain ⟨mantissa, exponent, pos, rfl, lower, upper, small, large, -⟩ := h
  exact unpack_pack_finite pos lower upper small large

theorem Represents.toInt {u : UnpackedFloat} {value : Nat} (h : Represents u value)
    (bottom top : Int) : u.toInt bottom top = value := by
  obtain ⟨mantissa, exponent, pos, rfl, -, -, -, -, rfl⟩ := h
  have amount : (0 - (exponent - exponent.toNat)).toNat = (-exponent).toNat := by omega
  simp only [UnpackedFloat.toInt, roundToInt, decreaseExponent, shiftToExponent, Int.sub_zero,
    amount, shiftRight_exact, Nat.shiftLeft_eq]
  rfl

theorem log2_mul_two_pow {n : Nat} (pos : 0 < n) (k : Nat) :
    (n * 2 ^ k).log2 = n.log2 + k := by
  obtain ⟨least, most⟩ := (Nat.log2_eq_iff (Nat.ne_of_gt pos)).mp rfl
  have scaled : n * 2 ^ k ≠ 0 := Nat.ne_of_gt (Nat.mul_pos pos (Nat.two_pow_pos k))
  refine (Nat.log2_eq_iff scaled).mpr ⟨?_, ?_⟩
  · rw [Nat.pow_add]
    exact Nat.mul_le_mul_right _ least
  · rw [Nat.add_right_comm, Nat.pow_add]
    exact Nat.mul_lt_mul_of_pos_right most (Nat.two_pow_pos k)

theorem round_eq (n : Nat) :
    UnpackedFloat.round .binary64 .positive n 0 =
      roundWithAccuracy .binary64 .positive (n * 2 ^ (52 - n.log2)) (-(52 - n.log2 : Nat))
        .exact := by
  have target : Format.binary64.targetExponent (totalExponent n 0) = n.log2 - 52 := by
    simp only [Format.targetExponent, totalExponent, Format.mantissaBits, Format.minExponent]
    omega
  have amount : (-((n.log2 : Int) - 52)).toNat = 52 - n.log2 := by omega
  simp only [UnpackedFloat.round, decreaseExponent, target, Nat.shiftLeft_eq, Int.zero_sub, amount]

/-- Up to 53 bits there is room for all of them, and for zeros behind them. -/
theorem round_short {n : Nat} (pos : 0 < n) (short : n.log2 ≤ 52) :
    Represents (UnpackedFloat.round .binary64 .positive n 0) n := by
  obtain ⟨room, total⟩ := Nat.exists_eq_add_of_le short
  have zeros : 52 - n.log2 = room := by omega
  have bits : (n * 2 ^ room).log2 = 52 + 0 := by rw [log2_mul_two_pow pos, ← total]
  have whole : roundDiv (n * 2 ^ room) (2 ^ 0) = n * 2 ^ room := by
    rw [roundDiv_of_dvd (Nat.two_pow_pos 0) (Nat.one_dvd _), Nat.pow_zero, Nat.div_one]
  obtain ⟨mantissa, exponent, hm, rounded, lower, upper, ⟨place, same⟩ | ⟨-, double⟩⟩ :=
    roundWithAccuracy_exact .positive bits (e := -(room : Int)) (by omega)
  · have up : exponent.toNat = 0 := by omega
    have down : (-exponent).toNat = room := by omega
    rw [round_eq, zeros, rounded]
    refine ⟨mantissa, exponent, hm, rfl, lower, upper, by omega, by omega, ?_⟩
    rw [up, down, Nat.pow_zero, Nat.mul_one, same, whole,
      Nat.mul_div_cancel _ (Nat.two_pow_pos room)]
  · -- Nothing was rounded, so nothing became longer.
    have := Nat.lt_log2_self (n := n * 2 ^ room)
    rw [bits] at this
    omega

/-- Bits behind the 53rd are rounded away. -/
theorem round_long {n : Nat} (long : 52 ≤ n.log2) (bounded : n.log2 < 64) :
    Represents (UnpackedFloat.round .binary64 .positive n 0) (nearest n) := by
  obtain ⟨k, total⟩ := Nat.exists_eq_add_of_le long
  have zeros : 52 - n.log2 = 0 := by omega
  have step : grain n = 2 ^ k := by rw [grain, total, Nat.add_sub_cancel_left]
  obtain ⟨mantissa, exponent, hm, rounded, lower, upper, value⟩ :=
    roundWithAccuracy_exact .positive total (e := -(0 : Nat)) (by omega)
  have down : (-exponent).toNat = 0 := by omega
  rw [round_eq, zeros, Nat.pow_zero, Nat.mul_one, rounded]
  refine ⟨mantissa, exponent, hm, rfl, lower, upper, by omega, by omega, ?_⟩
  rw [down, Nat.pow_zero, Nat.div_one, nearest, step]
  rcases value with ⟨place, same⟩ | ⟨place, double⟩
  · have up : exponent.toNat = k := by omega
    rw [up, same]
  · have up : exponent.toNat = k + 1 := by omega
    rw [up, ← double, Nat.pow_succ', Nat.mul_left_comm, Nat.mul_assoc]

/-- A positive word becomes the number that is nearest to it. -/
theorem round_word {n : Nat} (pos : 0 < n) (word : n < wordCount) :
    Represents (UnpackedFloat.round .binary64 .positive n 0) (nearest n) := by
  rcases Nat.le_total n.log2 52 with short | long
  · have exact : nearest n = n := nearest_eq_self_iff.mpr (by
      rw [grain, Nat.sub_eq_zero_of_le short]
      exact Nat.one_dvd n)
    rw [exact]
    exact round_short pos short
  · exact round_long long ((Nat.log2_lt (Nat.ne_of_gt pos)).mpr word)

theorem toNat_ofNatClamp (n : Nat) :
    (UInt64.ofNatClamp n).toNat = min n (wordCount - 1) := by
  unfold UInt64.ofNatClamp
  split
  · rename_i fits
    exact (Nat.min_eq_left (Nat.le_sub_one_of_lt fits)).symm
  · rename_i long
    have above : wordCount - 1 ≤ n := Nat.sub_le_of_le_add (Nat.le_succ_of_le (Nat.not_lt.mp long))
    exact (Nat.min_eq_right above).symm

/-- A word that is made a binary64 number and a word again is the nearest number, or the last word
if that is no word. -/
theorem toUInt64_toFloat (w : UInt64) :
    w.toFloat.toUInt64.toNat = min (nearest w.toNat) (wordCount - 1) := by
  change (UInt64.ofNatClamp
    ((unpack .binary64 (pack .binary64 (ofNat .binary64 w.toNat))).toInt 0 _).toNat).toNat = _
  have word : w.toNat < wordCount := w.toNat_lt
  generalize w.toNat = n at word
  rcases Nat.eq_zero_or_pos n with rfl | pos
  · decide +kernel
  · have sign : compare (n : Int) 0 = .gt := Int.compare_eq_gt.mpr (by omega)
    have number : Represents (ofNat .binary64 n) (nearest n) := by
      simp only [UnpackedFloat.ofNat, UnpackedFloat.ofInt, UnpackedFloat.normalize, sign]
      exact round_word pos word
    rw [number.unpack_pack, number.toInt, Int.toNat_natCast]
    exact toNat_ofNatClamp _

end MatrixFree.Binary64

namespace MatrixFree.Communicator

open Binary64

/-- The counts that a sum over one process gives back: those that are binary64 numbers, and the
last word. -/
def Exact (count : Nat) : Prop := grain count ∣ count ∨ count = wordCount - 1

instance (count : Nat) : Decidable (Exact count) := inferInstanceAs (Decidable (_ ∨ _))

/-- A count that is summed over one process comes back as the nearest binary64 number, or as the
last word if that is no word. -/
theorem serial_total {count : Nat} (word : count < wordCount) :
    serial.total count = min (nearest count) (wordCount - 1) := by
  have sent : count.toUInt64.toNat = count := Nat.mod_eq_of_lt word
  exact (toUInt64_toFloat _).trans (by rw [sent])

theorem serial_total_eq_self_iff {count : Nat} (word : count < wordCount) :
    serial.total count = count ↔ Exact count := by
  rw [serial_total word, Exact, ← nearest_eq_self_iff]
  have last : count ≤ wordCount - 1 := Nat.le_sub_one_of_lt word
  constructor
  · intro same
    rcases Nat.le_total (nearest count) (wordCount - 1) with fits | long
    · exact Or.inl ((Nat.min_eq_left fits).symm.trans same)
    · exact Or.inr (same.symm.trans (Nat.min_eq_right long))
  · rintro (same | rfl)
    · rw [same, Nat.min_eq_left last]
    · decide +kernel

theorem exact_of_le {count : Nat} (small : count ≤ 2 ^ 53) : Exact count :=
  Or.inl (grain_dvd_of_le small)

end MatrixFree.Communicator
