import Mathlib
import Synoptic.Proofs.Binary64.Comparison
import Synoptic.Proofs.Bounds.Sampling

namespace Synoptic.Binary64

open Float.Model Float.Model.UnpackedFloat

theorem log2_mul_two_pow {m : Nat} (hm : m ≠ 0) (k : Nat) : (m * 2 ^ k).log2 = m.log2 + k := by
  have hne : m * 2 ^ k ≠ 0 := Nat.mul_ne_zero hm (Nat.ne_of_gt (Nat.two_pow_pos k))
  rw [Nat.log2_eq_iff hne, Nat.pow_add, Nat.add_right_comm, Nat.pow_add]
  exact ⟨Nat.mul_le_mul_right _ (Nat.log2_self_le hm),
    Nat.mul_lt_mul_of_pos_right Nat.lt_log2_self (Nat.two_pow_pos k)⟩

theorem shiftRight_succ (m : ExtendedMantissa) (k : Nat) : m >>> (k + 1) = (m >>> k).shiftRightOne :=
  rfl

theorem mantissa_shiftRight (m : ExtendedMantissa) :
    ∀ k : Nat, (m >>> k).mantissa = m.mantissa / 2 ^ k
  | 0 => (Nat.div_one _).symm
  | k + 1 => by
    rw [shiftRight_succ, ExtendedMantissa.shiftRightOne, mantissa_shiftRight m k,
      Nat.div_div_eq_div_mul, Nat.pow_succ]

theorem shiftRight_mul_two_pow : ∀ (m k : Nat),
    (⟨m * 2 ^ k, false, false⟩ : ExtendedMantissa) >>> k = ⟨m, false, false⟩
  | m, 0 => by rw [Nat.pow_zero, Nat.mul_one]; rfl
  | m, k + 1 => by
    rw [Nat.pow_succ', ← Nat.mul_assoc, shiftRight_succ, shiftRight_mul_two_pow (m * 2) k]
    simp [ExtendedMantissa.shiftRightOne]

section Canonical

variable {s : Sign} {m k : Nat} {e : Int} (hm : m.log2 = 52) (hpos : 0 < m) (he : -1074 ≤ e)

include hm hpos he

theorem shiftToTargetExponent_mul_two_pow :
    shiftToTargetExponent Format.binary64 (m * 2 ^ k) (e - k) .exact = (⟨m, false, false⟩, e) := by
  have hlog : (m * 2 ^ k).log2 = 52 + k := by rw [log2_mul_two_pow (Nat.ne_of_gt hpos), hm]
  have htarget : Format.binary64.targetExponent (totalExponent (m * 2 ^ k) (e - k)) = e := by
    simp only [Format.targetExponent, totalExponent, hlog, Format.mantissaBits, Format.minExponent]
    omega
  have hk : (e - (e - k)).toNat = k := by omega
  simp only [shiftToTargetExponent, htarget, shiftToExponent, hk,
    ExtendedMantissa.ofMantissaAndAccuracy, shiftRight_mul_two_pow]
  congr 1
  omega

theorem roundWithAccuracy_mul_two_pow :
    roundWithAccuracy Format.binary64 s (m * 2 ^ k) (e - k) .exact = .finite s m e hpos := by
  have h := shiftToTargetExponent_mul_two_pow (k := 0) hm hpos he
  rw [Nat.pow_zero, Nat.mul_one, Int.ofNat_zero, Int.sub_zero] at h
  rw [roundWithAccuracy, shiftToTargetExponent_mul_two_pow hm hpos he]
  simp only [ExtendedMantissa.roundedMantissa, ExtendedMantissa.accuracy,
    Accuracy.roundToNearestEven, h]
  rw [dif_neg (Nat.ne_of_gt hpos)]

theorem unpack_pack (he' : e ≤ 971) :
    (Float.Model.pack (.finite s m e hpos)).unpack = .finite s m e hpos := by
  have hb : 2 ^ 52 ≤ m ∧ m < 2 ^ 53 := (Nat.log2_eq_iff (Nat.ne_of_gt hpos)).mp hm
  have hbias : Format.binary64.exponentBias = 1023 := rfl
  have hnormal : UnpackedFloat.pack Format.binary64 (.finite s m e hpos) =
      packComponents Format.binary64 s (BitVec.ofNat 11 (e + 1075).toNat) (BitVec.ofNat 52 m) := by
    simp only [UnpackedFloat.pack, hm, hbias]
    rw [if_neg (by omega), if_pos (by rfl)]
    congr 2
    omega
  have hexponent : (BitVec.ofNat 11 (e + 1075).toNat).toNat = (e + 1075).toNat := by
    rw [BitVec.toNat_ofNat, Nat.mod_eq_of_lt (by omega)]
  have hmantissa : (1#1 ++ BitVec.ofNat 52 m).toNat = m := by
    have hlt : (BitVec.ofNat 52 m).toNat < 2 ^ 52 := (BitVec.ofNat 52 m).isLt
    rw [BitVec.toNat_append, ← Nat.shiftLeft_add_eq_or_of_lt hlt, Nat.shiftLeft_eq,
      BitVec.toNat_ofNat, BitVec.toNat_ofNat]
    omega
  have hmax : BitVec.ofNat 11 (e + 1075).toNat ≠ -1#11 := by
    rw [← BitVec.toNat_inj.ne, hexponent]
    change (e + 1075).toNat ≠ 2047
    omega
  have hmin : BitVec.ofNat 11 (e + 1075).toNat ≠ 0#11 := by
    rw [← BitVec.toNat_inj.ne, hexponent]
    change (e + 1075).toNat ≠ 0
    omega
  change UnpackedFloat.unpack Format.binary64 (UnpackedFloat.pack Format.binary64 _) = _
  rw [hnormal, UnpackedFloat.unpack]
  simp only [unpackMantissa_packComponents, unpackExponent_packComponents,
    unpackSign_packComponents, Sign.ofBitVec_toBitVec]
  rw [if_neg hmax, if_neg hmin]
  simp only [hexponent, hmantissa, hbias]
  congr 1
  omega

end Canonical

theorem mantissa_lt_of_unpack {x : Float} {s : Sign} {m : Nat} {e : Int} {hpos : 0 < m}
    (h : x.toModel.unpack = .finite s m e hpos) : m < 2 ^ 53 := by
  change UnpackedFloat.unpack Format.binary64 x.toModel.toBits.toBitVec = _ at h
  rw [UnpackedFloat.unpack] at h
  dsimp only at h
  split at h
  · split at h <;> cases h
  · split at h
    · split at h
      · cases h
      · cases h
        exact Nat.lt_trans (BitVec.isLt _) (by decide)
    · cases h
      exact BitVec.isLt _

theorem ofNat_eq {n : Nat} (h : n < 2 ^ 53) :
    Float.ofNat n = n.toUInt64.toFloat * Float.ofBits 0x3FF0000000000000 := by
  change (if h : n < 2 ^ 53 ∧ 0 ≤ 22 then _ else _) = _
  rw [dif_pos ⟨h, by decide⟩]
  rfl

theorem unpack_one : (Float.ofBits 0x3FF0000000000000).toModel.unpack =
    .finite .positive (2 ^ 52) (-52) (by decide) := rfl

theorem unpack_ofNat_zero : (Float.ofNat 0).toModel.unpack = .zero .positive := rfl

section OfNat

variable {n : Nat} (hpos : 0 < n) (h : n < 2 ^ 53)

include hpos h

theorem log2_normal : (n * 2 ^ (52 - n.log2)).log2 = 52 := by
  have hlog : n.log2 < 53 := (Nat.log2_lt (Nat.ne_of_gt hpos)).mpr h
  rw [log2_mul_two_pow (Nat.ne_of_gt hpos)]
  omega

omit h in
theorem normal_pos : 0 < n * 2 ^ (52 - n.log2) := Nat.mul_pos hpos (Nat.two_pow_pos _)

theorem round_natural :
    UnpackedFloat.round Format.binary64 .positive n 0 =
      .finite .positive (n * 2 ^ (52 - n.log2)) (-(52 - n.log2 : Nat)) (normal_pos hpos) := by
  have hlog : n.log2 < 53 := (Nat.log2_lt (Nat.ne_of_gt hpos)).mpr h
  have htarget : Format.binary64.targetExponent (totalExponent n 0) = -(52 - n.log2 : Nat) := by
    simp only [Format.targetExponent, totalExponent, Format.mantissaBits, Format.minExponent]
    omega
  have hshift : ((0 : Int) - -(52 - n.log2 : Nat)).toNat = 52 - n.log2 := by omega
  have hround := roundWithAccuracy_mul_two_pow (s := .positive) (k := 0)
    (e := -(52 - n.log2 : Nat)) (log2_normal hpos h) (normal_pos hpos) (by omega)
  rw [Nat.pow_zero, Nat.mul_one, Int.ofNat_zero, Int.sub_zero] at hround
  rw [UnpackedFloat.round, htarget, decreaseExponent, hshift, Nat.shiftLeft_eq, Int.zero_sub]
  exact hround

theorem unpack_ofNat : (Float.ofNat n).toModel.unpack =
    .finite .positive (n * 2 ^ (52 - n.log2)) (-(52 - n.log2 : Nat)) (normal_pos hpos) := by
  have hcount : n.toUInt64.toNat = n := by
    rw [UInt64.toNat_ofNat', Nat.mod_eq_of_lt (Nat.lt_trans h (by decide))]
  have hnormal : UnpackedFloat.ofNat Format.binary64 n =
      .finite .positive (n * 2 ^ (52 - n.log2)) (-(52 - n.log2 : Nat)) (normal_pos hpos) := by
    have hcompare : compare (n : Int) 0 = .gt := Int.compare_eq_gt.mpr (Int.natCast_pos.mpr hpos)
    rw [UnpackedFloat.ofNat, UnpackedFloat.ofInt, UnpackedFloat.normalize, hcompare]
    exact round_natural hpos h
  have hfloat : n.toUInt64.toFloat.toModel.unpack =
      .finite .positive (n * 2 ^ (52 - n.log2)) (-(52 - n.log2 : Nat)) (normal_pos hpos) := by
    change (Float.Model.pack (UnpackedFloat.ofNat Format.binary64 n.toUInt64.toNat)).unpack = _
    rw [hcount, hnormal]
    exact unpack_pack (log2_normal hpos h) _ (by omega) (by omega)
  -- A factor of one shifts the mantissa up, and rounding shifts it back.
  rw [ofNat_eq h]
  change (Float.Model.pack (UnpackedFloat.mul Format.binary64 n.toUInt64.toFloat.toModel.unpack
    (Float.ofBits 0x3FF0000000000000).toModel.unpack)).unpack = _
  rw [hfloat, unpack_one, UnpackedFloat.mul]
  have hround := roundWithAccuracy_mul_two_pow (s := .positive) (k := 52)
    (e := -(52 - n.log2 : Nat)) (log2_normal hpos h) (normal_pos hpos) (by omega)
  rw [Int.sub_eq_add_neg] at hround
  change (Float.Model.pack (roundWithAccuracy Format.binary64 .positive _
    (-(52 - n.log2 : Nat) + -((52 : Nat) : Int)) .exact)).unpack = _
  rw [hround]
  exact unpack_pack (log2_normal hpos h) _ (by omega) (by omega)

end OfNat

theorem roundToInt_neg (m j : Nat) :
    UnpackedFloat.roundToInt .positive m (-j) = (m / 2 ^ j : Nat) := by
  have hup : (-(j : Int) - 0).toNat = 0 := by omega
  have hdown : (0 - (-(j : Int) - 0)).toNat = j := by omega
  simp only [roundToInt, decreaseExponent, hup, shiftToExponent, Int.ofNat_zero, hdown,
    ExtendedMantissa.ofMantissaAndAccuracy, Nat.shiftLeft_zero, mantissa_shiftRight]
  rfl

theorem div_le_of_not_lt {n k m : Nat} {e : Int} (hn : (n * 2 ^ k).log2 = 52) (hpos : 0 < n)
    (hm : m < 2 ^ 53)
    (h : (compare (-(k : Int)) e).then (compare (n * 2 ^ k) m) ≠ .lt) :
    ∃ j : Nat, e = -j ∧ m / 2 ^ j ≤ n := by
  have hne : n * 2 ^ k ≠ 0 := Nat.ne_of_gt (Nat.mul_pos hpos (Nat.two_pow_pos k))
  have hnormal : 2 ^ 52 ≤ n * 2 ^ k := ((Nat.log2_eq_iff hne).mp hn).1
  rcases Int.lt_trichotomy (-(k : Int)) e with hlt | heq | hgt
  · rw [Int.compare_eq_lt.mpr hlt] at h
    exact absurd rfl h
  · subst heq
    rw [Int.compare_eq_eq.mpr rfl] at h
    have hle : m ≤ n * 2 ^ k := Nat.not_lt.mp fun hlt => h (Nat.compare_eq_lt.mpr hlt)
    exact ⟨k, rfl, Nat.div_le_of_le_mul (Nat.mul_comm n _ ▸ hle)⟩
  · refine ⟨(-e).toNat, by omega, ?_⟩
    have hk : k + 1 ≤ (-e).toNat := by omega
    calc m / 2 ^ (-e).toNat
      _ ≤ m / 2 ^ (k + 1) := Nat.div_le_div_left (Nat.pow_le_pow_right (by decide) hk)
          (Nat.two_pow_pos _)
      _ ≤ n := by
        apply Nat.div_le_of_le_mul
        rw [Nat.pow_succ, Nat.mul_comm _ n, ← Nat.mul_assoc]
        omega

theorem toNat_ofNatClamp_le (k : Nat) : (UInt64.ofNatClamp k).toNat ≤ k := by
  rw [UInt64.ofNatClamp]
  split
  · exact Nat.le_refl k
  · rename_i hk
    exact Nat.le_trans (Nat.le_of_lt (UInt64.toNat_lt _)) (Nat.not_lt.mp hk)

theorem toInt_negative_le (a b : Int) (m : Nat) (e : Int) (hm : 0 < m) :
    (UnpackedFloat.toInt a b (.finite .negative m e hm)).toNat = 0 := by
  rw [UnpackedFloat.toInt, roundToInt]
  exact Int.toNat_of_nonpos (Int.neg_nonpos_of_nonneg (Int.natCast_nonneg _))

theorem toUInt64_le_of_not_lt {n : Nat} (h : n < 2 ^ 53) {y : Float} (hy : ¬ Float.ofNat n < y) :
    y.toUInt64.toNat ≤ n := by
  have hlt : (Float.ofNat n).toModel.unpack.compare y.toModel.unpack ≠ some .lt :=
    (lt_iff _ _).not.mp hy
  change (UInt64.ofNatClamp (y.toModel.unpack.toInt 0 (UInt64.size - 1)).toNat).toNat ≤ n
  apply Nat.le_trans (toNat_ofNatClamp_le _)
  cases hu : y.toModel.unpack with
  | notANumber => exact Nat.zero_le n
  | zero s => exact Nat.zero_le n
  | infinity s =>
    cases s with
    | negative => exact Nat.zero_le n
    | positive =>
      rw [hu] at hlt
      rcases Nat.eq_zero_or_pos n with rfl | hpos
      · exact absurd rfl hlt
      · rw [unpack_ofNat hpos h] at hlt
        exact absurd rfl hlt
  | finite s m e hm =>
    cases s with
    | negative => exact Nat.le_trans (Nat.le_of_eq (toInt_negative_le ..)) (Nat.zero_le n)
    | positive =>
      rw [hu] at hlt
      rcases Nat.eq_zero_or_pos n with rfl | hpos
      · exact absurd rfl hlt
      · rw [unpack_ofNat hpos h] at hlt
        obtain ⟨j, rfl, hle⟩ := div_le_of_not_lt (log2_normal hpos h) hpos
          (mantissa_lt_of_unpack hu) fun hc => hlt (congrArg some hc)
        rw [UnpackedFloat.toInt, roundToInt_neg]
        exact hle

theorem not_ofNat_lt_self {n : Nat} (h : n < 2 ^ 53) : ¬ Float.ofNat n < Float.ofNat n := by
  rw [lt_iff]
  rcases Nat.eq_zero_or_pos n with rfl | hpos
  · rw [unpack_ofNat_zero]
    rintro ⟨⟩
  · rw [unpack_ofNat hpos h, UnpackedFloat.compare]
    simp only [Int.compare_eq_eq.mpr, Nat.compare_eq_eq.mpr]
    rintro ⟨⟩

theorem counts : Number.Counts Float (2 ^ 55) := by
  intro n hn x
  have h : n < 2 ^ 53 := by omega
  have hclamp (y : Float) :
      ¬ Float.ofNat n < if (n : Float) < y then (n : Float) else y := by
    split
    · exact not_ofNat_lt_self h
    · assumption
  exact toUInt64_le_of_not_lt h (hclamp _)

/-- Past `2^53` a count may round up, and the last cell be one that is not there. -/
theorem not_counts : ¬ Number.Counts Float (2 ^ 55 + 16) := by
  intro h
  have hle := h (2 ^ 53 + 3) (by decide) (2 ^ 60 : Nat)
  revert hle
  decide +kernel

end Synoptic.Binary64
