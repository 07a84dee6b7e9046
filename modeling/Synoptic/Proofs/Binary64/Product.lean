import Synoptic.Proofs.Binary64.Defined
import Synoptic.Proofs.Binary64.Order

namespace Synoptic.Binary64

open Float.Model Float.Model.UnpackedFloat

/-- Mantissa and exponent as they are kept: the mantissa has 53 bits, or the exponent is the least. -/
structure Canonical (m : Nat) (e : Int) : Prop where
  pos : 0 < m
  lt : m < 2 ^ 53
  least : -1074 ≤ e
  full : 2 ^ 52 ≤ m ∨ e = -1074

theorem canonical_of_unpack_bits {b : BitVec Format.binary64.numBits} {s : Sign} {m : Nat} {e : Int}
    {hpos : 0 < m} (h : UnpackedFloat.unpack Format.binary64 b = .finite s m e hpos) :
    Canonical m e ∧ e ≤ 971 := by
  have hbias : Format.binary64.exponentBias = 1023 := rfl
  have hfraction : (unpackMantissa b).toNat < 2 ^ 52 := BitVec.isLt _
  rw [UnpackedFloat.unpack] at h
  dsimp only at h
  split at h
  · split at h <;> cases h
  · rename_i hmax
    split at h
    · rename_i hmin
      split at h
      · cases h
      · cases h
        rw [hmin, hbias]
        exact ⟨⟨hpos, Nat.lt_trans hfraction (by decide), by decide, .inr (by decide)⟩, by decide⟩
    · rename_i hmin
      cases h
      have hupper : (unpackExponent b).toNat < 2 ^ 11 := BitVec.isLt _
      have hnonzero : (unpackExponent b).toNat ≠ 0 := fun h => hmin (BitVec.eq_of_toNat_eq h)
      have hfinite : (unpackExponent b).toNat ≠ 2047 := fun h => hmax (BitVec.eq_of_toNat_eq h)
      have happend : 2 ^ 52 ≤ (1#1 ++ unpackMantissa b).toNat := by
        rw [BitVec.toNat_append, ← Nat.shiftLeft_add_eq_or_of_lt hfraction]
        exact Nat.le_add_right _ _
      simp only [hbias]
      exact ⟨⟨hpos, BitVec.isLt _, by omega, .inl happend⟩, by omega⟩

theorem canonical_of_unpack {x : Float} {s : Sign} {m : Nat} {e : Int} {hpos : 0 < m}
    (h : x.toModel.unpack = .finite s m e hpos) : Canonical m e ∧ e ≤ 971 :=
  canonical_of_unpack_bits h

theorem unpack_pack_subnormal {s : Sign} {m : Nat} (hpos : 0 < m) (hm : m < 2 ^ 52) :
    (Float.Model.pack (.finite s m (-1074) hpos)).unpack = .finite s m (-1074) hpos := by
  have hbias : Format.binary64.exponentBias = 1023 := rfl
  have hlog : m.log2 + 1 ≠ Format.binary64.mantissaBits :=
    Nat.ne_of_lt (Nat.succ_lt_succ ((Nat.log2_lt (Nat.ne_of_gt hpos)).mpr hm))
  have hpacked : UnpackedFloat.pack Format.binary64 (.finite s m (-1074) hpos) =
      packComponents Format.binary64 s 0#11 (BitVec.ofNat 52 m) := by
    rw [UnpackedFloat.pack]
    dsimp only
    rw [if_neg (by decide), if_neg hlog]
  have hmantissa : (BitVec.ofNat 52 m).toNat = m := by
    rw [BitVec.toNat_ofNat, Nat.mod_eq_of_lt hm]
  have hnonzero : BitVec.ofNat 52 m ≠ 0#52 := by
    rw [← BitVec.toNat_inj.ne, hmantissa]
    exact Nat.ne_of_gt hpos
  change UnpackedFloat.unpack Format.binary64 (UnpackedFloat.pack Format.binary64 _) = _
  rw [hpacked, UnpackedFloat.unpack]
  simp only [unpackMantissa_packComponents, unpackExponent_packComponents,
    unpackSign_packComponents, Sign.ofBitVec_toBitVec]
  rw [if_neg (by decide), if_pos trivial, dif_neg hnonzero]
  simp only [hmantissa, hbias]
  rfl

theorem unpack_pack_canonical {s : Sign} {m : Nat} {e : Int} (h : Canonical m e) :
    (Float.Model.pack (.finite s m e h.pos)).unpack =
      if e ≤ 971 then .finite s m e h.pos else .infinity s := by
  split
  case isTrue he =>
    by_cases hm : 2 ^ 52 ≤ m
    · have hlog : m.log2 = 52 := (Nat.log2_eq_iff (Nat.ne_of_gt h.pos)).mpr ⟨hm, h.lt⟩
      exact unpack_pack hlog h.pos h.least he
    · obtain rfl : e = -1074 := h.full.resolve_left hm
      exact unpack_pack_subnormal h.pos (Nat.lt_of_not_le hm)
  case isFalse he =>
    have hbias : Format.binary64.exponentBias = 1023 := rfl
    have hpacked : UnpackedFloat.pack Format.binary64 (.finite s m e h.pos) =
        packedInfinity Format.binary64 s := by
      simp only [UnpackedFloat.pack, hbias]
      rw [if_pos (by omega)]
    change UnpackedFloat.unpack Format.binary64 (UnpackedFloat.pack Format.binary64 _) = _
    rw [hpacked]
    cases s <;> rfl

def rounded (n k : Nat) : Nat := ((⟨n, false, false⟩ : ExtendedMantissa) >>> k).roundedMantissa

theorem rounded_zero (n : Nat) : rounded n 0 = n := rfl

theorem le_roundedMantissa (m : ExtendedMantissa) :
    m.mantissa ≤ m.roundedMantissa ∧ m.roundedMantissa ≤ m.mantissa + 1 := by
  obtain ⟨n, round, sticky⟩ := m
  have hparity := Nat.mod_lt n Nat.two_pos
  cases round <;> cases sticky <;> simp only [ExtendedMantissa.roundedMantissa,
    ExtendedMantissa.accuracy, Accuracy.roundToNearestEven] <;> omega

theorem rounded_bounds (n k : Nat) : n / 2 ^ k ≤ rounded n k ∧ rounded n k ≤ n / 2 ^ k + 1 := by
  have h := le_roundedMantissa ((⟨n, false, false⟩ : ExtendedMantissa) >>> k)
  rwa [mantissa_shiftRight] at h

theorem shiftRight_bits (n : Nat) : ∀ k : Nat,
    (⟨n, false, false⟩ : ExtendedMantissa) >>> (k + 1) =
      ⟨n / 2 ^ (k + 1), n / 2 ^ k % 2 != 0, n % 2 ^ k != 0⟩
  | 0 => by
    rw [shiftRight_succ, Nat.pow_zero, Nat.div_one, Nat.mod_one]
    rfl
  | k + 1 => by
    have hsticky : (n / 2 ^ k % 2 != 0 || n % 2 ^ k != 0) = (n % 2 ^ (k + 1) != 0) := by
      rw [Nat.mod_pow_succ, Bool.eq_iff_iff]
      have hpow := Nat.two_pow_pos k
      simp only [Bool.or_eq_true, bne_iff_ne, ne_eq, Nat.add_eq_zero_iff, Nat.mul_eq_zero]
      omega
    rw [shiftRight_succ, shiftRight_bits n k, ExtendedMantissa.shiftRightOne, hsticky,
      Nat.div_div_eq_div_mul, ← Nat.pow_succ]

theorem rounded_six_lt {n : Nat} (h : n < 2 ^ 59) : rounded n 6 < 2 ^ 53 ↔ n < 2 ^ 59 - 2 ^ 5 := by
  -- Below `2^59` all but the last half unit rounds to 53 bits when six are dropped.
  rw [rounded, shiftRight_bits n 5, ExtendedMantissa.roundedMantissa]
  generalize hround : (n / 2 ^ 5 % 2 != 0) = round
  generalize hsticky : (n % 2 ^ 5 != 0) = sticky
  cases round <;> cases sticky <;>
    simp only [bne_iff_ne, bne_eq_false_iff_eq, ne_eq] at hround hsticky <;>
    simp only [ExtendedMantissa.accuracy, Accuracy.roundToNearestEven] <;> omega

def roundingExponent (n : Nat) (e : Int) : Int := max (n.log2 + e - 52) (-1074)

theorem targetExponent_eq (n : Nat) (e : Int) :
    Format.binary64.targetExponent (totalExponent n e) = roundingExponent n e := by
  simp only [Format.targetExponent, totalExponent, Format.mantissaBits, Format.minExponent,
    roundingExponent]
  omega

theorem shiftToTargetExponent_eq {n : Nat} {e : Int} (h : e ≤ roundingExponent n e) :
    shiftToTargetExponent Format.binary64 n e .exact =
      ((⟨n, false, false⟩ : ExtendedMantissa) >>> (roundingExponent n e - e).toNat,
        roundingExponent n e) := by
  simp only [shiftToTargetExponent, shiftToExponent, targetExponent_eq,
    ExtendedMantissa.ofMantissaAndAccuracy, Prod.mk.injEq, true_and]
  omega

theorem Canonical.roundingExponent_eq {m : Nat} {e : Int} (h : Canonical m e) :
    roundingExponent m e = e := by
  have hne := Nat.ne_of_gt h.pos
  have hbelow : m.log2 < 53 := (Nat.log2_lt hne).mpr h.lt
  have hleast := h.least
  rw [roundingExponent]
  rcases h.full with hm | he
  · have habove : 52 ≤ m.log2 := (Nat.le_log2 hne).mpr hm
    omega
  · omega

theorem rounded_range {n k : Nat} (hn : 0 < n) (hlog : n.log2 = 52 + k) :
    2 ^ 52 ≤ rounded n k ∧ rounded n k ≤ 2 ^ 53 := by
  obtain ⟨hlower, hupper⟩ := rounded_bounds n k
  obtain ⟨hleast, hmost⟩ := (Nat.log2_eq_iff (Nat.ne_of_gt hn)).mp hlog
  constructor
  · refine Nat.le_trans ((Nat.le_div_iff_mul_le (Nat.two_pow_pos k)).mpr ?_) hlower
    rwa [← Nat.pow_add]
  · refine Nat.le_trans hupper (Nat.succ_le_of_lt (Nat.div_lt_of_lt_mul ?_))
    rwa [← Nat.pow_add, Nat.add_comm k 53, Nat.add_right_comm 52 k 1] at *

/-- What rounding makes of the first mantissa: the mantissa itself, or half of it if it has come to
`2^53`. -/
structure RoundsTo (n : Nat) (e : Int) (m : Nat) (e' : Int) : Prop where
  canonical : Canonical m e'
  mantissa : rounded n (roundingExponent n e - e).toNat < 2 ^ 53 ∧ e' = roundingExponent n e ∨
    rounded n (roundingExponent n e - e).toNat = 2 ^ 53 ∧ e' = roundingExponent n e + 1

theorem roundWithAccuracy_eq {n : Nat} {e : Int} (hn : 0 < n) (hleast : -1074 ≤ e)
    (he : e ≤ roundingExponent n e) (s : Sign) :
    ∃ m e', ∃ h : RoundsTo n e m e',
      roundWithAccuracy Format.binary64 s n e .exact = .finite s m e' h.canonical.pos := by
  have hfirst := shiftToTargetExponent_eq he
  have hnonzero := Nat.ne_of_gt hn
  generalize ht : roundingExponent n e = t at he hfirst
  generalize hq : rounded n (t - e).toNat = q
  have hq' : ((⟨n, false, false⟩ : ExtendedMantissa) >>> (t - e).toNat).roundedMantissa = q := hq
  have hrange : 0 < q ∧ q ≤ 2 ^ 53 ∧ -1074 ≤ t ∧ (2 ^ 52 ≤ q ∨ t = -1074) := by
    rw [roundingExponent] at ht
    by_cases hlog : n.log2 + e - 52 ≤ -1074
    · obtain rfl : t = e := by omega
      rw [Int.sub_self, Int.toNat_zero, rounded_zero] at hq
      have hlt : n < 2 ^ 53 := (Nat.log2_lt hnonzero).mp (by omega)
      omega
    · obtain ⟨hlower, hupper⟩ := rounded_range (k := (t - e).toNat) hn (by omega)
      omega
  obtain ⟨hpos, hle, hleast', hfull⟩ := hrange
  rcases Nat.lt_or_eq_of_le hle with hlt | rfl
  · have hcanonical : Canonical q t := ⟨hpos, hlt, hleast', hfull⟩
    have hkeep := hcanonical.roundingExponent_eq
    have hsecond := shiftToTargetExponent_eq hkeep.ge
    rw [hkeep, Int.sub_self] at hsecond
    refine ⟨q, t, ⟨hcanonical, .inl ⟨by rwa [ht, hq], ht.symm⟩⟩, ?_⟩
    simp only [roundWithAccuracy, hfirst, hq', hsecond]
    exact dif_neg (Nat.ne_of_gt hpos)
  · have hcanonical : Canonical (2 ^ 52) (t + 1) := ⟨by decide, by decide, by omega, .inl le_rfl⟩
    have hcarry : roundingExponent (2 ^ 53) t = t + 1 := by
      rw [roundingExponent, Nat.log2_two_pow]
      omega
    have hsecond := shiftToTargetExponent_eq (hcarry.ge.trans' (by omega))
    rw [hcarry, add_sub_cancel_left] at hsecond
    refine ⟨2 ^ 52, t + 1, ⟨hcanonical, .inr ⟨by rw [ht, hq], by rw [ht]⟩⟩, ?_⟩
    simp only [roundWithAccuracy, hfirst, hq', hsecond]
    exact dif_neg (by decide)

theorem shiftRight_add (m : ExtendedMantissa) (k : Nat) : ∀ j : Nat, m >>> (k + j) = (m >>> k) >>> j
  | 0 => rfl
  | j + 1 => by
    rw [shiftRight_succ, ← shiftRight_add m k j]
    rfl

theorem roundWithAccuracy_scaled {n : Nat} {e : Int} (hn : 0 < n) (he : e ≤ roundingExponent n e)
    (s : Sign) (k : Nat) :
    roundWithAccuracy Format.binary64 s (n * 2 ^ k) (e - k) .exact =
      roundWithAccuracy Format.binary64 s n e .exact := by
  have hexponent : roundingExponent (n * 2 ^ k) (e - k) = roundingExponent n e := by
    rw [roundingExponent, roundingExponent, log2_mul_two_pow (Nat.ne_of_gt hn)]
    omega
  have hamount : (roundingExponent n e - (e - k)).toNat = k + (roundingExponent n e - e).toNat := by
    omega
  have hshift : shiftToTargetExponent Format.binary64 (n * 2 ^ k) (e - k) .exact =
      shiftToTargetExponent Format.binary64 n e .exact := by
    rw [shiftToTargetExponent_eq he, shiftToTargetExponent_eq (by omega), hexponent, hamount,
      shiftRight_add, shiftRight_mul_two_pow]
  rw [roundWithAccuracy, hshift]
  rfl

def largestHundredth : Float := 1.7976931348623156e306

theorem unpack_largestHundredth : largestHundredth.toModel.unpack =
    .finite .positive 5764607523034234 965 (by decide) := by
  have hlargest : largestHundredth =
      .ofModel (.pack (.finite .positive 5764607523034234 965 (by decide))) :=
    toBits_injective (by decide +kernel)
  rw [hlargest]
  exact unpack_pack (by decide) (by decide) (by decide) (by decide)

section Hundredfold

variable {x : Float} {m : Nat} {e : Int}

theorem le_roundingExponent_hundred (h : Canonical m e) : e ≤ roundingExponent (m * 100) e := by
  have hgrows : m.log2 ≤ (m * 100).log2 := by
    rw [Nat.le_log2 (by have := h.pos; omega)]
    exact Nat.le_trans (Nat.log2_self_le (Nat.ne_of_gt h.pos)) (Nat.le_mul_of_pos_right m (by decide))
  have hkeep := h.roundingExponent_eq
  rw [roundingExponent] at hkeep ⊢
  omega

theorem unpack_mul_hundred {hpos : 0 < m} (hx : x.toModel.unpack = .finite .positive m e hpos) :
    ∃ m' e', ∃ h : RoundsTo (m * 100) e m' e', (x * 100).toModel.unpack =
      if e' ≤ 971 then .finite .positive m' e' h.canonical.pos else .infinity .positive := by
  obtain ⟨hcanonical, -⟩ := canonical_of_unpack hx
  have hexponent := le_roundingExponent_hundred hcanonical
  have hhundred : (100 : Float).toModel.unpack =
      .finite .positive (100 * 2 ^ 46) (-46) (by decide) := unpack_ofNat (by decide) (by decide)
  have hproduct : UnpackedFloat.mul Format.binary64 x.toModel.unpack (100 : Float).toModel.unpack =
      roundWithAccuracy Format.binary64 .positive (m * 100) e .exact := by
    rw [hx, hhundred, ← roundWithAccuracy_scaled (by omega) hexponent .positive 46,
      Nat.mul_assoc]
    rfl
  obtain ⟨m', e', h, hround⟩ :=
    roundWithAccuracy_eq (by omega) hcanonical.least hexponent .positive
  refine ⟨m', e', h, ?_⟩
  change (Float.Model.pack (UnpackedFloat.mul Format.binary64 _ _)).unpack = _
  rw [hproduct, hround, unpack_pack_canonical h.canonical]

theorem exponent_le_iff {m' : Nat} {e' : Int} (hm : Canonical m e) (h : RoundsTo (m * 100) e m' e') :
    e' ≤ 971 ↔ e < 965 ∨ e = 965 ∧ m ≤ 5764607523034234 := by
  have hne : m * 100 ≠ 0 := by have := hm.pos; omega
  have hlt := hm.lt
  have hlog : (m * 100).log2 < 60 := (Nat.log2_lt hne).mpr (by omega)
  have hcases := h.mantissa
  have hexponent : roundingExponent (m * 100) e = max ((m * 100).log2 + e - 52) (-1074) := rfl
  by_cases hfull : 2 ^ 52 ≤ m
  case neg =>
    have := hm.full.resolve_left hfull
    omega
  have hlarge : 58 ≤ (m * 100).log2 := (Nat.le_log2 hne).mpr (by omega)
  have hleast := hm.least
  obtain hlow | hhigh : (m * 100).log2 = 58 ∨ (m * 100).log2 = 59 := by omega
  · have hbelow : m * 100 < 2 ^ 59 := (Nat.log2_lt hne).mp (by omega)
    have hcarry := rounded_six_lt hbelow
    rw [show (roundingExponent (m * 100) e - e).toNat = 6 by omega] at hcases
    omega
  · have habove : 2 ^ 59 ≤ m * 100 := (Nat.le_log2 hne).mp (by omega)
    have hround := (rounded_bounds (m * 100) 7).2
    rw [show (roundingExponent (m * 100) e - e).toNat = 7 by omega] at hcases
    omega

end Hundredfold

theorem unpack_infinity_mul_hundred {x : Float} (hx : x.toModel.unpack = .infinity .positive) :
    (x * 100).toModel.unpack = .infinity .positive := by
  change (Float.Model.pack (UnpackedFloat.mul Format.binary64 x.toModel.unpack _)).unpack = _
  rw [hx]
  rfl

theorem mul_hundred_pos {x : Float} (h : 0 < x) : 0 < x * 100 := by
  rw [pos_iff] at h ⊢
  rcases h with hx | ⟨m, e, hpos, hx⟩
  · exact .inl (unpack_infinity_mul_hundred hx)
  · obtain ⟨m', e', h', hproduct⟩ := unpack_mul_hundred hx
    rw [hproduct]
    split
    · exact .inr ⟨m', e', h'.canonical.pos, rfl⟩
    · exact .inl rfl

theorem isFinite_mul_hundred_iff {x : Float} (h : 0 < x) :
    (x * 100).isFinite = true ↔ x ≤ largestHundredth := by
  rw [le_iff, unpack_largestHundredth]
  change (x * 100).toModel.unpack.isFinite = true ↔ _
  rcases (pos_iff x).mp h with hx | ⟨m, e, hpos, hx⟩
  · rw [unpack_infinity_mul_hundred hx, hx]
    simp [UnpackedFloat.isFinite, UnpackedFloat.compare]
  · obtain ⟨m', e', h', hproduct⟩ := unpack_mul_hundred hx
    have hfinite : (x * 100).toModel.unpack.isFinite = true ↔ e' ≤ 971 := by
      rw [hproduct]
      split <;> simp_all [UnpackedFloat.isFinite]
    rw [hfinite, exponent_le_iff (canonical_of_unpack hx).1 h', hx]
    simp only [UnpackedFloat.compare, Option.any_some, Ordering.isLE_then_iff_or,
      Std.compare_eq_lt, Std.compare_eq_iff_eq, Std.isLE_compare]

end Synoptic.Binary64
