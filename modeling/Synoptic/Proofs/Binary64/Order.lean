import Mathlib
import Synoptic.Proofs.Binary64.Comparison

namespace Synoptic.Binary64

open Float.Model

section Bits

open UnpackedFloat hiding unpack pack

variable {b : BitVec Format.binary64.numBits}

theorem toBitVec_ofBitVec (s : BitVec 1) : (Sign.ofBitVec s).toBitVec = s := by
  revert s
  decide

theorem packComponents_of_eq {e : BitVec Format.binary64.exponentBits}
    {m : BitVec Format.binary64.mantissaBitsWithoutImplicit} (he : e = unpackExponent b)
    (hm : m = unpackMantissa b) :
    packComponents Format.binary64 (Sign.ofBitVec (unpackSign b)) e m = b := by
  rw [he, hm, packComponents, toBitVec_ofBitVec]
  simp only [unpackSign, unpackExponent, unpackMantissa, BitVec.extractLsb]
  ext i hi
  grind

theorem pack_unpack (hb : Format.binary64.Valid b) :
    UnpackedFloat.pack Format.binary64 (UnpackedFloat.unpack Format.binary64 b) = b := by
  have hm : (unpackMantissa b).toNat < 2 ^ 52 := BitVec.isLt _
  have he : (unpackExponent b).toNat < 2 ^ 11 := BitVec.isLt _
  have hbias : Format.binary64.exponentBias = 1023 := rfl
  rw [UnpackedFloat.unpack]
  dsimp only
  split
  case isTrue hmax =>
    split
    case isTrue hzero => exact packComponents_of_eq hmax.symm hzero.symm
    case isFalse hnonzero => exact (hb.eq_packedNaN hmax hnonzero).symm
  case isFalse hmax =>
    split
    case isTrue hmin =>
      split
      case isTrue hzero => exact packComponents_of_eq hmin.symm hzero.symm
      case isFalse hnonzero =>
        have hne : (unpackMantissa b).toNat ≠ 0 := fun h => hnonzero (BitVec.eq_of_toNat_eq h)
        have hlog : (unpackMantissa b).toNat.log2 + 1 ≠ Format.binary64.mantissaBits :=
          Nat.ne_of_lt (Nat.succ_lt_succ ((Nat.log2_lt hne).mpr hm))
        simp only [UnpackedFloat.pack, hmin, hbias]
        rw [if_neg (by decide), if_neg hlog]
        apply packComponents_of_eq hmin.symm
        rw [BitVec.ofNat_toNat, BitVec.setWidth_eq]
    case isFalse hmin =>
      have hmin' : (unpackExponent b).toNat ≠ 0 := fun h => hmin (BitVec.eq_of_toNat_eq h)
      have hmax' : (unpackExponent b).toNat ≠ 2047 := fun h => hmax (BitVec.eq_of_toNat_eq h)
      have happend : (1#1 ++ unpackMantissa b).toNat = 2 ^ 52 + (unpackMantissa b).toNat := by
        rw [BitVec.toNat_append, ← Nat.shiftLeft_add_eq_or_of_lt hm]
        rfl
      have hlog : (2 ^ 52 + (unpackMantissa b).toNat).log2 = 52 :=
        (Nat.log2_eq_iff (by omega)).mpr (by omega)
      simp only [UnpackedFloat.pack, happend, hlog, hbias]
      rw [if_neg (by omega), if_pos (by rfl)]
      apply packComponents_of_eq <;> apply BitVec.eq_of_toNat_eq <;> rw [BitVec.toNat_ofNat]
      · rw [Nat.mod_eq_of_lt (by omega)]
        omega
      · rw [Nat.add_mod_left, Nat.mod_eq_of_lt hm]

end Bits

theorem ofModel_pack_unpack (x : Float) : Float.ofModel (pack x.toModel.unpack) = x := by
  obtain ⟨⟨bits, hvalid⟩⟩ := x
  have h : UnpackedFloat.pack Format.binary64 (UnpackedFloat.unpack Format.binary64 bits.toBitVec) =
      bits.toBitVec := pack_unpack hvalid
  simp only [pack, unpack, h]

theorem eq_of_unpack {x y : Float} (h : x.toModel.unpack = y.toModel.unpack) : x = y := by
  rw [← ofModel_pack_unpack x, h, ofModel_pack_unpack]

theorem toBits_injective {x y : Float} (h : x.toBits = y.toBits) : x = y := by
  obtain ⟨⟨bits, hvalid⟩⟩ := x
  obtain ⟨⟨bits', hvalid'⟩⟩ := y
  cases h
  rfl

theorem orderKey_injective {x y : Float} (h : orderKey x = orderKey y) : x = y := by
  apply toBits_injective
  apply UInt64.toNat_inj.mp
  simp only [orderKey] at h
  split at h <;> split at h <;> omega

theorem orderKey_zero {x : Float} {s : UnpackedFloat.Sign} (h : x.toModel.unpack = .zero s) :
    -1 ≤ orderKey x ∧ orderKey x ≤ 0 := by
  rw [← ofModel_pack_unpack x, h]
  cases s <;> decide

theorem eq_of_between {x y z : Float} (h : (x == z) = true) (hxy : orderKey x ≤ orderKey y)
    (hyz : orderKey y ≤ orderKey z) : y = x ∨ y = z := by
  change (x.toModel.unpack.compare z.toModel.unpack == some .eq) = true at h
  rcases eq_or_zero_of_compare (eq_of_beq h) with heq | ⟨s, s', hx, hz⟩
  · cases eq_of_unpack heq
    exact .inl (orderKey_injective (Int.le_antisymm hyz hxy))
  · have hxkey := orderKey_zero hx
    have hzkey := orderKey_zero hz
    have : orderKey y = orderKey x ∨ orderKey y = orderKey z := by omega
    exact this.imp orderKey_injective orderKey_injective

theorem pos_iff (x : Float) : 0 < x ↔ x.toModel.unpack = .infinity .positive ∨
    ∃ m e h, x.toModel.unpack = .finite .positive m e h := by
  rw [lt_iff]
  change UnpackedFloat.compare (.zero .positive) _ = _ ↔ _
  cases x.toModel.unpack with
  | notANumber => simp [UnpackedFloat.compare]
  | zero s => simp [UnpackedFloat.compare]
  | infinity s => cases s <;> simp [UnpackedFloat.compare]
  | finite s m e h => cases s <;> simp [UnpackedFloat.compare, h]

theorem isNaN_of_pos {x : Float} (h : 0 < x) : x.isNaN = false := by
  change x.toModel.unpack.isNaN = false
  rcases (pos_iff x).mp h with hx | ⟨m, e, hpos, hx⟩ <;> rw [hx] <;> rfl

theorem beq_self_of_pos {x : Float} (h : 0 < x) : (x == x) = true := by
  change (x.toModel.unpack.compare x.toModel.unpack == some .eq) = true
  rcases (pos_iff x).mp h with hx | ⟨m, e, hpos, hx⟩ <;> rw [hx]
  · rfl
  · simp [UnpackedFloat.compare]

theorem le_total_of_pos {x y : Float} (hx : 0 < x) (hy : 0 < y) : x ≤ y ∨ y ≤ x := by
  rw [le_iff, le_iff, ← compare_swap x.toModel.unpack]
  have hdefined := compare_ne_none (isNaN_of_pos hx) (isNaN_of_pos hy)
  cases hc : x.toModel.unpack.compare y.toModel.unpack with
  | none => exact absurd hc hdefined
  | some o => cases o <;> decide

theorem eq_of_le_of_le {x y : Float} (hx : 0 < x) (hxy : x ≤ y) (hyx : y ≤ x) : x = y := by
  rw [le_iff] at hxy hyx
  rw [← compare_swap x.toModel.unpack] at hyx
  have hequal : x.toModel.unpack.compare y.toModel.unpack = some .eq := by
    cases hc : x.toModel.unpack.compare y.toModel.unpack with
    | none => simp [hc] at hxy
    | some o => cases o <;> simp_all
  rcases eq_or_zero_of_compare hequal with heq | ⟨s, s', hzero, -⟩
  · exact eq_of_unpack heq
  · rcases (pos_iff x).mp hx with h | ⟨m, e, hpos, h⟩ <;> cases hzero.symm.trans h

end Synoptic.Binary64
