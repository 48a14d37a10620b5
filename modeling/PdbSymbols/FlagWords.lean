import Mathlib.Data.Nat.Bitwise
import PdbSymbols.ScopeRecords
import PdbSymbols.FrameRecords
import PdbSymbols.DefRangeRecords

set_option autoImplicit false

/-!
# Flag words bit by bit

Each flag struct is decoded from one little-endian word, every named flag the bit of its constant
or shift (§4.3). Every test is first rewritten to `Nat.testBit` of the word, once per width; the
compile flags and the frame procedure flags then read as the bits of their word, which is how
the writer lays them out.
-/

namespace PdbSymbols

section Bits

theorem and_two_pow_bne_zero (x i : Nat) : (x &&& 2 ^ i != 0) = x.testBit i := by
  rw [Nat.and_two_pow]
  cases x.testBit i <;> simp

/-- Two words agree on their low `k` bits exactly when each of those bits agrees. -/
theorem mod_two_pow_eq_iff {x y k : Nat} :
    x % 2 ^ k = y % 2 ^ k ↔ ∀ i < k, x.testBit i = y.testBit i := by
  constructor
  · intro h i hi
    simpa [hi] using congrArg (·.testBit i) h
  · intro h
    refine Nat.eq_of_testBit_eq fun i => ?_
    by_cases hi : i < k <;> simp [hi, h]

theorem uint8_bne_zero (u : UInt8) : (u != 0) = (u.toNat != 0) := by
  rw [Bool.eq_iff_iff, bne_iff_ne, bne_iff_ne]
  exact not_congr ⟨fun h => h ▸ rfl, fun h => UInt8.toNat.inj h⟩

theorem uint16_bne_zero (u : UInt16) : (u != 0) = (u.toNat != 0) := by
  rw [Bool.eq_iff_iff, bne_iff_ne, bne_iff_ne]
  exact not_congr ⟨fun h => h ▸ rfl, fun h => UInt16.toNat.inj h⟩

theorem uint32_bne_zero (u : UInt32) : (u != 0) = (u.toNat != 0) := by
  rw [Bool.eq_iff_iff, bne_iff_ne, bne_iff_ne]
  exact not_congr ⟨fun h => h ▸ rfl, fun h => UInt32.toNat.inj h⟩

/-- A flag test against a one-bit constant is the bit of the constant. -/
theorem uint8_and_bne_zero (v m : UInt8) {i : Nat} (hm : m.toNat = 2 ^ i) :
    (v &&& m != 0) = v.toNat.testBit i := by
  rw [uint8_bne_zero, UInt8.and_toNat, hm, and_two_pow_bne_zero]

theorem uint16_and_bne_zero (v m : UInt16) {i : Nat} (hm : m.toNat = 2 ^ i) :
    (v &&& m != 0) = v.toNat.testBit i := by
  rw [uint16_bne_zero, UInt16.and_toNat, hm, and_two_pow_bne_zero]

theorem uint32_and_bne_zero (v m : UInt32) {i : Nat} (hm : m.toNat = 2 ^ i) :
    (v &&& m != 0) = v.toNat.testBit i := by
  rw [uint32_bne_zero, UInt32.and_toNat, hm, and_two_pow_bne_zero]

theorem uint16_toNat_shiftRight (a b : UInt16) : (a >>> b).toNat = a.toNat >>> (b.toNat % 16) := by
  show (a.toBitVec >>> (UInt16.mod b 16).toBitVec).toNat = _
  simp [BitVec.toNat_ushiftRight, UInt16.mod, UInt16.toNat]

theorem uint32_toNat_shiftRight (a b : UInt32) : (a >>> b).toNat = a.toNat >>> (b.toNat % 32) := by
  show (a.toBitVec >>> (UInt32.mod b 32).toBitVec).toNat = _
  simp [BitVec.toNat_ushiftRight, UInt32.mod, UInt32.toNat]

/-- A shifted test of the low bit is the bit at the shift. -/
theorem bit16_eq_testBit (raw i : UInt16) (hi : i.toNat < 16) :
    bit16 raw i = raw.toNat.testBit i.toNat := by
  rw [bit16, uint16_bne_zero, UInt16.and_toNat, uint16_toNat_shiftRight, Nat.mod_eq_of_lt hi,
    Nat.testBit, Nat.land_comm]
  rfl

theorem bit32_eq_testBit (raw i : UInt32) (hi : i.toNat < 32) :
    bit32 raw i = raw.toNat.testBit i.toNat := by
  rw [bit32, uint32_bne_zero, UInt32.and_toNat, uint32_toNat_shiftRight, Nat.mod_eq_of_lt hi,
    Nat.testBit, Nat.land_comm]
  rfl

end Bits

section Decoders

theorem CompileFlags.tryFromCtx_u16Bytes (v : UInt16) (pad : UInt8) (rest : List UInt8)
    (kind : SymbolKind) :
    CompileFlags.tryFromCtx (u16Bytes v ++ pad :: rest) kind =
      .ok (⟨v.toNat.testBit 0, v.toNat.testBit 1, v.toNat.testBit 2, v.toNat.testBit 3,
        v.toNat.testBit 4, v.toNat.testBit 5, v.toNat.testBit 6, v.toNat.testBit 7,
        v.toNat.testBit 8, v.toNat.testBit 9 && decide (kind = S_COMPILE3),
        v.toNat.testBit 10 && decide (kind = S_COMPILE3),
        v.toNat.testBit 11 && decide (kind = S_COMPILE3)⟩, 3) := by
  obtain ⟨b0, b1, hv⟩ : ∃ b0 b1, u16Bytes v = [b0, b1] := ⟨_, _, rfl⟩
  have hraw : UInt16.ofNat (ofLE [b0, b1]) = v := hv ▸ ofLE_u16Bytes v
  rw [hv]
  simp (disch := decide) only [CompileFlags.tryFromCtx, List.cons_append, List.nil_append, hraw,
    bit16_eq_testBit, UInt16.reduceToNat]

theorem FrameProcedureFlags.tryFromCtx_u32Bytes (v : UInt32) (rest : List UInt8) :
    FrameProcedureFlags.tryFromCtx (u32Bytes v ++ rest) =
      .ok (⟨v.toNat.testBit 0, v.toNat.testBit 1, v.toNat.testBit 2, v.toNat.testBit 3,
        v.toNat.testBit 4, v.toNat.testBit 5, v.toNat.testBit 6, v.toNat.testBit 7,
        v.toNat.testBit 8, v.toNat.testBit 9, v.toNat.testBit 10, v.toNat.testBit 11,
        v.toNat.testBit 12, v.toNat.testBit 13, (v >>> 14).toUInt8 &&& 3, (v >>> 16).toUInt8 &&& 3,
        v.toNat.testBit 18, v.toNat.testBit 19, v.toNat.testBit 20, v.toNat.testBit 21,
        v.toNat.testBit 22⟩, 4) := by
  obtain ⟨b0, b1, b2, b3, hv⟩ : ∃ b0 b1 b2 b3, u32Bytes v = [b0, b1, b2, b3] := ⟨_, _, _, _, rfl⟩
  have hraw : UInt32.ofNat (ofLE [b0, b1, b2, b3]) = v := hv ▸ ofLE_u32Bytes v
  rw [hv]
  simp (disch := decide) only [FrameProcedureFlags.tryFromCtx, List.cons_append, List.nil_append,
    hraw, bit32_eq_testBit, UInt32.reduceToNat]

end Decoders

end PdbSymbols
