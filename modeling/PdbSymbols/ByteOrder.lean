import Mathlib.Data.List.Basic
import Mathlib.Algebra.Group.Nat.Basic

set_option autoImplicit false

/-!
# Little-endian integers on the wire

Every integer of a symbol record is little-endian (§6). `ofLE` reads bytes least significant
first; `toLE w n` writes the `w` low bytes of `n`, the form in which record layouts are stated.
-/

namespace PdbSymbols

def ofLE : List UInt8 → Nat
  | [] => 0
  | b :: bs => b.toNat + 256 * ofLE bs

def toLE : Nat → Nat → List UInt8
  | 0, _ => []
  | w + 1, n => UInt8.ofNat (n % 256) :: toLE w (n / 256)

/-- The wire bytes of a `u16` and of a `u32`. -/
def u16Bytes (x : UInt16) : List UInt8 := toLE 2 x.toNat

def u32Bytes (x : UInt32) : List UInt8 := toLE 4 x.toNat

@[simp] theorem uint8_ofNat_toNat (b : UInt8) : UInt8.ofNat b.toNat = b :=
  UInt8.eq_of_toBitVec_eq (by simp [UInt8.ofNat, UInt8.toNat, Nat.mod_eq_of_lt b.toBitVec.isLt])

@[simp] theorem ofLE_nil : ofLE [] = 0 := rfl

theorem ofLE_cons (b : UInt8) (bs : List UInt8) : ofLE (b :: bs) = b.toNat + 256 * ofLE bs :=
  rfl

@[simp] theorem length_toLE (w n : Nat) : (toLE w n).length = w := by
  induction w generalizing n with
  | zero => rfl
  | succ w ih => simp [toLE, ih]

theorem ofLE_toLE (w n : Nat) : ofLE (toLE w n) = n % 256 ^ w := by
  induction w generalizing n with
  | zero => simp [toLE, Nat.mod_one]
  | succ w ih =>
    have hb : (UInt8.ofNat (n % 256)).toNat = n % 256 := UInt8.toNat_ofNat_of_lt (Nat.mod_lt _ (by decide))
    rw [toLE, ofLE_cons, ih, hb, Nat.pow_succ', Nat.mod_mul]

theorem ofLE_pair_lt (lo hi : UInt8) : ofLE [lo, hi] < 65536 := by
  have := lo.toNat_lt_size
  have := hi.toNat_lt_size
  simp only [ofLE_cons, ofLE_nil, UInt8.size] at *
  omega

theorem toLE_ofLE (bs : List UInt8) : toLE bs.length (ofLE bs) = bs := by
  induction bs with
  | nil => rfl
  | cons b bs ih =>
    have hb : b.toNat < 256 := b.toNat_lt_size
    have h1 : (b.toNat + 256 * ofLE bs) % 256 = b.toNat := by omega
    have h2 : (b.toNat + 256 * ofLE bs) / 256 = ofLE bs := by omega
    rw [List.length_cons, toLE, ofLE_cons, h1, h2, ih, uint8_ofNat_toNat]

@[simp] theorem length_u16Bytes (x : UInt16) : (u16Bytes x).length = 2 := length_toLE _ _

@[simp] theorem length_u32Bytes (x : UInt32) : (u32Bytes x).length = 4 := length_toLE _ _

@[simp] theorem ofLE_u16Bytes (x : UInt16) : UInt16.ofNat (ofLE (u16Bytes x)) = x :=
  UInt16.eq_of_toBitVec_eq (by
    simp [u16Bytes, ofLE_toLE, UInt16.ofNat, UInt16.toNat, Nat.mod_eq_of_lt x.toBitVec.isLt])

/-- The two bytes of a record's kind are the wire bytes of the kind they encode. -/
theorem u16Bytes_ofLE (lo hi : UInt8) : u16Bytes (UInt16.ofNat (ofLE [lo, hi])) = [lo, hi] := by
  rw [u16Bytes, UInt16.toNat_ofNat_of_lt (ofLE_pair_lt lo hi)]
  exact toLE_ofLE [lo, hi]

@[simp] theorem ofLE_u32Bytes (x : UInt32) : UInt32.ofNat (ofLE (u32Bytes x)) = x :=
  UInt32.eq_of_toBitVec_eq (by
    simp [u32Bytes, ofLE_toLE, UInt32.ofNat, UInt32.toNat, Nat.mod_eq_of_lt x.toBitVec.isLt])

end PdbSymbols
