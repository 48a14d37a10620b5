import Mathlib.Data.List.Basic

set_option autoImplicit false

/-!
# Names as they sit in a record

A name is kept as its raw bytes (`RawString`) until a decoder copies it out with
`to_string()`, which is `String::from_utf8_lossy`: the bytes are cut as `Utf8Chunks` cuts them,
and every maximal invalid prefix of a sequence becomes one U+FFFD.
-/

namespace PdbSymbols

/-- A continuation byte, `0x80..=0xBF` (`byte as i8 < -64`). -/
def isCont (b : UInt8) : Bool := 0x80 ≤ b && b ≤ 0xBF

/-- The second byte a three-byte lead admits: no overlong form and no surrogate. -/
def second3 (b c : UInt8) : Bool :=
  (b = 0xE0 && 0xA0 ≤ c && c ≤ 0xBF) || (0xE1 ≤ b && b ≤ 0xEC && isCont c) ||
    (b = 0xED && 0x80 ≤ c && c ≤ 0x9F) || (0xEE ≤ b && isCont c)

/-- The second byte a four-byte lead admits: no overlong form and nothing past U+10FFFF. -/
def second4 (b c : UInt8) : Bool :=
  (b = 0xF0 && 0x90 ≤ c && c ≤ 0xBF) || (0xF1 ≤ b && b ≤ 0xF3 && isCont c) ||
    (b = 0xF4 && 0x80 ≤ c && c ≤ 0x8F)

/-- One step of `Utf8Chunks`: the next character, or U+FFFD for a maximal invalid prefix,
and the bytes after it. -/
def nextChar : List UInt8 → Option (Char × List UInt8)
  | [] => none
  | b :: t =>
    if b < 0x80 then some (Char.ofNat b.toNat, t)
    else if 0xC2 ≤ b ∧ b ≤ 0xDF then
      match t with
      | c :: t' =>
        if isCont c then some (Char.ofNat (b.toNat % 32 * 64 + c.toNat % 64), t')
        else some ('�', t)
      | [] => some ('�', [])
    else if 0xE0 ≤ b ∧ b ≤ 0xEF then
      match t with
      | c :: t' =>
        if second3 b c then
          match t' with
          | d :: t'' =>
            if isCont d then
              some (Char.ofNat (b.toNat % 16 * 4096 + c.toNat % 64 * 64 + d.toNat % 64), t'')
            else some ('�', t')
          | [] => some ('�', [])
        else some ('�', t)
      | [] => some ('�', [])
    else if 0xF0 ≤ b ∧ b ≤ 0xF4 then
      match t with
      | c :: t' =>
        if second4 b c then
          match t' with
          | d :: t'' =>
            if isCont d then
              match t'' with
              | e :: rest =>
                if isCont e then
                  some (Char.ofNat (b.toNat % 8 * 262144 + c.toNat % 64 * 4096 +
                    d.toNat % 64 * 64 + e.toNat % 64), rest)
                else some ('�', t'')
              | [] => some ('�', [])
            else some ('�', t')
          | [] => some ('�', [])
        else some ('�', t)
      | [] => some ('�', [])
    else some ('�', t)

section Branches

theorem uint8_lt_iff {a b : UInt8} : a < b ↔ a.toNat < b.toNat := Iff.rfl

theorem uint8_le_iff {a b : UInt8} : a ≤ b ↔ a.toNat ≤ b.toNat := Iff.rfl

theorem uint8_eq_iff {a b : UInt8} : a = b ↔ a.toNat = b.toNat := ⟨congrArg _, UInt8.toNat.inj⟩

theorem isCont_iff (b : UInt8) : isCont b = true ↔ 128 ≤ b.toNat ∧ b.toNat ≤ 191 := by
  simp only [isCont, Bool.and_eq_true, decide_eq_true_eq, uint8_le_iff, UInt8.reduceToNat]

/-- The four ways `nextChar` reads a well-formed sequence, one per length. -/
theorem nextChar_one {b : UInt8} (hb : b.toNat < 128) (t : List UInt8) :
    nextChar (b :: t) = some (Char.ofNat b.toNat, t) := by
  simp (disch := omega) only [nextChar, uint8_lt_iff, UInt8.reduceToNat, if_pos]

theorem nextChar_two {b c : UInt8} (hb : 194 ≤ b.toNat ∧ b.toNat ≤ 223) (hc : isCont c = true)
    (t : List UInt8) :
    nextChar (b :: c :: t) = some (Char.ofNat (b.toNat % 32 * 64 + c.toNat % 64), t) := by
  simp (disch := omega) only [nextChar, uint8_lt_iff, uint8_le_iff, UInt8.reduceToNat, if_pos,
    if_neg, hc, if_true]

theorem nextChar_three {b c d : UInt8} (hb : 224 ≤ b.toNat ∧ b.toNat ≤ 239)
    (hc : second3 b c = true) (hd : isCont d = true) (t : List UInt8) :
    nextChar (b :: c :: d :: t) =
      some (Char.ofNat (b.toNat % 16 * 4096 + c.toNat % 64 * 64 + d.toNat % 64), t) := by
  simp (disch := omega) only [nextChar, uint8_lt_iff, uint8_le_iff, UInt8.reduceToNat, if_pos,
    if_neg, hc, hd, if_true]

theorem nextChar_four {b c d e : UInt8} (hb : 240 ≤ b.toNat ∧ b.toNat ≤ 244)
    (hc : second4 b c = true) (hd : isCont d = true) (he : isCont e = true) (t : List UInt8) :
    nextChar (b :: c :: d :: e :: t) =
      some (Char.ofNat (b.toNat % 8 * 262144 + c.toNat % 64 * 4096 + d.toNat % 64 * 64 +
        e.toNat % 64), t) := by
  simp (disch := omega) only [nextChar, uint8_lt_iff, uint8_le_iff, UInt8.reduceToNat, if_pos,
    if_neg, hc, hd, he, if_true]

end Branches

/-- The chunk loop for at most `fuel` steps; every step consumes a byte, so the length of the
input is enough. -/
def utf8LossyAux : Nat → List UInt8 → List Char
  | 0, _ => []
  | fuel + 1, l =>
    match nextChar l with
    | none => []
    | some (c, rest) => c :: utf8LossyAux fuel rest

def utf8Lossy (l : List UInt8) : List Char := utf8LossyAux l.length l

/-- `RawString`: the bytes of a name, without its length byte or its NUL. -/
structure RawString where
  bytes : List UInt8
  deriving DecidableEq

def RawString.len (s : RawString) : Nat := s.bytes.length

/-- `to_string()`, that is `String::from_utf8_lossy`. -/
def RawString.toString (s : RawString) : String := ⟨utf8Lossy s.bytes⟩

example : RawString.toString ⟨[42, 32, 67, 73, 76, 32, 42]⟩ = "* CIL *" := by decide

example : RawString.toString ⟨[0x61, 0xE2, 0x82, 0xAC, 0xE2, 0x82, 0x62]⟩ = "a€�b" := by decide

end PdbSymbols
