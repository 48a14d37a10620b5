import PdbSymbols.NameRoundTrip

set_option autoImplicit false

/-!
# Writing a field

The writer's side of the record layouts: for each field the decoders read, the bytes of a value
and the `Reads` judgment that reads them back as that value. A flag struct is written as the word
whose bit `i` is its `i`-th flag; an optional index or module as 0 for none; a name as its UTF-8
bytes and a NUL, the name encoding of every kind from `S_ST_MAX` on, the kinds the writer uses.
-/

namespace PdbSymbols

open ParseBuffer

section Bits

/-- The word whose bit `i` is the `i`-th flag of the list. -/
def bitsToNat : List Bool → Nat
  | [] => 0
  | b :: bs => b.toNat + 2 * bitsToNat bs

theorem bitsToNat_lt (bs : List Bool) : bitsToNat bs < 2 ^ bs.length := by
  induction bs with
  | nil => decide
  | cons b bs ih =>
    have := Bool.toNat_le b
    rw [bitsToNat, List.length_cons, Nat.pow_succ]
    omega

theorem testBit_bitsToNat (bs : List Bool) (i : Nat) :
    (bitsToNat bs).testBit i = bs.getD i false := by
  induction bs generalizing i with
  | nil => simp [bitsToNat]
  | cons b bs ih =>
    have := Bool.toNat_le b
    cases i with
    | zero => cases b <;> simp [bitsToNat, Nat.add_mod]
    | succ i =>
      rw [Nat.testBit_succ, bitsToNat, show (b.toNat + 2 * bitsToNat bs) / 2 = bitsToNat bs by omega,
        ih]
      rfl

theorem bitsToNat_lt_of_length_le {bs : List Bool} {k : Nat} (h : bs.length ≤ k) :
    bitsToNat bs < 2 ^ k :=
  lt_of_lt_of_le (bitsToNat_lt bs) (Nat.pow_le_pow_right (by decide) h)

end Bits

section Flags

/-- `ProcedureFlags` as the byte the `CV_PFLAG_*` constants name. -/
def ProcedureFlags.toRaw (f : ProcedureFlags) : UInt8 :=
  UInt8.ofNat (bitsToNat [f.nofpo, f.int, f.far, f.never, f.notreached, f.custCall, f.noinline,
    f.optdbginfo])

theorem ProcedureFlags.reads_toRaw (f : ProcedureFlags) (ys : List UInt8) :
    Reads parseProcedureFlags [f.toRaw] ys f := by
  have h : Reads parseProcedureFlags [f.toRaw] ys _ := (reads_parseU8 f.toRaw ys).bind_pure
  have hraw : f.toRaw.toNat = bitsToNat [f.nofpo, f.int, f.far, f.never, f.notreached, f.custCall,
      f.noinline, f.optdbginfo] := UInt8.toNat_ofNat_of_lt (bitsToNat_lt_of_length_le (k := 8) (by simp))
  simp only [uint8_and_bne_zero f.toRaw CV_PFLAG_NOFPO (i := 0) rfl,
    uint8_and_bne_zero f.toRaw CV_PFLAG_INT (i := 1) rfl,
    uint8_and_bne_zero f.toRaw CV_PFLAG_FAR (i := 2) rfl,
    uint8_and_bne_zero f.toRaw CV_PFLAG_NEVER (i := 3) rfl,
    uint8_and_bne_zero f.toRaw CV_PFLAG_NOTREACHED (i := 4) rfl,
    uint8_and_bne_zero f.toRaw CV_PFLAG_CUST_CALL (i := 5) rfl,
    uint8_and_bne_zero f.toRaw CV_PFLAG_NOINLINE (i := 6) rfl,
    uint8_and_bne_zero f.toRaw CV_PFLAG_OPTDBGINFO (i := 7) rfl, hraw, testBit_bitsToNat] at h
  exact h

/-- `LocalVariableFlags` as the word the `CV_LVARFLAG_*` constants name. -/
def LocalVariableFlags.toRaw (f : LocalVariableFlags) : UInt16 :=
  UInt16.ofNat (bitsToNat [f.isparam, f.addrtaken, f.compgenx, f.isaggregate, f.isaliased,
    f.isalias, f.isretvalue, f.isoptimizedout, f.isenregGlob, f.isenregStat])

theorem LocalVariableFlags.reads_toRaw (f : LocalVariableFlags) (ys : List UInt8) :
    Reads parseLocalVariableFlags (u16Bytes f.toRaw) ys f := by
  have h : Reads parseLocalVariableFlags (u16Bytes f.toRaw) ys _ :=
    (reads_u16Bytes f.toRaw ys).bind_pure
  have hraw : f.toRaw.toNat = bitsToNat [f.isparam, f.addrtaken, f.compgenx, f.isaggregate,
      f.isaliased, f.isalias, f.isretvalue, f.isoptimizedout, f.isenregGlob, f.isenregStat] :=
    UInt16.toNat_ofNat_of_lt (bitsToNat_lt_of_length_le (k := 16) (by simp))
  simp only [uint16_and_bne_zero f.toRaw CV_LVARFLAG_ISPARAM (i := 0) rfl,
    uint16_and_bne_zero f.toRaw CV_LVARFLAG_ADDRTAKEN (i := 1) rfl,
    uint16_and_bne_zero f.toRaw CV_LVARFLAG_COMPGENX (i := 2) rfl,
    uint16_and_bne_zero f.toRaw CV_LVARFLAG_ISAGGREGATE (i := 3) rfl,
    uint16_and_bne_zero f.toRaw CV_LVARFLAG_ISALIASED (i := 4) rfl,
    uint16_and_bne_zero f.toRaw CV_LVARFLAG_ISALIAS (i := 5) rfl,
    uint16_and_bne_zero f.toRaw CV_LVARFLAG_ISRETVALUE (i := 6) rfl,
    uint16_and_bne_zero f.toRaw CV_LVARFLAG_ISOPTIMIZEDOUT (i := 7) rfl,
    uint16_and_bne_zero f.toRaw CV_LVARFLAG_ISENREG_GLOB (i := 8) rfl,
    uint16_and_bne_zero f.toRaw CV_LVARFLAG_ISENREG_STAT (i := 9) rfl, hraw, testBit_bitsToNat] at h
  exact h

/-- `ExportSymbolFlags` as the word its six bits name. -/
def ExportSymbolFlags.toRaw (f : ExportSymbolFlags) : UInt16 :=
  UInt16.ofNat (bitsToNat [f.constant, f.data, f.private, f.noName, f.ordinal, f.forwarder])

theorem ExportSymbolFlags.reads_toRaw (f : ExportSymbolFlags) (ys : List UInt8) :
    Reads parseExportSymbolFlags (u16Bytes f.toRaw) ys f := by
  have h : Reads parseExportSymbolFlags (u16Bytes f.toRaw) ys _ :=
    (reads_u16Bytes f.toRaw ys).bind_pure
  have hraw : f.toRaw.toNat = bitsToNat [f.constant, f.data, f.private, f.noName, f.ordinal,
      f.forwarder] := UInt16.toNat_ofNat_of_lt (bitsToNat_lt_of_length_le (k := 16) (by simp))
  simp only [uint16_and_bne_zero f.toRaw 0x01 (i := 0) rfl, uint16_and_bne_zero f.toRaw 0x02 (i := 1) rfl,
    uint16_and_bne_zero f.toRaw 0x04 (i := 2) rfl, uint16_and_bne_zero f.toRaw 0x08 (i := 3) rfl,
    uint16_and_bne_zero f.toRaw 0x10 (i := 4) rfl, uint16_and_bne_zero f.toRaw 0x20 (i := 5) rfl,
    hraw, testBit_bitsToNat] at h
  exact h

/-- `RangeFlags` as the word its one bit names. -/
def RangeFlags.toRaw (f : RangeFlags) : UInt16 := UInt16.ofNat (bitsToNat [f.maybe])

theorem RangeFlags.reads_toRaw (f : RangeFlags) (ys : List UInt8) :
    Reads parseRangeFlags (u16Bytes f.toRaw) ys f := by
  have h : Reads parseRangeFlags (u16Bytes f.toRaw) ys _ := (reads_u16Bytes f.toRaw ys).bind_pure
  have hraw : f.toRaw.toNat = bitsToNat [f.maybe] :=
    UInt16.toNat_ofNat_of_lt (bitsToNat_lt_of_length_le (k := 16) (by simp))
  simp only [uint16_and_bne_zero f.toRaw 0x01 (i := 0) rfl, hraw, testBit_bitsToNat] at h
  exact h

end Flags

section Indexes

/-- A section-relative offset on the wire: the `u32` offset, then the `u16` section. -/
def sectionOffsetBytes (o : PdbInternalSectionOffset) : List UInt8 :=
  u32Bytes o.offset ++ u16Bytes o.section

theorem reads_sectionOffsetBytes (o : PdbInternalSectionOffset) (ys : List UInt8) :
    Reads parseSectionOffset (sectionOffsetBytes o) ys o :=
  reads_parseSectionOffset o.offset o.section ys

/-- The raw index written for an optional index: 0 for none. -/
def optionalIndexRaw : Option SymbolIndex → UInt32
  | none => 0
  | some i => i.val

/-- An optional index other than `Some(0)` reads back: 0 is the one index that reads as none. -/
theorem reads_optionalIndexRaw {o : Option SymbolIndex} (h : o ≠ some ⟨0⟩) (ys : List UInt8) :
    Reads parseOptionalIndex (u32Bytes (optionalIndexRaw o)) ys o := by
  have hr := reads_parseOptionalIndex (optionalIndexRaw o) ys
  rcases o with _ | ⟨⟨i⟩⟩
  · exact hr
  · have hi : i ≠ 0 := fun h0 => h (by rw [h0])
    rwa [optionalIndexRaw, if_neg hi] at hr

/-- The raw 1-based module written for a module: 0 for none. -/
def moduleRaw : Option Nat → UInt16
  | none => 0
  | some m => UInt16.ofNat (m + 1)

/-- The modules a `u16` holds one-based. -/
def ModuleFits : Option Nat → Prop
  | none => True
  | some m => m + 1 < 2 ^ 16

instance decidableModuleFits (m : Option Nat) : Decidable (ModuleFits m) :=
  match m with
  | none => inferInstanceAs (Decidable True)
  | some m => inferInstanceAs (Decidable (m + 1 < 2 ^ 16))

theorem reads_moduleRaw {m : Option Nat} (h : ModuleFits m) (ys : List UInt8) :
    Reads parseModuleIndex (u16Bytes (moduleRaw m)) ys m := by
  have hr := reads_parseModuleIndex (moduleRaw m) ys
  rcases m with _ | m
  · exact hr
  · have hm : (UInt16.ofNat (m + 1)).toNat = m + 1 := UInt16.toNat_ofNat_of_lt h
    rwa [moduleRaw, if_neg (fun h0 => by rw [h0] at hm; exact absurd hm (by simp)), hm,
      Nat.add_sub_cancel] at hr

end Indexes

section Numbers

/-- The wire bytes of a `u64`. -/
def u64Bytes (x : UInt64) : List UInt8 := toLE 8 x.toNat

theorem reads_u64Bytes (x : UInt64) (ys : List UInt8) : Reads parseU64 (u64Bytes x) ys x := by
  have h := (reads_parseLE (u64Bytes x) ys).map UInt64.ofNat
  rwa [u64Bytes, length_toLE, ofLE_toLE, Nat.mod_eq_of_lt (x.toNat_lt_size.trans_le (by decide)),
    show UInt64.ofNat x.toNat = x from UInt64.toNat.inj (UInt64.toNat_ofNat_of_lt x.toNat_lt_size)] at h

/-- A signed integer of `w` bytes, as its two's complement bits. -/
theorem reads_parseI (w : Nat) (x : BitVec (8 * w)) (ys : List UInt8) :
    Reads (parseI w) (toLE w x.toNat) ys x := by
  have h := (reads_parseLE (toLE w x.toNat) ys).map (BitVec.ofNat (8 * w))
  have hx : x.toNat % 256 ^ w = x.toNat :=
    Nat.mod_eq_of_lt (by rw [show 256 ^ w = 2 ^ (8 * w) by rw [Nat.pow_mul]]; exact x.isLt)
  rwa [length_toLE, ofLE_toLE, hx, BitVec.ofNat_toNat, BitVec.setWidth_eq] at h

/-- A constant's value as the numeric leaf of its type and the value at that width. No leaf
decodes to an `i8`, so it has none. -/
def Variant.toBytes : Variant → List UInt8
  | .u8 v => u16Bytes LF_CHAR ++ [v]
  | .u16 v => u16Bytes LF_USHORT ++ u16Bytes v
  | .u32 v => u16Bytes LF_ULONG ++ u32Bytes v
  | .u64 v => u16Bytes LF_UQUADWORD ++ u64Bytes v
  | .i8 _ => []
  | .i16 v => u16Bytes LF_SHORT ++ toLE 2 v.toNat
  | .i32 v => u16Bytes LF_LONG ++ toLE 4 v.toNat
  | .i64 v => u16Bytes LF_QUADWORD ++ toLE 8 v.toNat

/-- The values a numeric leaf can carry: every one but an `i8`. -/
def Variant.Writable : Variant → Prop
  | .i8 _ => False
  | _ => True

instance Variant.decidableWritable (v : Variant) : Decidable v.Writable :=
  match v with
  | .i8 _ => inferInstanceAs (Decidable False)
  | .u8 _ | .u16 _ | .u32 _ | .u64 _ | .i16 _ | .i32 _ | .i64 _ => inferInstanceAs (Decidable True)

theorem reads_parseVariant {v : Variant} (hv : v.Writable) (ys : List UInt8) :
    Reads parseVariant v.toBytes ys v := by
  cases v with
  | u8 v => exact (reads_u16Bytes LF_CHAR _).bind ((reads_parseU8 v ys).map _)
  | u16 v => exact (reads_u16Bytes LF_USHORT _).bind ((reads_u16Bytes v ys).map _)
  | u32 v => exact (reads_u16Bytes LF_ULONG _).bind ((reads_u32Bytes v ys).map _)
  | u64 v => exact (reads_u16Bytes LF_UQUADWORD _).bind ((reads_u64Bytes v ys).map _)
  | i8 => exact hv.elim
  | i16 v => exact (reads_u16Bytes LF_SHORT _).bind ((reads_parseI 2 v ys).map _)
  | i32 v => exact (reads_u16Bytes LF_LONG _).bind ((reads_parseI 4 v ys).map _)
  | i64 v => exact (reads_u16Bytes LF_QUADWORD _).bind ((reads_parseI 8 v ys).map _)

end Numbers

section Names

/-- A name a NUL-terminated field can carry. -/
def NulFree (s : String) : Prop := '\x00' ∉ s.data

instance decidableNulFree (s : String) : Decidable (NulFree s) :=
  inferInstanceAs (Decidable ('\x00' ∉ s.data))

/-- A name as the writer lays it out: its UTF-8 bytes and a NUL. -/
def cName (s : String) : List UInt8 := s.toUTF8.data.toList ++ [0]

theorem reads_cName {kind : SymbolKind} (hk : ¬kind < S_ST_MAX) {s : String} (hs : NulFree s)
    (ys : List UInt8) : Reads (parseSymbolName kind) (cName s) ys ⟨s.toUTF8.data.toList⟩ :=
  reads_parseSymbolName_modern ys hk (zero_not_mem_toUTF8 hs)

theorem reads_parseCString_cName {s : String} (hs : NulFree s) (ys : List UInt8) :
    Reads parseCString (cName s) ys ⟨s.toUTF8.data.toList⟩ :=
  reads_parseCString ys (zero_not_mem_toUTF8 hs)

theorem reads_optionalName_cName {kind : SymbolKind} (hk : ¬kind < S_ST_MAX) {s : String}
    (hs : NulFree s) (ys : List UInt8) :
    Reads (parseOptionalName kind) (cName s) ys (some ⟨s.toUTF8.data.toList⟩) :=
  reads_parseOptionalName ys hk (zero_not_mem_toUTF8 hs)

@[simp] theorem cName_ne_nil (s : String) : cName s ≠ [] := by simp [cName]

end Names

@[simp] theorem u16Bytes_ne_nil (x : UInt16) : u16Bytes x ≠ [] :=
  List.ne_nil_of_length_pos (by simp)

@[simp] theorem u32Bytes_ne_nil (x : UInt32) : u32Bytes x ≠ [] :=
  List.ne_nil_of_length_pos (by simp)

/-- A decoder run through `parse_with` reads what the decoder reads on its own. -/
theorem reads_parseWith {α : Type} {dec : List UInt8 → Except Error (α × Nat)} {xs ys : List UInt8}
    {a : α} (hne : xs ≠ []) (hd : dec (xs ++ ys) = .ok (a, xs.length)) :
    Reads (parseWith dec) xs ys a := fun b hb => by
  rw [parseWith, len_eq, hb, if_neg (by simp [hne]), hd]
  rfl

/-- A record the writer lays out as a kind and a payload that the kind's decoder reads whole
parses as the value it was written from. -/
theorem parse_written {α : Type} {kind : SymbolKind} {arm : SymbolArm} {p : Parse α}
    {mk : α → SymbolData} (harm : symbolArm kind = some arm)
    (hdec : ∀ b, decodeArm kind b arm = decodeWith mk (Parse.run · p) b) (index : SymbolIndex)
    {payload : List UInt8} (hne : payload ≠ []) {a : α} (hp : Reads p payload [] a)
    {v : SymbolData} (hv : mk a = v) :
    (Symbol.mk index (u16Bytes kind ++ payload)).parse = some (.ok v) :=
  hv ▸ parse_of_reads_all harm hdec index hne hp

/-- The same for a decoder given by its result on the payload. -/
theorem parse_written_ok {α : Type} {kind : SymbolKind} {arm : SymbolArm} {mk : α → SymbolData}
    {dec : List UInt8 → Except Error (α × Nat)} (harm : symbolArm kind = some arm)
    (hdec : ∀ b, decodeArm kind b arm = decodeWith mk dec b) (index : SymbolIndex)
    {payload : List UInt8} (hne : payload ≠ []) {a : α} {n : Nat} (hd : dec payload = .ok (a, n))
    {v : SymbolData} (hv : mk a = v) :
    (Symbol.mk index (u16Bytes kind ++ payload)).parse = some (.ok v) :=
  hv ▸ parse_of_decode_ok harm hdec index hne hd

/-- The same for a decoder that can panic, written so that it returns a value. -/
theorem parse_written_checked {α : Type} {kind : SymbolKind} {arm : SymbolArm}
    {mk : α → SymbolData} {dec : List UInt8 → Checked (α × Nat)} (harm : symbolArm kind = some arm)
    (hdec : ∀ b, decodeArm kind b arm = decodeWithChecked mk dec b) (index : SymbolIndex)
    {payload : List UInt8} (hne : payload ≠ []) {a : α} {n : Nat} (hd : dec payload = pure (a, n))
    {v : SymbolData} (hv : mk a = v) :
    (Symbol.mk index (u16Bytes kind ++ payload)).parse = some (.ok v) := by
  rw [parse_of_decodeWithChecked harm hdec index hne, hd, ← hv]
  rfl

end PdbSymbols
