import PdbSymbols.Writer.SlotRecords

set_option autoImplicit false

/-!
# Writing the live-range records

A live-range record is its fixed fields, exactly `header - 4` bytes, then its gaps, four bytes
each. The decoder derives the gap count from the payload length, so the written record carries
no count and reads back every gap. Two of the records keep only some bits of a field: what they
write must fit those bits.
-/

namespace PdbSymbols

open ParseBuffer

def AddressRange.toBytes (r : AddressRange) : List UInt8 :=
  sectionOffsetBytes r.offset ++ u16Bytes r.cbRange

theorem AddressRange.reads_toBytes (r : AddressRange) (ys : List UInt8) :
    Reads parseAddressRange r.toBytes ys r :=
  (reads_sectionOffsetBytes r.offset _).bind ((reads_u16Bytes r.cbRange ys).bind_pure)

@[simp] theorem AddressRange.length_toBytes (r : AddressRange) : r.toBytes.length = 8 := by
  simp [AddressRange.toBytes, sectionOffsetBytes]

def AddressGap.toBytes (g : AddressGap) : List UInt8 :=
  u16Bytes g.gapStartOffset ++ u16Bytes g.cbRange

/-- The gaps as the decoder's loop reads them, one after the other. -/
def gapsBytes (gs : List AddressGap) : List UInt8 := gs.flatMap AddressGap.toBytes

theorem length_gapsBytes (gs : List AddressGap) : (gapsBytes gs).length = 4 * gs.length := by
  induction gs with
  | nil => rfl
  | cons g gs ih =>
    simp only [gapsBytes, List.flatMap_cons, List.length_append, List.length_cons] at ih ⊢
    simp only [AddressGap.toBytes, List.length_append, length_u16Bytes, ih]
    omega

theorem layoutGaps_gapsBytes (gs : List AddressGap) : layoutGaps (gapsBytes gs) = gs := by
  induction gs with
  | nil => rfl
  | cons g gs ih =>
    show (⟨UInt16.ofNat (ofLE (u16Bytes g.gapStartOffset)), UInt16.ofNat (ofLE (u16Bytes g.cbRange))⟩ ::
      layoutGaps (gapsBytes gs) : List AddressGap) = g :: gs
    rw [ofLE_u16Bytes, ofLE_u16Bytes, ih]

/-- Fixed fields of the header's width followed by written gaps: the count the decoder derives
is the number of gaps written, and it reads them all back. -/
theorem withGaps_gapsBytes {β α : Type} {header : Nat} {fields : Parse β} {xs : List UInt8} {f : β}
    (hf : ∀ ys, Reads fields xs ys f) (hxs : xs.length + 4 = header)
    (mk : β → List AddressGap → α) (gs : List AddressGap) :
    withGaps (xs ++ gapsBytes gs) header fields mk = pure (mk f gs, xs.length + 4 * gs.length) := by
  have hk : header - 4 = xs.length := by omega
  have hf' : ∀ ys, Reads fields ((xs ++ gapsBytes gs).take (header - 4)) ys f := by
    rw [hk, List.take_left]; exact hf
  rw [withGaps_eq _ header fields mk hf' (by omega) (by simp; omega), hk, List.drop_left,
    layoutGaps_gapsBytes]
  simp only [List.length_append, length_gapsBytes]
  congr 2
  omega

section Records

def DefRangeSymbol.write (v : DefRangeSymbol) : List UInt8 :=
  u16Bytes S_DEFRANGE ++ ((u32Bytes v.program ++ v.range.toBytes) ++ gapsBytes v.gaps)

theorem DefRangeSymbol.parse_write (v : DefRangeSymbol) (index : SymbolIndex) :
    (Symbol.mk index v.write).parse = some (.ok (.defRange v)) :=
  parse_written_checked (by decide : symbolArm S_DEFRANGE = some .defRange) (fun _ => rfl) index
    (by simp)
    (withGaps_gapsBytes (fun ys => (reads_u32Bytes v.program _).bind
      ((v.range.reads_toBytes ys).bind_pure)) (by simp) _ v.gaps)
    rfl

def DefRangeSubFieldSymbol.write (v : DefRangeSubFieldSymbol) : List UInt8 :=
  u16Bytes S_DEFRANGE_SUBFIELD ++
    ((u32Bytes v.program ++ (u32Bytes v.parentOffset ++ v.range.toBytes)) ++ gapsBytes v.gaps)

theorem DefRangeSubFieldSymbol.parse_write (v : DefRangeSubFieldSymbol) (index : SymbolIndex) :
    (Symbol.mk index v.write).parse = some (.ok (.defRangeSubField v)) :=
  parse_written_checked (by decide : symbolArm S_DEFRANGE_SUBFIELD = some .defRangeSubField)
    (fun _ => rfl) index (by simp)
    (withGaps_gapsBytes (fun ys => (reads_u32Bytes v.program _).bind
      ((reads_u32Bytes v.parentOffset _).bind ((v.range.reads_toBytes ys).bind_pure)))
      (by simp) _ v.gaps)
    rfl

def DefRangeRegisterSymbol.write (v : DefRangeRegisterSymbol) : List UInt8 :=
  u16Bytes S_DEFRANGE_REGISTER ++
    ((u16Bytes v.register.val ++ (u16Bytes v.flags.toRaw ++ v.range.toBytes)) ++ gapsBytes v.gaps)

theorem DefRangeRegisterSymbol.parse_write (v : DefRangeRegisterSymbol) (index : SymbolIndex) :
    (Symbol.mk index v.write).parse = some (.ok (.defRangeRegister v)) :=
  parse_written_checked (by decide : symbolArm S_DEFRANGE_REGISTER = some .defRangeRegister)
    (fun _ => rfl) index (by simp)
    (withGaps_gapsBytes (fun ys => ((reads_u16Bytes v.register.val _).map Register.mk).bind
      ((v.flags.reads_toRaw _).bind ((v.range.reads_toBytes ys).bind_pure))) (by simp) _ v.gaps)
    rfl

def DefRangeFramePointerRelativeSymbol.write (v : DefRangeFramePointerRelativeSymbol) :
    List UInt8 :=
  u16Bytes S_DEFRANGE_FRAMEPOINTER_REL ++
    ((toLE 4 v.offset.toNat ++ v.range.toBytes) ++ gapsBytes v.gaps)

theorem DefRangeFramePointerRelativeSymbol.parse_write (v : DefRangeFramePointerRelativeSymbol)
    (index : SymbolIndex) :
    (Symbol.mk index v.write).parse = some (.ok (.defRangeFramePointerRelative v)) :=
  parse_written_checked
    (by decide : symbolArm S_DEFRANGE_FRAMEPOINTER_REL = some .defRangeFramePointerRelative)
    (fun _ => rfl) index (List.ne_nil_of_length_pos (by simp))
    (withGaps_gapsBytes (fun ys => (reads_parseI 4 v.offset _).bind
      ((v.range.reads_toBytes ys).bind_pure)) (by simp) _ v.gaps)
    rfl

def DefRangeFramePointerRelativeFullScopeSymbol.write
    (v : DefRangeFramePointerRelativeFullScopeSymbol) : List UInt8 :=
  u16Bytes S_DEFRANGE_FRAMEPOINTER_REL_FULL_SCOPE ++ toLE 4 v.offset.toNat

theorem DefRangeFramePointerRelativeFullScopeSymbol.parse_write
    (v : DefRangeFramePointerRelativeFullScopeSymbol) (index : SymbolIndex) :
    (Symbol.mk index v.write).parse = some (.ok (.defRangeFramePointerRelativeFullScope v)) :=
  parse_written (by decide : symbolArm S_DEFRANGE_FRAMEPOINTER_REL_FULL_SCOPE =
      some .defRangeFramePointerRelativeFullScope) (fun _ => rfl) index
    (List.ne_nil_of_length_pos (by simp)) ((reads_parseI 4 v.offset []).map _) rfl

/-- The parent offset of `S_DEFRANGE_SUBFIELD_REGISTER` is read through a 12-bit mask. -/
def DefRangeSubFieldRegisterSymbol.Writable (v : DefRangeSubFieldRegisterSymbol) : Prop :=
  v.offset.toNat < 0x1000

instance DefRangeSubFieldRegisterSymbol.decidableWritable (v : DefRangeSubFieldRegisterSymbol) :
    Decidable v.Writable :=
  inferInstanceAs (Decidable (v.offset.toNat < 0x1000))

def DefRangeSubFieldRegisterSymbol.write (v : DefRangeSubFieldRegisterSymbol) : List UInt8 :=
  u16Bytes S_DEFRANGE_SUBFIELD_REGISTER ++ ((u16Bytes v.register.val ++ (u16Bytes v.flags.toRaw ++
    (u32Bytes v.offset ++ v.range.toBytes))) ++ gapsBytes v.gaps)

theorem uint32_and_mask12 {u : UInt32} (h : u.toNat < 0x1000) : u &&& 0xFFF = u := by
  apply UInt32.toNat.inj
  rw [UInt32.and_toNat, show (0xFFF : UInt32).toNat = 2 ^ 12 - 1 from rfl,
    Nat.and_pow_two_sub_one_eq_mod, Nat.mod_eq_of_lt h]

theorem DefRangeSubFieldRegisterSymbol.parse_write {v : DefRangeSubFieldRegisterSymbol}
    (hv : v.Writable) (index : SymbolIndex) :
    (Symbol.mk index v.write).parse = some (.ok (.defRangeSubFieldRegister v)) := by
  refine parse_written_checked
    (by decide : symbolArm S_DEFRANGE_SUBFIELD_REGISTER = some .defRangeSubFieldRegister)
    (fun _ => rfl) index (by simp)
    (withGaps_gapsBytes (fun ys => ((reads_u16Bytes v.register.val _).map Register.mk).bind
      ((v.flags.reads_toRaw _).bind ((reads_u32Bytes v.offset _).bind
        ((v.range.reads_toBytes ys).bind_pure)))) (by simp) _ v.gaps) ?_
  rw [uint32_and_mask12 hv]

/-- The bit field of `S_DEFRANGE_REGISTER_REL` holds the spilled flag in bit 0 and the parent
offset in bits 4 to 15. -/
def DefRangeRegisterRelativeSymbol.Writable (v : DefRangeRegisterRelativeSymbol) : Prop :=
  v.spilledUdtMember.toNat < 2 ∧ v.offsetParent.toNat < 0x1000

instance DefRangeRegisterRelativeSymbol.decidableWritable (v : DefRangeRegisterRelativeSymbol) :
    Decidable v.Writable :=
  inferInstanceAs (Decidable (v.spilledUdtMember.toNat < 2 ∧ v.offsetParent.toNat < 0x1000))

def DefRangeRegisterRelativeSymbol.bitfield (v : DefRangeRegisterRelativeSymbol) : UInt16 :=
  UInt16.ofNat (v.spilledUdtMember.toNat + 16 * v.offsetParent.toNat)

theorem DefRangeRegisterRelativeSymbol.bitfield_fields {v : DefRangeRegisterRelativeSymbol}
    (hv : v.Writable) :
    v.bitfield &&& 0x1 = v.spilledUdtMember ∧ (v.bitfield >>> 4) &&& 0xFFF = v.offsetParent := by
  obtain ⟨hs, ho⟩ := hv
  have hb : v.bitfield.toNat = v.spilledUdtMember.toNat + 16 * v.offsetParent.toNat :=
    UInt16.toNat_ofNat_of_lt (by show _ < 65536; omega)
  constructor <;> apply UInt16.toNat.inj
  · rw [UInt16.and_toNat, show (0x1 : UInt16).toNat = 2 ^ 1 - 1 from rfl,
      Nat.and_pow_two_sub_one_eq_mod, hb]
    omega
  · rw [UInt16.and_toNat, uint16_toNat_shiftRight, show (0xFFF : UInt16).toNat = 2 ^ 12 - 1 from rfl,
      Nat.and_pow_two_sub_one_eq_mod, hb, Nat.shiftRight_eq_div_pow]
    show (_ + 16 * _) / 16 % 4096 = _
    omega

def DefRangeRegisterRelativeSymbol.write (v : DefRangeRegisterRelativeSymbol) : List UInt8 :=
  u16Bytes S_DEFRANGE_REGISTER_REL ++ ((u16Bytes v.baseRegister.val ++ (u16Bytes v.bitfield ++
    (toLE 4 v.offsetBasePointer.toNat ++ v.range.toBytes))) ++ gapsBytes v.gaps)

theorem DefRangeRegisterRelativeSymbol.parse_write {v : DefRangeRegisterRelativeSymbol}
    (hv : v.Writable) (index : SymbolIndex) :
    (Symbol.mk index v.write).parse = some (.ok (.defRangeRegisterRelative v)) := by
  obtain ⟨hspilled, hparent⟩ := DefRangeRegisterRelativeSymbol.bitfield_fields hv
  refine parse_written_checked
    (by decide : symbolArm S_DEFRANGE_REGISTER_REL = some .defRangeRegisterRelative)
    (fun _ => rfl) index (by simp)
    (withGaps_gapsBytes (fun ys => ((reads_u16Bytes v.baseRegister.val _).map Register.mk).bind
      ((reads_u16Bytes v.bitfield _).bind ((reads_parseI 4 v.offsetBasePointer _).bind
        ((v.range.reads_toBytes ys).bind_pure)))) (by simp) _ v.gaps) ?_
  rw [hspilled, hparent]

end Records

end PdbSymbols
