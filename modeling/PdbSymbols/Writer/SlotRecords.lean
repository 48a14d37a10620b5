import PdbSymbols.Writer.Fields

set_option autoImplicit false

/-!
# Writing the records with a sniffed slot

The four decoders that look past the name for a slot (§4.3) take one when the record holds at
least six bytes past its fixed fields and name and the byte at the marker offset is `$`. The
marker offset lies four bytes past the name's NUL, so a writer puts a slot as four bytes of
padding, the `$` and the `i32`, and no slot as nothing at all: too short to be sniffed.
-/

namespace PdbSymbols

open ParseBuffer

/-- The bytes after the name that carry a slot, or nothing for none. -/
def slotBytes : Option (BitVec 32) → List UInt8
  | none => []
  | some slot => [0, 0, 0, 0, 0x24] ++ toLE 4 slot.toNat

/-- The sniff finds exactly the slot that was written: whatever the slot, the fixed fields and
the name read as written and the decoder returns the slot. -/
theorem withSlot_slotBytes {α β : Type} {fields : Parse (α × RawString)} {fixed marker : Nat}
    (hm : marker + 3 = fixed + 6) {xs : List UInt8} {head : α} {name : RawString}
    (hxs : xs.length + 1 = name.len + fixed) (hf : ∀ ys, Reads fields xs ys (head, name))
    (mk : α → String → Option (BitVec 32) → β) (slot : Option (BitVec 32)) :
    withSlot (xs ++ slotBytes slot) fields fixed marker (marker + 1) mk =
      pure (mk head name.toString slot, xs.length) := by
  simp only [withSlot, (hf (slotBytes slot)).run, Checked.ofExcept_eq, Checked.ok_bind]
  rw [parseSlot_eq _ _ fixed marker hm]
  cases slot with
  | none => rw [if_neg (by simp [slotBytes]; omega)]; rfl
  | some slot =>
    have hmark : (xs ++ slotBytes (some slot))[name.len + marker]? = some 0x24 := by
      rw [List.getElem?_append_right (by omega), show name.len + marker - xs.length = 4 by omega]
      rfl
    have hslot : ((xs ++ slotBytes (some slot)).drop (name.len + marker + 1)).take 4 =
        toLE 4 slot.toNat := by
      rw [show name.len + marker + 1 = xs.length + 5 by omega, List.drop_append]
      exact List.take_of_length_le (by simp [slotBytes])
    have hval : BitVec.ofNat 32 (ofLE (toLE 4 slot.toNat)) = slot := by
      rw [ofLE_toLE, Nat.mod_eq_of_lt (show slot.toNat < 256 ^ 4 from slot.isLt),
        BitVec.ofNat_toNat, BitVec.setWidth_eq]
    rw [if_pos ⟨by simp [slotBytes]; omega, hmark⟩, if_pos (by simp [slotBytes]; omega), hslot, hval]
    rfl

theorem length_cName (s : String) : (cName s).length = (RawString.mk s.toUTF8.data.toList).len + 1 := by
  simp [cName, RawString.len]

def RegisterVariableSymbol.write (v : RegisterVariableSymbol) : List UInt8 :=
  u16Bytes S_REGISTER ++ ((u32Bytes v.typeIndex.val ++ (u16Bytes v.register.val ++ cName v.name)) ++
    slotBytes v.slot)

theorem RegisterVariableSymbol.parse_write {v : RegisterVariableSymbol} (hv : NulFree v.name)
    (index : SymbolIndex) : (Symbol.mk index v.write).parse = some (.ok (.registerVariable v)) := by
  obtain ⟨⟨t⟩, ⟨r⟩, name, slot⟩ := v
  exact parse_written_checked (by decide : symbolArm S_REGISTER = some .registerVariable)
    (fun _ => rfl) index (by simp)
    (withSlot_slotBytes rfl (by simp [length_cName]; omega) (fun ys => (reads_parseTypeIndex t _).bind
      (((reads_u16Bytes r _).map Register.mk).bind ((reads_cName (by decide) hv ys).bind_pure))) _ slot)
    (by rw [toString_toUTF8])

def LocalSymbol.write (v : LocalSymbol) : List UInt8 :=
  u16Bytes S_LOCAL ++ ((u32Bytes v.typeIndex.val ++ (u16Bytes v.flags.toRaw ++ cName v.name)) ++
    slotBytes v.slot)

theorem LocalSymbol.parse_write {v : LocalSymbol} (hv : NulFree v.name) (index : SymbolIndex) :
    (Symbol.mk index v.write).parse = some (.ok (.«local» v)) := by
  obtain ⟨⟨t⟩, flags, name, slot⟩ := v
  exact parse_written_checked (by decide : symbolArm S_LOCAL = some .«local») (fun _ => rfl) index
    (by simp)
    (withSlot_slotBytes rfl (by simp [length_cName]; omega) (fun ys => (reads_parseTypeIndex t _).bind
      ((flags.reads_toRaw _).bind ((reads_cName (by decide) hv ys).bind_pure))) _ slot)
    (by rw [toString_toUTF8])

def RegisterRelativeSymbol.write (v : RegisterRelativeSymbol) : List UInt8 :=
  u16Bytes S_REGREL32 ++ ((toLE 4 v.offset.toNat ++ (u32Bytes v.typeIndex.val ++
    (u16Bytes v.register.val ++ cName v.name))) ++ slotBytes v.slot)

theorem RegisterRelativeSymbol.parse_write {v : RegisterRelativeSymbol} (hv : NulFree v.name)
    (index : SymbolIndex) : (Symbol.mk index v.write).parse = some (.ok (.registerRelative v)) := by
  obtain ⟨offset, ⟨t⟩, ⟨r⟩, name, slot⟩ := v
  exact parse_written_checked (by decide : symbolArm S_REGREL32 = some .registerRelative)
    (fun _ => rfl) index (List.ne_nil_of_length_pos (by simp))
    (withSlot_slotBytes rfl (by simp [length_cName]; omega) (fun ys => (reads_parseI 4 offset _).bind
      ((reads_parseTypeIndex t _).bind (((reads_u16Bytes r _).map Register.mk).bind
        ((reads_cName (by decide) hv ys).bind_pure)))) _ slot)
    (by rw [toString_toUTF8])

def BasePointerRelativeSymbol.write (v : BasePointerRelativeSymbol) : List UInt8 :=
  u16Bytes S_BPREL32 ++ ((toLE 4 v.offset.toNat ++ (u32Bytes v.typeIndex.val ++ cName v.name)) ++
    slotBytes v.slot)

theorem BasePointerRelativeSymbol.parse_write {v : BasePointerRelativeSymbol} (hv : NulFree v.name)
    (index : SymbolIndex) :
    (Symbol.mk index v.write).parse = some (.ok (.basePointerRelative v)) := by
  obtain ⟨offset, ⟨t⟩, name, slot⟩ := v
  exact parse_written_checked (by decide : symbolArm S_BPREL32 = some .basePointerRelative)
    (fun _ => rfl) index (List.ne_nil_of_length_pos (by simp))
    (withSlot_slotBytes rfl (by simp [length_cName]; omega) (fun ys => (reads_parseI 4 offset _).bind
      ((reads_parseTypeIndex t _).bind ((reads_cName (by decide) hv ys).bind_pure))) _ slot)
    (by rw [toString_toUTF8])

end PdbSymbols
