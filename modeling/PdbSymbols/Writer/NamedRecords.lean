import PdbSymbols.Writer.Fields

set_option autoImplicit false

/-!
# Writing the named records

For each record of `NamedRecords`, the body a writer lays out for a value (the kind, then the
fields in the order the decoder reads them) and the values it can lay out, and the law that
`Symbol::parse` gives the value back. A writer uses the kinds from `S_ST_MAX` on; where the
decoder derives a flag from the kind (`global`, `managed`), the writer picks the kind from it.
-/

namespace PdbSymbols

section Plain

def ObjNameSymbol.write (v : ObjNameSymbol) : List UInt8 :=
  u16Bytes S_OBJNAME ++ (u32Bytes v.signature ++ cName v.name)

theorem ObjNameSymbol.parse_write {v : ObjNameSymbol} (hv : NulFree v.name) (index : SymbolIndex) :
    (Symbol.mk index v.write).parse = some (.ok (.objName v)) := by
  obtain ⟨signature, name⟩ := v
  exact parse_written (by decide : symbolArm S_OBJNAME = some .objName) (fun _ => rfl) index
    (by simp) ((reads_u32Bytes signature _).bind ((reads_cName (by decide) hv []).bind_pure))
    (by rw [toString_toUTF8])

def UserDefinedTypeSymbol.write (v : UserDefinedTypeSymbol) : List UInt8 :=
  u16Bytes S_UDT ++ (u32Bytes v.typeIndex.val ++ cName v.name)

theorem UserDefinedTypeSymbol.parse_write {v : UserDefinedTypeSymbol} (hv : NulFree v.name)
    (index : SymbolIndex) : (Symbol.mk index v.write).parse = some (.ok (.userDefinedType v)) := by
  obtain ⟨⟨t⟩, name⟩ := v
  exact parse_written (by decide : symbolArm S_UDT = some .userDefinedType) (fun _ => rfl) index
    (by simp) ((reads_parseTypeIndex t _).bind ((reads_cName (by decide) hv []).bind_pure))
    (by rw [toString_toUTF8])

def UsingNamespaceSymbol.write (v : UsingNamespaceSymbol) : List UInt8 :=
  u16Bytes S_UNAMESPACE ++ cName v.name

theorem UsingNamespaceSymbol.parse_write {v : UsingNamespaceSymbol} (hv : NulFree v.name)
    (index : SymbolIndex) : (Symbol.mk index v.write).parse = some (.ok (.usingNamespace v)) := by
  obtain ⟨name⟩ := v
  exact parse_written (by decide : symbolArm S_UNAMESPACE = some .usingNamespace) (fun _ => rfl)
    index (by simp) (reads_cName (by decide) hv []).bind_pure (by rw [toString_toUTF8])

def BuildInfoSymbol.write (v : BuildInfoSymbol) : List UInt8 :=
  u16Bytes S_BUILDINFO ++ u32Bytes v.id.val

theorem BuildInfoSymbol.parse_write (v : BuildInfoSymbol) (index : SymbolIndex) :
    (Symbol.mk index v.write).parse = some (.ok (.buildInfo v)) := by
  obtain ⟨⟨i⟩⟩ := v
  exact parse_written (by decide : symbolArm S_BUILDINFO = some .buildInfo) (fun _ => rfl) index
    (by simp) (((reads_u32Bytes i []).map IdIndex.mk).map BuildInfoSymbol.mk) rfl

def PublicSymbol.write (v : PublicSymbol) : List UInt8 :=
  u16Bytes S_PUB32 ++ (u32Bytes (UInt32.ofNat (bitsToNat [v.code, v.function, v.managed, v.msil])) ++
    (sectionOffsetBytes v.offset ++ cName v.name))

theorem PublicSymbol.parse_write {v : PublicSymbol} (hv : NulFree v.name) (index : SymbolIndex) :
    (Symbol.mk index v.write).parse = some (.ok (.public v)) := by
  obtain ⟨code, function, managed, msil, offset, name⟩ := v
  have hraw : (UInt32.ofNat (bitsToNat [code, function, managed, msil])).toNat =
      bitsToNat [code, function, managed, msil] :=
    UInt32.toNat_ofNat_of_lt (bitsToNat_lt_of_length_le (k := 32) (by simp))
  exact parse_written (by decide : symbolArm S_PUB32 = some .public) (fun _ => rfl) index (by simp)
    ((reads_u32Bytes _ _).bind ((reads_sectionOffsetBytes offset _).bind
      ((reads_cName (by decide) hv []).bind_pure)))
    (by simp only [uint32_and_bne_zero _ CVPSF_CODE (i := 0) rfl,
      uint32_and_bne_zero _ CVPSF_FUNCTION (i := 1) rfl, uint32_and_bne_zero _ CVPSF_MANAGED (i := 2) rfl,
      uint32_and_bne_zero _ CVPSF_MSIL (i := 3) rfl, hraw, testBit_bitsToNat, toString_toUTF8]; rfl)

/-- A raw trampoline subtype that reads back as the given one. -/
def TrampolineType.toRaw : TrampolineType → UInt16
  | .incremental => 0 | .branchIsland => 1 | .unknown => 2

theorem TrampolineType.ofRaw_toRaw (t : TrampolineType) :
    (if t.toRaw = 0 then TrampolineType.incremental else if t.toRaw = 1 then .branchIsland
      else .unknown) = t := by
  cases t <;> rfl

/-- A trampoline on the wire: both offsets come before both sections. -/
def encodeTrampoline (w : TrampolineSymbol) : List UInt8 :=
  u16Bytes w.trampType.toRaw ++ (u16Bytes w.size ++ (u32Bytes w.thunk.offset ++
    (u32Bytes w.target.offset ++ (u16Bytes w.thunk.section ++ u16Bytes w.target.section))))

def TrampolineSymbol.write (v : TrampolineSymbol) : List UInt8 :=
  u16Bytes S_TRAMPOLINE ++ encodeTrampoline v

theorem TrampolineSymbol.parse_write (v : TrampolineSymbol) (index : SymbolIndex) :
    (Symbol.mk index v.write).parse = some (.ok (.trampoline v)) := by
  obtain ⟨t, size, thunk, target⟩ := v
  exact parse_written (by decide : symbolArm S_TRAMPOLINE = some .trampoline) (fun _ => rfl) index
    (by simp [encodeTrampoline])
    ((reads_u16Bytes t.toRaw _).bind ((reads_u16Bytes size _).bind
      ((reads_u32Bytes thunk.offset _).bind ((reads_u32Bytes target.offset _).bind
        ((reads_u16Bytes thunk.section _).bind (reads_u16Bytes target.section []).bind_pure)))))
    (by rw [TrampolineType.ofRaw_toRaw])

def ManagedSlotSymbol.write (v : ManagedSlotSymbol) : List UInt8 :=
  u16Bytes S_MANSLOT ++ (u32Bytes v.slot ++ (u32Bytes v.typeIndex.val ++ (sectionOffsetBytes v.offset ++
    (u16Bytes v.flags.toRaw ++ cName v.name))))

theorem ManagedSlotSymbol.parse_write {v : ManagedSlotSymbol} (hv : NulFree v.name)
    (index : SymbolIndex) : (Symbol.mk index v.write).parse = some (.ok (.managedSlot v)) := by
  obtain ⟨slot, ⟨t⟩, offset, flags, name⟩ := v
  exact parse_written (by decide : symbolArm S_MANSLOT = some .managedSlot) (fun _ => rfl) index
    (by simp) ((reads_u32Bytes slot _).bind ((reads_parseTypeIndex t _).bind
      ((reads_sectionOffsetBytes offset _).bind ((flags.reads_toRaw _).bind
        ((reads_cName (by decide) hv []).bind_pure)))))
    (by rw [toString_toUTF8])

def ExportSymbol.write (v : ExportSymbol) : List UInt8 :=
  u16Bytes S_EXPORT ++ (u16Bytes v.ordinal ++ (u16Bytes v.flags.toRaw ++ cName v.name))

theorem ExportSymbol.parse_write {v : ExportSymbol} (hv : NulFree v.name) (index : SymbolIndex) :
    (Symbol.mk index v.write).parse = some (.ok (.«export» v)) := by
  obtain ⟨ordinal, flags, name⟩ := v
  exact parse_written (by decide : symbolArm S_EXPORT = some .«export») (fun _ => rfl) index
    (by simp) ((reads_u16Bytes ordinal _).bind ((flags.reads_toRaw _).bind
      ((reads_cName (by decide) hv []).bind_pure)))
    (by rw [toString_toUTF8])

def OemSymbol.write (v : OemSymbol) : List UInt8 :=
  u16Bytes S_OEM ++ (cName v.idOem ++ (u32Bytes v.typeIndex.val ++ u32Bytes v.rgl))

theorem OemSymbol.parse_write {v : OemSymbol} (hv : NulFree v.idOem) (index : SymbolIndex) :
    (Symbol.mk index v.write).parse = some (.ok (.oem v)) := by
  obtain ⟨idOem, ⟨t⟩, rgl⟩ := v
  exact parse_written (by decide : symbolArm S_OEM = some .oem) (fun _ => rfl) index (by simp)
    ((reads_parseCString_cName hv _).bind ((reads_parseTypeIndex t _).bind
      (reads_u32Bytes rgl []).bind_pure))
    (by rw [toString_toUTF8])

def SectionSymbol.write (v : SectionSymbol) : List UInt8 :=
  u16Bytes S_SECTION ++ (u16Bytes v.isec ++ (v.align :: v.reserved :: (u32Bytes v.rva ++
    (u32Bytes v.cb ++ (u32Bytes v.characteristics.val ++ cName v.name)))))

theorem SectionSymbol.parse_write {v : SectionSymbol} (hv : NulFree v.name) (index : SymbolIndex) :
    (Symbol.mk index v.write).parse = some (.ok (.«section» v)) := by
  obtain ⟨isec, align, reserved, rva, cb, ⟨c⟩, name⟩ := v
  exact parse_written (by decide : symbolArm S_SECTION = some .«section») (fun _ => rfl) index
    (by simp) ((reads_u16Bytes isec _).bind ((reads_parseU8 align _).bind
      ((reads_parseU8 reserved _).bind ((reads_u32Bytes rva _).bind ((reads_u32Bytes cb _).bind
        (((reads_u32Bytes c _).map SectionCharacteristics.mk).bind
          ((reads_cName (by decide) hv []).bind_pure)))))))
    (by rw [toString_toUTF8])

def CoffGroupSymbol.write (v : CoffGroupSymbol) : List UInt8 :=
  u16Bytes S_COFFGROUP ++ (u32Bytes v.cb ++ (u32Bytes v.characteristics ++
    (sectionOffsetBytes v.offset ++ cName v.name)))

theorem CoffGroupSymbol.parse_write {v : CoffGroupSymbol} (hv : NulFree v.name)
    (index : SymbolIndex) : (Symbol.mk index v.write).parse = some (.ok (.coffGroup v)) := by
  obtain ⟨cb, characteristics, offset, name⟩ := v
  exact parse_written (by decide : symbolArm S_COFFGROUP = some .coffGroup) (fun _ => rfl) index
    (by simp) ((reads_u32Bytes cb _).bind ((reads_u32Bytes characteristics _).bind
      ((reads_sectionOffsetBytes offset _).bind ((reads_cName (by decide) hv []).bind_pure))))
    (by rw [toString_toUTF8])

end Plain

section ByKind

def ConstantSymbol.writeKind (managed : Bool) : SymbolKind :=
  if managed then S_MANCONSTANT else S_CONSTANT

theorem ConstantSymbol.writeKind_spec (managed : Bool) :
    symbolArm (ConstantSymbol.writeKind managed) = some .constant ∧
      ¬ConstantSymbol.writeKind managed < S_ST_MAX ∧
      decide (ConstantSymbol.writeKind managed = S_MANCONSTANT) = managed := by
  cases managed <;> decide

def ConstantSymbol.write (v : ConstantSymbol) : List UInt8 :=
  u16Bytes (ConstantSymbol.writeKind v.managed) ++ (u32Bytes v.typeIndex.val ++
    (v.value.toBytes ++ cName v.name))

theorem ConstantSymbol.parse_write {v : ConstantSymbol} (hv : v.value.Writable ∧ NulFree v.name)
    (index : SymbolIndex) : (Symbol.mk index v.write).parse = some (.ok (.constant v)) := by
  obtain ⟨managed, ⟨t⟩, value, name⟩ := v
  obtain ⟨harm, hk, hm⟩ := ConstantSymbol.writeKind_spec managed
  exact parse_written harm (fun _ => rfl) index (by simp)
    ((reads_parseTypeIndex t _).bind ((reads_parseVariant hv.1 _).bind
      ((reads_cName hk hv.2 []).bind_pure)))
    (by rw [hm, toString_toUTF8])

def DataSymbol.writeKind (global managed : Bool) : SymbolKind :=
  if global then (if managed then S_GMANDATA else S_GDATA32)
  else (if managed then S_LMANDATA else S_LDATA32)

theorem DataSymbol.writeKind_spec (global managed : Bool) :
    symbolArm (DataSymbol.writeKind global managed) = some .data ∧
      ¬DataSymbol.writeKind global managed < S_ST_MAX ∧
      [S_GDATA32, S_GDATA32_ST, S_GMANDATA, S_GMANDATA_ST].contains
        (DataSymbol.writeKind global managed) = global ∧
      [S_LMANDATA, S_LMANDATA_ST, S_GMANDATA, S_GMANDATA_ST].contains
        (DataSymbol.writeKind global managed) = managed := by
  cases global <;> cases managed <;> decide

def DataSymbol.write (v : DataSymbol) : List UInt8 :=
  u16Bytes (DataSymbol.writeKind v.global v.managed) ++ (u32Bytes v.typeIndex.val ++
    (sectionOffsetBytes v.offset ++ cName v.name))

theorem DataSymbol.parse_write {v : DataSymbol} (hv : NulFree v.name) (index : SymbolIndex) :
    (Symbol.mk index v.write).parse = some (.ok (.data v)) := by
  obtain ⟨global, managed, ⟨t⟩, offset, name⟩ := v
  obtain ⟨harm, hk, hg, hm⟩ := DataSymbol.writeKind_spec global managed
  exact parse_written harm (fun _ => rfl) index (by simp)
    ((reads_parseTypeIndex t _).bind ((reads_sectionOffsetBytes offset _).bind
      ((reads_cName hk hv []).bind_pure)))
    (by rw [hg, hm, toString_toUTF8])

def ThreadStorageSymbol.writeKind (global : Bool) : SymbolKind :=
  if global then S_GTHREAD32 else S_LTHREAD32

theorem ThreadStorageSymbol.writeKind_spec (global : Bool) :
    symbolArm (ThreadStorageSymbol.writeKind global) = some .threadStorage ∧
      ¬ThreadStorageSymbol.writeKind global < S_ST_MAX ∧
      [S_GTHREAD32, S_GTHREAD32_ST].contains (ThreadStorageSymbol.writeKind global) = global := by
  cases global <;> decide

def ThreadStorageSymbol.write (v : ThreadStorageSymbol) : List UInt8 :=
  u16Bytes (ThreadStorageSymbol.writeKind v.global) ++ (u32Bytes v.typeIndex.val ++
    (sectionOffsetBytes v.offset ++ cName v.name))

theorem ThreadStorageSymbol.parse_write {v : ThreadStorageSymbol} (hv : NulFree v.name)
    (index : SymbolIndex) : (Symbol.mk index v.write).parse = some (.ok (.threadStorage v)) := by
  obtain ⟨global, ⟨t⟩, offset, name⟩ := v
  obtain ⟨harm, hk, hg⟩ := ThreadStorageSymbol.writeKind_spec global
  exact parse_written harm (fun _ => rfl) index (by simp)
    ((reads_parseTypeIndex t _).bind ((reads_sectionOffsetBytes offset _).bind
      ((reads_cName hk hv []).bind_pure)))
    (by rw [hg, toString_toUTF8])

end ByKind

section References

def referenceBytes (sumName : UInt32) (symbolIndex : SymbolIndex) (module : Option Nat)
    (name : String) : List UInt8 :=
  u32Bytes sumName ++ (u32Bytes symbolIndex.val ++ (u16Bytes (moduleRaw module) ++ cName name))

def ProcedureReferenceSymbol.writeKind (global : Bool) : SymbolKind :=
  if global then S_PROCREF else S_LPROCREF

theorem ProcedureReferenceSymbol.writeKind_spec (global : Bool) :
    symbolArm (ProcedureReferenceSymbol.writeKind global) = some .procedureReference ∧
      ¬ProcedureReferenceSymbol.writeKind global < S_ST_MAX ∧
      [S_PROCREF, S_PROCREF_ST].contains (ProcedureReferenceSymbol.writeKind global) = global := by
  cases global <;> decide

/-- `S_PROCREF` or `S_LPROCREF`; the name is present from `S_ST_MAX` on. -/
def ProcedureReferenceSymbol.write (v : ProcedureReferenceSymbol) : List UInt8 :=
  u16Bytes (ProcedureReferenceSymbol.writeKind v.global) ++
    referenceBytes v.sumName v.symbolIndex v.module (v.name.getD "")

/-- A present name, free of NUL, and a module the `u16` holds. -/
def ReferenceWritable (module : Option Nat) (name : Option String) : Prop :=
  ModuleFits module ∧ ∃ s, name = some s ∧ NulFree s

instance decidableReferenceWritable (module : Option Nat) (name : Option String) :
    Decidable (ReferenceWritable module name) :=
  match name with
  | none => isFalse fun ⟨_, _, h, _⟩ => nomatch h
  | some s => decidable_of_iff (ModuleFits module ∧ NulFree s)
    ⟨fun ⟨hm, hs⟩ => ⟨hm, s, rfl, hs⟩, fun ⟨hm, _, h, hs⟩ => ⟨hm, Option.some.inj h ▸ hs⟩⟩

theorem ProcedureReferenceSymbol.parse_write {v : ProcedureReferenceSymbol}
    (hv : ReferenceWritable v.module v.name) (index : SymbolIndex) :
    (Symbol.mk index v.write).parse = some (.ok (.procedureReference v)) := by
  obtain ⟨global, sumName, ⟨i⟩, module, name⟩ := v
  obtain ⟨hmod, s, rfl, hs⟩ := hv
  obtain ⟨harm, hk, hg⟩ := ProcedureReferenceSymbol.writeKind_spec global
  exact parse_written harm (fun _ => rfl) index (by simp [referenceBytes])
    ((reads_u32Bytes sumName _).bind ((reads_parseSymbolIndex i _).bind
      ((reads_moduleRaw hmod _).bind ((reads_optionalName_cName hk hs []).bind_pure))))
    (by simp only [hg, Option.map_some', toString_toUTF8])

def DataReferenceSymbol.write (v : DataReferenceSymbol) : List UInt8 :=
  u16Bytes S_DATAREF ++ referenceBytes v.sumName v.symbolIndex v.module (v.name.getD "")

theorem DataReferenceSymbol.parse_write {v : DataReferenceSymbol}
    (hv : ReferenceWritable v.module v.name) (index : SymbolIndex) :
    (Symbol.mk index v.write).parse = some (.ok (.dataReference v)) := by
  obtain ⟨sumName, ⟨i⟩, module, name⟩ := v
  obtain ⟨hmod, s, rfl, hs⟩ := hv
  exact parse_written (by decide : symbolArm S_DATAREF = some .dataReference) (fun _ => rfl) index
    (by simp [referenceBytes])
    ((reads_u32Bytes sumName _).bind ((reads_parseSymbolIndex i _).bind
      ((reads_moduleRaw hmod _).bind ((reads_optionalName_cName (by decide) hs []).bind_pure))))
    (by simp only [Option.map_some', toString_toUTF8])

def AnnotationReferenceSymbol.write (v : AnnotationReferenceSymbol) : List UInt8 :=
  u16Bytes S_ANNOTATIONREF ++ referenceBytes v.sumName v.symbolIndex v.module v.name

theorem AnnotationReferenceSymbol.parse_write {v : AnnotationReferenceSymbol}
    (hv : ModuleFits v.module ∧ NulFree v.name) (index : SymbolIndex) :
    (Symbol.mk index v.write).parse = some (.ok (.annotationReference v)) := by
  obtain ⟨sumName, ⟨i⟩, module, name⟩ := v
  exact parse_written (by decide : symbolArm S_ANNOTATIONREF = some .annotationReference)
    (fun _ => rfl) index (by simp [referenceBytes])
    ((reads_u32Bytes sumName _).bind ((reads_parseSymbolIndex i _).bind
      ((reads_moduleRaw hv.1 _).bind ((reads_cName (by decide) hv.2 []).bind_pure))))
    (by simp only [toString_toUTF8])

def TokenReferenceSymbol.write (v : TokenReferenceSymbol) : List UInt8 :=
  u16Bytes S_TOKENREF ++ referenceBytes v.sumName v.symbolIndex v.module v.name

theorem TokenReferenceSymbol.parse_write {v : TokenReferenceSymbol}
    (hv : ModuleFits v.module ∧ NulFree v.name) (index : SymbolIndex) :
    (Symbol.mk index v.write).parse = some (.ok (.tokenReference v)) := by
  obtain ⟨sumName, ⟨i⟩, module, name⟩ := v
  exact parse_written (by decide : symbolArm S_TOKENREF = some .tokenReference)
    (fun _ => rfl) index (by simp [referenceBytes])
    ((reads_u32Bytes sumName _).bind ((reads_parseSymbolIndex i _).bind
      ((reads_moduleRaw hv.1 _).bind ((reads_cName (by decide) hv.2 []).bind_pure))))
    (by simp only [toString_toUTF8])

end References

end PdbSymbols
