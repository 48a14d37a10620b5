import PdbSymbols.Writer.Fields

set_option autoImplicit false

/-!
# Writing the scope records

Procedures, inline sites, labels, blocks, thunks and separated code as a writer lays them out.
The parent and next links of a procedure, an inline site and a thunk are optional indexes, so
`Some(0)` is the one link no record carries: it reads back as none. A procedure is global, a
DPC procedure or neither, since no kind is both.
-/

namespace PdbSymbols

section Procedures

def ProcedureSymbol.writeKind (global dpc : Bool) : SymbolKind :=
  if global then S_GPROC32 else if dpc then S_LPROC32_DPC else S_LPROC32

theorem ProcedureSymbol.writeKind_spec {global dpc : Bool} (h : ¬(global ∧ dpc)) :
    symbolArm (ProcedureSymbol.writeKind global dpc) = some .procedure ∧
      ¬ProcedureSymbol.writeKind global dpc < S_ST_MAX ∧
      [S_GPROC32, S_GPROC32_ST, S_GPROC32_ID].contains (ProcedureSymbol.writeKind global dpc) =
        global ∧
      [S_LPROC32_DPC, S_LPROC32_DPC_ID].contains (ProcedureSymbol.writeKind global dpc) = dpc := by
  revert h
  cases global <;> cases dpc <;> decide

/-- The procedures a record carries: not both global and DPC, no `Some(0)` link, a name free of
NUL. -/
def ProcedureSymbol.Writable (v : ProcedureSymbol) : Prop :=
  ¬(v.global ∧ v.dpc) ∧ v.parent ≠ some ⟨0⟩ ∧ v.next ≠ some ⟨0⟩ ∧ NulFree v.name

instance ProcedureSymbol.decidableWritable (v : ProcedureSymbol) : Decidable v.Writable :=
  inferInstanceAs (Decidable (¬(v.global ∧ v.dpc) ∧ v.parent ≠ some ⟨0⟩ ∧ v.next ≠ some ⟨0⟩ ∧
    NulFree v.name))

def ProcedureSymbol.write (v : ProcedureSymbol) : List UInt8 :=
  u16Bytes (ProcedureSymbol.writeKind v.global v.dpc) ++ (u32Bytes (optionalIndexRaw v.parent) ++
    (u32Bytes v.end.val ++ (u32Bytes (optionalIndexRaw v.next) ++ (u32Bytes v.len ++
      (u32Bytes v.dbgStartOffset ++ (u32Bytes v.dbgEndOffset ++ (u32Bytes v.typeIndex.val ++
        (sectionOffsetBytes v.offset ++ (v.flags.toRaw :: cName v.name)))))))))

theorem ProcedureSymbol.parse_write {v : ProcedureSymbol} (hv : v.Writable) (index : SymbolIndex) :
    (Symbol.mk index v.write).parse = some (.ok (.procedure v)) := by
  obtain ⟨global, dpc, parent, ⟨e⟩, next, len, dbgStart, dbgEnd, ⟨t⟩, offset, flags, name⟩ := v
  obtain ⟨hkind, hparent, hnext, hname⟩ := hv
  obtain ⟨harm, hk, hg, hd⟩ := ProcedureSymbol.writeKind_spec hkind
  exact parse_written harm (fun _ => rfl) index (by simp)
    ((reads_optionalIndexRaw hparent _).bind ((reads_parseSymbolIndex e _).bind
      ((reads_optionalIndexRaw hnext _).bind ((reads_u32Bytes len _).bind
        ((reads_u32Bytes dbgStart _).bind ((reads_u32Bytes dbgEnd _).bind
          ((reads_parseTypeIndex t _).bind ((reads_sectionOffsetBytes offset _).bind
            ((flags.reads_toRaw _).bind ((reads_cName hk hname []).bind_pure))))))))))
    (by rw [hg, hd, toString_toUTF8])

def ManagedProcedureSymbol.writeKind (global : Bool) : SymbolKind :=
  if global then S_GMANPROC else S_LMANPROC

theorem ManagedProcedureSymbol.writeKind_spec (global : Bool) :
    symbolArm (ManagedProcedureSymbol.writeKind global) = some .managedProcedure ∧
      ¬ManagedProcedureSymbol.writeKind global < S_ST_MAX ∧
      decide (ManagedProcedureSymbol.writeKind global = S_GMANPROC) = global := by
  cases global <;> decide

/-- The managed procedures a record carries: no `Some(0)` link, and a name, free of NUL; the
kinds a writer uses always carry one. -/
def ManagedProcedureSymbol.Writable (v : ManagedProcedureSymbol) : Prop :=
  v.parent ≠ some ⟨0⟩ ∧ v.next ≠ some ⟨0⟩ ∧ ∃ s, v.name = some s ∧ NulFree s

instance ManagedProcedureSymbol.decidableWritable (v : ManagedProcedureSymbol) :
    Decidable v.Writable :=
  match h : v.name with
  | none => isFalse fun ⟨_, _, _, hs, _⟩ => nomatch h.symm.trans hs
  | some s => decidable_of_iff (v.parent ≠ some ⟨0⟩ ∧ v.next ≠ some ⟨0⟩ ∧ NulFree s)
    ⟨fun ⟨hp, hn, hs⟩ => ⟨hp, hn, s, h, hs⟩,
      fun ⟨hp, hn, _, hs, hnul⟩ => ⟨hp, hn, Option.some.inj (h.symm.trans hs) ▸ hnul⟩⟩

def ManagedProcedureSymbol.write (v : ManagedProcedureSymbol) : List UInt8 :=
  u16Bytes (ManagedProcedureSymbol.writeKind v.global) ++ (u32Bytes (optionalIndexRaw v.parent) ++
    (u32Bytes v.end.val ++ (u32Bytes (optionalIndexRaw v.next) ++ (u32Bytes v.len ++
      (u32Bytes v.dbgStartOffset ++ (u32Bytes v.dbgEndOffset ++ (u32Bytes v.token.val ++
        (sectionOffsetBytes v.offset ++ (v.flags.toRaw :: (u16Bytes v.returnRegister ++
          cName (v.name.getD "")))))))))))

theorem ManagedProcedureSymbol.parse_write {v : ManagedProcedureSymbol} (hv : v.Writable)
    (index : SymbolIndex) : (Symbol.mk index v.write).parse = some (.ok (.managedProcedure v)) := by
  obtain ⟨global, parent, ⟨e⟩, next, len, dbgStart, dbgEnd, ⟨token⟩, offset, flags, ret, name⟩ := v
  obtain ⟨hparent, hnext, s, rfl, hs⟩ := hv
  obtain ⟨harm, hk, hg⟩ := ManagedProcedureSymbol.writeKind_spec global
  exact parse_written harm (fun _ => rfl) index (by simp)
    ((reads_optionalIndexRaw hparent _).bind ((reads_parseSymbolIndex e _).bind
      ((reads_optionalIndexRaw hnext _).bind ((reads_u32Bytes len _).bind
        ((reads_u32Bytes dbgStart _).bind ((reads_u32Bytes dbgEnd _).bind
          (((reads_u32Bytes token _).map COMToken.mk).bind ((reads_sectionOffsetBytes offset _).bind
            ((flags.reads_toRaw _).bind ((reads_u16Bytes ret _).bind
              ((reads_optionalName_cName hk hs []).bind_pure)))))))))))
    (by simp only [hg, Option.map_some', toString_toUTF8])

end Procedures

section Sites

/-- `S_INLINESITE2` for a site with an invocation count, `S_INLINESITE` for one without; the
annotations run to the end of the record. -/
def InlineSiteSymbol.write (v : InlineSiteSymbol) : List UInt8 :=
  u16Bytes (if v.invocations.isSome then S_INLINESITE2 else S_INLINESITE) ++
    (u32Bytes (optionalIndexRaw v.parent) ++ (u32Bytes v.end.val ++ (u32Bytes v.inlinee.val ++
      ((v.invocations.map u32Bytes).getD [] ++ v.annotations.data))))

theorem InlineSiteSymbol.parse_write {v : InlineSiteSymbol} (hv : v.parent ≠ some ⟨0⟩)
    (index : SymbolIndex) : (Symbol.mk index v.write).parse = some (.ok (.inlineSite v)) := by
  obtain ⟨parent, ⟨e⟩, ⟨inlinee⟩, invocations, ⟨annotations⟩⟩ := v
  cases invocations with
  | none =>
    exact parse_written (by decide : symbolArm S_INLINESITE = some .inlineSite) (fun _ => rfl)
      index (by simp) ((reads_optionalIndexRaw hv _).bind ((reads_parseSymbolIndex e _).bind
        (((reads_u32Bytes inlinee _).map IdIndex.mk).bind
          ((Reads.pure _ none).bind_nil (Reads.get_take_len (reads_take annotations []).bind_pure)))))
      rfl
  | some n =>
    exact parse_written (by decide : symbolArm S_INLINESITE2 = some .inlineSite) (fun _ => rfl)
      index (by simp) ((reads_optionalIndexRaw hv _).bind ((reads_parseSymbolIndex e _).bind
        (((reads_u32Bytes inlinee _).map IdIndex.mk).bind (((reads_u32Bytes n _).map some).bind
          (Reads.get_take_len (reads_take annotations []).bind_pure)))))
      rfl

def LabelSymbol.write (v : LabelSymbol) : List UInt8 :=
  u16Bytes S_LABEL32 ++ (sectionOffsetBytes v.offset ++ (v.flags.toRaw :: cName v.name))

theorem LabelSymbol.parse_write {v : LabelSymbol} (hv : NulFree v.name) (index : SymbolIndex) :
    (Symbol.mk index v.write).parse = some (.ok (.label v)) := by
  obtain ⟨offset, flags, name⟩ := v
  exact parse_written (by decide : symbolArm S_LABEL32 = some .label) (fun _ => rfl) index
    (by simp [sectionOffsetBytes]) ((reads_sectionOffsetBytes offset _).bind
      ((flags.reads_toRaw _).bind ((reads_cName (by decide) hv []).bind_pure)))
    (by rw [toString_toUTF8])

def BlockSymbol.write (v : BlockSymbol) : List UInt8 :=
  u16Bytes S_BLOCK32 ++ (u32Bytes v.parent.val ++ (u32Bytes v.end.val ++ (u32Bytes v.len ++
    (sectionOffsetBytes v.offset ++ cName v.name))))

theorem BlockSymbol.parse_write {v : BlockSymbol} (hv : NulFree v.name) (index : SymbolIndex) :
    (Symbol.mk index v.write).parse = some (.ok (.block v)) := by
  obtain ⟨⟨parent⟩, ⟨e⟩, len, offset, name⟩ := v
  exact parse_written (by decide : symbolArm S_BLOCK32 = some .block) (fun _ => rfl) index
    (by simp) ((reads_parseSymbolIndex parent _).bind ((reads_parseSymbolIndex e _).bind
      ((reads_u32Bytes len _).bind ((reads_sectionOffsetBytes offset _).bind
        ((reads_cName (by decide) hv []).bind_pure)))))
    (by rw [toString_toUTF8])

/-- The flag word of a separated-code block that carries exactly the two named flags. -/
def SeparatedCodeFlags.toRaw (f : SeparatedCodeFlags) : UInt32 :=
  (if f.islexicalscope then CV_SEPCODEFLAG_IS_LEXICAL_SCOPE else 0) |||
    (if f.returnstoparent then CV_SEPCODEFLAG_RETURNS_TO_PARENT else 0)

theorem SeparatedCodeFlags.ofRaw_toRaw (f : SeparatedCodeFlags) :
    (⟨f.toRaw &&& CV_SEPCODEFLAG_IS_LEXICAL_SCOPE != 0,
      f.toRaw &&& CV_SEPCODEFLAG_RETURNS_TO_PARENT != 0⟩ : SeparatedCodeFlags) = f := by
  obtain ⟨_ | _, _ | _⟩ := f <;> rfl

/-- A separated-code block on the wire: both offsets come before both sections. -/
def encodeSeparatedCode (c : SeparatedCodeSymbol) : List UInt8 :=
  u32Bytes c.parent.val ++ (u32Bytes c.end.val ++ (u32Bytes c.len ++ (u32Bytes c.flags.toRaw ++
    (u32Bytes c.offset.offset ++ (u32Bytes c.parentOffset.offset ++ (u16Bytes c.offset.section ++
      u16Bytes c.parentOffset.section))))))

def SeparatedCodeSymbol.write (v : SeparatedCodeSymbol) : List UInt8 :=
  u16Bytes S_SEPCODE ++ encodeSeparatedCode v

theorem SeparatedCodeSymbol.parse_write (v : SeparatedCodeSymbol) (index : SymbolIndex) :
    (Symbol.mk index v.write).parse = some (.ok (.separatedCode v)) := by
  obtain ⟨parent, «end», len, f, offset, parentOffset⟩ := v
  exact parse_written (by decide : symbolArm S_SEPCODE = some .separatedCode) (fun _ => rfl) index
    (by simp [encodeSeparatedCode])
    (((reads_u32Bytes parent.val _).map SymbolIndex.mk).bind
      (((reads_u32Bytes «end».val _).map SymbolIndex.mk).bind ((reads_u32Bytes len _).bind
        ((reads_u32Bytes f.toRaw _).bind_pure.bind ((reads_u32Bytes offset.offset _).bind
          ((reads_u32Bytes parentOffset.offset _).bind ((reads_u16Bytes offset.section _).bind
            (reads_u16Bytes parentOffset.section []).bind_pure)))))))
    (by rw [SeparatedCodeFlags.ofRaw_toRaw])

end Sites

section Thunks

/-- The sub-kind ordinal a thunk's data is written under. -/
def ThunkKind.ordinal : ThunkKind → UInt8
  | .noType => 0
  | .adjustor _ => 1
  | .vCall _ => 2
  | .pCode => 3
  | .load => 4
  | .unknown ord => ord

/-- The data a thunk's sub-kind carries after the name. -/
def ThunkKind.extra : ThunkKind → List UInt8
  | .adjustor a => u16Bytes a.delta ++ cName a.target
  | .vCall entry => u16Bytes entry
  | _ => []

/-- The sub-kinds a record carries: an adjustor target free of NUL, and an unknown ordinal that
no known sub-kind takes. -/
def ThunkKind.Writable : ThunkKind → Prop
  | .adjustor a => NulFree a.target
  | .unknown ord => 5 ≤ ord.toNat
  | _ => True

instance ThunkKind.decidableWritable (k : ThunkKind) : Decidable k.Writable :=
  match k with
  | .adjustor a => inferInstanceAs (Decidable (NulFree a.target))
  | .unknown ord => inferInstanceAs (Decidable (5 ≤ ord.toNat))
  | .noType | .vCall _ | .pCode | .load => inferInstanceAs (Decidable True)

theorem ThunkKind.reads_ofOrdinal {k : ThunkKind} (hk : k.Writable) :
    Reads (ThunkKind.ofOrdinal k.ordinal) k.extra [] k := by
  cases k with
  | noType => exact Reads.pure _ _
  | adjustor a =>
    obtain ⟨delta, target⟩ := a
    have h : Reads (ThunkKind.ofOrdinal 1) (u16Bytes delta ++ cName target) []
        (.adjustor ⟨delta, (RawString.mk target.toUTF8.data.toList).toString⟩) :=
      (reads_u16Bytes delta _).bind ((reads_parseCString_cName hk []).bind_pure)
    rwa [toString_toUTF8] at h
  | vCall entry => exact (reads_u16Bytes entry []).map _
  | pCode => exact Reads.pure _ _
  | load => exact Reads.pure _ _
  | unknown ord =>
    rw [ordinal, ThunkKind.ofOrdinal_unknown hk]
    exact Reads.pure _ _

/-- The thunks a record carries: no `Some(0)` link, a name free of NUL, a sub-kind it carries. -/
def ThunkSymbol.Writable (v : ThunkSymbol) : Prop :=
  v.parent ≠ some ⟨0⟩ ∧ v.next ≠ some ⟨0⟩ ∧ NulFree v.name ∧ v.kind.Writable

instance ThunkSymbol.decidableWritable (v : ThunkSymbol) : Decidable v.Writable :=
  inferInstanceAs (Decidable (v.parent ≠ some ⟨0⟩ ∧ v.next ≠ some ⟨0⟩ ∧ NulFree v.name ∧
    v.kind.Writable))

def ThunkSymbol.write (v : ThunkSymbol) : List UInt8 :=
  u16Bytes S_THUNK32 ++ thunkRecord (optionalIndexRaw v.parent) v.end.val (optionalIndexRaw v.next)
    v.offset v.len v.kind.ordinal v.name.toUTF8.data.toList v.kind.extra

theorem ThunkSymbol.parse_write {v : ThunkSymbol} (hv : v.Writable) (index : SymbolIndex) :
    (Symbol.mk index v.write).parse = some (.ok (.thunk v)) := by
  obtain ⟨parent, ⟨e⟩, next, offset, len, k, name⟩ := v
  obtain ⟨hparent, hnext, hname, hk⟩ := hv
  exact parse_written (by decide : symbolArm S_THUNK32 = some .thunk) (fun _ => rfl) index
    (by simp [thunkRecord])
    ((reads_optionalIndexRaw hparent _).bind ((reads_parseSymbolIndex e _).bind
      ((reads_optionalIndexRaw hnext _).bind ((reads_sectionOffsetBytes offset _).bind
        ((reads_u16Bytes len _).bind ((reads_parseU8 k.ordinal _).bind
          ((reads_cName (by decide) hname _).bind (ThunkKind.reads_ofOrdinal hk).bind_pure)))))))
    (by rw [toString_toUTF8])

end Thunks

end PdbSymbols
