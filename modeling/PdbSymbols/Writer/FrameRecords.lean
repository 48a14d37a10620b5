import PdbSymbols.Writer.Fields

set_option autoImplicit false

/-!
# Writing the frame records

Compile flags, frame procedures, call sites, switch tables, heap allocation sites and frame
cookies as a writer lays them out. Two of them keep less than their values can hold: an
`S_COMPILE2` record carries no QFE number and none of the three newest compile flags, so the
writer uses `S_COMPILE3` exactly for versions with a QFE number; and the two encoded base
pointers of a frame procedure are 2-bit fields.
-/

namespace PdbSymbols

section Compile

/-- `CompileFlags` as the word whose bit `i` is its `i`-th flag. -/
def CompileFlags.toRaw (f : CompileFlags) : UInt16 :=
  UInt16.ofNat (bitsToNat [f.editAndContinue, f.noDebugInfo, f.linkTimeCodegen, f.noDataAlign,
    f.managed, f.securityChecks, f.hotPatch, f.cvtcil, f.msilModule, f.sdl, f.pgo, f.expModule])

/-- The flag word and its unused byte read back, the three newest flags only under
`S_COMPILE3`. -/
theorem CompileFlags.reads_toRaw {f : CompileFlags} {kind : SymbolKind}
    (h : kind ≠ S_COMPILE3 → f.sdl = false ∧ f.pgo = false ∧ f.expModule = false) (ys : List UInt8) :
    Reads (parseWith (CompileFlags.tryFromCtx · kind)) (u16Bytes f.toRaw ++ [0]) ys f := by
  have hraw : f.toRaw.toNat = bitsToNat [f.editAndContinue, f.noDebugInfo, f.linkTimeCodegen,
      f.noDataAlign, f.managed, f.securityChecks, f.hotPatch, f.cvtcil, f.msilModule, f.sdl, f.pgo,
      f.expModule] := UInt16.toNat_ofNat_of_lt (bitsToNat_lt_of_length_le (k := 16) (by simp))
  refine reads_parseWith (by simp) ?_
  rw [List.append_assoc, List.singleton_append, CompileFlags.tryFromCtx_u16Bytes, hraw]
  simp only [testBit_bitsToNat]
  by_cases hk : kind = S_COMPILE3
  · simp only [hk, decide_True, Bool.and_true]
    rfl
  · obtain ⟨hs, hp, he⟩ := h hk
    obtain ⟨_, _, _, _, _, _, _, _, _, sdl, pgo, exp⟩ := f
    subst hs hp he
    simp only [hk, decide_False, Bool.and_false]
    rfl

def CompilerVersion.toBytes (v : CompilerVersion) : List UInt8 :=
  u16Bytes v.major ++ (u16Bytes v.minor ++ (u16Bytes v.build ++ (v.qfe.map u16Bytes).getD []))

theorem CompilerVersion.reads_toBytes (v : CompilerVersion) (ys : List UInt8) :
    Reads (parseWith (CompilerVersion.tryFromCtx · v.qfe.isSome)) v.toBytes ys v := by
  obtain ⟨major, minor, build, qfe⟩ := v
  refine reads_parseWith (by simp [toBytes]) (Reads.run ?_)
  cases qfe with
  | none =>
    exact (reads_u16Bytes major _).bind ((reads_u16Bytes minor _).bind ((reads_u16Bytes build _).bind
      ((Reads.pure _ none).bind_nil (Reads.pure ys _))))
  | some q =>
    exact (reads_u16Bytes major _).bind ((reads_u16Bytes minor _).bind ((reads_u16Bytes build _).bind
      (((reads_u16Bytes q _).map some).bind (Reads.pure ys _))))

/-- The compile records a writer lays out: both versions with a QFE number or neither, the three
newest flags only with one, and a version string free of NUL. -/
def CompileFlagsSymbol.Writable (v : CompileFlagsSymbol) : Prop :=
  v.backendVersion.qfe.isSome = v.frontendVersion.qfe.isSome ∧
    (v.frontendVersion.qfe = none → v.flags.sdl = false ∧ v.flags.pgo = false ∧
      v.flags.expModule = false) ∧ NulFree v.versionString

instance CompileFlagsSymbol.decidableWritable (v : CompileFlagsSymbol) : Decidable v.Writable :=
  inferInstanceAs (Decidable (v.backendVersion.qfe.isSome = v.frontendVersion.qfe.isSome ∧
    (v.frontendVersion.qfe = none → v.flags.sdl = false ∧ v.flags.pgo = false ∧
      v.flags.expModule = false) ∧ NulFree v.versionString))

/-- The kind a writer gives a compile record: `S_COMPILE3` for versions with a QFE number. -/
def CompileFlagsSymbol.writeKind (qfe : Bool) : SymbolKind :=
  if qfe then S_COMPILE3 else S_COMPILE2

theorem CompileFlagsSymbol.writeKind_spec (qfe : Bool) :
    symbolArm (CompileFlagsSymbol.writeKind qfe) = some .compileFlags ∧
      ¬CompileFlagsSymbol.writeKind qfe < S_ST_MAX ∧
      decide (CompileFlagsSymbol.writeKind qfe = S_COMPILE3) = qfe := by
  cases qfe <;> decide

def CompileFlagsSymbol.write (v : CompileFlagsSymbol) : List UInt8 :=
  u16Bytes (CompileFlagsSymbol.writeKind v.frontendVersion.qfe.isSome) ++ (v.language.raw ::
    ((u16Bytes v.flags.toRaw ++ [0]) ++ (u16Bytes v.cpuType.raw ++ (v.frontendVersion.toBytes ++
      (v.backendVersion.toBytes ++ cName v.versionString)))))

theorem CompileFlagsSymbol.parse_write {v : CompileFlagsSymbol} (hv : v.Writable)
    (index : SymbolIndex) : (Symbol.mk index v.write).parse = some (.ok (.compileFlags v)) := by
  obtain ⟨⟨language⟩, flags, ⟨cpu⟩, frontend, backend, version⟩ := v
  obtain ⟨hq, hnew, hs⟩ := hv
  obtain ⟨harm, hk, hd⟩ := CompileFlagsSymbol.writeKind_spec frontend.qfe.isSome
  have hflags : CompileFlagsSymbol.writeKind frontend.qfe.isSome ≠ S_COMPILE3 →
      flags.sdl = false ∧ flags.pgo = false ∧ flags.expModule = false := fun h =>
    hnew (Option.not_isSome_iff_eq_none.mp fun hs => h (of_decide_eq_true (hd.trans hs)))
  have hback := CompilerVersion.reads_toBytes backend (cName version ++ [])
  rw [hq, ← hd] at hback
  have hfront := CompilerVersion.reads_toBytes frontend (backend.toBytes ++ cName version ++ [])
  rw [← hd] at hfront
  exact parse_written harm (fun _ => rfl) index (by simp)
    (((reads_parseU8 language _).map SourceLanguage.mk).bind
      ((CompileFlags.reads_toRaw hflags _).bind (((reads_u16Bytes cpu _).map CPUType.mk).bind
        (hfront.bind (hback.bind ((reads_cName hk hs []).bind_pure))))))
    (by rw [toString_toUTF8])

end Compile

section Frame

theorem field2_toNat (u s : UInt32) (hs : s.toNat < 32) :
    ((u >>> s).toUInt8 &&& 3).toNat = (u.toNat >>> s.toNat) % 2 ^ 2 := by
  have h8 : ((u >>> s).toUInt8).toNat = (u.toNat >>> s.toNat) % 256 := by
    simp [UInt32.toUInt8, UInt8.ofNat, UInt8.toNat, uint32_toNat_shiftRight, Nat.mod_eq_of_lt hs]
  rw [UInt8.and_toNat, show (3 : UInt8).toNat = 2 ^ 2 - 1 from rfl, Nat.and_pow_two_sub_one_eq_mod, h8]
  omega

/-- A 2-bit field reads back the value whose two bits the word holds at the shift. -/
theorem field2_eq {u s : UInt32} (hs : s.toNat < 32) {e : UInt8} (he : e.toNat < 4)
    (h0 : u.toNat.testBit s.toNat = e.toNat.testBit 0)
    (h1 : u.toNat.testBit (s.toNat + 1) = e.toNat.testBit 1) : (u >>> s).toUInt8 &&& 3 = e := by
  apply UInt8.toNat.inj
  rw [field2_toNat u s hs, ← Nat.mod_eq_of_lt (show e.toNat < 2 ^ 2 from he), mod_two_pow_eq_iff]
  intro i hi
  rw [Nat.testBit_shiftRight]
  match i, hi with
  | 0, _ => exact h0
  | 1, _ => exact h1

/-- `FrameProcedureFlags` as the word its flags and 2-bit fields name: bits 0 to 13, the two
encoded base pointers in bits 14 to 17, then bits 18 to 22. -/
def FrameProcedureFlags.toRaw (f : FrameProcedureFlags) : UInt32 :=
  UInt32.ofNat (bitsToNat [f.hasAlloca, f.hasSetjmp, f.hasLongjmp, f.hasInlineAsm, f.hasEh,
    f.inlineSpec, f.hasSeh, f.naked, f.securityChecks, f.asyncEh, f.gsNoStackOrdering, f.wasInlined,
    f.gsCheck, f.safeBuffers, f.encodedLocalBasePointer.toNat.testBit 0,
    f.encodedLocalBasePointer.toNat.testBit 1, f.encodedParamBasePointer.toNat.testBit 0,
    f.encodedParamBasePointer.toNat.testBit 1, f.pogoOn, f.validCounts, f.optSpeed, f.guardCf,
    f.guardCfw])

/-- The flag words a frame procedure carries: base pointer encodings of two bits. -/
def FrameProcedureFlags.Writable (f : FrameProcedureFlags) : Prop :=
  f.encodedLocalBasePointer.toNat < 4 ∧ f.encodedParamBasePointer.toNat < 4

instance FrameProcedureFlags.decidableWritable (f : FrameProcedureFlags) : Decidable f.Writable :=
  inferInstanceAs (Decidable (f.encodedLocalBasePointer.toNat < 4 ∧
    f.encodedParamBasePointer.toNat < 4))

theorem FrameProcedureFlags.reads_toRaw {f : FrameProcedureFlags} (hf : f.Writable)
    (ys : List UInt8) : Reads (parseWith FrameProcedureFlags.tryFromCtx) (u32Bytes f.toRaw) ys f := by
  refine reads_parseWith (by simp) ?_
  have hraw : f.toRaw.toNat = bitsToNat [f.hasAlloca, f.hasSetjmp, f.hasLongjmp, f.hasInlineAsm,
      f.hasEh, f.inlineSpec, f.hasSeh, f.naked, f.securityChecks, f.asyncEh, f.gsNoStackOrdering,
      f.wasInlined, f.gsCheck, f.safeBuffers, f.encodedLocalBasePointer.toNat.testBit 0,
      f.encodedLocalBasePointer.toNat.testBit 1, f.encodedParamBasePointer.toNat.testBit 0,
      f.encodedParamBasePointer.toNat.testBit 1, f.pogoOn, f.validCounts, f.optSpeed, f.guardCf,
      f.guardCfw] := UInt32.toNat_ofNat_of_lt (bitsToNat_lt_of_length_le (k := 32) (by simp))
  have hlocal : (f.toRaw >>> 14).toUInt8 &&& 3 = f.encodedLocalBasePointer :=
    field2_eq (by decide) hf.1 (by rw [hraw, testBit_bitsToNat]; rfl)
      (by rw [hraw, testBit_bitsToNat]; rfl)
  have hparam : (f.toRaw >>> 16).toUInt8 &&& 3 = f.encodedParamBasePointer :=
    field2_eq (by decide) hf.2 (by rw [hraw, testBit_bitsToNat]; rfl)
      (by rw [hraw, testBit_bitsToNat]; rfl)
  rw [FrameProcedureFlags.tryFromCtx_u32Bytes, hlocal, hparam, hraw]
  simp only [testBit_bitsToNat, length_u32Bytes]
  rfl

def FrameProcedureSymbol.write (v : FrameProcedureSymbol) : List UInt8 :=
  u16Bytes S_FRAMEPROC ++ (u32Bytes v.frameByteCount ++ (u32Bytes v.paddingByteCount ++
    (u32Bytes v.offsetPadding ++ (u32Bytes v.calleeSaveRegistersByteCount ++
      (sectionOffsetBytes v.exceptionHandlerOffset ++ u32Bytes v.flags.toRaw)))))

theorem FrameProcedureSymbol.parse_write {v : FrameProcedureSymbol} (hv : v.flags.Writable)
    (index : SymbolIndex) : (Symbol.mk index v.write).parse = some (.ok (.frameProcedure v)) := by
  obtain ⟨frame, padding, offsetPadding, callee, handler, flags⟩ := v
  exact parse_written (by decide : symbolArm S_FRAMEPROC = some .frameProcedure) (fun _ => rfl)
    index (by simp) ((reads_u32Bytes frame _).bind ((reads_u32Bytes padding _).bind
      ((reads_u32Bytes offsetPadding _).bind ((reads_u32Bytes callee _).bind
        ((reads_sectionOffsetBytes handler _).bind (FrameProcedureFlags.reads_toRaw hv []).bind_pure)))))
    rfl

end Frame

section Sites

def CallSiteInfoSymbol.write (v : CallSiteInfoSymbol) : List UInt8 :=
  u16Bytes S_CALLSITEINFO ++ (sectionOffsetBytes v.offset ++ (u16Bytes 0 ++ u32Bytes v.typeIndex.val))

theorem CallSiteInfoSymbol.parse_write (v : CallSiteInfoSymbol) (index : SymbolIndex) :
    (Symbol.mk index v.write).parse = some (.ok (.callSiteInfo v)) := by
  obtain ⟨offset, ⟨t⟩⟩ := v
  exact parse_written (by decide : symbolArm S_CALLSITEINFO = some .callSiteInfo) (fun _ => rfl)
    index (by simp [sectionOffsetBytes]) ((reads_sectionOffsetBytes offset _).bind
      ((reads_u16Bytes 0 _).bind (reads_parseTypeIndex t []).bind_pure))
    rfl

/-- The raw value of a jump table entry size, `#[repr(u16)]`. -/
def JumpTableEntrySize.toRaw : JumpTableEntrySize → UInt16
  | .int8 => 0 | .uInt8 => 1 | .int16 => 2 | .uInt16 => 3 | .int32 => 4 | .uInt32 => 5
  | .pointer => 6 | .uInt8ShiftLeft => 7 | .uInt16ShiftLeft => 8 | .int8ShiftLeft => 9
  | .int16ShiftLeft => 10 | .invalid => 0xffff

theorem JumpTableEntrySize.ofRaw_toRaw (e : JumpTableEntrySize) : ofRaw e.toRaw = e := by
  cases e <;> rfl

/-- A switch table on the wire (§4.3): the branch and table offsets come before their
sections. -/
def encodeArmSwitchTable (v : ArmSwitchTableSymbol) : List UInt8 :=
  (u32Bytes v.offsetBase.offset ++ u16Bytes v.offsetBase.section) ++ (u16Bytes v.switchType.toRaw ++
    (u32Bytes v.offsetBranch.offset ++ (u32Bytes v.offsetTable.offset ++
      (u16Bytes v.offsetBranch.section ++ (u16Bytes v.offsetTable.section ++
        u32Bytes v.numEntries)))))

def ArmSwitchTableSymbol.write (v : ArmSwitchTableSymbol) : List UInt8 :=
  u16Bytes S_ARMSWITCHTABLE ++ encodeArmSwitchTable v

theorem ArmSwitchTableSymbol.parse_write (v : ArmSwitchTableSymbol) (index : SymbolIndex) :
    (Symbol.mk index v.write).parse = some (.ok (.armSwitchTable v)) := by
  obtain ⟨base, e, branch, table, n⟩ := v
  exact parse_written (by decide : symbolArm S_ARMSWITCHTABLE = some .armSwitchTable)
    (fun _ => rfl) index (by simp [encodeArmSwitchTable, sectionOffsetBytes])
    ((reads_sectionOffsetBytes base _).bind
      (((reads_u16Bytes e.toRaw _).map _).bind ((reads_u32Bytes branch.offset _).bind
        ((reads_u32Bytes table.offset _).bind ((reads_u16Bytes branch.section _).bind
          ((reads_u16Bytes table.section _).bind (reads_u32Bytes n []).bind_pure))))))
    (by rw [JumpTableEntrySize.ofRaw_toRaw])

def HeapAllocationSiteSymbol.write (v : HeapAllocationSiteSymbol) : List UInt8 :=
  u16Bytes S_HEAPALLOCSITE ++ (sectionOffsetBytes v.offset ++ (u16Bytes v.instrLength ++
    u32Bytes v.typeIndex.val))

theorem HeapAllocationSiteSymbol.parse_write (v : HeapAllocationSiteSymbol) (index : SymbolIndex) :
    (Symbol.mk index v.write).parse = some (.ok (.heapAllocationSite v)) := by
  obtain ⟨offset, len, ⟨t⟩⟩ := v
  exact parse_written (by decide : symbolArm S_HEAPALLOCSITE = some .heapAllocationSite)
    (fun _ => rfl) index (by simp [sectionOffsetBytes]) ((reads_sectionOffsetBytes offset _).bind
      ((reads_u16Bytes len _).bind (reads_parseTypeIndex t []).bind_pure))
    rfl

def FrameCookieType.toRaw : FrameCookieType → UInt8
  | .copy => 0
  | .xorStackPointer => 1
  | .xorBasePointer => 2
  | .xorR13 => 3
  | .invalid value => value

/-- The cookie types a record carries: an invalid one is a byte no known type takes. -/
def FrameCookieType.Writable : FrameCookieType → Prop
  | .invalid value => 4 ≤ value.toNat
  | _ => True

instance FrameCookieType.decidableWritable (t : FrameCookieType) : Decidable t.Writable :=
  match t with
  | .invalid value => inferInstanceAs (Decidable (4 ≤ value.toNat))
  | .copy | .xorStackPointer | .xorBasePointer | .xorR13 => inferInstanceAs (Decidable True)

theorem FrameCookieType.ofRaw_toRaw {t : FrameCookieType} (ht : t.Writable) :
    FrameCookieType.ofRaw t.toRaw = t := by
  cases t with
  | invalid value =>
    have ht : 4 ≤ value.toNat := ht
    have h : value ≠ 0 ∧ value ≠ 1 ∧ value ≠ 2 ∧ value ≠ 3 := by
      simp only [ne_eq, uint8_eq_iff, UInt8.reduceToNat]
      exact ⟨by omega, by omega, by omega, by omega⟩
    simp only [toRaw, ofRaw, h, if_false]
  | _ => rfl

def FrameCookieSymbol.write (v : FrameCookieSymbol) : List UInt8 :=
  u16Bytes S_FRAMECOOKIE ++ (toLE 4 v.offset.toNat ++ (u16Bytes v.register.val ++
    [v.cookieType.toRaw, v.flags]))

theorem FrameCookieSymbol.parse_write {v : FrameCookieSymbol} (hv : v.cookieType.Writable)
    (index : SymbolIndex) : (Symbol.mk index v.write).parse = some (.ok (.frameCookie v)) := by
  obtain ⟨offset, ⟨r⟩, t, flags⟩ := v
  exact parse_written (by decide : symbolArm S_FRAMECOOKIE = some .frameCookie) (fun _ => rfl)
    index (List.ne_nil_of_length_pos (by simp))
    ((reads_parseI 4 offset _).bind (((reads_u16Bytes r _).map Register.mk).bind
      (((reads_parseU8 t.toRaw _).map FrameCookieType.ofRaw).bind (reads_parseU8 flags []).bind_pure)))
    (by rw [FrameCookieType.ofRaw_toRaw hv])

end Sites

end PdbSymbols
