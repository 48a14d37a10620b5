import PdbSymbols.Writer.NamedRecords
import PdbSymbols.Writer.ScopeRecords
import PdbSymbols.Writer.FrameRecords
import PdbSymbols.Writer.ListRecords

set_option autoImplicit false

/-!
# Every symbol, written and read back

`SymbolData.write` lays out each variant as the record its decoder reads, with the modern kind
of its arm; the three scope ends are a kind alone. `SymbolData.Writable` collects what each
variant asks of its value so that the decoder gives it back: names without a NUL, counts and bit
fields that fit their width, and the fields a decoder derives agreeing with what it derives
them from. A stream of such records, each behind its length, reads back as the symbols it was
written from, in order.
-/

namespace PdbSymbols

/-- The record of each variant, kind first. -/
def SymbolData.write : SymbolData → List UInt8
  | .scopeEnd => u16Bytes S_END
  | .objName v => v.write
  | .registerVariable v => v.write
  | .constant v => v.write
  | .userDefinedType v => v.write
  | .multiRegisterVariable v => v.write
  | .data v => v.write
  | .public v => v.write
  | .procedure v => v.write
  | .managedProcedure v => v.write
  | .threadStorage v => v.write
  | .compileFlags v => v.write
  | .usingNamespace v => v.write
  | .procedureReference v => v.write
  | .dataReference v => v.write
  | .annotationReference v => v.write
  | .tokenReference v => v.write
  | .trampoline v => v.write
  | .«export» v => v.write
  | .«local» v => v.write
  | .managedSlot v => v.write
  | .buildInfo v => v.write
  | .inlineSite v => v.write
  | .inlineSiteEnd => u16Bytes S_INLINESITE_END
  | .procedureEnd => u16Bytes S_PROC_ID_END
  | .label v => v.write
  | .block v => v.write
  | .registerRelative v => v.write
  | .thunk v => v.write
  | .separatedCode v => v.write
  | .oem v => v.write
  | .envBlock v => v.write
  | .«section» v => v.write
  | .coffGroup v => v.write
  | .defRange v => v.write
  | .defRangeSubField v => v.write
  | .defRangeRegister v => v.write
  | .defRangeFramePointerRelative v => v.write
  | .defRangeFramePointerRelativeFullScope v => v.write
  | .defRangeSubFieldRegister v => v.write
  | .defRangeRegisterRelative v => v.write
  | .basePointerRelative v => v.write
  | .frameProcedure v => v.write
  | .callSiteInfo v => v.write
  | .callers v => v.write S_CALLERS
  | .callees v => v.write S_CALLEES
  | .inlinees v => v.write
  | .armSwitchTable v => v.write
  | .heapAllocationSite v => v.write
  | .frameCookie v => v.write

/-- What each variant asks of its value for its record to read back as it. -/
def SymbolData.Writable : SymbolData → Prop
  | .scopeEnd | .inlineSiteEnd | .procedureEnd => True
  | .objName v => NulFree v.name
  | .registerVariable v => NulFree v.name
  | .constant v => v.value.Writable ∧ NulFree v.name
  | .userDefinedType v => NulFree v.name
  | .multiRegisterVariable v => v.Writable
  | .data v => NulFree v.name
  | .public v => NulFree v.name
  | .procedure v => v.Writable
  | .managedProcedure v => v.Writable
  | .threadStorage v => NulFree v.name
  | .compileFlags v => v.Writable
  | .usingNamespace v => NulFree v.name
  | .procedureReference v => ReferenceWritable v.module v.name
  | .dataReference v => ReferenceWritable v.module v.name
  | .annotationReference v => ModuleFits v.module ∧ NulFree v.name
  | .tokenReference v => ModuleFits v.module ∧ NulFree v.name
  | .«export» v => NulFree v.name
  | .«local» v => NulFree v.name
  | .managedSlot v => NulFree v.name
  | .inlineSite v => v.parent ≠ some ⟨0⟩
  | .label v => NulFree v.name
  | .block v => NulFree v.name
  | .registerRelative v => NulFree v.name
  | .thunk v => v.Writable
  | .oem v => NulFree v.idOem
  | .envBlock v => v.Writable
  | .«section» v => NulFree v.name
  | .coffGroup v => NulFree v.name
  | .defRangeSubFieldRegister v => v.Writable
  | .defRangeRegisterRelative v => v.Writable
  | .basePointerRelative v => NulFree v.name
  | .frameProcedure v => v.flags.Writable
  | .callers v | .callees v => v.Writable
  | .frameCookie v => v.cookieType.Writable
  | .trampoline _ | .buildInfo _ | .separatedCode _ | .defRange _ | .defRangeSubField _
  | .defRangeRegister _ | .defRangeFramePointerRelative _ | .defRangeFramePointerRelativeFullScope _
  | .callSiteInfo _ | .inlinees _ | .armSwitchTable _ | .heapAllocationSite _ => True

instance SymbolData.decidableWritable (v : SymbolData) : Decidable v.Writable := by
  cases v <;> dsimp only [SymbolData.Writable] <;> infer_instance

/-- Each variant's record parses back as the variant, whatever its index. -/
theorem SymbolData.parse_write : {v : SymbolData} → v.Writable → ∀ index : SymbolIndex,
    (Symbol.mk index v.write).parse = some (.ok v)
  | .scopeEnd, _, index => (parse_eq_decodeArm (by decide : symbolArm S_END = some .scopeEnd) index []).trans rfl
  | .objName _, hv, index => ObjNameSymbol.parse_write hv index
  | .registerVariable _, hv, index => RegisterVariableSymbol.parse_write hv index
  | .constant _, hv, index => ConstantSymbol.parse_write hv index
  | .userDefinedType _, hv, index => UserDefinedTypeSymbol.parse_write hv index
  | .multiRegisterVariable _, hv, index => MultiRegisterVariableSymbol.parse_write hv index
  | .data _, hv, index => DataSymbol.parse_write hv index
  | .public _, hv, index => PublicSymbol.parse_write hv index
  | .procedure _, hv, index => ProcedureSymbol.parse_write hv index
  | .managedProcedure _, hv, index => ManagedProcedureSymbol.parse_write hv index
  | .threadStorage _, hv, index => ThreadStorageSymbol.parse_write hv index
  | .compileFlags _, hv, index => CompileFlagsSymbol.parse_write hv index
  | .usingNamespace _, hv, index => UsingNamespaceSymbol.parse_write hv index
  | .procedureReference _, hv, index => ProcedureReferenceSymbol.parse_write hv index
  | .dataReference _, hv, index => DataReferenceSymbol.parse_write hv index
  | .annotationReference _, hv, index => AnnotationReferenceSymbol.parse_write hv index
  | .tokenReference _, hv, index => TokenReferenceSymbol.parse_write hv index
  | .trampoline v, _, index => v.parse_write index
  | .«export» _, hv, index => ExportSymbol.parse_write hv index
  | .«local» _, hv, index => LocalSymbol.parse_write hv index
  | .managedSlot _, hv, index => ManagedSlotSymbol.parse_write hv index
  | .buildInfo v, _, index => v.parse_write index
  | .inlineSite _, hv, index => InlineSiteSymbol.parse_write hv index
  | .inlineSiteEnd, _, index =>
    (parse_eq_decodeArm (by decide : symbolArm S_INLINESITE_END = some .inlineSiteEnd) index []).trans rfl
  | .procedureEnd, _, index =>
    (parse_eq_decodeArm (by decide : symbolArm S_PROC_ID_END = some .procedureEnd) index []).trans rfl
  | .label _, hv, index => LabelSymbol.parse_write hv index
  | .block _, hv, index => BlockSymbol.parse_write hv index
  | .registerRelative _, hv, index => RegisterRelativeSymbol.parse_write hv index
  | .thunk _, hv, index => ThunkSymbol.parse_write hv index
  | .separatedCode v, _, index => v.parse_write index
  | .oem _, hv, index => OemSymbol.parse_write hv index
  | .envBlock _, hv, index => EnvBlockSymbol.parse_write hv index
  | .«section» _, hv, index => SectionSymbol.parse_write hv index
  | .coffGroup _, hv, index => CoffGroupSymbol.parse_write hv index
  | .defRange v, _, index => v.parse_write index
  | .defRangeSubField v, _, index => v.parse_write index
  | .defRangeRegister v, _, index => v.parse_write index
  | .defRangeFramePointerRelative v, _, index => v.parse_write index
  | .defRangeFramePointerRelativeFullScope v, _, index => v.parse_write index
  | .defRangeSubFieldRegister _, hv, index => DefRangeSubFieldRegisterSymbol.parse_write hv index
  | .defRangeRegisterRelative _, hv, index => DefRangeRegisterRelativeSymbol.parse_write hv index
  | .basePointerRelative _, hv, index => BasePointerRelativeSymbol.parse_write hv index
  | .frameProcedure _, hv, index => FrameProcedureSymbol.parse_write hv index
  | .callSiteInfo v, _, index => v.parse_write index
  | .callers _, hv, index => FunctionListSymbol.parse_write_callers hv index
  | .callees _, hv, index => FunctionListSymbol.parse_write_callees hv index
  | .inlinees v, _, index => v.parse_write index
  | .armSwitchTable v, _, index => v.parse_write index
  | .heapAllocationSite v, _, index => v.parse_write index
  | .frameCookie _, hv, index => FrameCookieSymbol.parse_write hv index

/-- A record that parses to a value holds a kind, and a kind the dispatch lists, so it is not
padding. -/
theorem record_of_parse_ok {index : SymbolIndex} {body : List UInt8} {v : SymbolData}
    (h : (Symbol.mk index body).parse = some (.ok v)) : 2 ≤ body.length ∧ isPadding body = false := by
  match body, h with
  | [], h | [_], h => cases h
  | lo :: hi :: t, h =>
    refine ⟨by simp, ?_⟩
    have hbody : lo :: hi :: t = u16Bytes (recordKind (lo :: hi :: t)) ++ t := by
      rw [recordKind, show (lo :: hi :: t).take 2 = [lo, hi] from rfl, u16Bytes_ofLE]; rfl
    have hpad : symbolArm S_ALIGN = none ∧ symbolArm S_SKIP = none := by decide
    simp only [isPadding, decide_eq_false_iff_not]
    rintro (hk | hk) <;> rw [hbody, hk] at h
    · rw [parse_of_no_arm hpad.1] at h; cases h
    · rw [parse_of_no_arm hpad.2] at h; cases h

/-- A symbol stream as a writer lays it out: each symbol's record behind its `u16` length. -/
def writeSymbols (vs : List SymbolData) : List UInt8 := (vs.map SymbolData.write).flatMap encodeRecord

theorem symbol_stream_round_trip (vs : List SymbolData)
    (h : ∀ v ∈ vs, v.Writable ∧ v.write.length < 2 ^ 16) :
    readAll (writeSymbols vs) = (vs.map fun v => some (.ok v), some .exhausted) := by
  have hparse : ∀ v ∈ vs, (Symbol.mk ⟨0⟩ v.write).parse = some (.ok v) :=
    fun v hv => SymbolData.parse_write (h v hv).1 ⟨0⟩
  have hbodies : ∀ b ∈ vs.map SymbolData.write,
      (2 ≤ b.length ∧ b.length < 2 ^ 16) ∧ isPadding b = false := by
    simp only [List.mem_map]
    rintro _ ⟨v, hv, rfl⟩
    obtain ⟨h2, hpad⟩ := record_of_parse_ok (hparse v hv)
    exact ⟨⟨h2, (h v hv).2⟩, hpad⟩
  rw [writeSymbols, readAll_written _ (fun b hb => (hbodies b hb).1) (fun b hb => (hbodies b hb).2),
    List.map_map]
  exact congrArg (·, _) (List.map_congr_left hparse)

theorem symbol_stream_round_trip_mixed :
    (∀ v ∈ [.objName ⟨0, "a.obj"⟩, .registerVariable ⟨⟨0x74⟩, ⟨17⟩, "i", some 8⟩,
        .defRange ⟨1, ⟨⟨0x10, 1⟩, 4⟩, [⟨0, 2⟩]⟩, .scopeEnd],
        SymbolData.Writable v ∧ v.write.length < 2 ^ 16) ∧
      readAll (writeSymbols [.objName ⟨0, "a.obj"⟩, .registerVariable ⟨⟨0x74⟩, ⟨17⟩, "i", some 8⟩,
        .defRange ⟨1, ⟨⟨0x10, 1⟩, 4⟩, [⟨0, 2⟩]⟩, .scopeEnd]) =
        ([some (.ok (.objName ⟨0, "a.obj"⟩)), some (.ok (.registerVariable ⟨⟨0x74⟩, ⟨17⟩, "i", some 8⟩)),
          some (.ok (.defRange ⟨1, ⟨⟨0x10, 1⟩, 4⟩, [⟨0, 2⟩]⟩)), some (.ok .scopeEnd)], some .exhausted) :=
  ⟨by decide, symbol_stream_round_trip _ (by decide)⟩

end PdbSymbols
