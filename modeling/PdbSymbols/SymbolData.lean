import PdbSymbols.ScopeRecords
import PdbSymbols.FrameRecords
import PdbSymbols.SlotRecords
import PdbSymbols.DefRangeRecords
import PdbSymbols.ListRecords

set_option autoImplicit false

/-!
# Decoding a record

`SymbolData::try_from_ctx` reads the kind and dispatches on it. Its `match kind` is kept as a
table, `symbolArms`: each arm with the kinds it lists, in the source's order, and `decodeArm`
runs the decoder the arm names through `buf.parse_with(kind)`.
-/

namespace PdbSymbols

inductive SymbolData where
  | scopeEnd
  | objName (data : ObjNameSymbol)
  | registerVariable (data : RegisterVariableSymbol)
  | constant (data : ConstantSymbol)
  | userDefinedType (data : UserDefinedTypeSymbol)
  | multiRegisterVariable (data : MultiRegisterVariableSymbol)
  | data (data : DataSymbol)
  | public (data : PublicSymbol)
  | procedure (data : ProcedureSymbol)
  | managedProcedure (data : ManagedProcedureSymbol)
  | threadStorage (data : ThreadStorageSymbol)
  | compileFlags (data : CompileFlagsSymbol)
  | usingNamespace (data : UsingNamespaceSymbol)
  | procedureReference (data : ProcedureReferenceSymbol)
  | dataReference (data : DataReferenceSymbol)
  | annotationReference (data : AnnotationReferenceSymbol)
  | tokenReference (data : TokenReferenceSymbol)
  | trampoline (data : TrampolineSymbol)
  | «export» (data : ExportSymbol)
  | «local» (data : LocalSymbol)
  | managedSlot (data : ManagedSlotSymbol)
  | buildInfo (data : BuildInfoSymbol)
  | inlineSite (data : InlineSiteSymbol)
  | inlineSiteEnd
  | procedureEnd
  | label (data : LabelSymbol)
  | block (data : BlockSymbol)
  | registerRelative (data : RegisterRelativeSymbol)
  | thunk (data : ThunkSymbol)
  | separatedCode (data : SeparatedCodeSymbol)
  | oem (data : OemSymbol)
  | envBlock (data : EnvBlockSymbol)
  | «section» (data : SectionSymbol)
  | coffGroup (data : CoffGroupSymbol)
  | defRange (data : DefRangeSymbol)
  | defRangeSubField (data : DefRangeSubFieldSymbol)
  | defRangeRegister (data : DefRangeRegisterSymbol)
  | defRangeFramePointerRelative (data : DefRangeFramePointerRelativeSymbol)
  | defRangeFramePointerRelativeFullScope (data : DefRangeFramePointerRelativeFullScopeSymbol)
  | defRangeSubFieldRegister (data : DefRangeSubFieldRegisterSymbol)
  | defRangeRegisterRelative (data : DefRangeRegisterRelativeSymbol)
  | basePointerRelative (data : BasePointerRelativeSymbol)
  | frameProcedure (data : FrameProcedureSymbol)
  | callSiteInfo (data : CallSiteInfoSymbol)
  | callers (data : FunctionListSymbol)
  | callees (data : FunctionListSymbol)
  | inlinees (data : InlineesSymbol)
  | armSwitchTable (data : ArmSwitchTableSymbol)
  | heapAllocationSite (data : HeapAllocationSiteSymbol)
  | frameCookie (data : FrameCookieSymbol)

/-- The arms of the `match kind` in `SymbolData::try_from_ctx`, one for each variant. -/
inductive SymbolArm where
  | scopeEnd | objName | registerVariable | constant | userDefinedType | multiRegisterVariable
  | data | public | procedure | managedProcedure | threadStorage | compileFlags | usingNamespace
  | procedureReference | trampoline | dataReference | annotationReference | tokenReference
  | «export» | «local» | managedSlot | buildInfo | inlineSite | inlineSiteEnd | procedureEnd
  | label | block | registerRelative | thunk | separatedCode | oem | envBlock | «section»
  | coffGroup | defRange | defRangeSubField | defRangeRegister | defRangeFramePointerRelative
  | defRangeFramePointerRelativeFullScope | defRangeSubFieldRegister | defRangeRegisterRelative
  | basePointerRelative | frameProcedure | callSiteInfo | callers | callees | inlinees
  | armSwitchTable | heapAllocationSite | frameCookie
  deriving DecidableEq

def symbolArms : List (SymbolArm × List SymbolKind) :=
  [(.scopeEnd, [S_END]),
   (.objName, [S_OBJNAME, S_OBJNAME_ST]),
   (.registerVariable, [S_REGISTER, S_REGISTER_ST]),
   (.constant, [S_CONSTANT, S_CONSTANT_ST, S_MANCONSTANT]),
   (.userDefinedType, [S_UDT, S_UDT_ST, S_COBOLUDT, S_COBOLUDT_ST]),
   (.multiRegisterVariable, [S_MANYREG, S_MANYREG_ST, S_MANYREG2, S_MANYREG2_ST]),
   (.data, [S_LDATA32, S_LDATA32_ST, S_GDATA32, S_GDATA32_ST, S_LMANDATA, S_LMANDATA_ST,
     S_GMANDATA, S_GMANDATA_ST]),
   (.public, [S_PUB32, S_PUB32_ST]),
   (.procedure, [S_LPROC32, S_LPROC32_ST, S_GPROC32, S_GPROC32_ST, S_LPROC32_ID, S_GPROC32_ID,
     S_LPROC32_DPC, S_LPROC32_DPC_ID]),
   (.managedProcedure, [S_LMANPROC, S_GMANPROC]),
   (.threadStorage, [S_LTHREAD32, S_LTHREAD32_ST, S_GTHREAD32, S_GTHREAD32_ST]),
   (.compileFlags, [S_COMPILE2, S_COMPILE2_ST, S_COMPILE3]),
   (.usingNamespace, [S_UNAMESPACE, S_UNAMESPACE_ST]),
   (.procedureReference, [S_PROCREF, S_PROCREF_ST, S_LPROCREF, S_LPROCREF_ST]),
   (.trampoline, [S_TRAMPOLINE]),
   (.dataReference, [S_DATAREF, S_DATAREF_ST]),
   (.annotationReference, [S_ANNOTATIONREF]),
   (.tokenReference, [S_TOKENREF]),
   (.«export», [S_EXPORT]),
   (.«local», [S_LOCAL]),
   (.managedSlot, [S_MANSLOT, S_MANSLOT_ST]),
   (.buildInfo, [S_BUILDINFO]),
   (.inlineSite, [S_INLINESITE, S_INLINESITE2]),
   (.inlineSiteEnd, [S_INLINESITE_END]),
   (.procedureEnd, [S_PROC_ID_END]),
   (.label, [S_LABEL32, S_LABEL32_ST]),
   (.block, [S_BLOCK32, S_BLOCK32_ST]),
   (.registerRelative, [S_REGREL32]),
   (.thunk, [S_THUNK32, S_THUNK32_ST]),
   (.separatedCode, [S_SEPCODE]),
   (.oem, [S_OEM]),
   (.envBlock, [S_ENVBLOCK]),
   (.«section», [S_SECTION]),
   (.coffGroup, [S_COFFGROUP]),
   (.defRange, [S_DEFRANGE]),
   (.defRangeSubField, [S_DEFRANGE_SUBFIELD]),
   (.defRangeRegister, [S_DEFRANGE_REGISTER]),
   (.defRangeFramePointerRelative, [S_DEFRANGE_FRAMEPOINTER_REL]),
   (.defRangeFramePointerRelativeFullScope, [S_DEFRANGE_FRAMEPOINTER_REL_FULL_SCOPE]),
   (.defRangeSubFieldRegister, [S_DEFRANGE_SUBFIELD_REGISTER]),
   (.defRangeRegisterRelative, [S_DEFRANGE_REGISTER_REL]),
   (.basePointerRelative, [S_BPREL32, S_BPREL32_ST, S_BPREL32_16T]),
   (.frameProcedure, [S_FRAMEPROC]),
   (.callSiteInfo, [S_CALLSITEINFO]),
   (.callers, [S_CALLERS]),
   (.callees, [S_CALLEES]),
   (.inlinees, [S_INLINEES]),
   (.armSwitchTable, [S_ARMSWITCHTABLE]),
   (.heapAllocationSite, [S_HEAPALLOCSITE]),
   (.frameCookie, [S_FRAMECOOKIE])]

/-- The arm the `match kind` takes: the first that lists the kind, none for `other`. -/
def symbolArm (kind : SymbolKind) : Option SymbolArm :=
  (symbolArms.find? fun arm => arm.2.contains kind).map Prod.fst

/-- `SymbolData::V(buf.parse_with(kind)?)` for a decoder that cannot panic. -/
def decodeWith {α : Type} (mk : α → SymbolData) (dec : List UInt8 → Except Error (α × Nat))
    (buf : ParseBuffer) : Checked (SymbolData × ParseBuffer) :=
  Checked.ofExcept ((mk <$> parseWith dec) buf)

/-- The same for a decoder that can panic. -/
def decodeWithChecked {α : Type} (mk : α → SymbolData) (dec : List UInt8 → Checked (α × Nat))
    (buf : ParseBuffer) : Checked (SymbolData × ParseBuffer) :=
  (fun (a, b) => (mk a, b)) <$> parseWithChecked dec buf

def decodeArm (kind : SymbolKind) (buf : ParseBuffer) : SymbolArm → Checked (SymbolData × ParseBuffer)
  | .scopeEnd => pure (.scopeEnd, buf)
  | .objName => decodeWith .objName (ObjNameSymbol.tryFromCtx · kind) buf
  | .registerVariable =>
    decodeWithChecked .registerVariable (RegisterVariableSymbol.tryFromCtx · kind) buf
  | .constant => decodeWith .constant (ConstantSymbol.tryFromCtx · kind) buf
  | .userDefinedType => decodeWith .userDefinedType (UserDefinedTypeSymbol.tryFromCtx · kind) buf
  | .multiRegisterVariable =>
    decodeWith .multiRegisterVariable (MultiRegisterVariableSymbol.tryFromCtx · kind) buf
  | .data => decodeWith .data (DataSymbol.tryFromCtx · kind) buf
  | .public => decodeWith .public (PublicSymbol.tryFromCtx · kind) buf
  | .procedure => decodeWith .procedure (ProcedureSymbol.tryFromCtx · kind) buf
  | .managedProcedure =>
    decodeWith .managedProcedure (ManagedProcedureSymbol.tryFromCtx · kind) buf
  | .threadStorage => decodeWith .threadStorage (ThreadStorageSymbol.tryFromCtx · kind) buf
  | .compileFlags => decodeWith .compileFlags (CompileFlagsSymbol.tryFromCtx · kind) buf
  | .usingNamespace => decodeWith .usingNamespace (UsingNamespaceSymbol.tryFromCtx · kind) buf
  | .procedureReference =>
    decodeWith .procedureReference (ProcedureReferenceSymbol.tryFromCtx · kind) buf
  | .trampoline => decodeWith .trampoline (TrampolineSymbol.tryFromCtx · kind) buf
  | .dataReference => decodeWith .dataReference (DataReferenceSymbol.tryFromCtx · kind) buf
  | .annotationReference =>
    decodeWith .annotationReference (AnnotationReferenceSymbol.tryFromCtx · kind) buf
  | .tokenReference => decodeWith .tokenReference (TokenReferenceSymbol.tryFromCtx · kind) buf
  | .«export» => decodeWith .«export» (ExportSymbol.tryFromCtx · kind) buf
  | .«local» => decodeWithChecked .«local» (LocalSymbol.tryFromCtx · kind) buf
  | .managedSlot => decodeWith .managedSlot (ManagedSlotSymbol.tryFromCtx · kind) buf
  | .buildInfo => decodeWith .buildInfo (BuildInfoSymbol.tryFromCtx · kind) buf
  | .inlineSite => decodeWith .inlineSite (InlineSiteSymbol.tryFromCtx · kind) buf
  | .inlineSiteEnd => pure (.inlineSiteEnd, buf)
  | .procedureEnd => pure (.procedureEnd, buf)
  | .label => decodeWith .label (LabelSymbol.tryFromCtx · kind) buf
  | .block => decodeWith .block (BlockSymbol.tryFromCtx · kind) buf
  | .registerRelative =>
    decodeWithChecked .registerRelative (RegisterRelativeSymbol.tryFromCtx · kind) buf
  | .thunk => decodeWith .thunk (ThunkSymbol.tryFromCtx · kind) buf
  | .separatedCode => decodeWith .separatedCode (SeparatedCodeSymbol.tryFromCtx · kind) buf
  | .oem => decodeWith .oem (OemSymbol.tryFromCtx · kind) buf
  | .envBlock => decodeWith .envBlock (EnvBlockSymbol.tryFromCtx · kind) buf
  | .«section» => decodeWith .«section» (SectionSymbol.tryFromCtx · kind) buf
  | .coffGroup => decodeWith .coffGroup (CoffGroupSymbol.tryFromCtx · kind) buf
  | .defRange => decodeWithChecked .defRange (DefRangeSymbol.tryFromCtx · kind) buf
  | .defRangeSubField =>
    decodeWithChecked .defRangeSubField (DefRangeSubFieldSymbol.tryFromCtx · kind) buf
  | .defRangeRegister =>
    decodeWithChecked .defRangeRegister (DefRangeRegisterSymbol.tryFromCtx · kind) buf
  | .defRangeFramePointerRelative => decodeWithChecked .defRangeFramePointerRelative
    (DefRangeFramePointerRelativeSymbol.tryFromCtx · kind) buf
  | .defRangeFramePointerRelativeFullScope => decodeWith .defRangeFramePointerRelativeFullScope
    (DefRangeFramePointerRelativeFullScopeSymbol.tryFromCtx · kind) buf
  | .defRangeSubFieldRegister => decodeWithChecked .defRangeSubFieldRegister
    (DefRangeSubFieldRegisterSymbol.tryFromCtx · kind) buf
  | .defRangeRegisterRelative => decodeWithChecked .defRangeRegisterRelative
    (DefRangeRegisterRelativeSymbol.tryFromCtx · kind) buf
  | .basePointerRelative =>
    decodeWithChecked .basePointerRelative (BasePointerRelativeSymbol.tryFromCtx · kind) buf
  | .frameProcedure => decodeWith .frameProcedure (FrameProcedureSymbol.tryFromCtx · kind) buf
  | .callSiteInfo => decodeWith .callSiteInfo (CallSiteInfoSymbol.tryFromCtx · kind) buf
  | .callers => decodeWith .callers (FunctionListSymbol.tryFromCtx · kind) buf
  | .callees => decodeWith .callees (FunctionListSymbol.tryFromCtx · kind) buf
  | .inlinees => decodeWith .inlinees (InlineesSymbol.tryFromCtx · kind) buf
  | .armSwitchTable => decodeWith .armSwitchTable (ArmSwitchTableSymbol.tryFromCtx · kind) buf
  | .heapAllocationSite =>
    decodeWith .heapAllocationSite (HeapAllocationSiteSymbol.tryFromCtx · kind) buf
  | .frameCookie => decodeWith .frameCookie (FrameCookieSymbol.tryFromCtx · kind) buf

def SymbolData.tryFromCtx (this : List UInt8) : Checked (SymbolData × Nat) := do
  let (kind, buf) ← Checked.ofExcept (parseU16 (ParseBuffer.fromSlice this))
  let (symbol, buf) ← match symbolArm kind with
    | some arm => decodeArm kind buf arm
    | none => Checked.fail (.unimplementedSymbolKind kind)
  pure (symbol, buf.pos)

/-- A `Symbol`: the offset of its record in the stream and its bytes from the kind on. -/
structure Symbol where
  index : SymbolIndex
  data : List UInt8
  deriving DecidableEq

/-- `raw_kind()`: the first two bytes, or 0 when there are fewer. -/
def Symbol.rawKind (s : Symbol) : SymbolKind :=
  match parseU16 (ParseBuffer.fromSlice s.data) with
  | .ok (kind, _) => kind
  | .error _ => 0

/-- `parse()`, `self.raw_bytes().pread_with(0, ())`: scroll refuses an empty slice. -/
def Symbol.parse (s : Symbol) : Checked SymbolData :=
  if s.data.length = 0 then Checked.fail .unexpectedEof
  else Prod.fst <$> SymbolData.tryFromCtx s.data

/-- The kinds `starts_scope()` lists. -/
def scopeStartKinds : List SymbolKind :=
  [S_GPROC16, S_GPROC32, S_GPROC32_ST, S_GPROCMIPS, S_GPROCMIPS_ST, S_GPROCIA64, S_GPROCIA64_ST,
    S_LPROC16, S_LPROC32, S_LPROC32_ST, S_LPROC32_DPC, S_LPROCMIPS, S_LPROCMIPS_ST, S_LPROCIA64,
    S_LPROCIA64_ST, S_LPROC32_DPC_ID, S_GPROC32_ID, S_GPROCMIPS_ID, S_GPROCIA64_ID, S_BLOCK16,
    S_BLOCK32, S_BLOCK32_ST, S_WITH16, S_WITH32, S_WITH32_ST, S_THUNK16, S_THUNK32, S_THUNK32_ST,
    S_SEPCODE, S_GMANPROC, S_GMANPROC_ST, S_LMANPROC, S_LMANPROC_ST, S_INLINESITE, S_INLINESITE2]

/-- The kinds `ends_scope()` lists. -/
def scopeEndKinds : List SymbolKind := [S_END, S_PROC_ID_END, S_INLINESITE_END]

/-- `starts_scope()`: `matches!(self.raw_kind(), ...)`. -/
def Symbol.startsScope (s : Symbol) : Bool := scopeStartKinds.contains s.rawKind

def Symbol.endsScope (s : Symbol) : Bool := scopeEndKinds.contains s.rawKind

section Dispatch

open ParseBuffer

theorem rest_after_kind (kind : SymbolKind) (payload : List UInt8) :
    (⟨u16Bytes kind ++ payload, 2⟩ : ParseBuffer).rest = payload := by
  simp [rest]

/-- A record of a kind the `match` lists is decoded by that kind's arm, on a cursor past the kind. -/
theorem parse_eq_decodeArm {kind : SymbolKind} {arm : SymbolArm} (harm : symbolArm kind = some arm)
    (index : SymbolIndex) (payload : List UInt8) :
    (Symbol.mk index (u16Bytes kind ++ payload)).parse =
      Prod.fst <$> decodeArm kind ⟨u16Bytes kind ++ payload, 2⟩ arm := by
  have hk : parseU16 (fromSlice (u16Bytes kind ++ payload)) =
      .ok (kind, ⟨u16Bytes kind ++ payload, 2⟩) := reads_u16Bytes kind payload _ rfl
  simp only [Symbol.parse, List.length_append, length_u16Bytes, SymbolData.tryFromCtx, hk, harm,
    Checked.ofExcept_eq, Checked.ok_bind]
  rw [if_neg (by omega)]
  rcases decodeArm kind _ arm with _ | _ | ⟨d, b⟩ <;> rfl

theorem symbolArm_eq_some {kind : SymbolKind} {arm : SymbolArm} (h : symbolArm kind = some arm) :
    ∃ kinds, (arm, kinds) ∈ symbolArms ∧ kind ∈ kinds := by
  obtain ⟨⟨arm', kinds⟩, hfind, rfl⟩ := Option.map_eq_some'.mp h
  exact ⟨kinds, List.mem_of_find?_eq_some hfind, by simpa using List.find?_some hfind⟩

theorem rawKind_u16Bytes (index : SymbolIndex) (kind : SymbolKind) (payload : List UInt8) :
    (Symbol.mk index (u16Bytes kind ++ payload)).rawKind = kind := by
  simp [Symbol.rawKind, reads_u16Bytes kind payload (fromSlice (u16Bytes kind ++ payload)) rfl]

theorem decodeWith_eq {α : Type} (mk : α → SymbolData) (dec : List UInt8 → Except Error (α × Nat))
    {b : ParseBuffer} (hb : b.rest ≠ []) :
    Prod.fst <$> decodeWith mk dec b = Checked.ofExcept ((dec b.rest).map fun r => mk r.1) := by
  simp only [decodeWith, map_apply, parseWith, len_eq, List.length_eq_zero, hb, if_false]
  rcases dec b.rest with _ | ⟨a, n⟩ <;> rfl

theorem decodeWithChecked_eq {α : Type} (mk : α → SymbolData)
    (dec : List UInt8 → Checked (α × Nat)) {b : ParseBuffer} (hb : b.rest ≠ []) :
    Prod.fst <$> decodeWithChecked mk dec b = (fun r => mk r.1) <$> dec b.rest := by
  simp only [decodeWithChecked, parseWithChecked, len_eq, List.length_eq_zero, hb, if_false]
  rcases dec b.rest with _ | _ | ⟨a, n⟩ <;> rfl

/-- A kind the `match` does not list is refused. -/
theorem parse_of_no_arm {kind : SymbolKind} (harm : symbolArm kind = none) (index : SymbolIndex)
    (payload : List UInt8) :
    (Symbol.mk index (u16Bytes kind ++ payload)).parse =
      Checked.fail (.unimplementedSymbolKind kind) := by
  have hk : parseU16 (fromSlice (u16Bytes kind ++ payload)) =
      .ok (kind, ⟨u16Bytes kind ++ payload, 2⟩) := reads_u16Bytes kind payload _ rfl
  simp only [Symbol.parse, List.length_append, length_u16Bytes, SymbolData.tryFromCtx, hk, harm,
    Checked.ofExcept_eq, Checked.ok_bind]
  rw [if_neg (by omega)]
  rfl

variable {α : Type} {kind : SymbolKind} {arm : SymbolArm} {mk : α → SymbolData}
  {payload : List UInt8}

/-- A record whose arm runs a decoder that cannot panic is that decoder's result on the payload. -/
theorem parse_of_decodeWith (harm : symbolArm kind = some arm)
    {dec : List UInt8 → Except Error (α × Nat)} (hdec : ∀ b, decodeArm kind b arm = decodeWith mk dec b)
    (index : SymbolIndex) (hne : payload ≠ []) :
    (Symbol.mk index (u16Bytes kind ++ payload)).parse =
      Checked.ofExcept ((dec payload).map fun r => mk r.1) := by
  rw [parse_eq_decodeArm harm, hdec, decodeWith_eq _ _ (by rwa [rest_after_kind]), rest_after_kind]

/-- The same for a decoder that can panic. -/
theorem parse_of_decodeWithChecked (harm : symbolArm kind = some arm)
    {dec : List UInt8 → Checked (α × Nat)} (hdec : ∀ b, decodeArm kind b arm = decodeWithChecked mk dec b)
    (index : SymbolIndex) (hne : payload ≠ []) :
    (Symbol.mk index (u16Bytes kind ++ payload)).parse = (fun r => mk r.1) <$> dec payload := by
  rw [parse_eq_decodeArm harm, hdec, decodeWithChecked_eq _ _ (by rwa [rest_after_kind]),
    rest_after_kind]

/-- A record whose arm's decoder returns a value on the payload parses as that value's variant. -/
theorem parse_of_decode_ok (harm : symbolArm kind = some arm)
    {dec : List UInt8 → Except Error (α × Nat)} (hdec : ∀ b, decodeArm kind b arm = decodeWith mk dec b)
    (index : SymbolIndex) (hne : payload ≠ []) {a : α} {n : Nat} (hd : dec payload = .ok (a, n)) :
    (Symbol.mk index (u16Bytes kind ++ payload)).parse = some (.ok (mk a)) := by
  rw [parse_of_decodeWith harm hdec index hne, hd]
  rfl

/-- `SymbolData::try_from_ctx` on a record whose arm runs a decoder that reads a prefix of its
payload: the variant of what it reads, and the size of the kind and of that prefix, whatever
bytes follow. -/
theorem tryFromCtx_of_reads (harm : symbolArm kind = some arm) {p : Parse α}
    (hdec : ∀ b, decodeArm kind b arm = decodeWith mk (Parse.run · p) b)
    {xs ys : List UInt8} (hne : xs ≠ []) {a : α} (hp : Reads p xs ys a) :
    SymbolData.tryFromCtx (u16Bytes kind ++ (xs ++ ys)) = some (.ok (mk a, 2 + xs.length)) := by
  have hk : parseU16 (fromSlice (u16Bytes kind ++ (xs ++ ys))) =
      .ok (kind, ⟨u16Bytes kind ++ (xs ++ ys), 2⟩) := reads_u16Bytes kind _ _ rfl
  have hb : (⟨u16Bytes kind ++ (xs ++ ys), 2⟩ : ParseBuffer).len ≠ 0 := by
    simp [len_eq, rest_after_kind, hne]
  simp only [SymbolData.tryFromCtx, hk, harm, Checked.ofExcept_eq, Checked.ok_bind, hdec, decodeWith,
    map_apply, parseWith, hb, if_false, rest_after_kind, hp.run]
  rfl

/-- A record whose arm runs a decoder that reads a prefix of its payload is the variant of what
it reads, whatever bytes follow. -/
theorem parse_of_reads (harm : symbolArm kind = some arm) {p : Parse α}
    (hdec : ∀ b, decodeArm kind b arm = decodeWith mk (Parse.run · p) b) (index : SymbolIndex)
    {xs ys : List UInt8} (hne : xs ≠ []) {a : α} (hp : Reads p xs ys a) :
    (Symbol.mk index (u16Bytes kind ++ (xs ++ ys))).parse = some (.ok (mk a)) := by
  rw [Symbol.parse, if_neg (by simp), tryFromCtx_of_reads harm hdec hne hp]
  rfl

theorem parse_of_reads_all (harm : symbolArm kind = some arm) {p : Parse α}
    (hdec : ∀ b, decodeArm kind b arm = decodeWith mk (Parse.run · p) b) (index : SymbolIndex)
    (hne : payload ≠ []) {a : α} (hp : Reads p payload [] a) :
    (Symbol.mk index (u16Bytes kind ++ payload)).parse = some (.ok (mk a)) := by
  simpa using parse_of_reads harm hdec index hne hp

end Dispatch

example : (Symbol.mk ⟨0⟩ [6, 0]).parse = some (.ok .scopeEnd) := rfl

example : (Symbol.mk ⟨0⟩ [1, 17, 0, 0, 0, 0, 42, 32, 67, 73, 76, 32, 42, 0]).parse =
    some (.ok (.objName ⟨0, "* CIL *"⟩)) := rfl

end PdbSymbols
