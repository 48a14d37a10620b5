import PdbSymbols.CommonTypes
import PdbSymbols.SymbolKinds

set_option autoImplicit false

/-!
# Records made of fixed fields and a name

Each `tryFromCtx` is the record's `TryFromCtx<'t, SymbolKind>` impl, run on the payload after
the kind: fields are read in the order the struct literal lists them, and the decoder returns the
value with the number of bytes its cursor consumed.
-/

namespace PdbSymbols

/-- `parse_symbol_name`: kinds below `S_ST_MAX` carry a length-prefixed name, the others a
NUL-terminated one. -/
def parseSymbolName (kind : SymbolKind) : Parse RawString :=
  if kind < S_ST_MAX then parseU8PascalString else parseCString

/-- `parse_optional_name`: the legacy kinds carry no name. -/
def parseOptionalName (kind : SymbolKind) : Parse (Option RawString) :=
  if kind < S_ST_MAX then pure none else some <$> parseCString

/-- The 1-based module field, `buf.parse::<u16>()?.checked_sub(1).map(usize::from)`. -/
def parseModuleIndex : Parse (Option Nat) := do
  let module ← parseU16
  pure (if module = 0 then none else some (module.toNat - 1))

/-- The four reference records: `sum_name`, `symbol_index` and the 1-based `module`, then the
name as the record reads it, made into the record by `mk`. -/
def parseReference {β γ : Type} (name : Parse β) (mk : UInt32 → SymbolIndex → Option Nat → β → γ) :
    Parse γ := do
  let sumName ← parseU32
  let symbolIndex ← parseSymbolIndex
  let module ← parseModuleIndex
  let name ← name
  pure (mk sumName symbolIndex module name)

section Names

/-- A name on the wire by the threshold rule (§6): below `S_ST_MAX` a `u8` length and the bytes,
from it on the bytes and a NUL. -/
def encodeName (kind : SymbolKind) (name : List UInt8) : List UInt8 :=
  if kind < S_ST_MAX then UInt8.ofNat name.length :: name else name ++ [0]

/-- The names that encoding carries: shorter than 256 bytes, or free of NUL. -/
def NameFits (kind : SymbolKind) (name : List UInt8) : Prop :=
  if kind < S_ST_MAX then name.length < 256 else 0 ∉ name

instance (kind : SymbolKind) (name : List UInt8) : Decidable (NameFits kind name) :=
  inferInstanceAs (Decidable (if kind < S_ST_MAX then name.length < 256 else 0 ∉ name))

variable {name : List UInt8} (ys : List UInt8)

theorem reads_parseSymbolName (kind : SymbolKind) (h : NameFits kind name) :
    Reads (parseSymbolName kind) (encodeName kind name) ys ⟨name⟩ := by
  by_cases hk : kind < S_ST_MAX
  · rw [NameFits, if_pos hk] at h
    rw [parseSymbolName, encodeName, if_pos hk, if_pos hk]
    exact reads_parseU8PascalString ys h
  · rw [NameFits, if_neg hk] at h
    rw [parseSymbolName, encodeName, if_neg hk, if_neg hk]
    exact reads_parseCString ys h

/-- A modern kind reads a NUL-terminated name. -/
theorem reads_parseSymbolName_modern {kind : SymbolKind} (hk : ¬kind < S_ST_MAX) (h : 0 ∉ name) :
    Reads (parseSymbolName kind) (name ++ [0]) ys ⟨name⟩ := by
  rw [parseSymbolName, if_neg hk]
  exact reads_parseCString ys h

/-- A legacy kind has no optional name, and reads nothing for it. -/
theorem reads_parseOptionalName_legacy {kind : SymbolKind} (hk : kind < S_ST_MAX) :
    Reads (parseOptionalName kind) [] ys none := by
  rw [parseOptionalName, if_pos hk]
  exact Reads.pure ys none

theorem reads_parseOptionalName {kind : SymbolKind} (hk : ¬kind < S_ST_MAX) (h : 0 ∉ name) :
    Reads (parseOptionalName kind) (name ++ [0]) ys (some ⟨name⟩) := by
  rw [parseOptionalName, if_neg hk]
  exact (reads_parseCString ys h).map some

end Names

/-- The module field counts from 1: the raw 0 reads as no module, any other `m` as `m - 1`. -/
theorem reads_parseModuleIndex (m : UInt16) (ys : List UInt8) :
    Reads parseModuleIndex (u16Bytes m) ys (if m = 0 then none else some (m.toNat - 1)) :=
  (reads_u16Bytes m ys).bind_pure

theorem reads_parseReference {β γ : Type} {p : Parse β} {xs ys : List UInt8} {a : β}
    (mk : UInt32 → SymbolIndex → Option Nat → β → γ) (sumName symbolIndex : UInt32) (m : UInt16)
    (hp : Reads p xs ys a) :
    Reads (parseReference p mk) (u32Bytes sumName ++ (u32Bytes symbolIndex ++ (u16Bytes m ++ xs))) ys
      (mk sumName ⟨symbolIndex⟩ (if m = 0 then none else some (m.toNat - 1)) a) :=
  (reads_u32Bytes sumName _).bind ((reads_parseSymbolIndex symbolIndex _).bind
    ((reads_parseModuleIndex m _).bind hp.bind_pure))

structure ObjNameSymbol where
  signature : UInt32
  name : String
  deriving DecidableEq

def ObjNameSymbol.tryFromCtx (this : List UInt8) (kind : SymbolKind) :
    Except Error (ObjNameSymbol × Nat) := Parse.run this do
  let signature ← parseU32
  let name ← parseSymbolName kind
  pure ⟨signature, name.toString⟩

structure ConstantSymbol where
  managed : Bool
  typeIndex : TypeIndex
  value : Variant
  name : String
  deriving DecidableEq

def ConstantSymbol.tryFromCtx (this : List UInt8) (kind : SymbolKind) :
    Except Error (ConstantSymbol × Nat) := Parse.run this do
  let typeIndex ← parseTypeIndex
  let value ← parseVariant
  let name ← parseSymbolName kind
  pure ⟨kind = S_MANCONSTANT, typeIndex, value, name.toString⟩

structure UserDefinedTypeSymbol where
  typeIndex : TypeIndex
  name : String
  deriving DecidableEq

def UserDefinedTypeSymbol.tryFromCtx (this : List UInt8) (kind : SymbolKind) :
    Except Error (UserDefinedTypeSymbol × Nat) := Parse.run this do
  let typeIndex ← parseTypeIndex
  let name ← parseSymbolName kind
  pure ⟨typeIndex, name.toString⟩

def CVPSF_CODE : UInt32 := 0x1
def CVPSF_FUNCTION : UInt32 := 0x2
def CVPSF_MANAGED : UInt32 := 0x4
def CVPSF_MSIL : UInt32 := 0x8

structure PublicSymbol where
  code : Bool
  function : Bool
  managed : Bool
  msil : Bool
  offset : PdbInternalSectionOffset
  name : String
  deriving DecidableEq

def PublicSymbol.tryFromCtx (this : List UInt8) (kind : SymbolKind) :
    Except Error (PublicSymbol × Nat) := Parse.run this do
  let flags ← parseU32
  let offset ← parseSectionOffset
  let name ← parseSymbolName kind
  pure ⟨flags &&& CVPSF_CODE != 0, flags &&& CVPSF_FUNCTION != 0, flags &&& CVPSF_MANAGED != 0,
    flags &&& CVPSF_MSIL != 0, offset, name.toString⟩

structure DataSymbol where
  global : Bool
  managed : Bool
  typeIndex : TypeIndex
  offset : PdbInternalSectionOffset
  name : String
  deriving DecidableEq

def DataSymbol.tryFromCtx (this : List UInt8) (kind : SymbolKind) :
    Except Error (DataSymbol × Nat) := Parse.run this do
  let typeIndex ← parseTypeIndex
  let offset ← parseSectionOffset
  let name ← parseSymbolName kind
  pure ⟨[S_GDATA32, S_GDATA32_ST, S_GMANDATA, S_GMANDATA_ST].contains kind,
    [S_LMANDATA, S_LMANDATA_ST, S_GMANDATA, S_GMANDATA_ST].contains kind, typeIndex, offset,
    name.toString⟩

structure ProcedureReferenceSymbol where
  global : Bool
  sumName : UInt32
  symbolIndex : SymbolIndex
  module : Option Nat
  name : Option String
  deriving DecidableEq

def ProcedureReferenceSymbol.tryFromCtx (this : List UInt8) (kind : SymbolKind) :
    Except Error (ProcedureReferenceSymbol × Nat) :=
  Parse.run this <| parseReference (parseOptionalName kind) fun sumName symbolIndex module name =>
    ⟨[S_PROCREF, S_PROCREF_ST].contains kind, sumName, symbolIndex, module,
      name.map RawString.toString⟩

structure DataReferenceSymbol where
  sumName : UInt32
  symbolIndex : SymbolIndex
  module : Option Nat
  name : Option String
  deriving DecidableEq

def DataReferenceSymbol.tryFromCtx (this : List UInt8) (kind : SymbolKind) :
    Except Error (DataReferenceSymbol × Nat) :=
  Parse.run this <| parseReference (parseOptionalName kind) fun sumName symbolIndex module name =>
    ⟨sumName, symbolIndex, module, name.map RawString.toString⟩

structure AnnotationReferenceSymbol where
  sumName : UInt32
  symbolIndex : SymbolIndex
  module : Option Nat
  name : String
  deriving DecidableEq

def AnnotationReferenceSymbol.tryFromCtx (this : List UInt8) (kind : SymbolKind) :
    Except Error (AnnotationReferenceSymbol × Nat) :=
  Parse.run this <| parseReference (parseSymbolName kind) fun sumName symbolIndex module name =>
    ⟨sumName, symbolIndex, module, name.toString⟩

structure TokenReferenceSymbol where
  sumName : UInt32
  symbolIndex : SymbolIndex
  module : Option Nat
  name : String
  deriving DecidableEq

def TokenReferenceSymbol.tryFromCtx (this : List UInt8) (kind : SymbolKind) :
    Except Error (TokenReferenceSymbol × Nat) :=
  Parse.run this <| parseReference (parseSymbolName kind) fun sumName symbolIndex module name =>
    ⟨sumName, symbolIndex, module, name.toString⟩

inductive TrampolineType where
  | incremental
  | branchIsland
  | unknown
  deriving DecidableEq

structure TrampolineSymbol where
  trampType : TrampolineType
  size : UInt16
  thunk : PdbInternalSectionOffset
  target : PdbInternalSectionOffset
  deriving DecidableEq

/-- The two offsets come before the two sections on the wire. -/
def TrampolineSymbol.tryFromCtx (this : List UInt8) (_kind : SymbolKind) :
    Except Error (TrampolineSymbol × Nat) := Parse.run this do
  let trampType ← parseU16
  let size ← parseU16
  let thunkOffset ← parseU32
  let targetOffset ← parseU32
  let thunkSection ← parseU16
  let targetSection ← parseU16
  pure ⟨if trampType = 0 then .incremental else if trampType = 1 then .branchIsland else .unknown,
    size, ⟨thunkOffset, thunkSection⟩, ⟨targetOffset, targetSection⟩⟩

structure ThreadStorageSymbol where
  global : Bool
  typeIndex : TypeIndex
  offset : PdbInternalSectionOffset
  name : String
  deriving DecidableEq

def ThreadStorageSymbol.tryFromCtx (this : List UInt8) (kind : SymbolKind) :
    Except Error (ThreadStorageSymbol × Nat) := Parse.run this do
  let typeIndex ← parseTypeIndex
  let offset ← parseSectionOffset
  let name ← parseSymbolName kind
  pure ⟨[S_GTHREAD32, S_GTHREAD32_ST].contains kind, typeIndex, offset, name.toString⟩

structure BuildInfoSymbol where
  id : IdIndex
  deriving DecidableEq

def BuildInfoSymbol.tryFromCtx (this : List UInt8) (_kind : SymbolKind) :
    Except Error (BuildInfoSymbol × Nat) := Parse.run this (BuildInfoSymbol.mk <$> parseIdIndex)

structure UsingNamespaceSymbol where
  name : String
  deriving DecidableEq

def UsingNamespaceSymbol.tryFromCtx (this : List UInt8) (kind : SymbolKind) :
    Except Error (UsingNamespaceSymbol × Nat) := Parse.run this do
  let name ← parseSymbolName kind
  pure ⟨name.toString⟩

def CV_LVARFLAG_ISPARAM : UInt16 := 0x01
def CV_LVARFLAG_ADDRTAKEN : UInt16 := 0x02
def CV_LVARFLAG_COMPGENX : UInt16 := 0x04
def CV_LVARFLAG_ISAGGREGATE : UInt16 := 0x08
def CV_LVARFLAG_ISALIASED : UInt16 := 0x10
def CV_LVARFLAG_ISALIAS : UInt16 := 0x20
def CV_LVARFLAG_ISRETVALUE : UInt16 := 0x40
def CV_LVARFLAG_ISOPTIMIZEDOUT : UInt16 := 0x80
def CV_LVARFLAG_ISENREG_GLOB : UInt16 := 0x100
def CV_LVARFLAG_ISENREG_STAT : UInt16 := 0x200

structure LocalVariableFlags where
  isparam : Bool
  addrtaken : Bool
  compgenx : Bool
  isaggregate : Bool
  isaliased : Bool
  isalias : Bool
  isretvalue : Bool
  isoptimizedout : Bool
  isenregGlob : Bool
  isenregStat : Bool
  deriving DecidableEq

def parseLocalVariableFlags : Parse LocalVariableFlags := do
  let value ← parseU16
  pure ⟨value &&& CV_LVARFLAG_ISPARAM != 0, value &&& CV_LVARFLAG_ADDRTAKEN != 0,
    value &&& CV_LVARFLAG_COMPGENX != 0, value &&& CV_LVARFLAG_ISAGGREGATE != 0,
    value &&& CV_LVARFLAG_ISALIASED != 0, value &&& CV_LVARFLAG_ISALIAS != 0,
    value &&& CV_LVARFLAG_ISRETVALUE != 0, value &&& CV_LVARFLAG_ISOPTIMIZEDOUT != 0,
    value &&& CV_LVARFLAG_ISENREG_GLOB != 0, value &&& CV_LVARFLAG_ISENREG_STAT != 0⟩

structure ManagedSlotSymbol where
  slot : UInt32
  typeIndex : TypeIndex
  offset : PdbInternalSectionOffset
  flags : LocalVariableFlags
  name : String
  deriving DecidableEq

def ManagedSlotSymbol.tryFromCtx (this : List UInt8) (kind : SymbolKind) :
    Except Error (ManagedSlotSymbol × Nat) := Parse.run this do
  let slot ← parseU32
  let typeIndex ← parseTypeIndex
  let offset ← parseSectionOffset
  let flags ← parseLocalVariableFlags
  let name ← parseSymbolName kind
  pure ⟨slot, typeIndex, offset, flags, name.toString⟩

structure ExportSymbolFlags where
  constant : Bool
  data : Bool
  «private» : Bool
  noName : Bool
  ordinal : Bool
  forwarder : Bool
  deriving DecidableEq

def parseExportSymbolFlags : Parse ExportSymbolFlags := do
  let value ← parseU16
  pure ⟨value &&& 0x01 != 0, value &&& 0x02 != 0, value &&& 0x04 != 0, value &&& 0x08 != 0,
    value &&& 0x10 != 0, value &&& 0x20 != 0⟩

structure ExportSymbol where
  ordinal : UInt16
  flags : ExportSymbolFlags
  name : String
  deriving DecidableEq

def ExportSymbol.tryFromCtx (this : List UInt8) (kind : SymbolKind) :
    Except Error (ExportSymbol × Nat) := Parse.run this do
  let ordinal ← parseU16
  let flags ← parseExportSymbolFlags
  let name ← parseSymbolName kind
  pure ⟨ordinal, flags, name.toString⟩

structure OemSymbol where
  idOem : String
  typeIndex : TypeIndex
  rgl : UInt32
  deriving DecidableEq

def OemSymbol.tryFromCtx (this : List UInt8) (_kind : SymbolKind) :
    Except Error (OemSymbol × Nat) := Parse.run this do
  let idOem ← parseCString
  let typeIndex ← parseTypeIndex
  let rgl ← parseU32
  pure ⟨idOem.toString, typeIndex, rgl⟩

structure SectionSymbol where
  isec : UInt16
  align : UInt8
  reserved : UInt8
  rva : UInt32
  cb : UInt32
  characteristics : SectionCharacteristics
  name : String
  deriving DecidableEq

def SectionSymbol.tryFromCtx (this : List UInt8) (kind : SymbolKind) :
    Except Error (SectionSymbol × Nat) := Parse.run this do
  let isec ← parseU16
  let align ← parseU8
  let reserved ← parseU8
  let rva ← parseU32
  let cb ← parseU32
  let characteristics ← parseSectionCharacteristics
  let name ← parseSymbolName kind
  pure ⟨isec, align, reserved, rva, cb, characteristics, name.toString⟩

structure CoffGroupSymbol where
  cb : UInt32
  characteristics : UInt32
  offset : PdbInternalSectionOffset
  name : String
  deriving DecidableEq

def CoffGroupSymbol.tryFromCtx (this : List UInt8) (kind : SymbolKind) :
    Except Error (CoffGroupSymbol × Nat) := Parse.run this do
  let cb ← parseU32
  let characteristics ← parseU32
  let offset ← parseSectionOffset
  let name ← parseSymbolName kind
  pure ⟨cb, characteristics, offset, name.toString⟩

end PdbSymbols
