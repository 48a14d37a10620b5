import PdbSymbols.Reads

set_option autoImplicit false

/-!
# Field types shared by the records

Indices and offsets are newtypes over fixed-width integers, passed through uninterpreted (§6).
The types below live outside `symbol/mod.rs` (in `common.rs`, `constants.rs` and `annotations.rs`,
which are not under src/); each is read as `buf.parse()` reads it, through scroll's `gread_with`
at its wire width.
-/

namespace PdbSymbols

structure TypeIndex where
  val : UInt32
  deriving DecidableEq

structure IdIndex where
  val : UInt32
  deriving DecidableEq

/-- `SymbolIndex`: the offset of a record in the symbol stream. -/
structure SymbolIndex where
  val : UInt32
  deriving DecidableEq

structure Register where
  val : UInt16
  deriving DecidableEq

structure COMToken where
  val : UInt32
  deriving DecidableEq

structure SectionCharacteristics where
  val : UInt32
  deriving DecidableEq

/-- A section-relative offset: on the wire the `u32` offset, then the `u16` section. -/
structure PdbInternalSectionOffset where
  offset : UInt32
  «section» : UInt16
  deriving DecidableEq

/-- Modelled from the spec: `SourceLanguage` (`constants.rs`), kept as the byte it is read from. -/
structure SourceLanguage where
  raw : UInt8
  deriving DecidableEq

/-- Modelled from the spec: `CPUType` (`constants.rs`), kept as the `u16` it is read from. -/
structure CPUType where
  raw : UInt16
  deriving DecidableEq

/-- `BinaryAnnotations`, the opaque line program of an inline site (§6). -/
structure BinaryAnnotations where
  data : List UInt8
  deriving DecidableEq

/-- `Variant` of the crate's `common.rs`, which is not under src/: the value of a CodeView
numeric leaf, as a constant carries it. -/
inductive Variant where
  | u8 (v : UInt8)
  | u16 (v : UInt16)
  | u32 (v : UInt32)
  | u64 (v : UInt64)
  | i8 (v : BitVec 8)
  | i16 (v : BitVec 16)
  | i32 (v : BitVec 32)
  | i64 (v : BitVec 64)
  deriving DecidableEq

def LF_NUMERIC : UInt16 := 0x8000
def LF_CHAR : UInt16 := 0x8000
def LF_SHORT : UInt16 := 0x8001
def LF_USHORT : UInt16 := 0x8002
def LF_LONG : UInt16 := 0x8003
def LF_ULONG : UInt16 := 0x8004
def LF_QUADWORD : UInt16 := 0x8009
def LF_UQUADWORD : UInt16 := 0x800a

def parseTypeIndex : Parse TypeIndex := TypeIndex.mk <$> parseU32

def parseIdIndex : Parse IdIndex := IdIndex.mk <$> parseU32

def parseSymbolIndex : Parse SymbolIndex := SymbolIndex.mk <$> parseU32

def parseRegister : Parse Register := Register.mk <$> parseU16

def parseCOMToken : Parse COMToken := COMToken.mk <$> parseU32

def parseSectionCharacteristics : Parse SectionCharacteristics :=
  SectionCharacteristics.mk <$> parseU32

def parseSectionOffset : Parse PdbInternalSectionOffset := do
  let offset ← parseU32
  let «section» ← parseU16
  pure ⟨offset, «section»⟩

def parseSourceLanguage : Parse SourceLanguage := SourceLanguage.mk <$> parseU8

def parseCPUType : Parse CPUType := CPUType.mk <$> parseU16

/-- `Variant::try_from_ctx` of `common.rs`, which is not under src/: a leaf below `LF_NUMERIC` is
the value itself, a known leaf kind is followed by a value of its width (`LF_CHAR` by a `u8`),
and any other leaf is refused. -/
def parseVariant : Parse Variant := do
  let leaf ← parseU16
  if leaf < LF_NUMERIC then pure (.u16 leaf)
  else if leaf = LF_CHAR then .u8 <$> parseU8
  else if leaf = LF_SHORT then .i16 <$> parseI 2
  else if leaf = LF_LONG then .i32 <$> parseI 4
  else if leaf = LF_QUADWORD then .i64 <$> parseI 8
  else if leaf = LF_USHORT then .u16 <$> parseU16
  else if leaf = LF_ULONG then .u32 <$> parseU32
  else if leaf = LF_UQUADWORD then .u64 <$> parseU64
  else throw (.unexpectedNumericPrefix leaf)

/-- `parse_optional_index`: the index 0 stands for no index. -/
def parseOptionalIndex : Parse (Option SymbolIndex) := do
  let index ← parseSymbolIndex
  pure (if index.val = 0 then none else some index)

section Reads

/-- The wire forms of the shared fields, read back. -/
theorem reads_parseTypeIndex (x : UInt32) (ys : List UInt8) :
    Reads parseTypeIndex (u32Bytes x) ys ⟨x⟩ := (reads_u32Bytes x ys).map _

theorem reads_parseSymbolIndex (x : UInt32) (ys : List UInt8) :
    Reads parseSymbolIndex (u32Bytes x) ys ⟨x⟩ := (reads_u32Bytes x ys).map _

/-- The index 0 reads as no index. -/
theorem reads_parseOptionalIndex (x : UInt32) (ys : List UInt8) :
    Reads parseOptionalIndex (u32Bytes x) ys (if x = 0 then none else some ⟨x⟩) :=
  (reads_parseSymbolIndex x ys).bind_pure

theorem reads_parseSectionOffset (offset : UInt32) (sec : UInt16) (ys : List UInt8) :
    Reads parseSectionOffset (u32Bytes offset ++ u16Bytes sec) ys ⟨offset, sec⟩ :=
  (reads_u32Bytes offset _).bind (reads_u16Bytes sec ys).bind_pure

end Reads

end PdbSymbols
