import PdbSymbols.NamedRecords

set_option autoImplicit false

/-!
# Compiler, frame and call-site records

The flag words are decoded bit by bit; `CompileFlags` and `FrameProcedureFlags` read their word
from the start of their slice and report a fixed width, as their impls do.
-/

namespace PdbSymbols

structure CompilerVersion where
  major : UInt16
  minor : UInt16
  build : UInt16
  qfe : Option UInt16
  deriving DecidableEq

def CompilerVersion.tryFromCtx (this : List UInt8) (hasQfe : Bool) :
    Except Error (CompilerVersion × Nat) := Parse.run this do
  let major ← parseU16
  let minor ← parseU16
  let build ← parseU16
  let qfe ← if hasQfe then some <$> parseU16 else pure none
  pure ⟨major, minor, build, qfe⟩

structure CompileFlags where
  editAndContinue : Bool
  noDebugInfo : Bool
  linkTimeCodegen : Bool
  noDataAlign : Bool
  managed : Bool
  securityChecks : Bool
  hotPatch : Bool
  cvtcil : Bool
  msilModule : Bool
  sdl : Bool
  pgo : Bool
  expModule : Bool
  deriving DecidableEq

def bit16 (raw : UInt16) (i : UInt16) : Bool := (raw >>> i) &&& 1 != 0

/-- The flag word at offset 0 and an unused byte at offset 2; three bits are defined only for
`S_COMPILE3`. -/
def CompileFlags.tryFromCtx (this : List UInt8) (kind : SymbolKind) :
    Except Error (CompileFlags × Nat) :=
  match this with
  | b0 :: b1 :: _ :: _ =>
    let raw := UInt16.ofNat (ofLE [b0, b1])
    let isCompile3 := kind = S_COMPILE3
    .ok (⟨bit16 raw 0, bit16 raw 1, bit16 raw 2, bit16 raw 3, bit16 raw 4, bit16 raw 5,
      bit16 raw 6, bit16 raw 7, bit16 raw 8, bit16 raw 9 && isCompile3,
      bit16 raw 10 && isCompile3, bit16 raw 11 && isCompile3⟩, 3)
  | _ => .error .unexpectedEof

structure CompileFlagsSymbol where
  language : SourceLanguage
  flags : CompileFlags
  cpuType : CPUType
  frontendVersion : CompilerVersion
  backendVersion : CompilerVersion
  versionString : String
  deriving DecidableEq

def CompileFlagsSymbol.tryFromCtx (this : List UInt8) (kind : SymbolKind) :
    Except Error (CompileFlagsSymbol × Nat) := Parse.run this do
  let hasQfe := kind = S_COMPILE3
  let language ← parseSourceLanguage
  let flags ← parseWith (CompileFlags.tryFromCtx · kind)
  let cpuType ← parseCPUType
  let frontendVersion ← parseWith (CompilerVersion.tryFromCtx · hasQfe)
  let backendVersion ← parseWith (CompilerVersion.tryFromCtx · hasQfe)
  let versionString ← parseSymbolName kind
  pure ⟨language, flags, cpuType, frontendVersion, backendVersion, versionString.toString⟩

structure FrameProcedureFlags where
  hasAlloca : Bool
  hasSetjmp : Bool
  hasLongjmp : Bool
  hasInlineAsm : Bool
  hasEh : Bool
  inlineSpec : Bool
  hasSeh : Bool
  naked : Bool
  securityChecks : Bool
  asyncEh : Bool
  gsNoStackOrdering : Bool
  wasInlined : Bool
  gsCheck : Bool
  safeBuffers : Bool
  encodedLocalBasePointer : UInt8
  encodedParamBasePointer : UInt8
  pogoOn : Bool
  validCounts : Bool
  optSpeed : Bool
  guardCf : Bool
  guardCfw : Bool
  deriving DecidableEq

def bit32 (raw : UInt32) (i : UInt32) : Bool := (raw >>> i) &&& 1 != 0

/-- The flag word at offset 0. -/
def FrameProcedureFlags.tryFromCtx (this : List UInt8) : Except Error (FrameProcedureFlags × Nat) :=
  match this with
  | b0 :: b1 :: b2 :: b3 :: _ =>
    let raw := UInt32.ofNat (ofLE [b0, b1, b2, b3])
    .ok (⟨bit32 raw 0, bit32 raw 1, bit32 raw 2, bit32 raw 3, bit32 raw 4, bit32 raw 5,
      bit32 raw 6, bit32 raw 7, bit32 raw 8, bit32 raw 9, bit32 raw 10, bit32 raw 11,
      bit32 raw 12, bit32 raw 13, (raw >>> 14).toUInt8 &&& 3, (raw >>> 16).toUInt8 &&& 3,
      bit32 raw 18, bit32 raw 19, bit32 raw 20, bit32 raw 21, bit32 raw 22⟩, 4)
  | _ => .error .unexpectedEof

structure FrameProcedureSymbol where
  frameByteCount : UInt32
  paddingByteCount : UInt32
  offsetPadding : UInt32
  calleeSaveRegistersByteCount : UInt32
  exceptionHandlerOffset : PdbInternalSectionOffset
  flags : FrameProcedureFlags
  deriving DecidableEq

def FrameProcedureSymbol.tryFromCtx (this : List UInt8) (_kind : SymbolKind) :
    Except Error (FrameProcedureSymbol × Nat) := Parse.run this do
  let frameByteCount ← parseU32
  let paddingByteCount ← parseU32
  let offsetPadding ← parseU32
  let calleeSaveRegistersByteCount ← parseU32
  let exceptionHandlerOffset ← parseSectionOffset
  let flags ← parseWith FrameProcedureFlags.tryFromCtx
  pure ⟨frameByteCount, paddingByteCount, offsetPadding, calleeSaveRegistersByteCount,
    exceptionHandlerOffset, flags⟩

structure CallSiteInfoSymbol where
  offset : PdbInternalSectionOffset
  typeIndex : TypeIndex
  deriving DecidableEq

def CallSiteInfoSymbol.tryFromCtx (this : List UInt8) (_kind : SymbolKind) :
    Except Error (CallSiteInfoSymbol × Nat) := Parse.run this do
  let offset ← parseSectionOffset
  let _padding ← parseU16
  let typeIndex ← parseTypeIndex
  pure ⟨offset, typeIndex⟩

inductive JumpTableEntrySize where
  | int8
  | uInt8
  | int16
  | uInt16
  | int32
  | uInt32
  | pointer
  | uInt8ShiftLeft
  | uInt16ShiftLeft
  | int8ShiftLeft
  | int16ShiftLeft
  | invalid
  deriving DecidableEq

def JumpTableEntrySize.ofRaw (value : UInt16) : JumpTableEntrySize :=
  match value.toNat with
  | 0 => .int8
  | 1 => .uInt8
  | 2 => .int16
  | 3 => .uInt16
  | 4 => .int32
  | 5 => .uInt32
  | 6 => .pointer
  | 7 => .uInt8ShiftLeft
  | 8 => .uInt16ShiftLeft
  | 9 => .int8ShiftLeft
  | 10 => .int16ShiftLeft
  | _ => .invalid

structure ArmSwitchTableSymbol where
  offsetBase : PdbInternalSectionOffset
  switchType : JumpTableEntrySize
  offsetBranch : PdbInternalSectionOffset
  offsetTable : PdbInternalSectionOffset
  numEntries : UInt32
  deriving DecidableEq

/-- The branch and table offsets come before their sections on the wire. -/
def ArmSwitchTableSymbol.tryFromCtx (this : List UInt8) (_kind : SymbolKind) :
    Except Error (ArmSwitchTableSymbol × Nat) := Parse.run this do
  let offsetBase ← parseSectionOffset
  let switchType ← JumpTableEntrySize.ofRaw <$> parseU16
  let offBranch ← parseU32
  let offTable ← parseU32
  let secBranch ← parseU16
  let secTable ← parseU16
  let numEntries ← parseU32
  pure ⟨offsetBase, switchType, ⟨offBranch, secBranch⟩, ⟨offTable, secTable⟩, numEntries⟩

structure HeapAllocationSiteSymbol where
  offset : PdbInternalSectionOffset
  instrLength : UInt16
  typeIndex : TypeIndex
  deriving DecidableEq

def HeapAllocationSiteSymbol.tryFromCtx (this : List UInt8) (_kind : SymbolKind) :
    Except Error (HeapAllocationSiteSymbol × Nat) := Parse.run this do
  let offset ← parseSectionOffset
  let instrLength ← parseU16
  let typeIndex ← parseTypeIndex
  pure ⟨offset, instrLength, typeIndex⟩

inductive FrameCookieType where
  | copy
  | xorStackPointer
  | xorBasePointer
  | xorR13
  | invalid (value : UInt8)
  deriving DecidableEq

def FrameCookieType.ofRaw (value : UInt8) : FrameCookieType :=
  if value = 0 then .copy else if value = 1 then .xorStackPointer
  else if value = 2 then .xorBasePointer else if value = 3 then .xorR13 else .invalid value

structure FrameCookieSymbol where
  offset : BitVec 32
  register : Register
  cookieType : FrameCookieType
  flags : UInt8
  deriving DecidableEq

def FrameCookieSymbol.tryFromCtx (this : List UInt8) (_kind : SymbolKind) :
    Except Error (FrameCookieSymbol × Nat) := Parse.run this do
  let offset ← parseI 4
  let register ← parseRegister
  let cookieType ← FrameCookieType.ofRaw <$> parseU8
  let flags ← parseU8
  pure ⟨offset, register, cookieType, flags⟩

end PdbSymbols
