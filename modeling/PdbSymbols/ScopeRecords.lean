import PdbSymbols.NamedRecords

set_option autoImplicit false

/-!
# Records that open a scope

Procedures, blocks, thunks, separated code and inline sites carry the index of the record that
closes them (`end`), and most the index of the scope they sit in (`parent`).
-/

namespace PdbSymbols

def CV_PFLAG_NOFPO : UInt8 := 0x01
def CV_PFLAG_INT : UInt8 := 0x02
def CV_PFLAG_FAR : UInt8 := 0x04
def CV_PFLAG_NEVER : UInt8 := 0x08
def CV_PFLAG_NOTREACHED : UInt8 := 0x10
def CV_PFLAG_CUST_CALL : UInt8 := 0x20
def CV_PFLAG_NOINLINE : UInt8 := 0x40
def CV_PFLAG_OPTDBGINFO : UInt8 := 0x80

structure ProcedureFlags where
  nofpo : Bool
  int : Bool
  far : Bool
  never : Bool
  notreached : Bool
  custCall : Bool
  noinline : Bool
  optdbginfo : Bool
  deriving DecidableEq

def parseProcedureFlags : Parse ProcedureFlags := do
  let value ← parseU8
  pure ⟨value &&& CV_PFLAG_NOFPO != 0, value &&& CV_PFLAG_INT != 0, value &&& CV_PFLAG_FAR != 0,
    value &&& CV_PFLAG_NEVER != 0, value &&& CV_PFLAG_NOTREACHED != 0,
    value &&& CV_PFLAG_CUST_CALL != 0, value &&& CV_PFLAG_NOINLINE != 0,
    value &&& CV_PFLAG_OPTDBGINFO != 0⟩

structure ProcedureSymbol where
  global : Bool
  dpc : Bool
  parent : Option SymbolIndex
  «end» : SymbolIndex
  next : Option SymbolIndex
  len : UInt32
  dbgStartOffset : UInt32
  dbgEndOffset : UInt32
  typeIndex : TypeIndex
  offset : PdbInternalSectionOffset
  flags : ProcedureFlags
  name : String
  deriving DecidableEq

def ProcedureSymbol.tryFromCtx (this : List UInt8) (kind : SymbolKind) :
    Except Error (ProcedureSymbol × Nat) := Parse.run this do
  let parent ← parseOptionalIndex
  let «end» ← parseSymbolIndex
  let next ← parseOptionalIndex
  let len ← parseU32
  let dbgStartOffset ← parseU32
  let dbgEndOffset ← parseU32
  let typeIndex ← parseTypeIndex
  let offset ← parseSectionOffset
  let flags ← parseProcedureFlags
  let name ← parseSymbolName kind
  pure ⟨[S_GPROC32, S_GPROC32_ST, S_GPROC32_ID].contains kind,
    [S_LPROC32_DPC, S_LPROC32_DPC_ID].contains kind, parent, «end», next, len, dbgStartOffset,
    dbgEndOffset, typeIndex, offset, flags, name.toString⟩

structure ManagedProcedureSymbol where
  global : Bool
  parent : Option SymbolIndex
  «end» : SymbolIndex
  next : Option SymbolIndex
  len : UInt32
  dbgStartOffset : UInt32
  dbgEndOffset : UInt32
  token : COMToken
  offset : PdbInternalSectionOffset
  flags : ProcedureFlags
  returnRegister : UInt16
  name : Option String
  deriving DecidableEq

def ManagedProcedureSymbol.tryFromCtx (this : List UInt8) (kind : SymbolKind) :
    Except Error (ManagedProcedureSymbol × Nat) := Parse.run this do
  let parent ← parseOptionalIndex
  let «end» ← parseSymbolIndex
  let next ← parseOptionalIndex
  let len ← parseU32
  let dbgStartOffset ← parseU32
  let dbgEndOffset ← parseU32
  let token ← parseCOMToken
  let offset ← parseSectionOffset
  let flags ← parseProcedureFlags
  let returnRegister ← parseU16
  let name ← parseOptionalName kind
  pure ⟨kind = S_GMANPROC, parent, «end», next, len, dbgStartOffset, dbgEndOffset, token, offset,
    flags, returnRegister, name.map RawString.toString⟩

structure InlineSiteSymbol where
  parent : Option SymbolIndex
  «end» : SymbolIndex
  inlinee : IdIndex
  invocations : Option UInt32
  annotations : BinaryAnnotations
  deriving DecidableEq

/-- The annotations are the rest of the record, `buf.take(buf.len())`. -/
def InlineSiteSymbol.tryFromCtx (this : List UInt8) (kind : SymbolKind) :
    Except Error (InlineSiteSymbol × Nat) := Parse.run this do
  let parent ← parseOptionalIndex
  let «end» ← parseSymbolIndex
  let inlinee ← parseIdIndex
  let invocations ← if kind = S_INLINESITE2 then some <$> parseU32 else pure none
  let annotations ← take (← get).len
  pure ⟨parent, «end», inlinee, invocations, ⟨annotations⟩⟩

structure LabelSymbol where
  offset : PdbInternalSectionOffset
  flags : ProcedureFlags
  name : String
  deriving DecidableEq

def LabelSymbol.tryFromCtx (this : List UInt8) (kind : SymbolKind) :
    Except Error (LabelSymbol × Nat) := Parse.run this do
  let offset ← parseSectionOffset
  let flags ← parseProcedureFlags
  let name ← parseSymbolName kind
  pure ⟨offset, flags, name.toString⟩

structure BlockSymbol where
  parent : SymbolIndex
  «end» : SymbolIndex
  len : UInt32
  offset : PdbInternalSectionOffset
  name : String
  deriving DecidableEq

def BlockSymbol.tryFromCtx (this : List UInt8) (kind : SymbolKind) :
    Except Error (BlockSymbol × Nat) := Parse.run this do
  let parent ← parseSymbolIndex
  let «end» ← parseSymbolIndex
  let len ← parseU32
  let offset ← parseSectionOffset
  let name ← parseSymbolName kind
  pure ⟨parent, «end», len, offset, name.toString⟩

structure ThunkAdjustor where
  delta : UInt16
  target : String
  deriving DecidableEq

inductive ThunkKind where
  | noType
  | adjustor (adjustor : ThunkAdjustor)
  | vCall (entry : UInt16)
  | pCode
  | load
  | unknown (ordinal : UInt8)
  deriving DecidableEq

structure ThunkSymbol where
  parent : Option SymbolIndex
  «end» : SymbolIndex
  next : Option SymbolIndex
  offset : PdbInternalSectionOffset
  len : UInt16
  kind : ThunkKind
  name : String
  deriving DecidableEq

/-- The `match ord` of `ThunkSymbol::try_from_ctx`: the data the sub-kind ordinal selects. -/
def ThunkKind.ofOrdinal (ord : UInt8) : Parse ThunkKind :=
  match ord with
  | 0 => pure .noType
  | 1 => do
    let delta ← parseU16
    let target ← parseCString
    pure (.adjustor ⟨delta, target.toString⟩)
  | 2 => .vCall <$> parseU16
  | 3 => pure .pCode
  | 4 => pure .load
  | ord => pure (.unknown ord)

theorem ThunkKind.ofOrdinal_unknown {ord : UInt8} (h : 5 ≤ ord.toNat) :
    ThunkKind.ofOrdinal ord = pure (.unknown ord) := by
  unfold ThunkKind.ofOrdinal
  split <;> first | rfl | exact absurd h (by decide)

/-- The sub-kind ordinal precedes the name; the data it selects follows the name. -/
def ThunkSymbol.tryFromCtx (this : List UInt8) (kind : SymbolKind) :
    Except Error (ThunkSymbol × Nat) := Parse.run this do
  let parent ← parseOptionalIndex
  let «end» ← parseSymbolIndex
  let next ← parseOptionalIndex
  let offset ← parseSectionOffset
  let len ← parseU16
  let ord ← parseU8
  let name ← parseSymbolName kind
  let thunkKind ← ThunkKind.ofOrdinal ord
  pure ⟨parent, «end», next, offset, len, thunkKind, name.toString⟩

def CV_SEPCODEFLAG_IS_LEXICAL_SCOPE : UInt32 := 0x01
def CV_SEPCODEFLAG_RETURNS_TO_PARENT : UInt32 := 0x02

structure SeparatedCodeFlags where
  islexicalscope : Bool
  returnstoparent : Bool
  deriving DecidableEq

def parseSeparatedCodeFlags : Parse SeparatedCodeFlags := do
  let value ← parseU32
  pure ⟨value &&& CV_SEPCODEFLAG_IS_LEXICAL_SCOPE != 0,
    value &&& CV_SEPCODEFLAG_RETURNS_TO_PARENT != 0⟩

structure SeparatedCodeSymbol where
  parent : SymbolIndex
  «end» : SymbolIndex
  len : UInt32
  flags : SeparatedCodeFlags
  offset : PdbInternalSectionOffset
  parentOffset : PdbInternalSectionOffset
  deriving DecidableEq

/-- Both offsets come before both sections on the wire. -/
def SeparatedCodeSymbol.tryFromCtx (this : List UInt8) (_kind : SymbolKind) :
    Except Error (SeparatedCodeSymbol × Nat) := Parse.run this do
  let parent ← parseSymbolIndex
  let «end» ← parseSymbolIndex
  let len ← parseU32
  let flags ← parseSeparatedCodeFlags
  let offset ← parseU32
  let parentOffset ← parseU32
  let «section» ← parseU16
  let parentSection ← parseU16
  pure ⟨parent, «end», len, flags, ⟨offset, «section»⟩, ⟨parentOffset, parentSection⟩⟩

end PdbSymbols
