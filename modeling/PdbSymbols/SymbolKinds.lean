import Mathlib.Data.List.Basic

set_option autoImplicit false

/-!
# Symbol kinds

Modelled from the spec: the `S_*` kind constants of `constants.rs` (§4.1, §6), which is not in
src/. They carry the values of CodeView's `cvinfo.h`, which the source cites for its layouts.
Only the kinds that the decoder and the classifier compare against are listed.
-/

namespace PdbSymbols

/-- `SymbolKind`, the raw discriminant of a record. -/
abbrev SymbolKind := UInt16

def S_END : SymbolKind := 0x0006
def S_SKIP : SymbolKind := 0x0007
def S_OBJNAME_ST : SymbolKind := 0x0009
def S_LPROC16 : SymbolKind := 0x0104
def S_GPROC16 : SymbolKind := 0x0105
def S_THUNK16 : SymbolKind := 0x0106
def S_BLOCK16 : SymbolKind := 0x0107
def S_WITH16 : SymbolKind := 0x0108
def S_BPREL32_16T : SymbolKind := 0x0200
def S_THUNK32_ST : SymbolKind := 0x0206
def S_BLOCK32_ST : SymbolKind := 0x0207
def S_WITH32_ST : SymbolKind := 0x0208
def S_LABEL32_ST : SymbolKind := 0x0209
def S_PROCREF_ST : SymbolKind := 0x0400
def S_DATAREF_ST : SymbolKind := 0x0401
def S_ALIGN : SymbolKind := 0x0402
def S_LPROCREF_ST : SymbolKind := 0x0403
def S_OEM : SymbolKind := 0x0404
def S_REGISTER_ST : SymbolKind := 0x1001
def S_CONSTANT_ST : SymbolKind := 0x1002
def S_UDT_ST : SymbolKind := 0x1003
def S_COBOLUDT_ST : SymbolKind := 0x1004
def S_MANYREG_ST : SymbolKind := 0x1005
def S_BPREL32_ST : SymbolKind := 0x1006
def S_LDATA32_ST : SymbolKind := 0x1007
def S_GDATA32_ST : SymbolKind := 0x1008
def S_PUB32_ST : SymbolKind := 0x1009
def S_LPROC32_ST : SymbolKind := 0x100a
def S_GPROC32_ST : SymbolKind := 0x100b
def S_LTHREAD32_ST : SymbolKind := 0x100e
def S_GTHREAD32_ST : SymbolKind := 0x100f
def S_LPROCMIPS_ST : SymbolKind := 0x1010
def S_GPROCMIPS_ST : SymbolKind := 0x1011
def S_FRAMEPROC : SymbolKind := 0x1012
def S_COMPILE2_ST : SymbolKind := 0x1013
def S_MANYREG2_ST : SymbolKind := 0x1014
def S_LPROCIA64_ST : SymbolKind := 0x1015
def S_GPROCIA64_ST : SymbolKind := 0x1016
def S_GMANPROC_ST : SymbolKind := 0x101a
def S_LMANPROC_ST : SymbolKind := 0x101b
def S_LMANDATA_ST : SymbolKind := 0x1020
def S_GMANDATA_ST : SymbolKind := 0x1021
def S_MANSLOT_ST : SymbolKind := 0x1024
def S_UNAMESPACE_ST : SymbolKind := 0x1029
def S_ST_MAX : SymbolKind := 0x1100
def S_OBJNAME : SymbolKind := 0x1101
def S_THUNK32 : SymbolKind := 0x1102
def S_BLOCK32 : SymbolKind := 0x1103
def S_WITH32 : SymbolKind := 0x1104
def S_LABEL32 : SymbolKind := 0x1105
def S_REGISTER : SymbolKind := 0x1106
def S_CONSTANT : SymbolKind := 0x1107
def S_UDT : SymbolKind := 0x1108
def S_COBOLUDT : SymbolKind := 0x1109
def S_MANYREG : SymbolKind := 0x110a
def S_BPREL32 : SymbolKind := 0x110b
def S_LDATA32 : SymbolKind := 0x110c
def S_GDATA32 : SymbolKind := 0x110d
def S_PUB32 : SymbolKind := 0x110e
def S_LPROC32 : SymbolKind := 0x110f
def S_GPROC32 : SymbolKind := 0x1110
def S_REGREL32 : SymbolKind := 0x1111
def S_LTHREAD32 : SymbolKind := 0x1112
def S_GTHREAD32 : SymbolKind := 0x1113
def S_LPROCMIPS : SymbolKind := 0x1114
def S_GPROCMIPS : SymbolKind := 0x1115
def S_COMPILE2 : SymbolKind := 0x1116
def S_MANYREG2 : SymbolKind := 0x1117
def S_LPROCIA64 : SymbolKind := 0x1118
def S_GPROCIA64 : SymbolKind := 0x1119
def S_LMANDATA : SymbolKind := 0x111c
def S_GMANDATA : SymbolKind := 0x111d
def S_MANSLOT : SymbolKind := 0x1120
def S_UNAMESPACE : SymbolKind := 0x1124
def S_PROCREF : SymbolKind := 0x1125
def S_DATAREF : SymbolKind := 0x1126
def S_LPROCREF : SymbolKind := 0x1127
def S_ANNOTATIONREF : SymbolKind := 0x1128
def S_TOKENREF : SymbolKind := 0x1129
def S_GMANPROC : SymbolKind := 0x112a
def S_LMANPROC : SymbolKind := 0x112b
def S_TRAMPOLINE : SymbolKind := 0x112c
def S_MANCONSTANT : SymbolKind := 0x112d
def S_SEPCODE : SymbolKind := 0x1132
def S_SECTION : SymbolKind := 0x1136
def S_COFFGROUP : SymbolKind := 0x1137
def S_EXPORT : SymbolKind := 0x1138
def S_CALLSITEINFO : SymbolKind := 0x1139
def S_FRAMECOOKIE : SymbolKind := 0x113a
def S_COMPILE3 : SymbolKind := 0x113c
def S_ENVBLOCK : SymbolKind := 0x113d
def S_LOCAL : SymbolKind := 0x113e
def S_DEFRANGE : SymbolKind := 0x113f
def S_DEFRANGE_SUBFIELD : SymbolKind := 0x1140
def S_DEFRANGE_REGISTER : SymbolKind := 0x1141
def S_DEFRANGE_FRAMEPOINTER_REL : SymbolKind := 0x1142
def S_DEFRANGE_SUBFIELD_REGISTER : SymbolKind := 0x1143
def S_DEFRANGE_FRAMEPOINTER_REL_FULL_SCOPE : SymbolKind := 0x1144
def S_DEFRANGE_REGISTER_REL : SymbolKind := 0x1145
def S_LPROC32_ID : SymbolKind := 0x1146
def S_GPROC32_ID : SymbolKind := 0x1147
def S_GPROCMIPS_ID : SymbolKind := 0x1149
def S_GPROCIA64_ID : SymbolKind := 0x114b
def S_BUILDINFO : SymbolKind := 0x114c
def S_INLINESITE : SymbolKind := 0x114d
def S_INLINESITE_END : SymbolKind := 0x114e
def S_PROC_ID_END : SymbolKind := 0x114f
def S_LPROC32_DPC : SymbolKind := 0x1155
def S_LPROC32_DPC_ID : SymbolKind := 0x1156
def S_ARMSWITCHTABLE : SymbolKind := 0x1159
def S_CALLEES : SymbolKind := 0x115a
def S_CALLERS : SymbolKind := 0x115b
def S_INLINESITE2 : SymbolKind := 0x115d
def S_HEAPALLOCSITE : SymbolKind := 0x115e
def S_INLINEES : SymbolKind := 0x1168

end PdbSymbols
