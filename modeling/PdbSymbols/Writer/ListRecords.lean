import PdbSymbols.ListRecords
import PdbSymbols.Writer.DefRangeRecords

set_option autoImplicit false

/-!
# Writing the records that end in a list

A multi-register variable carries its count, so it holds as many registers as the count field
can say. The others run their list to the end of the record. A caller or callee list stores one
function and a count of copies of it (`vec![buf.parse()?; count]`), so it only writes back a
list of equal functions with one invocation count each.
-/

namespace PdbSymbols

open ParseBuffer

section MultiRegister

/-- The registers one after the other, each a register number and a name. -/
def registersBytes (rs : List (Register × String)) : List UInt8 :=
  rs.flatMap fun r => u16Bytes r.1.val ++ cName r.2

theorem reads_registersBytes {kind : SymbolKind} (hk : ¬kind < S_ST_MAX)
    (rs : List (Register × String)) (hs : ∀ r ∈ rs, NulFree r.2) (ys : List UInt8) :
    Reads (times rs.length (MultiRegisterVariableSymbol.register kind)) (registersBytes rs) ys rs := by
  have h := reads_times (p := MultiRegisterVariableSymbol.register kind) ys
    (rs.map fun r => (u16Bytes r.1.val ++ cName r.2, r)) (by
      simp only [List.mem_map]
      rintro _ ⟨r, hr, rfl⟩ zs
      have := ((reads_u16Bytes r.1.val _).map Register.mk).bind
        (f := fun register => do let name ← parseSymbolName kind; pure (register, name.toString))
        (reads_cName hk (hs r hr) zs).bind_pure
      rwa [toString_toUTF8] at this)
  simpa [registersBytes, List.flatMap_map, Function.comp_def] using h

/-- The `u16` count of `S_MANYREG2` holds the number of registers, and every name is a C
string. -/
def MultiRegisterVariableSymbol.Writable (v : MultiRegisterVariableSymbol) : Prop :=
  v.registers.length < 2 ^ 16 ∧ ∀ r ∈ v.registers, NulFree r.2

instance MultiRegisterVariableSymbol.decidableWritable (v : MultiRegisterVariableSymbol) :
    Decidable v.Writable :=
  inferInstanceAs (Decidable (v.registers.length < 2 ^ 16 ∧ ∀ r ∈ v.registers, NulFree r.2))

def MultiRegisterVariableSymbol.write (v : MultiRegisterVariableSymbol) : List UInt8 :=
  u16Bytes S_MANYREG2 ++ (u32Bytes v.typeIndex.val ++
    (encodeRegisterCount S_MANYREG2 v.registers.length ++ registersBytes v.registers))

theorem MultiRegisterVariableSymbol.parse_write {v : MultiRegisterVariableSymbol} (hv : v.Writable)
    (index : SymbolIndex) :
    (Symbol.mk index v.write).parse = some (.ok (.multiRegisterVariable v)) := by
  obtain ⟨⟨t⟩, rs⟩ := v
  obtain ⟨c, hc, hcount⟩ := reads_registerCount S_MANYREG2 (registersBytes rs ++ [])
    (by unfold RegisterCountFits; rw [if_pos (Or.inl rfl)]; exact hv.1)
  have hregs := reads_registersBytes (by decide : ¬S_MANYREG2 < S_ST_MAX) rs hv.2 []
  rw [← hc] at hregs
  exact parse_written (by decide : symbolArm S_MANYREG2 = some .multiRegisterVariable)
    (fun _ => rfl) index (by simp [MultiRegisterVariableSymbol.write])
    ((reads_parseTypeIndex t _).bind (hcount.bind hregs.bind_pure)) rfl

end MultiRegister

section RunToEnd

/-- Every string of the block is a C string. -/
def EnvBlockSymbol.Writable (v : EnvBlockSymbol) : Prop := ∀ s ∈ v.rgsz, NulFree s

instance EnvBlockSymbol.decidableWritable (v : EnvBlockSymbol) : Decidable v.Writable :=
  inferInstanceAs (Decidable (∀ s ∈ v.rgsz, NulFree s))

def EnvBlockSymbol.write (v : EnvBlockSymbol) : List UInt8 :=
  u16Bytes S_ENVBLOCK ++ ((if v.editAndContinue then 1 else 0) :: v.rgsz.flatMap cName)

theorem EnvBlockSymbol.parse_write {v : EnvBlockSymbol} (hv : v.Writable) (index : SymbolIndex) :
    (Symbol.mk index v.write).parse = some (.ok (.envBlock v)) := by
  obtain ⟨edit, rgsz⟩ := v
  have hd := EnvBlockSymbol.tryFromCtx_eq (if edit then 1 else 0)
    (rgsz.map fun s => s.toUTF8.data.toList) (by
      simp only [List.mem_map]
      rintro _ ⟨s, hs, rfl⟩
      exact zero_not_mem_toUTF8 (hv s hs)) (by decide : ¬S_ENVBLOCK < S_ST_MAX)
  rw [List.flatMap_map] at hd
  refine parse_written_ok (by decide : symbolArm S_ENVBLOCK = some .envBlock) (fun _ => rfl) index
    (List.cons_ne_nil _ _) hd ?_
  simp only [List.map_map, Function.comp_def, toString_toUTF8, List.map_id']
  cases edit <;> rfl

/-- `S_INLINEES`: the count, which the decoder skips, then the inlinees to the end. -/
def InlineesSymbol.write (v : InlineesSymbol) : List UInt8 :=
  u16Bytes S_INLINEES ++ (u32Bytes (UInt32.ofNat v.inlinees.length) ++
    (v.inlinees.map TypeIndex.val).flatMap u32Bytes)

theorem InlineesSymbol.parse_write (v : InlineesSymbol) (index : SymbolIndex) :
    (Symbol.mk index v.write).parse = some (.ok (.inlinees v)) := by
  obtain ⟨l⟩ := v
  refine parse_written_ok (by decide : symbolArm S_INLINEES = some .inlinees) (fun _ => rfl) index
    (by simp) (InlineesSymbol.tryFromCtx_eq _ _ S_INLINEES) ?_
  rw [List.map_map]
  exact congrArg (fun l => SymbolData.inlinees ⟨l⟩)
    (List.map_id'' (f := TypeIndex.mk ∘ TypeIndex.val) (fun _ => rfl) l)

/-- A caller or callee list writes back when its functions are copies of one and each has an
invocation count; the count is a `u32`. -/
def FunctionListSymbol.Writable (v : FunctionListSymbol) : Prop :=
  v.functions.length < 2 ^ 32 ∧
    v.functions = List.replicate v.functions.length (v.functions.headD ⟨0⟩) ∧
    v.invocations.length = v.functions.length

instance FunctionListSymbol.decidableWritable (v : FunctionListSymbol) : Decidable v.Writable :=
  inferInstanceAs (Decidable (v.functions.length < 2 ^ 32 ∧
    v.functions = List.replicate v.functions.length (v.functions.headD ⟨0⟩) ∧
    v.invocations.length = v.functions.length))

/-- The count, the one function the decoder reads, then the invocation counts to the end. -/
def FunctionListSymbol.payload (v : FunctionListSymbol) : List UInt8 :=
  u32Bytes (UInt32.ofNat v.functions.length) ++
    (u32Bytes (v.functions.headD ⟨0⟩).val ++ v.invocations.flatMap u32Bytes)

theorem resize_of_length_eq {α : Type} {l : List α} {n : Nat} (h : l.length = n) (value : α) :
    resize l n value = l := by
  subst h; simp [resize]

theorem FunctionListSymbol.tryFromCtx_payload {v : FunctionListSymbol} (hv : v.Writable)
    (kind : SymbolKind) : ∃ n, FunctionListSymbol.tryFromCtx v.payload kind = .ok (v, n) := by
  obtain ⟨hlen, hrep, hinv⟩ := hv
  have hc : (UInt32.ofNat v.functions.length).toNat = v.functions.length :=
    UInt32.toNat_ofNat_of_lt hlen
  have heta : (⟨(v.functions.headD ⟨0⟩).val⟩ : TypeIndex) = v.functions.headD ⟨0⟩ := rfl
  have h := FunctionListSymbol.tryFromCtx_eq (UInt32.ofNat v.functions.length)
    (v.functions.headD ⟨0⟩).val v.invocations kind
  rw [hc, resize_of_length_eq hinv, heta, ← hrep] at h
  exact ⟨_, h⟩

/-- `S_CALLERS` and `S_CALLEES` share the layout. -/
def FunctionListSymbol.write (kind : SymbolKind) (v : FunctionListSymbol) : List UInt8 :=
  u16Bytes kind ++ v.payload

theorem FunctionListSymbol.parse_write_callers {v : FunctionListSymbol} (hv : v.Writable)
    (index : SymbolIndex) : (Symbol.mk index (v.write S_CALLERS)).parse = some (.ok (.callers v)) :=
  have ⟨_, hd⟩ := FunctionListSymbol.tryFromCtx_payload hv S_CALLERS
  parse_written_ok (by decide : symbolArm S_CALLERS = some .callers) (fun _ => rfl) index
    (by simp [FunctionListSymbol.payload]) hd rfl

theorem FunctionListSymbol.parse_write_callees {v : FunctionListSymbol} (hv : v.Writable)
    (index : SymbolIndex) : (Symbol.mk index (v.write S_CALLEES)).parse = some (.ok (.callees v)) :=
  have ⟨_, hd⟩ := FunctionListSymbol.tryFromCtx_payload hv S_CALLEES
  parse_written_ok (by decide : symbolArm S_CALLEES = some .callees) (fun _ => rfl) index
    (by simp [FunctionListSymbol.payload]) hd rfl

end RunToEnd

end PdbSymbols
