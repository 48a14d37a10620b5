import PdbSymbols.SymbolData

set_option autoImplicit false

/-!
# Decoding whole records

What `Symbol::parse` returns on the records whose payload ends in a list or in a sniffed slot.
Inlinee lists and environment blocks decode exactly their entries. A caller or callee list reads
one function and repeats it, and takes the entries after it for invocation counts. A `$` slot
marker with fewer than four bytes after it fails the whole record.
-/

namespace PdbSymbols

open ParseBuffer

section Lists

variable (index : SymbolIndex)

theorem payload_ne_nil_of_u32Bytes (c : UInt32) (rest : List UInt8) : u32Bytes c ++ rest ≠ [] :=
  List.append_ne_nil_of_left_ne_nil (List.ne_nil_of_length_pos (by simp)) _

/-- Inlinee lists decode exactly their entries, and a payload that is not a whole number of
four-byte entries is refused. With debug assertions off, the entries decode whatever the count
says. -/
theorem inlinees_decode_entries (c : UInt32) (xs : List UInt32) :
    (Symbol.mk index (u16Bytes S_INLINEES ++ (u32Bytes c ++ xs.flatMap u32Bytes))).parse =
        some (.ok (.inlinees ⟨xs.map TypeIndex.mk⟩)) ∧
      ∀ payload : List UInt8, payload.length % 4 ≠ 0 →
        ∃ e, (Symbol.mk index (u16Bytes S_INLINEES ++ payload)).parse = some (.error e) := by
  have harm : symbolArm S_INLINEES = some .inlinees := by decide
  refine ⟨?_, fun payload h => ?_⟩
  · rw [parse_of_decodeWith harm (fun _ => rfl) index (payload_ne_nil_of_u32Bytes _ _),
      InlineesSymbol.tryFromCtx_eq]
    rfl
  · obtain ⟨e, he⟩ := InlineesSymbol.tryFromCtx_ragged payload S_INLINEES h
    refine ⟨e, ?_⟩
    rw [parse_of_decodeWith harm (fun _ => rfl) index (by rintro rfl; simp at h), he]
    rfl

theorem inlinees_decode_source_record :
    (Symbol.mk ⟨0⟩ (u16Bytes S_INLINEES ++ (u32Bytes 2 ++ [0x124a, 0x1250].flatMap u32Bytes))).parse =
      some (.ok (.inlinees ⟨[⟨0x124a⟩, ⟨0x1250⟩]⟩)) :=
  (inlinees_decode_entries ⟨0⟩ 2 [0x124a, 0x1250]).1

/-- Environment blocks decode exactly their NUL-terminated strings, each read as lossy UTF-8, and
a payload whose bytes after the flags are not empty and do not end in a NUL is refused. -/
theorem envBlock_decode_strings (f : UInt8) :
    (∀ ss : List (List UInt8), (∀ s ∈ ss, 0 ∉ s) →
      (Symbol.mk index (u16Bytes S_ENVBLOCK ++ (f :: ss.flatMap (· ++ [0])))).parse =
        some (.ok (.envBlock ⟨f &&& 1 != 0, ss.map fun s => (RawString.mk s).toString⟩))) ∧
      ∀ rest : List UInt8, rest ≠ [] → rest.getLast? ≠ some 0 →
        ∃ e, (Symbol.mk index (u16Bytes S_ENVBLOCK ++ (f :: rest))).parse = some (.error e) := by
  have harm : symbolArm S_ENVBLOCK = some .envBlock := by decide
  have hk : ¬S_ENVBLOCK < S_ST_MAX := by decide
  refine ⟨fun ss hss => ?_, fun rest hne hl => ?_⟩
  · rw [parse_of_decodeWith harm (fun _ => rfl) index (List.cons_ne_nil _ _),
      EnvBlockSymbol.tryFromCtx_eq f ss hss hk]
    rfl
  · obtain ⟨e, he⟩ := EnvBlockSymbol.tryFromCtx_unterminated f rest hne hl hk
    refine ⟨e, ?_⟩
    rw [parse_of_decodeWith harm (fun _ => rfl) index (List.cons_ne_nil _ _), he]
    rfl

theorem envBlock_decode_two_strings :
    (∀ s ∈ [[0x41], []], (0 : UInt8) ∉ s) ∧
      (Symbol.mk ⟨0⟩ (u16Bytes S_ENVBLOCK ++ (1 :: [[0x41], []].flatMap (· ++ [0])))).parse =
        some (.ok (.envBlock ⟨1 &&& 1 != 0, [[0x41], []].map fun s => (RawString.mk s).toString⟩)) :=
  ⟨by decide, (envBlock_decode_strings ⟨0⟩ 1).1 [[0x41], []] (by decide)⟩

/-- A caller or callee list reads its count, one function, and then invocation counts to the end
of the record: the function is repeated `count` times, and the counts are cut or padded with
zeros to `count`. With nothing after the count the record is refused. -/
theorem functionList_decode (c x : UInt32) (xs : List UInt32) :
    (Symbol.mk index (u16Bytes S_CALLERS ++ (u32Bytes c ++ (u32Bytes x ++ xs.flatMap u32Bytes)))).parse =
        some (.ok (.callers ⟨List.replicate c.toNat ⟨x⟩, resize xs c.toNat 0⟩)) ∧
      (Symbol.mk index (u16Bytes S_CALLEES ++ (u32Bytes c ++ (u32Bytes x ++ xs.flatMap u32Bytes)))).parse =
        some (.ok (.callees ⟨List.replicate c.toNat ⟨x⟩, resize xs c.toNat 0⟩)) ∧
      (Symbol.mk index (u16Bytes S_CALLERS ++ u32Bytes c)).parse = some (.error .unexpectedEof) ∧
      (Symbol.mk index (u16Bytes S_CALLEES ++ u32Bytes c)).parse = some (.error .unexpectedEof) := by
  have hcallers : symbolArm S_CALLERS = some .callers := by decide
  have hcallees : symbolArm S_CALLEES = some .callees := by decide
  have hc : u32Bytes c ≠ [] := List.ne_nil_of_length_pos (by simp)
  refine ⟨?_, ?_, ?_, ?_⟩ <;>
    first
    | rw [parse_of_decodeWith hcallers (fun _ => rfl) index (payload_ne_nil_of_u32Bytes _ _),
        FunctionListSymbol.tryFromCtx_eq]
    | rw [parse_of_decodeWith hcallees (fun _ => rfl) index (payload_ne_nil_of_u32Bytes _ _),
        FunctionListSymbol.tryFromCtx_eq]
    | rw [parse_of_decodeWith hcallers (fun _ => rfl) index hc,
        FunctionListSymbol.tryFromCtx_count_only]
    | rw [parse_of_decodeWith hcallees (fun _ => rfl) index hc,
        FunctionListSymbol.tryFromCtx_count_only]
  all_goals rfl

/-- A callee list with count 2 and entries 1 and 2 lists function 1 twice and counts 2 and 0, and
one with count 0 and no entries is refused. -/
theorem callees_repeat_first_function :
    (Symbol.mk ⟨0⟩ (u16Bytes S_CALLEES ++ [2, 0, 0, 0, 1, 0, 0, 0, 2, 0, 0, 0])).parse =
        some (.ok (.callees ⟨[⟨1⟩, ⟨1⟩], [2, 0]⟩)) ∧
      (Symbol.mk ⟨0⟩ (u16Bytes S_CALLEES ++ [0, 0, 0, 0])).parse = some (.error .unexpectedEof) := by
  have harm : symbolArm S_CALLEES = some .callees := by decide
  constructor
  · rw [parse_of_decodeWith harm (fun _ => rfl) ⟨0⟩ (List.cons_ne_nil _ _),
      show ([2, 0, 0, 0, 1, 0, 0, 0, 2, 0, 0, 0] : List UInt8) =
        u32Bytes 2 ++ (u32Bytes 1 ++ [2].flatMap u32Bytes) from rfl,
      FunctionListSymbol.tryFromCtx_eq]
    rfl
  · rw [parse_of_decodeWith harm (fun _ => rfl) ⟨0⟩ (List.cons_ne_nil _ _),
      show ([0, 0, 0, 0] : List UInt8) = u32Bytes 0 from rfl,
      FunctionListSymbol.tryFromCtx_count_only]
    rfl

/-- Multi-register variables decode exactly their registers: the count, a `u16` for the
`S_MANYREG2` kinds and a `u8` for the others, and then that many registers, each with its name
by the threshold rule. -/
theorem manyreg_decode_registers {kind : SymbolKind}
    (hk : symbolArm kind = some .multiRegisterVariable) (t : UInt32)
    (regs : List (UInt16 × List UInt8)) (hc : RegisterCountFits kind regs.length)
    (hn : ∀ r ∈ regs, NameFits kind r.2) :
    (Symbol.mk index (u16Bytes kind ++ (u32Bytes t ++ (encodeRegisterCount kind regs.length ++
        regs.flatMap fun r => u16Bytes r.1 ++ encodeName kind r.2)))).parse =
      some (.ok (.multiRegisterVariable
        ⟨⟨t⟩, regs.map fun r => (⟨r.1⟩, (RawString.mk r.2).toString)⟩)) := by
  obtain ⟨c, hcn, hcount⟩ := reads_registerCount kind
    ((regs.flatMap fun r => u16Bytes r.1 ++ encodeName kind r.2) ++ []) hc
  have hregs := reads_times []
    (regs.map fun r => (u16Bytes r.1 ++ encodeName kind r.2, ((⟨r.1⟩ : Register), (RawString.mk r.2).toString)))
    (by
      simp only [List.mem_map]
      rintro _ ⟨r, hr, rfl⟩ zs
      exact MultiRegisterVariableSymbol.reads_register r.1 zs (hn r hr))
  simp only [List.length_map, List.flatMap_map, List.map_map, ← hcn] at hregs
  exact parse_of_reads_all hk (fun _ => rfl) index (payload_ne_nil_of_u32Bytes _ _)
    ((reads_parseTypeIndex t _).bind (hcount.bind hregs.bind_pure))

theorem manyreg_decode_one_register :
    (symbolArm S_MANYREG = some .multiRegisterVariable ∧
        RegisterCountFits S_MANYREG [((0x11 : UInt16), [(0x41 : UInt8)])].length ∧
        ∀ r ∈ [((0x11 : UInt16), [(0x41 : UInt8)])], NameFits S_MANYREG r.2) ∧
      (Symbol.mk ⟨0⟩ (u16Bytes S_MANYREG ++ (u32Bytes 0x74 ++
          (encodeRegisterCount S_MANYREG [((0x11 : UInt16), [(0x41 : UInt8)])].length ++
            [((0x11 : UInt16), [(0x41 : UInt8)])].flatMap fun r =>
              u16Bytes r.1 ++ encodeName S_MANYREG r.2)))).parse =
        some (.ok (.multiRegisterVariable ⟨⟨0x74⟩, [((0x11 : UInt16), [(0x41 : UInt8)])].map
          fun r => (⟨r.1⟩, (RawString.mk r.2).toString)⟩)) :=
  ⟨⟨by decide, by decide, by decide⟩, manyreg_decode_registers ⟨0⟩ (by decide) 0x74 _ (by decide)
    (by decide)⟩

end Lists

section Names

variable (index : SymbolIndex)

/-- User-defined type records carry their name by the threshold rule: for every kind of the arm,
legacy or modern, the decoder reads the type index and the name the kind's encoding carries, and
consumes the whole payload. -/
theorem udt_names_by_threshold {kind : SymbolKind} (hk : symbolArm kind = some .userDefinedType)
    (t : UInt32) {name : List UInt8} (hn : NameFits kind name) :
    UserDefinedTypeSymbol.tryFromCtx (u32Bytes t ++ encodeName kind name) kind =
        .ok (⟨⟨t⟩, (RawString.mk name).toString⟩, (u32Bytes t ++ encodeName kind name).length) ∧
      (Symbol.mk index (u16Bytes kind ++ (u32Bytes t ++ encodeName kind name))).parse =
        some (.ok (.userDefinedType ⟨⟨t⟩, (RawString.mk name).toString⟩)) :=
  ⟨Reads.run_all ((reads_parseTypeIndex t _).bind (reads_parseSymbolName [] kind hn).bind_pure),
    parse_of_reads_all hk (fun _ => rfl) index (payload_ne_nil_of_u32Bytes _ _)
      ((reads_parseTypeIndex t _).bind (reads_parseSymbolName [] kind hn).bind_pure)⟩

theorem udt_names_legacy_record :
    (symbolArm S_UDT_ST = some .userDefinedType ∧ NameFits S_UDT_ST [0x41]) ∧
      UserDefinedTypeSymbol.tryFromCtx (u32Bytes 0x1000 ++ encodeName S_UDT_ST [0x41]) S_UDT_ST =
          .ok (⟨⟨0x1000⟩, (RawString.mk [0x41]).toString⟩,
            (u32Bytes 0x1000 ++ encodeName S_UDT_ST [0x41]).length) ∧
        (Symbol.mk ⟨0⟩ (u16Bytes S_UDT_ST ++ (u32Bytes 0x1000 ++ encodeName S_UDT_ST [0x41]))).parse =
          some (.ok (.userDefinedType ⟨⟨0x1000⟩, (RawString.mk [0x41]).toString⟩)) :=
  ⟨⟨by decide, by decide⟩, udt_names_by_threshold ⟨0⟩ (by decide) 0x1000 (by decide)⟩

/-- `parse()` drops the size `SymbolData::try_from_ctx` returns. For both object-name kinds, the
decoder reports that it read the record only up to the end of its name, and the record decodes
to the same object name whatever bytes follow. -/
theorem objName_ignores_trailing_bytes {kind : SymbolKind} (hk : symbolArm kind = some .objName)
    (signature : UInt32) {name : List UInt8} (hn : NameFits kind name) (extra : List UInt8) :
    SymbolData.tryFromCtx (u16Bytes kind ++ ((u32Bytes signature ++ encodeName kind name) ++ extra)) =
        some (.ok (.objName ⟨signature, (RawString.mk name).toString⟩,
          2 + (u32Bytes signature ++ encodeName kind name).length)) ∧
      (Symbol.mk index (u16Bytes kind ++ ((u32Bytes signature ++ encodeName kind name) ++ extra))).parse =
        some (.ok (.objName ⟨signature, (RawString.mk name).toString⟩)) :=
  have hp := (reads_u32Bytes signature _).bind (reads_parseSymbolName extra kind hn).bind_pure
  ⟨tryFromCtx_of_reads hk (fun _ => rfl) (payload_ne_nil_of_u32Bytes _ _) hp,
    parse_of_reads hk (fun _ => rfl) index (payload_ne_nil_of_u32Bytes _ _) hp⟩

/-- The object name of the source's test record, followed by two stray bytes. -/
theorem objName_cil_trailing_bytes :
    (symbolArm S_OBJNAME = some .objName ∧ NameFits S_OBJNAME [42, 32, 67, 73, 76, 32, 42]) ∧
      SymbolData.tryFromCtx (u16Bytes S_OBJNAME ++
          ((u32Bytes 0 ++ encodeName S_OBJNAME [42, 32, 67, 73, 76, 32, 42]) ++ [0xaa, 0xbb])) =
        some (.ok (.objName ⟨0, (RawString.mk [42, 32, 67, 73, 76, 32, 42]).toString⟩,
          2 + (u32Bytes 0 ++ encodeName S_OBJNAME [42, 32, 67, 73, 76, 32, 42]).length)) ∧
      (Symbol.mk ⟨0⟩ (u16Bytes S_OBJNAME ++
          ((u32Bytes 0 ++ encodeName S_OBJNAME [42, 32, 67, 73, 76, 32, 42]) ++ [0xaa, 0xbb]))).parse =
        some (.ok (.objName ⟨0, (RawString.mk [42, 32, 67, 73, 76, 32, 42]).toString⟩)) :=
  ⟨⟨by decide, by decide⟩, objName_ignores_trailing_bytes ⟨0⟩ (by decide) 0 (by decide) _⟩

example : (Symbol.mk ⟨0⟩ [1, 17, 0, 0, 0, 0, 42, 32, 67, 73, 76, 32, 42, 0, 0xaa, 0xbb]).parse =
    some (.ok (.objName ⟨0, "* CIL *"⟩)) := rfl

/-- The four reference records count modules from 1: the raw module 0 decodes as no module and
any other `m` as module `m - 1`. The modern kinds read a NUL-terminated name, and a legacy
procedure reference decodes no name, whatever bytes follow its module. -/
theorem reference_modules_one_based (s i : UInt32) (m : UInt16) {name : List UInt8} (hn : 0 ∉ name)
    (rest : List UInt8) :
    (Symbol.mk index (u16Bytes S_PROCREF ++
        (u32Bytes s ++ (u32Bytes i ++ (u16Bytes m ++ (name ++ [0])))))).parse =
        some (.ok (.procedureReference ⟨true, s, ⟨i⟩, if m = 0 then none else some (m.toNat - 1),
          some (RawString.mk name).toString⟩)) ∧
      (Symbol.mk index (u16Bytes S_DATAREF ++
        (u32Bytes s ++ (u32Bytes i ++ (u16Bytes m ++ (name ++ [0])))))).parse =
        some (.ok (.dataReference ⟨s, ⟨i⟩, if m = 0 then none else some (m.toNat - 1),
          some (RawString.mk name).toString⟩)) ∧
      (Symbol.mk index (u16Bytes S_ANNOTATIONREF ++
        (u32Bytes s ++ (u32Bytes i ++ (u16Bytes m ++ (name ++ [0])))))).parse =
        some (.ok (.annotationReference ⟨s, ⟨i⟩, if m = 0 then none else some (m.toNat - 1),
          (RawString.mk name).toString⟩)) ∧
      (Symbol.mk index (u16Bytes S_TOKENREF ++
        (u32Bytes s ++ (u32Bytes i ++ (u16Bytes m ++ (name ++ [0])))))).parse =
        some (.ok (.tokenReference ⟨s, ⟨i⟩, if m = 0 then none else some (m.toNat - 1),
          (RawString.mk name).toString⟩)) ∧
      (Symbol.mk index (u16Bytes S_LPROCREF_ST ++ (u32Bytes s ++ (u32Bytes i ++ (u16Bytes m ++ rest))))).parse =
        some (.ok (.procedureReference ⟨false, s, ⟨i⟩, if m = 0 then none else some (m.toNat - 1),
          none⟩)) := by
  refine ⟨?_, ?_, ?_, ?_, ?_⟩
  · exact parse_of_reads_all (by decide : symbolArm S_PROCREF = some .procedureReference)
      (fun _ => rfl) index (payload_ne_nil_of_u32Bytes _ _) (reads_parseReference _ s i m
        (reads_parseOptionalName [] (by decide : ¬S_PROCREF < S_ST_MAX) hn))
  · exact parse_of_reads_all (by decide : symbolArm S_DATAREF = some .dataReference)
      (fun _ => rfl) index (payload_ne_nil_of_u32Bytes _ _) (reads_parseReference _ s i m
        (reads_parseOptionalName [] (by decide : ¬S_DATAREF < S_ST_MAX) hn))
  · exact parse_of_reads_all (by decide : symbolArm S_ANNOTATIONREF = some .annotationReference)
      (fun _ => rfl) index (payload_ne_nil_of_u32Bytes _ _) (reads_parseReference _ s i m
        (reads_parseSymbolName_modern [] (by decide : ¬S_ANNOTATIONREF < S_ST_MAX) hn))
  · exact parse_of_reads_all (by decide : symbolArm S_TOKENREF = some .tokenReference)
      (fun _ => rfl) index (payload_ne_nil_of_u32Bytes _ _) (reads_parseReference _ s i m
        (reads_parseSymbolName_modern [] (by decide : ¬S_TOKENREF < S_ST_MAX) hn))
  · have h := parse_of_reads (by decide : symbolArm S_LPROCREF_ST = some .procedureReference)
      (fun _ => rfl) index (payload_ne_nil_of_u32Bytes _ _) (reads_parseReference _ s i m
        (reads_parseOptionalName_legacy rest (by decide : S_LPROCREF_ST < S_ST_MAX)))
    simpa using h

theorem reference_modules_source_module :
    (0 : UInt8) ∉ [0x41] ∧
      (Symbol.mk ⟨0⟩ (u16Bytes S_PROCREF ++
          (u32Bytes 0 ++ (u32Bytes 0x2c ++ (u16Bytes 3 ++ ([0x41] ++ [0])))))).parse =
        some (.ok (.procedureReference ⟨true, 0, ⟨0x2c⟩, if (3 : UInt16) = 0 then none
          else some ((3 : UInt16).toNat - 1), some (RawString.mk [0x41]).toString⟩)) :=
  ⟨by decide, (reference_modules_one_based ⟨0⟩ 0 0x2c 3 (by decide) []).1⟩

end Names

/-- An inline site's binary annotations are the whole rest of its record: after the parent, end
and inlinee indices, and the invocation count that only `S_INLINESITE2` carries, every byte
left is handed to the annotations, and the record always decodes. -/
theorem inline_site_annotations_rest (index : SymbolIndex) (parent «end» inlinee invocations : UInt32)
    (annotations : List UInt8) :
    (Symbol.mk index (u16Bytes S_INLINESITE ++
        (u32Bytes parent ++ (u32Bytes «end» ++ (u32Bytes inlinee ++ annotations))))).parse =
        some (.ok (.inlineSite ⟨if parent = 0 then none else some ⟨parent⟩, ⟨«end»⟩, ⟨inlinee⟩,
          none, ⟨annotations⟩⟩)) ∧
      (Symbol.mk index (u16Bytes S_INLINESITE2 ++ (u32Bytes parent ++ (u32Bytes «end» ++
          (u32Bytes inlinee ++ (u32Bytes invocations ++ annotations)))))).parse =
        some (.ok (.inlineSite ⟨if parent = 0 then none else some ⟨parent⟩, ⟨«end»⟩, ⟨inlinee⟩,
          some invocations, ⟨annotations⟩⟩)) := by
  constructor
  · exact parse_of_reads_all (by decide : symbolArm S_INLINESITE = some .inlineSite) (fun _ => rfl)
      index (payload_ne_nil_of_u32Bytes _ _) ((reads_parseOptionalIndex parent _).bind
        ((reads_parseSymbolIndex «end» _).bind (((reads_u32Bytes inlinee _).map IdIndex.mk).bind
          ((Reads.pure _ none).bind_nil (Reads.get_take_len (reads_take annotations []).bind_pure)))))
  · exact parse_of_reads_all (by decide : symbolArm S_INLINESITE2 = some .inlineSite) (fun _ => rfl)
      index (payload_ne_nil_of_u32Bytes _ _) ((reads_parseOptionalIndex parent _).bind
        ((reads_parseSymbolIndex «end» _).bind (((reads_u32Bytes inlinee _).map IdIndex.mk).bind
          (((reads_u32Bytes invocations _).map some).bind
            (Reads.get_take_len (reads_take annotations []).bind_pure)))))

section Thunks

/-- A thunk record on the wire: parent, end and next, the offset, the length and the sub-kind
ordinal, then the name and the data the ordinal selects. -/
def thunkRecord (parent «end» next : UInt32) (offset : PdbInternalSectionOffset) (len : UInt16)
    (ord : UInt8) (name extra : List UInt8) : List UInt8 :=
  u32Bytes parent ++ (u32Bytes «end» ++ (u32Bytes next ++ ((u32Bytes offset.offset ++
    u16Bytes offset.section) ++ (u16Bytes len ++ (ord :: (name ++ [0] ++ extra))))))

/-- A thunk reads its sub-kind ordinal before its name, and the data the ordinal selects after it:
a `this` adjustor reads a `u16` delta and a NUL-terminated target, a virtual call a `u16` entry,
and the other ordinals nothing; an ordinal above 4 is kept as it is. -/
theorem thunk_ordinal_before_name (index : SymbolIndex) (parent «end» next : UInt32)
    (offset : PdbInternalSectionOffset) (len : UInt16) {name target : List UInt8} (hn : 0 ∉ name)
    (ht : 0 ∉ target) (delta : UInt16) {ord : UInt8} (hord : 5 ≤ ord.toNat) :
    let record := fun o extra =>
      (Symbol.mk index (u16Bytes S_THUNK32 ++ thunkRecord parent «end» next offset len o name extra)).parse
    let thunk := fun k => some (.ok (SymbolData.thunk ⟨if parent = 0 then none else some ⟨parent⟩,
      ⟨«end»⟩, if next = 0 then none else some ⟨next⟩, offset, len, k, (RawString.mk name).toString⟩))
    record 0 [] = thunk .noType ∧
      record 1 (u16Bytes delta ++ (target ++ [0])) =
        thunk (.adjustor ⟨delta, (RawString.mk target).toString⟩) ∧
      record 2 (u16Bytes delta) = thunk (.vCall delta) ∧ record 3 [] = thunk .pCode ∧
      record 4 [] = thunk .load ∧ record ord [] = thunk (.unknown ord) := by
  intro record thunk
  have hfixed : ∀ o extra k, Reads (ThunkKind.ofOrdinal o) extra [] k → record o extra = thunk k :=
    fun o extra k hk => parse_of_reads_all (by decide : symbolArm S_THUNK32 = some .thunk)
      (fun _ => rfl) index (payload_ne_nil_of_u32Bytes _ _)
      ((reads_parseOptionalIndex parent _).bind ((reads_parseSymbolIndex «end» _).bind
        ((reads_parseOptionalIndex next _).bind
          ((reads_parseSectionOffset offset.offset offset.section _).bind
            ((reads_u16Bytes len _).bind ((reads_parseU8 o _).bind
              ((reads_parseSymbolName_modern _ (by decide : ¬S_THUNK32 < S_ST_MAX) hn).bind
                hk.bind_pure)))))))
  refine ⟨hfixed _ _ _ (Reads.pure _ _), hfixed _ _ _ ?_, hfixed _ _ _ ((reads_u16Bytes delta []).map _),
    hfixed _ _ _ (Reads.pure _ _), hfixed _ _ _ (Reads.pure _ _), hfixed _ _ _ ?_⟩
  · exact (reads_u16Bytes delta _).bind (reads_parseCString [] ht).bind_pure
  · rw [ThunkKind.ofOrdinal_unknown hord]
    exact Reads.pure _ _

theorem thunk_ordinal_seven :
    ((0 : UInt8) ∉ [0x41] ∧ (0 : UInt8) ∉ [0x42] ∧ 5 ≤ (7 : UInt8).toNat) ∧
      let record := fun o extra =>
        (Symbol.mk ⟨0⟩ (u16Bytes S_THUNK32 ++ thunkRecord 0 0 0 ⟨0, 0⟩ 0 o [0x41] extra)).parse
      let thunk := fun k => some (.ok (SymbolData.thunk ⟨if (0 : UInt32) = 0 then none else some ⟨0⟩,
        ⟨0⟩, if (0 : UInt32) = 0 then none else some ⟨0⟩, ⟨0, 0⟩, 0, k, (RawString.mk [0x41]).toString⟩))
      record 0 [] = thunk .noType ∧
        record 1 (u16Bytes 3 ++ ([0x42] ++ [0])) = thunk (.adjustor ⟨3, (RawString.mk [0x42]).toString⟩) ∧
        record 2 (u16Bytes 3) = thunk (.vCall 3) ∧ record 3 [] = thunk .pCode ∧
        record 4 [] = thunk .load ∧ record 7 [] = thunk (.unknown 7) :=
  ⟨⟨by decide, by decide, by decide⟩,
    thunk_ordinal_before_name ⟨0⟩ 0 0 0 ⟨0, 0⟩ 0 (by decide) (by decide) 3 (by decide)⟩

end Thunks

/-- An `S_LOCAL` record whose fields and empty name decode, with the `$` marker at offset 11 of
the payload and two bytes after it: the sniffed `i32` runs past the end, and the record fails. -/
theorem local_short_slot_fails :
    (∃ head, Parse.run [0, 0, 0, 0, 0, 0, 0, 0, 0, 0, 0, 0x24, 0, 0] (LocalSymbol.fields S_LOCAL) =
        .ok head) ∧
      (Symbol.mk ⟨0⟩ (u16Bytes S_LOCAL ++ [0, 0, 0, 0, 0, 0, 0, 0, 0, 0, 0, 0x24, 0, 0])).parse =
        some (.error .unexpectedEof) :=
  ⟨⟨_, rfl⟩, rfl⟩

end PdbSymbols
