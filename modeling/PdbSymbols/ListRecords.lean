import PdbSymbols.NamedRecords

set_option autoImplicit false

/-!
# Records that end in a list

Multi-register variables give their count; environment blocks, inlinee lists and the invocation
counts of caller and callee lists run to the end of the record (`while !buf.is_empty()`).
-/

namespace PdbSymbols

open ParseBuffer

theorem consumes_parseSymbolName (kind : SymbolKind) : Consumes (parseSymbolName kind) := by
  unfold parseSymbolName
  split
  · exact consumes_parseU8PascalString
  · exact consumes_parseCString

theorem consumes_parseTypeIndex : Consumes parseTypeIndex := consumes_parseU32.map _

structure MultiRegisterVariableSymbol where
  typeIndex : TypeIndex
  registers : List (Register × String)
  deriving DecidableEq

/-- The register count: `S_MANYREG2` kinds count in a `u16`, the others in a `u8`. -/
def MultiRegisterVariableSymbol.count (kind : SymbolKind) : Parse UInt16 :=
  if kind = S_MANYREG2 ∨ kind = S_MANYREG2_ST then parseU16 else UInt8.toUInt16 <$> parseU8

/-- One register of the list, `(buf.parse()?, parse_symbol_name(&mut buf, kind)?)`. -/
def MultiRegisterVariableSymbol.register (kind : SymbolKind) : Parse (Register × String) := do
  let register ← parseRegister
  let name ← parseSymbolName kind
  pure (register, name.toString)

/-- `S_MANYREG2` kinds count their registers in a `u16`, the others in a `u8`. -/
def MultiRegisterVariableSymbol.tryFromCtx (this : List UInt8) (kind : SymbolKind) :
    Except Error (MultiRegisterVariableSymbol × Nat) := Parse.run this do
  let typeIndex ← parseTypeIndex
  let count ← MultiRegisterVariableSymbol.count kind
  let registers ← times count.toNat (MultiRegisterVariableSymbol.register kind)
  pure ⟨typeIndex, registers⟩

/-- The register count on the wire: a `u16` for the `S_MANYREG2` kinds, a `u8` for the others. -/
def encodeRegisterCount (kind : SymbolKind) (n : Nat) : List UInt8 :=
  if kind = S_MANYREG2 ∨ kind = S_MANYREG2_ST then u16Bytes (UInt16.ofNat n) else [UInt8.ofNat n]

/-- The counts that width holds. -/
def RegisterCountFits (kind : SymbolKind) (n : Nat) : Prop :=
  if kind = S_MANYREG2 ∨ kind = S_MANYREG2_ST then n < 2 ^ 16 else n < 2 ^ 8

instance (kind : SymbolKind) (n : Nat) : Decidable (RegisterCountFits kind n) :=
  inferInstanceAs (Decidable (if kind = S_MANYREG2 ∨ kind = S_MANYREG2_ST then n < 2 ^ 16
    else n < 2 ^ 8))

theorem reads_registerCount (kind : SymbolKind) {n : Nat} (ys : List UInt8)
    (hc : RegisterCountFits kind n) :
    ∃ c : UInt16, c.toNat = n ∧
      Reads (MultiRegisterVariableSymbol.count kind) (encodeRegisterCount kind n) ys c := by
  by_cases hk : kind = S_MANYREG2 ∨ kind = S_MANYREG2_ST
  · rw [RegisterCountFits, if_pos hk] at hc
    rw [MultiRegisterVariableSymbol.count, encodeRegisterCount, if_pos hk, if_pos hk]
    exact ⟨_, UInt16.toNat_ofNat_of_lt hc, reads_u16Bytes _ ys⟩
  · rw [RegisterCountFits, if_neg hk] at hc
    rw [MultiRegisterVariableSymbol.count, encodeRegisterCount, if_neg hk, if_neg hk]
    exact ⟨(UInt8.ofNat n).toUInt16, UInt8.toNat_ofNat_of_lt hc, (reads_parseU8 _ ys).map _⟩

theorem MultiRegisterVariableSymbol.reads_register {kind : SymbolKind} (r : UInt16)
    {name : List UInt8} (ys : List UInt8) (h : NameFits kind name) :
    Reads (MultiRegisterVariableSymbol.register kind) (u16Bytes r ++ encodeName kind name) ys
      (⟨r⟩, (RawString.mk name).toString) :=
  ((reads_u16Bytes r _).map Register.mk).bind (reads_parseSymbolName ys kind h).bind_pure

structure EnvBlockSymbol where
  editAndContinue : Bool
  rgsz : List String
  deriving DecidableEq

def EnvBlockSymbol.tryFromCtx (this : List UInt8) (kind : SymbolKind) :
    Except Error (EnvBlockSymbol × Nat) := Parse.run this do
  let flags ← parseU8
  let strings ← untilEmpty (parseSymbolName kind) (consumes_parseSymbolName kind)
  pure ⟨flags &&& 1 != 0, strings.map RawString.toString⟩

/-- `Vec::resize(n, value)`: cut to `n` entries, or padded with `value` up to `n`. -/
def resize {α : Type} (l : List α) (n : Nat) (value : α) : List α :=
  l.take n ++ List.replicate (n - l.length) value

structure FunctionListSymbol where
  functions : List TypeIndex
  invocations : List UInt32
  deriving DecidableEq

/-- `let functions = vec![buf.parse()?; count as usize];` evaluates `buf.parse()?` once and
repeats its value, then the invocation counts run to the end of the record. The
`debug_assert!(invocations.len() <= functions.len())` before the resize is left out. -/
def FunctionListSymbol.tryFromCtx (this : List UInt8) (_kind : SymbolKind) :
    Except Error (FunctionListSymbol × Nat) := Parse.run this do
  let count ← parseU32
  let functions := List.replicate count.toNat (← parseTypeIndex)
  let invocations ← untilEmpty parseU32 consumes_parseU32
  pure ⟨functions, resize invocations functions.length 0⟩

structure InlineesSymbol where
  inlinees : List TypeIndex
  deriving DecidableEq

/-- The count is read and not used: the `debug_assert_eq!` that compares it with the number of
inlinees is left out. -/
def InlineesSymbol.tryFromCtx (this : List UInt8) (_kind : SymbolKind) :
    Except Error (InlineesSymbol × Nat) := Parse.run this do
  let _count ← parseU32
  let inlinees ← untilEmpty parseTypeIndex consumes_parseTypeIndex
  pure ⟨inlinees⟩

/-- A run of `u32`-wide entries read to the end of the record. -/
theorem reads_untilEmpty_u32 {α : Type} {p : Parse α} (hp : Consumes p) (g : UInt32 → α)
    (hg : ∀ x ys, Reads p (u32Bytes x) ys (g x)) (xs : List UInt32) :
    Reads (untilEmpty p hp) (xs.flatMap u32Bytes) [] (xs.map g) := by
  have := reads_untilEmpty hp (xs.map fun x => (u32Bytes x, g x)) (by
    simp only [List.mem_map]
    rintro _ ⟨x, -, rfl⟩
    exact ⟨List.ne_nil_of_length_pos (by simp), hg x⟩)
  simpa [List.flatMap_map] using this

/-- Four-byte entries read to the end of the record fail on a tail that is not a whole entry. -/
theorem fails_untilEmpty_ragged {α : Type} {p : Parse α} (hp : Consumes p) (hw : FixedWidth p 4)
    (hf : ∀ xs, xs.length < 4 → Fails p xs) (bytes : List UInt8) (hb : bytes.length % 4 ≠ 0) :
    Fails (untilEmpty p hp) bytes := by
  match bytes with
  | a :: b :: c :: d :: rest =>
    obtain ⟨v, hv⟩ := hw [a, b, c, d] rfl
    have ih := fails_untilEmpty_ragged hp hw hf rest (by simp at hb; omega)
    intro buf hbuf
    obtain ⟨e, he⟩ := ih (buf.advance [a, b, c, d].length) (by simp [hbuf])
    exact ⟨e, by rw [untilEmpty_of_ok hp (by simp [hbuf]) (hv rest buf hbuf), he]; rfl⟩
  | [] => simp at hb
  | [_] | [_, _] | [_, _, _] =>
    simpa using fails_untilEmpty hp (List.cons_ne_nil _ _) (hf _ (by simp)) [] (by simp)

theorem getLast?_append_cons {s r : List UInt8} (z : UInt8) (hr : r ≠ []) :
    (s ++ z :: r).getLast? = r.getLast? := by
  obtain ⟨b, r, rfl⟩ := List.exists_cons_of_ne_nil hr
  simp [List.getLast?_append, List.getLast?_cons_cons, List.getLast?_cons]

/-- NUL-terminated names read to the end of the record fail when the last byte is not a NUL. -/
theorem fails_untilEmpty_unterminated {p : Parse RawString} (hp : Consumes p)
    (hpc : p = parseCString) (bytes : List UInt8) (hne : bytes ≠ [])
    (hl : bytes.getLast? ≠ some 0) : Fails (untilEmpty p hp) bytes := by
  subst hpc
  rcases hs : splitAtNul bytes with _ | ⟨s, r⟩
  · intro buf hbuf
    obtain ⟨e, he⟩ := fails_parseCString (splitAtNul_none hs) buf hbuf
    exact ⟨e, untilEmpty_of_error hp (by rwa [hbuf]) he⟩
  · obtain ⟨hxs, h0⟩ := splitAtNul_some hs
    have hr : r ≠ [] := by rintro rfl; simp [hxs] at hl
    have hlen : r.length < bytes.length := by simp [hxs]; omega
    have ih := fails_untilEmpty_unterminated hp rfl r hr
      (by rwa [hxs, getLast?_append_cons 0 hr] at hl)
    intro buf hbuf
    obtain ⟨e, he⟩ := ih (buf.advance (s ++ [0]).length) (by simp [hbuf, hxs])
    refine ⟨e, ?_⟩
    rw [untilEmpty_of_ok hp (by simp [hbuf, hxs])
      (reads_parseCString r h0 buf (by simp [hbuf, hxs])), he]
    rfl
termination_by bytes.length

theorem InlineesSymbol.tryFromCtx_eq (c : UInt32) (xs : List UInt32) (kind : SymbolKind) :
    InlineesSymbol.tryFromCtx (u32Bytes c ++ xs.flatMap u32Bytes) kind =
      .ok (⟨xs.map TypeIndex.mk⟩, (u32Bytes c ++ xs.flatMap u32Bytes).length) := by
  refine Reads.run_all ((reads_u32Bytes c _).bind ?_)
  exact (reads_untilEmpty_u32 consumes_parseTypeIndex _ reads_parseTypeIndex xs).bind_pure

theorem InlineesSymbol.tryFromCtx_ragged (payload : List UInt8) (kind : SymbolKind)
    (h : payload.length % 4 ≠ 0) : ∃ e, InlineesSymbol.tryFromCtx payload kind = .error e := by
  by_cases hl : payload.length < 4
  · obtain ⟨e, he⟩ := fails_parseU32 hl _ (rest_fromSlice payload)
    exact ⟨e, by simp [InlineesSymbol.tryFromCtx, Parse.run, bind_of_error _ he]⟩
  · obtain ⟨count, hcount⟩ := fixedWidth_parseU32 (payload.take 4) (by simp; omega)
    have hrest : (payload.drop 4).length % 4 ≠ 0 := by simp; omega
    obtain ⟨e, he⟩ := fails_untilEmpty_ragged consumes_parseTypeIndex
      (fixedWidth_parseU32.map _) (fun _ h => (fails_parseU32 h).map _) _ hrest
      ((fromSlice payload).advance 4) (by simp)
    refine ⟨e, ?_⟩
    have hc := hcount (payload.drop 4) (fromSlice payload) (by simp)
    rw [show (payload.take 4).length = 4 by simp; omega] at hc
    simp [InlineesSymbol.tryFromCtx, Parse.run, bind_of_ok _ hc, map_apply, he]

theorem EnvBlockSymbol.tryFromCtx_eq (f : UInt8) (ss : List (List UInt8)) (hss : ∀ s ∈ ss, 0 ∉ s)
    {kind : SymbolKind} (hk : ¬kind < S_ST_MAX) :
    EnvBlockSymbol.tryFromCtx (f :: ss.flatMap (· ++ [0])) kind =
      .ok (⟨f &&& 1 != 0, ss.map fun s => (RawString.mk s).toString⟩,
        (f :: ss.flatMap (· ++ [0])).length) := by
  have hname : parseSymbolName kind = parseCString := if_neg hk
  have hnames := reads_untilEmpty (consumes_parseSymbolName kind)
    (ss.map fun s => (s ++ [0], RawString.mk s)) (by
      simp only [List.mem_map]
      rintro _ ⟨s, hs, rfl⟩
      exact ⟨by simp, fun ys => hname ▸ reads_parseCString ys (hss s hs)⟩)
  simp only [List.flatMap_map, List.map_map] at hnames
  refine Reads.run_all ((reads_parseU8 f _).bind ?_)
  convert hnames.bind_pure using 3
  simp

theorem EnvBlockSymbol.tryFromCtx_unterminated (f : UInt8) (rest : List UInt8) (hne : rest ≠ [])
    (hl : rest.getLast? ≠ some 0) {kind : SymbolKind} (hk : ¬kind < S_ST_MAX) :
    ∃ e, EnvBlockSymbol.tryFromCtx (f :: rest) kind = .error e := by
  obtain ⟨e, he⟩ := fails_untilEmpty_unterminated (consumes_parseSymbolName kind) (if_neg hk)
    rest hne hl ((fromSlice (f :: rest)).advance 1) (by simp)
  have hf := reads_parseU8 f rest (fromSlice (f :: rest)) rfl
  exact ⟨e, by simp [EnvBlockSymbol.tryFromCtx, Parse.run, bind_of_ok _ hf, map_apply, he]⟩

/-- The counts after the one function read are the invocation counts, cut or padded with zeros to
the count. -/
theorem FunctionListSymbol.tryFromCtx_eq (c x : UInt32) (xs : List UInt32) (kind : SymbolKind) :
    FunctionListSymbol.tryFromCtx (u32Bytes c ++ (u32Bytes x ++ xs.flatMap u32Bytes)) kind =
      .ok (⟨List.replicate c.toNat ⟨x⟩, resize xs c.toNat 0⟩,
        (u32Bytes c ++ (u32Bytes x ++ xs.flatMap u32Bytes)).length) := by
  refine Reads.run_all ((reads_u32Bytes c _).bind ((reads_parseTypeIndex x _).bind ?_))
  simpa using (reads_untilEmpty_u32 consumes_parseU32 id reads_u32Bytes xs).bind_pure
    (g := fun inv => FunctionListSymbol.mk (List.replicate c.toNat ⟨x⟩)
      (resize inv (List.replicate c.toNat (TypeIndex.mk x)).length 0))

/-- With only the count, the one function read runs past the end. -/
theorem FunctionListSymbol.tryFromCtx_count_only (c : UInt32) (kind : SymbolKind) :
    FunctionListSymbol.tryFromCtx (u32Bytes c) kind = .error .unexpectedEof := by
  have hc := reads_u32Bytes c [] (fromSlice (u32Bytes c)) (by simp)
  have ht : parseTypeIndex ((fromSlice (u32Bytes c)).advance 4) = .error .unexpectedEof := by
    simp [parseTypeIndex, parseU32, parseLE, map_apply, take, len_eq]
  simp [FunctionListSymbol.tryFromCtx, Parse.run, bind_of_ok _ hc, bind_of_error _ ht]

end PdbSymbols
