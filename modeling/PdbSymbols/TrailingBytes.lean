import PdbSymbols.SymbolData

set_option autoImplicit false

/-!
# Bytes after the fields

A record's length may cover more than its fields: compilers pad records to four-byte alignment.
`IgnoresTail p` says that `p` never looks past the bytes it reads, so whatever it returns it
returns the same with any bytes appended to its slice. The judgment is closed under the
combinators the fixed-layout decoders are built from, but not under `while !buf.is_empty()`, a
read of `buf.len()`, a count derived from the slice length, or the slot sniff, which all look
at the end of the record. `parse_append_tail_iff` says, kind by kind, which records keep their
value whatever follows their fields: exactly those of the kinds whose arm uses none of these.
Each kind of the other arms has its own record that changes value.
-/

namespace PdbSymbols

open ParseBuffer

namespace ParseBuffer

/-- The cursor over the same bytes with `tail` after them. -/
def extend (b : ParseBuffer) (tail : List UInt8) : ParseBuffer := ⟨b.data ++ tail, b.pos⟩

@[simp] theorem advance_extend (b : ParseBuffer) (tail : List UInt8) (n : Nat) :
    (b.extend tail).advance n = (b.advance n).extend tail := rfl

theorem fromSlice_append (this tail : List UInt8) :
    fromSlice (this ++ tail) = (fromSlice this).extend tail := rfl

theorem len_extend (b : ParseBuffer) (tail : List UInt8) : b.len ≤ (b.extend tail).len := by
  simp only [len, extend, List.length_append]
  omega

theorem rest_extend {b : ParseBuffer} (h : b.pos ≤ b.data.length) (tail : List UInt8) :
    (b.extend tail).rest = b.rest ++ tail := List.drop_append_of_le_length h

theorem pos_le_of_len_ne_zero {b : ParseBuffer} (h : b.len ≠ 0) : b.pos ≤ b.data.length := by
  unfold len at h
  omega

end ParseBuffer

/-- `p` never looks past what it reads: a success is the same success with any bytes after the
slice. -/
def IgnoresTail {α : Type} (p : Parse α) : Prop :=
  ∀ b a b' tail, p b = .ok (a, b') → p (b.extend tail) = .ok (a, b'.extend tail)

/-- The same for a decoder of a whole slice. -/
def DecoderIgnoresTail {α : Type} (dec : List UInt8 → Except Error (α × Nat)) : Prop :=
  ∀ this tail a n, dec this = .ok (a, n) → dec (this ++ tail) = .ok (a, n)

namespace IgnoresTail

variable {α β : Type} {p : Parse α}

theorem pure (a : α) : IgnoresTail (Pure.pure a : Parse α) := fun _ _ _ _ h => by cases h; rfl

theorem bind {f : α → Parse β} (hp : IgnoresTail p) (hf : ∀ a, IgnoresTail (f a)) :
    IgnoresTail (p >>= f) := by
  intro b c b₂ tail h
  rw [bind_apply] at h ⊢
  rcases hpb : p b with e | ⟨a, b₁⟩ <;> rw [hpb] at h
  · cases h
  · rw [hp b a b₁ tail hpb]
    exact hf a b₁ c b₂ tail h

theorem map (g : α → β) (hp : IgnoresTail p) : IgnoresTail (g <$> p) := by
  intro b c b' tail h
  rw [map_apply] at h ⊢
  rcases hpb : p b with e | ⟨a, b₁⟩ <;> rw [hpb] at h <;> cases h
  rw [hp b _ _ tail hpb]
  rfl

theorem throw (e : Error) : IgnoresTail (MonadExcept.throw e : Parse α) :=
  fun _ _ _ _ h => nomatch h

theorem ite {c : Prop} [Decidable c] {q : Parse α} (hp : IgnoresTail p) (hq : IgnoresTail q) :
    IgnoresTail (if c then p else q) := by
  split
  · exact hp
  · exact hq

theorem take (n : Nat) : IgnoresTail (PdbSymbols.take n) := by
  intro b xs b' tail h
  obtain ⟨hn, rfl, rfl⟩ := take_ok h
  have hrest : (b.extend tail).rest.take n = b.rest.take n := by
    by_cases hp : b.pos ≤ b.data.length
    · rw [rest_extend hp, List.take_append_of_le_length (by rw [← len_eq]; exact hn)]
    · have hn0 : n = 0 := by unfold len at hn; omega
      simp [hn0]
  rw [PdbSymbols.take, if_pos ((len_extend b tail).trans' hn), hrest, advance_extend]

theorem parseCString : IgnoresTail PdbSymbols.parseCString := by
  intro b s b' tail h
  unfold PdbSymbols.parseCString at h ⊢
  split at h
  · cases h
  · rename_i s' r hs
    cases h
    obtain ⟨hxs, h0⟩ := splitAtNul_some hs
    have hp : b.pos ≤ b.data.length := pos_le_of_len_ne_zero (by rw [len_eq, hxs]; simp)
    rw [rest_extend hp, hxs, List.append_assoc, List.cons_append, splitAtNul_append _ h0]
    rfl

theorem parseWith {dec : List UInt8 → Except Error (α × Nat)} (hd : DecoderIgnoresTail dec) :
    IgnoresTail (PdbSymbols.parseWith dec) := by
  intro b a b' tail h
  unfold PdbSymbols.parseWith at h ⊢
  split at h
  · cases h
  · rename_i hlen
    rcases hdb : dec b.rest with e | ⟨a', n⟩ <;> rw [hdb] at h <;> cases h
    have hlen' : (b.extend tail).len ≠ 0 := fun h0 => hlen (Nat.eq_zero_of_le_zero (h0 ▸ len_extend b tail))
    rw [if_neg hlen', rest_extend (pos_le_of_len_ne_zero hlen), hd _ _ _ _ hdb]
    rfl

theorem times (hp : IgnoresTail p) : ∀ n, IgnoresTail (PdbSymbols.times n p)
  | 0 => IgnoresTail.pure _
  | n + 1 => hp.bind fun _ => (times hp n).bind fun _ => IgnoresTail.pure _

/-- A parser run on a fresh cursor gives a decoder that ignores what follows its slice. -/
theorem run (hp : IgnoresTail p) : DecoderIgnoresTail (fun this => Parse.run this p) := by
  intro this tail a n h
  rcases hpb : p (fromSlice this) with e | ⟨a', b'⟩ <;> simp only [Parse.run, hpb] at h <;>
    cases h
  simp only [Parse.run, fromSlice_append, hp _ _ _ tail hpb]
  rfl

end IgnoresTail

section Primitives

theorem ignoresTail_parseLE (w : Nat) : IgnoresTail (parseLE w) := (IgnoresTail.take w).map _

theorem ignoresTail_parseU16 : IgnoresTail parseU16 := (ignoresTail_parseLE 2).map _

theorem ignoresTail_parseVariant : IgnoresTail parseVariant :=
  have hI (w : Nat) : IgnoresTail (parseI w) := (ignoresTail_parseLE w).map _
  have hU (w : Nat) : IgnoresTail (parseLE w) := ignoresTail_parseLE w
  ignoresTail_parseU16.bind fun _ =>
    .ite (.pure _) <| .ite (((hU 1).map _).map _) <| .ite ((hI 2).map _) <| .ite ((hI 4).map _) <|
      .ite ((hI 8).map _) <| .ite (((hU 2).map _).map _) <| .ite (((hU 4).map _).map _) <|
        .ite (((hU 8).map _).map _) (.throw _)

theorem ignoresTail_ofOrdinal (ord : UInt8) : IgnoresTail (ThunkKind.ofOrdinal ord) := by
  unfold ThunkKind.ofOrdinal
  split
  all_goals first
    | exact IgnoresTail.pure _
    | exact ignoresTail_parseU16.map _
    | exact ignoresTail_parseU16.bind fun _ => IgnoresTail.parseCString.bind fun _ =>
        IgnoresTail.pure _

theorem compilerVersion_ignoresTail (hasQfe : Bool) :
    DecoderIgnoresTail (CompilerVersion.tryFromCtx · hasQfe) := by
  refine IgnoresTail.run ?_
  have hu := ignoresTail_parseU16
  refine hu.bind fun _ => hu.bind fun _ => hu.bind fun _ => ?_
  split
  · exact (hu.map _).bind fun _ => IgnoresTail.pure _
  · exact (IgnoresTail.pure _).bind fun _ => IgnoresTail.pure _

/-- The flag word decoders read their first bytes and report a fixed width. -/
theorem compileFlags_ignoresTail (kind : SymbolKind) :
    DecoderIgnoresTail (CompileFlags.tryFromCtx · kind) := by
  intro this tail a n h
  match this, h with
  | _ :: _ :: _ :: _, h => exact h

theorem frameProcedureFlags_ignoresTail : DecoderIgnoresTail FrameProcedureFlags.tryFromCtx := by
  intro this tail a n h
  match this, h with
  | _ :: _ :: _ :: _ :: _, h => exact h

end Primitives

section Dispatch

variable {α : Type} {kind : SymbolKind} {arm : SymbolArm} {index : SymbolIndex}
  {payload : List UInt8} {v : SymbolData}

/-- An arm that decodes nothing returns its variant whatever the record holds. -/
theorem parse_append_of_pure {v₀ : SymbolData} (harm : symbolArm kind = some arm)
    (hdec : ∀ b, decodeArm kind b arm = pure (v₀, b))
    (h : (Symbol.mk index (u16Bytes kind ++ payload)).parse = some (.ok v)) (tail : List UInt8) :
    (Symbol.mk index (u16Bytes kind ++ (payload ++ tail))).parse = some (.ok v) := by
  rw [parse_eq_decodeArm harm, hdec] at h ⊢
  exact h

/-- An arm whose decoder ignores what follows its fields keeps the record's value. -/
theorem parse_append_of_decodeWith {mk : α → SymbolData}
    {dec : List UInt8 → Except Error (α × Nat)} (harm : symbolArm kind = some arm)
    (hdec : ∀ b, decodeArm kind b arm = decodeWith mk dec b) (hd : DecoderIgnoresTail dec)
    (h : (Symbol.mk index (u16Bytes kind ++ payload)).parse = some (.ok v)) (tail : List UInt8) :
    (Symbol.mk index (u16Bytes kind ++ (payload ++ tail))).parse = some (.ok v) := by
  have hne : payload ≠ [] := by
    rintro rfl
    rw [parse_eq_decodeArm harm, hdec] at h
    simp only [decodeWith, map_apply, PdbSymbols.parseWith, len_eq, rest_after_kind] at h
    cases h
  rw [parse_of_decodeWith harm hdec index hne] at h
  rw [parse_of_decodeWith harm hdec index (by simp [hne])]
  rcases hd0 : dec payload with e | ⟨a, n⟩ <;> rw [hd0] at h
  · cases h
  · rw [hd _ tail _ _ hd0]
    exact h

end Dispatch

/-- The arms whose decoder reads its fields and stops. The others look at the end of the record:
the four slot sniffers, the live ranges that count their gaps from the length, the inline site
whose annotations are the rest of the record, and the lists read until the record is empty. -/
def SymbolArm.ignoresTail : SymbolArm → Bool
  | .registerVariable | .«local» | .registerRelative | .basePointerRelative | .inlineSite
  | .envBlock | .defRange | .defRangeSubField | .defRangeRegister | .defRangeFramePointerRelative
  | .defRangeSubFieldRegister | .defRangeRegisterRelative | .callers | .callees | .inlinees => false
  | _ => true

/-- Each arm that reads its fields and stops keeps a record's value whatever bytes follow them. -/
theorem parse_append_tail {kind : SymbolKind} {arm : SymbolArm} (harm : symbolArm kind = some arm)
    (ht : arm.ignoresTail = true) {index : SymbolIndex} {payload : List UInt8} {v : SymbolData}
    (h : (Symbol.mk index (u16Bytes kind ++ payload)).parse = some (.ok v)) (tail : List UInt8) :
    (Symbol.mk index (u16Bytes kind ++ (payload ++ tail))).parse = some (.ok v) := by
  cases arm
  all_goals first
    | exact absurd ht (by decide)
    | exact parse_append_of_pure harm (fun _ => rfl) h tail
    | refine parse_append_of_decodeWith harm (fun _ => rfl) ?_ h tail
  all_goals refine IgnoresTail.run ?_
  all_goals
    repeat' first
      | with_reducible refine IgnoresTail.bind ?_ fun _ => ?_
      | with_reducible refine IgnoresTail.map _ ?_
      | with_reducible exact IgnoresTail.pure _
      | with_reducible exact IgnoresTail.take _
      | with_reducible exact IgnoresTail.parseCString
      | with_reducible refine IgnoresTail.ite ?_ ?_
      | with_reducible refine IgnoresTail.times ?_ _
      | with_reducible exact ignoresTail_ofOrdinal _
      | with_reducible exact ignoresTail_parseVariant
      | with_reducible exact IgnoresTail.parseWith (compilerVersion_ignoresTail _)
      | with_reducible exact IgnoresTail.parseWith (compileFlags_ignoresTail _)
      | with_reducible exact IgnoresTail.parseWith frameProcedureFlags_ignoresTail
      | split
      | dsimp only
      | simp only [parseU8, parseU16, parseU32, parseU64, parseI, parseLE, parseTypeIndex,
          parseIdIndex, parseSymbolIndex, parseRegister, parseCOMToken, parseSectionCharacteristics,
          parseSectionOffset, parseSourceLanguage, parseCPUType, parseOptionalIndex,
          parseSymbolName, parseOptionalName, parseModuleIndex, parseReference, parseU8PascalString,
          parseProcedureFlags, parseLocalVariableFlags, parseExportSymbolFlags,
          parseSeparatedCodeFlags, parseRangeFlags, parseAddressRange,
          MultiRegisterVariableSymbol.count, MultiRegisterVariableSymbol.register]

/-- The invocation counts of a caller or callee list. -/
def invocationsOf : SymbolData → List UInt32
  | .callers d | .callees d => d.invocations
  | _ => []

/-- Some record of the kind changes value when bytes follow its fields. -/
def TailChanges (kind : SymbolKind) : Prop :=
  ∃ payload tail v v', (Symbol.mk ⟨0⟩ (u16Bytes kind ++ payload)).parse = some (.ok v) ∧
    (Symbol.mk ⟨0⟩ (u16Bytes kind ++ (payload ++ tail))).parse = some (.ok v') ∧ v ≠ v'

/-- A pair of records of a listed kind, given by what its arm's decoder returns on them. -/
theorem tailChanges_of_decodeArm {kind : SymbolKind} (arm : SymbolArm)
    (harm : symbolArm kind = some arm) (payload tail : List UInt8) (v v' : SymbolData)
    (h : Prod.fst <$> decodeArm kind ⟨u16Bytes kind ++ payload, 2⟩ arm = some (.ok v))
    (h' : Prod.fst <$> decodeArm kind ⟨u16Bytes kind ++ (payload ++ tail), 2⟩ arm = some (.ok v'))
    (hne : v ≠ v') : TailChanges kind :=
  ⟨payload, tail, v, v', (parse_eq_decodeArm harm _ _).trans h, (parse_eq_decodeArm harm _ _).trans h',
    hne⟩

/-! A `$`, four bytes past the name's NUL, and a slot after it. An empty name is one zero byte
in both name encodings, so the kinds of an arm share a record where their fields agree. -/

theorem tailChanges_registerVariable : ∀ kind ∈ [S_REGISTER, S_REGISTER_ST], TailChanges kind := by
  intro kind hk
  simp only [List.mem_cons, List.not_mem_nil, or_false] at hk
  rcases hk with rfl | rfl <;>
  exact tailChanges_of_decodeArm .registerVariable (by decide) [0, 0, 0, 0, 0, 0, 0]
    [0, 0, 0, 0, 0x24, 1, 0, 0, 0] (.registerVariable ⟨⟨0⟩, ⟨0⟩, "", none⟩)
    (.registerVariable ⟨⟨0⟩, ⟨0⟩, "", some 1⟩) rfl rfl fun h => by cases h

theorem tailChanges_local : ∀ kind ∈ [S_LOCAL], TailChanges kind :=
  List.forall_mem_singleton.mpr <| tailChanges_of_decodeArm .«local» (by decide)
    [0, 0, 0, 0, 0, 0, 0] [0, 0, 0, 0, 0x24, 1, 0, 0, 0]
    (.«local» ⟨⟨0⟩, ⟨false, false, false, false, false, false, false, false, false, false⟩, "", none⟩)
    (.«local» ⟨⟨0⟩, ⟨false, false, false, false, false, false, false, false, false, false⟩, "", some 1⟩)
    rfl rfl fun h => by cases h

theorem tailChanges_registerRelative : ∀ kind ∈ [S_REGREL32], TailChanges kind :=
  List.forall_mem_singleton.mpr <| tailChanges_of_decodeArm .registerRelative (by decide)
    [0, 0, 0, 0, 0, 0, 0, 0, 0, 0, 0] [0, 0, 0, 0, 0x24, 1, 0, 0, 0]
    (.registerRelative ⟨0, ⟨0⟩, ⟨0⟩, "", none⟩) (.registerRelative ⟨0, ⟨0⟩, ⟨0⟩, "", some 1⟩) rfl rfl
    fun h => by cases h

/-- `S_BPREL32_16T` reads a 16-bit type index, so its fields end two bytes earlier and the `$`
sits two bytes further into the tail. -/
theorem tailChanges_basePointerRelative :
    ∀ kind ∈ [S_BPREL32, S_BPREL32_ST, S_BPREL32_16T], TailChanges kind := by
  intro kind hk
  simp only [List.mem_cons, List.not_mem_nil, or_false, ← or_assoc] at hk
  rcases hk with hk | rfl
  · rcases hk with rfl | rfl <;>
    exact tailChanges_of_decodeArm .basePointerRelative (by decide) [0, 0, 0, 0, 0, 0, 0, 0, 0]
      [0, 0, 0, 0, 0x24, 1, 0, 0, 0] (.basePointerRelative ⟨0, ⟨0⟩, "", none⟩)
      (.basePointerRelative ⟨0, ⟨0⟩, "", some 1⟩) rfl rfl fun h => by cases h
  · exact tailChanges_of_decodeArm .basePointerRelative (by decide) [0, 0, 0, 0, 0, 0, 0]
      [0, 0, 0, 0, 0, 0, 0x24, 1, 0, 0, 0] (.basePointerRelative ⟨0, ⟨0⟩, "", none⟩)
      (.basePointerRelative ⟨0, ⟨0⟩, "", some 1⟩) rfl rfl fun h => by cases h

/-- The annotations are the rest of the record; `S_INLINESITE2` reads its invocation count
first. -/
theorem tailChanges_inlineSite : ∀ kind ∈ [S_INLINESITE, S_INLINESITE2], TailChanges kind := by
  intro kind hk
  simp only [List.mem_cons, List.not_mem_nil, or_false] at hk
  rcases hk with rfl | rfl
  · exact tailChanges_of_decodeArm .inlineSite (by decide) (List.replicate 12 0) [1]
      (.inlineSite ⟨none, ⟨0⟩, ⟨0⟩, none, ⟨[]⟩⟩) (.inlineSite ⟨none, ⟨0⟩, ⟨0⟩, none, ⟨[1]⟩⟩) rfl rfl
      fun h => by cases h
  · exact tailChanges_of_decodeArm .inlineSite (by decide) (List.replicate 16 0) [1]
      (.inlineSite ⟨none, ⟨0⟩, ⟨0⟩, some 0, ⟨[]⟩⟩) (.inlineSite ⟨none, ⟨0⟩, ⟨0⟩, some 0, ⟨[1]⟩⟩) rfl rfl
      fun h => by cases h

/-! A live range whose gaps are counted from the record's length gains a gap. -/

theorem tailChanges_defRange : ∀ kind ∈ [S_DEFRANGE], TailChanges kind :=
  List.forall_mem_singleton.mpr <| tailChanges_of_decodeArm .defRange (by decide)
    (List.replicate 12 0) [1, 0, 2, 0] (.defRange ⟨0, ⟨⟨0, 0⟩, 0⟩, []⟩)
    (.defRange ⟨0, ⟨⟨0, 0⟩, 0⟩, [⟨1, 2⟩]⟩) rfl rfl fun h => by cases h

theorem tailChanges_defRangeSubField : ∀ kind ∈ [S_DEFRANGE_SUBFIELD], TailChanges kind :=
  List.forall_mem_singleton.mpr <| tailChanges_of_decodeArm .defRangeSubField (by decide)
    (List.replicate 16 0) [1, 0, 2, 0] (.defRangeSubField ⟨0, 0, ⟨⟨0, 0⟩, 0⟩, []⟩)
    (.defRangeSubField ⟨0, 0, ⟨⟨0, 0⟩, 0⟩, [⟨1, 2⟩]⟩) rfl rfl fun h => by cases h

theorem tailChanges_defRangeRegister : ∀ kind ∈ [S_DEFRANGE_REGISTER], TailChanges kind :=
  List.forall_mem_singleton.mpr <| tailChanges_of_decodeArm .defRangeRegister (by decide)
    (List.replicate 12 0) [1, 0, 2, 0] (.defRangeRegister ⟨⟨0⟩, ⟨false⟩, ⟨⟨0, 0⟩, 0⟩, []⟩)
    (.defRangeRegister ⟨⟨0⟩, ⟨false⟩, ⟨⟨0, 0⟩, 0⟩, [⟨1, 2⟩]⟩) rfl rfl fun h => by cases h

theorem tailChanges_defRangeFramePointerRelative :
    ∀ kind ∈ [S_DEFRANGE_FRAMEPOINTER_REL], TailChanges kind :=
  List.forall_mem_singleton.mpr <| tailChanges_of_decodeArm .defRangeFramePointerRelative
    (by decide) (List.replicate 12 0) [1, 0, 2, 0]
    (.defRangeFramePointerRelative ⟨0, ⟨⟨0, 0⟩, 0⟩, []⟩)
    (.defRangeFramePointerRelative ⟨0, ⟨⟨0, 0⟩, 0⟩, [⟨1, 2⟩]⟩) rfl rfl fun h => by cases h

theorem tailChanges_defRangeSubFieldRegister :
    ∀ kind ∈ [S_DEFRANGE_SUBFIELD_REGISTER], TailChanges kind :=
  List.forall_mem_singleton.mpr <| tailChanges_of_decodeArm .defRangeSubFieldRegister
    (by decide) (List.replicate 16 0) [1, 0, 2, 0]
    (.defRangeSubFieldRegister ⟨⟨0⟩, ⟨false⟩, 0, ⟨⟨0, 0⟩, 0⟩, []⟩)
    (.defRangeSubFieldRegister ⟨⟨0⟩, ⟨false⟩, 0, ⟨⟨0, 0⟩, 0⟩, [⟨1, 2⟩]⟩) rfl rfl fun h => by cases h

theorem tailChanges_defRangeRegisterRelative :
    ∀ kind ∈ [S_DEFRANGE_REGISTER_REL], TailChanges kind :=
  List.forall_mem_singleton.mpr <| tailChanges_of_decodeArm .defRangeRegisterRelative
    (by decide) (List.replicate 16 0) [1, 0, 2, 0]
    (.defRangeRegisterRelative ⟨⟨0⟩, 0, 0, 0, ⟨⟨0, 0⟩, 0⟩, []⟩)
    (.defRangeRegisterRelative ⟨⟨0⟩, 0, 0, 0, ⟨⟨0, 0⟩, 0⟩, [⟨1, 2⟩]⟩) rfl rfl fun h => by cases h

/-! A list read until the record is empty gains an entry. -/

theorem tailChanges_envBlock : ∀ kind ∈ [S_ENVBLOCK], TailChanges kind := by
  have hd (ss : List (List UInt8)) (hss : ∀ s ∈ ss, 0 ∉ s) :=
    EnvBlockSymbol.tryFromCtx_eq 0 ss hss (by decide : ¬S_ENVBLOCK < S_ST_MAX)
  have harm : symbolArm S_ENVBLOCK = some .envBlock := by decide
  exact List.forall_mem_singleton.mpr ⟨[0], [0], .envBlock ⟨false, []⟩, .envBlock ⟨false, [""]⟩,
    parse_of_decode_ok harm (fun _ => rfl) _ (List.cons_ne_nil _ _) (hd [] (by simp)),
    parse_of_decode_ok harm (fun _ => rfl) _ (List.cons_ne_nil _ _) (hd [[]] (by simp)),
    fun h => by cases h⟩

theorem tailChanges_callers : ∀ kind ∈ [S_CALLERS], TailChanges kind := by
  have hd (xs : List UInt32) := FunctionListSymbol.tryFromCtx_eq 1 0 xs S_CALLERS
  have harm : symbolArm S_CALLERS = some .callers := by decide
  refine List.forall_mem_singleton.mpr ⟨u32Bytes 1 ++ (u32Bytes 0 ++ []), u32Bytes 5,
    .callers ⟨[⟨0⟩], [0]⟩, .callers ⟨[⟨0⟩], [5]⟩, ?_, ?_,
    fun h => absurd (congrArg invocationsOf h) (by decide)⟩
  · exact parse_of_decode_ok harm (fun _ => rfl) _ (List.cons_ne_nil _ _) (hd [])
  · exact parse_of_decode_ok harm (fun _ => rfl) _ (List.cons_ne_nil _ _) (hd [5])

theorem tailChanges_callees : ∀ kind ∈ [S_CALLEES], TailChanges kind := by
  have hd (xs : List UInt32) := FunctionListSymbol.tryFromCtx_eq 1 0 xs S_CALLEES
  have harm : symbolArm S_CALLEES = some .callees := by decide
  refine List.forall_mem_singleton.mpr ⟨u32Bytes 1 ++ (u32Bytes 0 ++ []), u32Bytes 5,
    .callees ⟨[⟨0⟩], [0]⟩, .callees ⟨[⟨0⟩], [5]⟩, ?_, ?_,
    fun h => absurd (congrArg invocationsOf h) (by decide)⟩
  · exact parse_of_decode_ok harm (fun _ => rfl) _ (List.cons_ne_nil _ _) (hd [])
  · exact parse_of_decode_ok harm (fun _ => rfl) _ (List.cons_ne_nil _ _) (hd [5])

theorem tailChanges_inlinees : ∀ kind ∈ [S_INLINEES], TailChanges kind := by
  have hd (xs : List UInt32) := InlineesSymbol.tryFromCtx_eq 0 xs S_INLINEES
  have harm : symbolArm S_INLINEES = some .inlinees := by decide
  refine List.forall_mem_singleton.mpr ⟨u32Bytes 0 ++ [], u32Bytes 1, .inlinees ⟨[]⟩,
    .inlinees ⟨[⟨1⟩]⟩, ?_, ?_, fun h => by cases h⟩
  · exact parse_of_decode_ok harm (fun _ => rfl) _ (List.cons_ne_nil _ _) (hd [])
  · exact parse_of_decode_ok harm (fun _ => rfl) _ (List.cons_ne_nil _ _) (hd [1])

/-- Every kind the dispatch lists under an arm that looks at the end of the record has a record
whose value changes when bytes follow its fields: a slot appears behind a `$`, a gap or a list
entry is added, or an annotation byte. -/
theorem tailChanges_of_mem_symbolArms :
    ∀ entry ∈ symbolArms, entry.1.ignoresTail = false → ∀ kind ∈ entry.2, TailChanges kind := by
  intro entry hentry hf
  simp only [symbolArms, List.mem_cons, List.not_mem_nil, or_false] at hentry
  repeat' rcases hentry with rfl | hentry
  all_goals first
    | exact absurd hf (by decide)
    | exact tailChanges_registerVariable
    | exact tailChanges_local
    | exact tailChanges_registerRelative
    | exact tailChanges_basePointerRelative
    | exact tailChanges_inlineSite
    | exact tailChanges_defRange
    | exact tailChanges_defRangeSubField
    | exact tailChanges_defRangeRegister
    | exact tailChanges_defRangeFramePointerRelative
    | exact tailChanges_defRangeSubFieldRegister
    | exact tailChanges_defRangeRegisterRelative
    | exact tailChanges_envBlock
    | exact tailChanges_callers
    | exact tailChanges_callees
    | exact tailChanges_inlinees

/-- A kind keeps the value of every record whatever bytes follow its fields exactly when the
arm it dispatches to, if any, reads its fields and stops. A kind the dispatch does not list
keeps it trivially: no record of it parses. -/
theorem parse_append_tail_iff (kind : SymbolKind) :
    (∀ (index : SymbolIndex) (payload tail : List UInt8) (v : SymbolData),
        (Symbol.mk index (u16Bytes kind ++ payload)).parse = some (.ok v) →
          (Symbol.mk index (u16Bytes kind ++ (payload ++ tail))).parse = some (.ok v)) ↔
      ∀ arm, symbolArm kind = some arm → arm.ignoresTail = true := by
  refine ⟨fun hall arm harm => ?_, fun ht index payload tail v h => ?_⟩
  · by_contra hf
    obtain ⟨kinds, hmem, hk⟩ := symbolArm_eq_some harm
    obtain ⟨payload, tail, v, v', h, h', hne⟩ :=
      tailChanges_of_mem_symbolArms _ hmem (Bool.eq_false_iff.mpr hf) kind hk
    exact hne (Except.ok.inj (Option.some.inj ((hall _ payload tail v h).symm.trans h')))
  · cases harm : symbolArm kind with
    | none =>
      rw [parse_of_no_arm harm] at h
      cases h
    | some arm => exact parse_append_tail harm (ht arm harm) h tail

end PdbSymbols
