import PdbSymbols.SymbolData

set_option autoImplicit false

/-!
# What every decoder can return

`Confined p E`: every error `p` returns satisfies `E`, and on success `p` moves the cursor forward
over the same bytes and never past their end. The judgment is closed under the combinators the
decoders are built from, so the errors of a decoder and the size it reports are read off its
structure: a short read in `take`, `parse_cstring` and `parse_with`, a numeric leaf the constant
decoder does not know, and the kind the base-pointer-relative decoder has no layout for. The last
is never reached through the dispatch. Together they give what `Symbol::parse` can fail with
(`parse_error_cases`) and that `SymbolData::try_from_ctx` reports a size inside its slice
(`tryFromCtx_size_within`).
-/

namespace PdbSymbols

open ParseBuffer

/-- The cursor `b'` is `b` moved forward over the same bytes; from inside them it stays inside. -/
def Advances (b b' : ParseBuffer) : Prop :=
  b'.data = b.data ∧ b.pos ≤ b'.pos ∧ (b.pos ≤ b.data.length → b'.pos ≤ b.data.length)

theorem Advances.refl (b : ParseBuffer) : Advances b b := ⟨rfl, le_rfl, id⟩

theorem Advances.trans {b b' b'' : ParseBuffer} (h : Advances b b') (h' : Advances b' b'') :
    Advances b b'' := by
  obtain ⟨hd, hp, hl⟩ := h
  obtain ⟨hd', hp', hl'⟩ := h'
  refine ⟨hd'.trans hd, hp.trans hp', fun hb => ?_⟩
  simpa only [hd] using hl' (hd ▸ hl hb)

theorem advances_advance {b : ParseBuffer} {n : Nat} (h : n ≤ b.len) :
    Advances b (b.advance n) := by
  refine ⟨rfl, Nat.le_add_right _ _, fun _ => ?_⟩
  simp only [len] at h
  simp only [pos_advance]
  omega

/-- A parser whose failures all satisfy `E`, and which on success advances the cursor. -/
structure Confined {α : Type} (p : Parse α) (E : Error → Prop) : Prop where
  fails : ∀ b e, p b = .error e → E e
  advances : ∀ b a b', p b = .ok (a, b') → Advances b b'

/-- A decoder of a byte slice whose failures satisfy `E` and whose size is inside the slice. -/
structure Decodes {α : Type} (dec : List UInt8 → Except Error (α × Nat)) (E : Error → Prop) :
    Prop where
  fails : ∀ this e, dec this = .error e → E e
  size_le : ∀ this a n, dec this = .ok (a, n) → n ≤ this.length

/-- The same for a decoder that can panic. -/
structure DecodesChecked {α : Type} (dec : List UInt8 → Checked (α × Nat)) (E : Error → Prop) :
    Prop where
  fails : ∀ this e, dec this = some (.error e) → E e
  size_le : ∀ this a n, dec this = some (.ok (a, n)) → n ≤ this.length

namespace Confined

variable {α β : Type} {p : Parse α} {E : Error → Prop}

theorem pure (a : α) : Confined (Pure.pure a) E :=
  ⟨fun _ _ h => (nomatch h), fun b _ _ h => by cases h; exact .refl b⟩

theorem bind {f : α → Parse β} (hp : Confined p E) (hf : ∀ a, Confined (f a) E) :
    Confined (p >>= f) E := by
  refine ⟨fun b e h => ?_, fun b c b₂ h => ?_⟩ <;> rw [bind_apply] at h <;>
    rcases hpb : p b with e' | ⟨a, b₁⟩ <;> rw [hpb] at h
  · cases h; exact hp.fails b _ hpb
  · exact (hf a).fails b₁ e h
  · cases h
  · exact (hp.advances b a b₁ hpb).trans ((hf a).advances b₁ c b₂ h)

theorem map (g : α → β) (hp : Confined p E) : Confined (g <$> p) E := by
  refine ⟨fun b e h => ?_, fun b c b' h => ?_⟩ <;> rw [map_apply] at h <;>
    rcases hpb : p b with e' | ⟨a, b₁⟩ <;> rw [hpb] at h <;> cases h
  · exact hp.fails b _ hpb
  · exact hp.advances b a _ hpb

theorem throw {e : Error} (he : E e) : Confined (MonadExcept.throw e : Parse α) E :=
  ⟨fun _ _ h => by cases h; exact he, fun _ _ _ h => nomatch h⟩

theorem get : Confined (MonadState.get : Parse ParseBuffer) E :=
  ⟨fun _ _ h => (nomatch h), fun b _ _ h => by cases h; exact .refl b⟩

/-- The branch taken keeps its condition, which a branch that throws may need. -/
theorem ite {c : Prop} [Decidable c] {q : Parse α} (hp : c → Confined p E)
    (hq : ¬c → Confined q E) : Confined (if c then p else q) E := by
  split
  · exact hp ‹_›
  · exact hq ‹_›

theorem take (hE : E .unexpectedEof) (n : Nat) : Confined (PdbSymbols.take n) E := by
  refine ⟨fun b e h => ?_, fun b xs b' h => ?_⟩
  · unfold PdbSymbols.take at h
    split at h <;> cases h
    exact hE
  · obtain ⟨hn, -, rfl⟩ := take_ok h
    exact advances_advance hn

theorem parseCString (hE : E .unexpectedEof) : Confined PdbSymbols.parseCString E := by
  refine ⟨fun b e h => ?_, fun b s b' h => ?_⟩ <;> unfold PdbSymbols.parseCString at h <;>
    split at h <;> cases h
  · exact hE
  · rename_i r hs
    refine advances_advance ?_
    rw [len_eq, (splitAtNul_some hs).1]
    simp

theorem parseWith {dec : List UInt8 → Except Error (α × Nat)} (hE : E .unexpectedEof)
    (hd : Decodes dec E) : Confined (PdbSymbols.parseWith dec) E := by
  refine ⟨fun b e h => ?_, fun b a b' h => ?_⟩ <;> unfold PdbSymbols.parseWith at h <;>
    split at h
  · cases h; exact hE
  · rcases hdb : dec b.rest with e' | ⟨a, n⟩ <;> rw [hdb] at h <;> cases h
    exact hd.fails _ _ hdb
  · cases h
  · rcases hdb : dec b.rest with e' | ⟨a, n⟩ <;> rw [hdb] at h <;> cases h
    exact advances_advance (len_eq b ▸ hd.size_le _ _ _ hdb)

theorem times (hp : Confined p E) : ∀ n, Confined (PdbSymbols.times n p) E
  | 0 => Confined.pure _
  | n + 1 => hp.bind fun _ => (times hp n).bind fun _ => Confined.pure _

theorem untilEmpty (hp : Consumes p) (hf : Confined p E) :
    Confined (PdbSymbols.untilEmpty p hp) E := by
  suffices h : ∀ n b, b.len = n → (∀ e, PdbSymbols.untilEmpty p hp b = .error e → E e) ∧
      ∀ as b', PdbSymbols.untilEmpty p hp b = .ok (as, b') → Advances b b' from
    ⟨fun b e => (h _ b rfl).1 e, fun b as b' => (h _ b rfl).2 as b'⟩
  intro n
  induction n using Nat.strong_induction_on with
  | _ n ih =>
    intro b hn
    by_cases hr : b.rest = []
    · rw [untilEmpty_of_rest_nil hp hr]
      exact ⟨fun e he => (nomatch he), fun as b' he => by cases he; exact .refl b⟩
    · rw [untilEmpty_of_rest_ne_nil hp hr]
      split
      · exact ⟨fun e he => by cases he; exact hf.fails _ _ ‹_›, fun _ _ he => nomatch he⟩
      · rename_i a b₁ hpb
        have ih' := ih _ (hn ▸ hp _ _ _ hpb) b₁ rfl
        refine ⟨fun e he => ?_, fun as b₂ he => ?_⟩ <;>
          rcases hu : PdbSymbols.untilEmpty p hp b₁ with e' | ⟨as', b₃⟩ <;> rw [hu] at he <;>
            cases he
        · exact ih'.1 _ hu
        · exact (hf.advances _ _ _ hpb).trans (ih'.2 _ _ hu)

/-- A parser run on a fresh cursor reports a position inside the slice. -/
theorem run (hp : Confined p E) : Decodes (fun this => Parse.run this p) E := by
  refine ⟨fun this e h => ?_, fun this a n h => ?_⟩ <;>
    rcases hpb : p (fromSlice this) with e' | ⟨a', b'⟩ <;> simp only [Parse.run, hpb] at h <;>
      cases h
  · exact hp.fails _ _ hpb
  · simpa using (hp.advances _ _ _ hpb).2.2 (Nat.zero_le _)

end Confined

section Primitives

variable {E : Error → Prop} (hE : E .unexpectedEof)
include hE

theorem confined_parseLE (w : Nat) : Confined (parseLE w) E := (Confined.take hE w).map _

theorem confined_parseU16 : Confined parseU16 E := (confined_parseLE hE 2).map _

theorem confined_parseAddressGap : Confined parseAddressGap E :=
  (confined_parseU16 hE).bind fun _ => (confined_parseU16 hE).bind fun _ => Confined.pure _

/-- A numeric leaf fails on a short read or on a leaf kind it does not know. -/
theorem confined_parseVariant (hN : ∀ leaf, E (.unexpectedNumericPrefix leaf)) :
    Confined parseVariant E :=
  have hI (w : Nat) : Confined (parseI w) E := (confined_parseLE hE w).map _
  have hU (w : Nat) : Confined (parseLE w) E := confined_parseLE hE w
  (confined_parseU16 hE).bind fun _ =>
    .ite (fun _ => .pure _) fun _ => .ite (fun _ => ((hU 1).map _).map _) fun _ =>
      .ite (fun _ => (hI 2).map _) fun _ => .ite (fun _ => (hI 4).map _) fun _ =>
        .ite (fun _ => (hI 8).map _) fun _ => .ite (fun _ => ((hU 2).map _).map _) fun _ =>
          .ite (fun _ => ((hU 4).map _).map _) fun _ => .ite (fun _ => ((hU 8).map _).map _) fun _ =>
            .throw (hN _)

theorem confined_ofOrdinal (ord : UInt8) : Confined (ThunkKind.ofOrdinal ord) E := by
  unfold ThunkKind.ofOrdinal
  split
  all_goals first
    | exact Confined.pure _
    | exact (confined_parseU16 hE).map _
    | exact (confined_parseU16 hE).bind fun _ => (Confined.parseCString hE).bind fun _ =>
        Confined.pure _

theorem compilerVersion_decodes (hasQfe : Bool) :
    Decodes (CompilerVersion.tryFromCtx · hasQfe) E := by
  refine Confined.run ?_
  have hu : Confined parseU16 E := confined_parseU16 hE
  refine hu.bind fun _ => hu.bind fun _ => hu.bind fun _ => ?_
  split
  · exact (hu.map _).bind fun _ => Confined.pure _
  · exact (Confined.pure _).bind fun _ => Confined.pure _

theorem compileFlags_decodes (kind : SymbolKind) :
    Decodes (CompileFlags.tryFromCtx · kind) E := by
  refine ⟨fun this e h => ?_, fun this a n h => ?_⟩ <;> unfold CompileFlags.tryFromCtx at h <;>
    split at h <;> cases h
  · exact hE
  · simp

theorem frameProcedureFlags_decodes : Decodes FrameProcedureFlags.tryFromCtx E := by
  refine ⟨fun this e h => ?_, fun this a n h => ?_⟩ <;>
    unfold FrameProcedureFlags.tryFromCtx at h <;> split at h <;> cases h
  · exact hE
  · simp

end Primitives

section Shared

variable {α β γ : Type} {E : Error → Prop}

theorem withGaps_decodes {header : Nat} {fields : Parse β} {mk : β → List AddressGap → γ}
    (hE : E .unexpectedEof) (hf : Confined fields E) :
    DecodesChecked (fun this => withGaps this header fields mk) E := by
  have hr (k : Nat) := Confined.run (hf.bind fun f =>
    (Confined.times (confined_parseAddressGap hE) k).bind fun gaps => Confined.pure (mk f gaps))
  refine ⟨fun this e h => ?_, fun this a n h => ?_⟩ <;> unfold withGaps Checked.usizeSub at h <;>
    split at h
  · exact (hr _).fails this e (Option.some.inj h)
  · cases h
  · exact (hr _).size_le this a n (Option.some.inj h)
  · cases h

theorem parseSlot_errors {this : List UInt8} {nameLen fixed marker slotAt : Nat} {e : Error}
    (hE : E .unexpectedEof) (h : parseSlot this nameLen fixed marker slotAt = some (.error e)) :
    E e := by
  unfold parseSlot at h
  split at h
  · rcases hi : Checked.index this (nameLen + marker) with _ | _ | byte <;>
      simp only [hi, Checked.none_bind, Checked.error_bind, Checked.ok_bind] at h
    · cases h
    · obtain ⟨_, -, h'⟩ := Option.map_eq_some'.mp hi
      cases h'
    · split at h
      · unfold Checked.sliceFrom at h
        split at h
        · simp only [Checked.pure_eq, Checked.ok_bind, Checked.ofExcept_eq] at h
          rcases hp : Parse.run (this.drop (nameLen + slotAt)) (parseI 4) with e' | r <;>
            simp only [hp, except_map_error, except_map_ok] at h
          · cases h; exact (((Confined.take hE 4).map _).map _).run.fails _ _ hp
          · cases h
        · cases h
      · cases h
  · cases h

theorem withSlot_decodes {fields : Parse (α × RawString)} {fixed marker slotAt : Nat}
    {mk : α → String → Option (BitVec 32) → β} (hE : E .unexpectedEof) (hf : Confined fields E) :
    DecodesChecked (fun this => withSlot this fields fixed marker slotAt mk) E := by
  refine ⟨fun this e h => ?_, fun this a n h => ?_⟩ <;> unfold withSlot at h <;>
    rcases hr : Parse.run this fields with e' | ⟨⟨⟨head, name⟩, pos⟩⟩ <;>
    simp only [hr, Checked.ofExcept_eq, Checked.error_bind, Checked.ok_bind] at h
  · cases h; exact hf.run.fails _ _ hr
  · rcases hs : parseSlot this name.len fixed marker slotAt with _ | e' | slot <;>
      rw [hs] at h <;> cases h
    exact parseSlot_errors hE hs
  · cases h
  · rcases hs : parseSlot this name.len fixed marker slotAt with _ | e' | slot <;>
      rw [hs] at h <;> cases h
    exact hf.run.size_le _ _ _ hr

end Shared

section Dispatch

variable {α : Type} {E : Error → Prop}

/-- What a dispatch arm returns on the cursor `b`: an error satisfying `E`, or a cursor that `b`
advances to. -/
def ArmReturns (x : Checked (SymbolData × ParseBuffer)) (E : Error → Prop) (b : ParseBuffer) :
    Prop :=
  (∀ e, x = some (.error e) → E e) ∧ ∀ v b', x = some (.ok (v, b')) → Advances b b'

theorem pure_returns (v : SymbolData) (b : ParseBuffer) : ArmReturns (pure (v, b)) E b :=
  ⟨fun _ h => (nomatch h), fun _ _ h => by cases h; exact .refl b⟩

theorem decodeWith_returns {mk : α → SymbolData} {dec : List UInt8 → Except Error (α × Nat)}
    (hE : E .unexpectedEof) (hd : Decodes dec E) (b : ParseBuffer) :
    ArmReturns (decodeWith mk dec b) E b :=
  have hp := (Confined.parseWith hE hd).map mk
  ⟨fun e h => hp.fails b e (Option.some.inj h),
    fun v b' h => hp.advances b v b' (Option.some.inj h)⟩

theorem decodeWithChecked_returns {mk : α → SymbolData} {dec : List UInt8 → Checked (α × Nat)}
    (hE : E .unexpectedEof) (hd : DecodesChecked dec E) (b : ParseBuffer) :
    ArmReturns (decodeWithChecked mk dec b) E b := by
  unfold decodeWithChecked parseWithChecked
  split
  · exact ⟨fun e h => by cases h; exact hE, fun _ _ h => nomatch h⟩
  · rcases hdb : dec b.rest with _ | e' | ⟨a, n⟩
    · exact ⟨fun _ h => (nomatch h), fun _ _ h => nomatch h⟩
    · exact ⟨fun e h => by cases h; exact hd.fails _ _ hdb, fun _ _ h => nomatch h⟩
    · refine ⟨fun _ h => (nomatch h), fun v b' h => ?_⟩
      cases h
      exact advances_advance (len_eq b ▸ hd.size_le _ _ _ hdb)

/-- The errors a dispatch arm can return under `kind`: a read past the end of the record; the
numeric leaf of a constant's value; and, only when the base-pointer-relative decoder runs under a
kind it has no type-index layout for, the unimplemented kind. -/
def ArmError (kind : SymbolKind) (arm : SymbolArm) (e : Error) : Prop :=
  e = .unexpectedEof ∨ (arm = .constant ∧ ∃ leaf, e = .unexpectedNumericPrefix leaf) ∨
    (arm = .basePointerRelative ∧ e = .unimplementedSymbolKind kind ∧
      ¬(kind = S_BPREL32 ∨ kind = S_BPREL32_ST) ∧ kind ≠ S_BPREL32_16T)

/-- Every arm fails only as `ArmError` says and advances the cursor when it succeeds: one case per
arm, each read off the decoder's combinators. -/
theorem decodeArm_returns (kind : SymbolKind) (b : ParseBuffer) (arm : SymbolArm) :
    ArmReturns (decodeArm kind b arm) (ArmError kind arm) b := by
  have eof : ArmError kind arm .unexpectedEof := Or.inl rfl
  cases arm
  all_goals first
    | exact pure_returns _ _
    | refine decodeWith_returns eof ?_ _
    | refine decodeWithChecked_returns eof ?_ _
  all_goals first
    | refine Confined.run ?_
    | refine withGaps_decodes eof ?_
    | refine withSlot_decodes eof ?_
  all_goals
    repeat' first
      | with_reducible refine Confined.bind ?_ fun _ => ?_
      | with_reducible refine Confined.map _ ?_
      | with_reducible exact Confined.pure _
      | with_reducible exact Confined.take eof _
      | with_reducible exact Confined.parseCString eof
      | with_reducible refine Confined.ite (fun _ => ?_) fun _ => ?_
      | with_reducible refine Confined.times ?_ _
      | with_reducible refine Confined.untilEmpty _ ?_
      | with_reducible exact Confined.get
      | with_reducible exact confined_ofOrdinal eof _
      | with_reducible refine confined_parseVariant eof fun _ => ?_
      | with_reducible exact Confined.parseWith eof (compilerVersion_decodes eof _)
      | with_reducible exact Confined.parseWith eof (compileFlags_decodes eof _)
      | with_reducible exact Confined.parseWith eof (frameProcedureFlags_decodes eof)
      | with_reducible refine Confined.throw ?_
      | split
      | dsimp only
      | simp only [parseU8, parseU16, parseU32, parseU64, parseI, parseLE, parseTypeIndex,
          parseIdIndex, parseSymbolIndex, parseRegister, parseCOMToken, parseSectionCharacteristics,
          parseSectionOffset, parseSourceLanguage, parseCPUType, parseOptionalIndex,
          parseSymbolName, parseOptionalName, parseModuleIndex, parseReference, parseU8PascalString,
          parseProcedureFlags, parseLocalVariableFlags, parseExportSymbolFlags,
          parseSeparatedCodeFlags, parseRangeFlags, parseAddressRange, parseAddressGap,
          MultiRegisterVariableSymbol.count, MultiRegisterVariableSymbol.register,
          DefRangeSymbol.fields, DefRangeSubFieldSymbol.fields, DefRangeRegisterSymbol.fields,
          DefRangeFramePointerRelativeSymbol.fields, DefRangeSubFieldRegisterSymbol.fields,
          DefRangeRegisterRelativeSymbol.fields, RegisterVariableSymbol.fields, LocalSymbol.fields,
          RegisterRelativeSymbol.fields, BasePointerRelativeSymbol.fields]
  case' constant => exact Or.inr (Or.inl ⟨rfl, _, rfl⟩)
  case' basePointerRelative => exact Or.inr (Or.inr ⟨rfl, rfl, ‹_›, ‹_›⟩)

end Dispatch

section Taxonomy

theorem Checked.eq_error_of_map {α β : Type} {f : α → β} {x : Checked α} {e : Error}
    (h : f <$> x = some (.error e)) : x = some (.error e) := by
  rcases x with _ | _ | a <;> cases h
  rfl

/-- The base-pointer-relative arm runs only under the three kinds it has a layout for. -/
theorem kinds_of_basePointerRelative {kind : SymbolKind}
    (h : symbolArm kind = some .basePointerRelative) :
    (kind = S_BPREL32 ∨ kind = S_BPREL32_ST) ∨ kind = S_BPREL32_16T := by
  obtain ⟨kinds, hmem, hk⟩ := symbolArm_eq_some h
  have hkinds : ∀ e ∈ symbolArms, e.1 = .basePointerRelative →
      e.2 = [S_BPREL32, S_BPREL32_ST, S_BPREL32_16T] := by decide
  rw [show kinds = _ from hkinds _ hmem rfl] at hk
  simpa [or_assoc] using hk

/-- Under the arm the dispatch picks, a decoder fails only on a short read or, for a constant, on
its numeric leaf. -/
theorem decodeArm_error_cases {kind : SymbolKind} {arm : SymbolArm} {b : ParseBuffer} {e : Error}
    (harm : symbolArm kind = some arm) (h : decodeArm kind b arm = some (.error e)) :
    e = .unexpectedEof ∨ (arm = .constant ∧ ∃ leaf, e = .unexpectedNumericPrefix leaf) := by
  rcases (decodeArm_returns kind b arm).1 e h with heof | hnum | ⟨rfl, -, hk, hk16⟩
  · exact Or.inl heof
  · exact Or.inr hnum
  · exact absurd (kinds_of_basePointerRelative harm) (by tauto)

/-- A record shorter than its kind fails as a short read. -/
theorem parse_of_length_lt_two {index : SymbolIndex} {data : List UInt8} (h : data.length < 2) :
    (Symbol.mk index data).parse = some (.error .unexpectedEof) := by
  match data, h with
  | [], _ => rfl
  | [_], _ => rfl

/-- What `Symbol::parse` fails with: a read past the end of the record, the numeric leaf of a
constant, or the kind itself when the dispatch does not list it; the last exactly when the record
holds a kind and the dispatch does not list it. It never fails with `SymbolTooShort`, and the
unimplemented kind that the base-pointer-relative decoder can raise never reaches it. -/
theorem parse_error_cases (s : Symbol) :
    (∀ e, s.parse = some (.error e) →
      e = .unexpectedEof ∨
        (symbolArm s.rawKind = some .constant ∧ ∃ leaf, e = .unexpectedNumericPrefix leaf) ∨
        (symbolArm s.rawKind = none ∧ e = .unimplementedSymbolKind s.rawKind)) ∧
    (s.parse = some (.error (.unimplementedSymbolKind s.rawKind)) ↔
      2 ≤ s.data.length ∧ symbolArm s.rawKind = none) := by
  obtain ⟨index, data⟩ := s
  by_cases hshort : data.length < 2
  · rw [parse_of_length_lt_two hshort]
    refine ⟨fun e he => ?_, fun he => ?_, fun h => absurd h.1 (by simpa using hshort)⟩
    · cases he; exact Or.inl rfl
    · cases he
  obtain _ | ⟨lo, _ | ⟨hi, payload⟩⟩ := data
  iterate 2 simp at hshort
  rw [show lo :: hi :: payload = u16Bytes (UInt16.ofNat (ofLE [lo, hi])) ++ payload by
    rw [u16Bytes_ofLE]; rfl] at hshort ⊢
  generalize UInt16.ofNat (ofLE [lo, hi]) = kind at hshort ⊢
  simp only [rawKind_u16Bytes, Nat.le_of_not_lt hshort, true_and]
  cases harm : symbolArm kind with
  | none =>
    rw [parse_of_no_arm harm]
    refine ⟨fun e he => ?_, iff_of_true rfl rfl⟩
    cases he; exact Or.inr (Or.inr ⟨rfl, rfl⟩)
  | some arm =>
    rw [parse_eq_decodeArm harm]
    have hcases {b : ParseBuffer} (e : Error)
        (he : Prod.fst <$> decodeArm kind b arm = some (.error e)) :=
      decodeArm_error_cases harm (Checked.eq_error_of_map he)
    refine ⟨fun e he => ?_, fun he => ?_, fun h => nomatch h⟩
    · rcases hcases e he with heof | ⟨rfl, hnum⟩
      · exact Or.inl heof
      · exact Or.inr (Or.inl ⟨rfl, hnum⟩)
    · rcases hcases _ he with heof | ⟨-, _, hnum⟩
      · cases heof
      · cases hnum

/-- An `S_CONSTANT` whose value has the unknown leaf `0xff80`. -/
example : (Symbol.mk ⟨0⟩ [0x07, 0x11, 0, 0, 0, 0, 0x80, 0xff]).parse =
    some (.error (.unexpectedNumericPrefix 0xff80)) := rfl

/-- `SymbolData::try_from_ctx` reports a size inside its slice and past the kind, so scroll's
`gread_with` never moves its offset past the bytes it was given. -/
theorem tryFromCtx_size_within {this : List UInt8} {v : SymbolData} {n : Nat}
    (h : SymbolData.tryFromCtx this = some (.ok (v, n))) : 2 ≤ n ∧ n ≤ this.length := by
  unfold SymbolData.tryFromCtx at h
  rcases hk : parseU16 (fromSlice this) with e | ⟨kind, b⟩ <;>
    simp only [hk, Checked.ofExcept_eq, Checked.error_bind, Checked.ok_bind] at h
  · cases h
  obtain ⟨h2, rfl⟩ := parseU16_ok hk
  cases harm : symbolArm kind with
  | none => simp only [harm, Checked.fail_eq, Checked.error_bind] at h; cases h
  | some arm =>
    simp only [harm] at h
    rcases hd : decodeArm kind _ arm with _ | e | ⟨v', b'⟩ <;> rw [hd] at h <;> cases h
    obtain ⟨-, hpos, hlen⟩ := (decodeArm_returns kind _ arm).2 v' b' hd
    simp only [fromSlice, advance, len] at h2 hpos hlen ⊢
    exact ⟨by omega, hlen (by omega)⟩

/-- The `S_OBJNAME` record of a CIL module: fourteen bytes, all consumed. -/
theorem tryFromCtx_size_within_objName :
    SymbolData.tryFromCtx [1, 17, 0, 0, 0, 0, 42, 32, 67, 73, 76, 32, 42, 0] =
        some (.ok (.objName ⟨0, "* CIL *"⟩, 14)) ∧ 2 ≤ 14 ∧ 14 ≤ 14 :=
  have h : SymbolData.tryFromCtx [1, 17, 0, 0, 0, 0, 42, 32, 67, 73, 76, 32, 42, 0] =
      some (.ok (.objName ⟨0, "* CIL *"⟩, 14)) := rfl
  ⟨h, tryFromCtx_size_within h⟩

end Taxonomy

end PdbSymbols
