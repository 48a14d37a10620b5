import PdbSymbols.NamedRecords

set_option autoImplicit false

/-!
# Live-range records

Six of the seven `S_DEFRANGE*` decoders end in an array of address gaps with no count field:
they compute the count from the payload length and the size of the wire header before reading
anything, `(buf.len() + 4 - header) / 4`. `withGaps` is that shared code, with the header size
and the fixed fields as parameters. The subtraction is on `usize`, so the result is `Checked`.
-/

namespace PdbSymbols

open ParseBuffer

structure AddressRange where
  offset : PdbInternalSectionOffset
  cbRange : UInt16
  deriving DecidableEq

def parseAddressRange : Parse AddressRange := do
  let offset ← parseSectionOffset
  let cbRange ← parseU16
  pure ⟨offset, cbRange⟩

structure AddressGap where
  gapStartOffset : UInt16
  cbRange : UInt16
  deriving DecidableEq

def parseAddressGap : Parse AddressGap := do
  let gapStartOffset ← parseU16
  let cbRange ← parseU16
  pure ⟨gapStartOffset, cbRange⟩

structure RangeFlags where
  maybe : Bool
  deriving DecidableEq

def parseRangeFlags : Parse RangeFlags := do
  let value ← parseU16
  pure ⟨value &&& 0x01 != 0⟩

/-- `let gap_count = (buf.len() + 4 - header) / 4;`, then the fixed fields, then
`for _ in 0..gap_count { symbol.gaps.push(buf.parse()?); }`. -/
def withGaps {β α : Type} (this : List UInt8) (header : Nat) (fields : Parse β)
    (mk : β → List AddressGap → α) : Checked (α × Nat) := do
  let gapCount := (← Checked.usizeSub (this.length + 4) header) / 4
  Checked.ofExcept <| Parse.run this do
    let f ← fields
    let gaps ← times gapCount parseAddressGap
    pure (mk f gaps)

theorem fixedWidth_parseSectionOffset : FixedWidth parseSectionOffset 6 :=
  fixedWidth_parseU32.bind fun _ => fixedWidth_parseU16.bind fun _ => FixedWidth.pure _

theorem fixedWidth_parseAddressRange : FixedWidth parseAddressRange 8 :=
  fixedWidth_parseSectionOffset.bind fun _ => fixedWidth_parseU16.bind fun _ => FixedWidth.pure _

theorem fixedWidth_parseRegister : FixedWidth parseRegister 2 := fixedWidth_parseU16.map _

theorem fixedWidth_parseRangeFlags : FixedWidth parseRangeFlags 2 :=
  fixedWidth_parseU16.bind fun _ => FixedWidth.pure _

/-- The gaps the layout puts after the fixed fields: one for each whole four bytes, a
little-endian `u16` start offset and then a `u16` length. -/
def layoutGaps : List UInt8 → List AddressGap
  | a :: b :: c :: d :: rest =>
    ⟨UInt16.ofNat (ofLE [a, b]), UInt16.ofNat (ofLE [c, d])⟩ :: layoutGaps rest
  | _ => []

theorem length_layoutGaps (bytes : List UInt8) : (layoutGaps bytes).length = bytes.length / 4 := by
  match bytes with
  | a :: b :: c :: d :: rest => simp [layoutGaps, length_layoutGaps rest]; omega
  | [] | [_] | [_, _] | [_, _, _] => simp [layoutGaps]

theorem reads_parseAddressGap (a b c d : UInt8) (ys : List UInt8) :
    Reads parseAddressGap [a, b, c, d] ys
      ⟨UInt16.ofNat (ofLE [a, b]), UInt16.ofNat (ofLE [c, d])⟩ :=
  (reads_parseU16 _ (rfl : [a, b].length = 2)).bind
    ((reads_parseU16 _ (rfl : [c, d].length = 2)).bind (Reads.pure ys _))

theorem reads_times_layoutGaps (bytes : List UInt8) :
    Reads (times (bytes.length / 4) parseAddressGap) (bytes.take (bytes.length / 4 * 4))
      (bytes.drop (bytes.length / 4 * 4)) (layoutGaps bytes) := by
  match bytes with
  | a :: b :: c :: d :: rest =>
    have ih := reads_times_layoutGaps rest
    have hl : (a :: b :: c :: d :: rest).length / 4 = rest.length / 4 + 1 := by simp; omega
    rw [hl, layoutGaps]
    have := (reads_parseAddressGap a b c d _).bind (f := fun g => do
      let gs ← times (rest.length / 4) parseAddressGap
      pure (g :: gs)) (ih.bind (Reads.pure _ _))
    simpa [times, Nat.add_mul] using this
  | [] => simpa [times, layoutGaps] using Reads.pure [] ([] : List AddressGap)
  | [a] => simpa [times, layoutGaps] using Reads.pure [a] ([] : List AddressGap)
  | [a, b] => simpa [times, layoutGaps] using Reads.pure [a, b] ([] : List AddressGap)
  | [a, b, c] => simpa [times, layoutGaps] using Reads.pure [a, b, c] ([] : List AddressGap)

/-- Once the payload holds the fixed fields, the gap count is the number of whole four-byte
groups after them, and the decoder reads exactly those groups. -/
theorem withGaps_eq {β α : Type} (this : List UInt8) (header : Nat) (fields : Parse β)
    (mk : β → List AddressGap → α) {f : β} (hf : ∀ ys, Reads fields (this.take (header - 4)) ys f)
    (hh : 4 ≤ header) (hl : header - 4 ≤ this.length) :
    withGaps this header fields mk =
      pure (mk f (layoutGaps (this.drop (header - 4))),
        header - 4 + (this.length - (header - 4)) / 4 * 4) := by
  have hcount : (this.length + 4 - header) / 4 = (this.drop (header - 4)).length / 4 := by
    simp only [List.length_drop]; congr 1; omega
  have hg := (reads_times_layoutGaps (this.drop (header - 4))).bind
    (f := fun gaps => (Pure.pure (mk f gaps) : Parse α)) (Reads.pure _ _)
  have hr := (hf _).bind (f := fun a => do
    let gaps ← times ((this.drop (header - 4)).length / 4) parseAddressGap
    pure (mk a gaps)) hg
  have hrun := Reads.run hr
  rw [List.append_nil, List.append_assoc, List.take_append_drop, List.take_append_drop] at hrun
  simp only [withGaps, Checked.usizeSub, if_pos (by omega : header ≤ this.length + 4),
    Checked.pure_eq, Checked.ok_bind, hcount, Checked.ofExcept_eq, hrun]
  simp only [List.length_append, List.length_take, List.length_drop]
  congr 3
  omega

structure DefRangeSymbol where
  program : UInt32
  range : AddressRange
  gaps : List AddressGap
  deriving DecidableEq

/-- The fixed fields of `S_DEFRANGE`. -/
def DefRangeSymbol.fields : Parse (UInt32 × AddressRange) := do
  let program ← parseU32
  let range ← parseAddressRange
  pure (program, range)

def DefRangeSymbol.tryFromCtx (this : List UInt8) (_kind : SymbolKind) :
    Checked (DefRangeSymbol × Nat) :=
  withGaps this 16 DefRangeSymbol.fields fun (program, range) gaps => ⟨program, range, gaps⟩

structure DefRangeSubFieldSymbol where
  program : UInt32
  parentOffset : UInt32
  range : AddressRange
  gaps : List AddressGap
  deriving DecidableEq

/-- The fixed fields of `S_DEFRANGE_SUBFIELD`. -/
def DefRangeSubFieldSymbol.fields : Parse (UInt32 × UInt32 × AddressRange) := do
  let program ← parseU32
  let parentOffset ← parseU32
  let range ← parseAddressRange
  pure (program, parentOffset, range)

def DefRangeSubFieldSymbol.tryFromCtx (this : List UInt8) (_kind : SymbolKind) :
    Checked (DefRangeSubFieldSymbol × Nat) :=
  withGaps this 20 DefRangeSubFieldSymbol.fields
    fun (program, parentOffset, range) gaps => ⟨program, parentOffset, range, gaps⟩

structure DefRangeRegisterSymbol where
  register : Register
  flags : RangeFlags
  range : AddressRange
  gaps : List AddressGap
  deriving DecidableEq

/-- The fixed fields of `S_DEFRANGE_REGISTER`. -/
def DefRangeRegisterSymbol.fields : Parse (Register × RangeFlags × AddressRange) := do
  let register ← parseRegister
  let flags ← parseRangeFlags
  let range ← parseAddressRange
  pure (register, flags, range)

def DefRangeRegisterSymbol.tryFromCtx (this : List UInt8) (_kind : SymbolKind) :
    Checked (DefRangeRegisterSymbol × Nat) :=
  withGaps this 16 DefRangeRegisterSymbol.fields
    fun (register, flags, range) gaps => ⟨register, flags, range, gaps⟩

structure DefRangeFramePointerRelativeSymbol where
  offset : BitVec 32
  range : AddressRange
  gaps : List AddressGap
  deriving DecidableEq

/-- The fixed fields of `S_DEFRANGE_FRAMEPOINTER_REL`. -/
def DefRangeFramePointerRelativeSymbol.fields : Parse (BitVec 32 × AddressRange) := do
  let offset ← parseI 4
  let range ← parseAddressRange
  pure (offset, range)

def DefRangeFramePointerRelativeSymbol.tryFromCtx (this : List UInt8) (_kind : SymbolKind) :
    Checked (DefRangeFramePointerRelativeSymbol × Nat) :=
  withGaps this 16 DefRangeFramePointerRelativeSymbol.fields
    fun (offset, range) gaps => ⟨offset, range, gaps⟩

structure DefRangeFramePointerRelativeFullScopeSymbol where
  offset : BitVec 32
  deriving DecidableEq

def DefRangeFramePointerRelativeFullScopeSymbol.tryFromCtx (this : List UInt8)
    (_kind : SymbolKind) : Except Error (DefRangeFramePointerRelativeFullScopeSymbol × Nat) :=
  Parse.run this (DefRangeFramePointerRelativeFullScopeSymbol.mk <$> parseI 4)

structure DefRangeSubFieldRegisterSymbol where
  register : Register
  flags : RangeFlags
  offset : UInt32
  range : AddressRange
  gaps : List AddressGap
  deriving DecidableEq

/-- The fixed fields of `S_DEFRANGE_SUBFIELD_REGISTER`: only the low 12 bits of the parent
offset are kept. -/
def DefRangeSubFieldRegisterSymbol.fields :
    Parse (Register × RangeFlags × UInt32 × AddressRange) := do
  let register ← parseRegister
  let flags ← parseRangeFlags
  let offsetPadding ← parseU32
  let range ← parseAddressRange
  pure (register, flags, offsetPadding &&& 0xFFF, range)

def DefRangeSubFieldRegisterSymbol.tryFromCtx (this : List UInt8) (_kind : SymbolKind) :
    Checked (DefRangeSubFieldRegisterSymbol × Nat) :=
  withGaps this 20 DefRangeSubFieldRegisterSymbol.fields
    fun (register, flags, offset, range) gaps => ⟨register, flags, offset, range, gaps⟩

structure DefRangeRegisterRelativeSymbol where
  baseRegister : Register
  spilledUdtMember : UInt16
  offsetParent : UInt16
  offsetBasePointer : BitVec 32
  range : AddressRange
  gaps : List AddressGap
  deriving DecidableEq

/-- The fixed fields of `S_DEFRANGE_REGISTER_REL`, with the bit field split. -/
def DefRangeRegisterRelativeSymbol.fields :
    Parse (Register × UInt16 × UInt16 × BitVec 32 × AddressRange) := do
  let baseRegister ← parseRegister
  let bitfield ← parseU16
  let offsetBasePointer ← parseI 4
  let range ← parseAddressRange
  pure (baseRegister, bitfield &&& 0x1, (bitfield >>> 4) &&& 0xFFF, offsetBasePointer, range)

def DefRangeRegisterRelativeSymbol.tryFromCtx (this : List UInt8) (_kind : SymbolKind) :
    Checked (DefRangeRegisterRelativeSymbol × Nat) :=
  withGaps this 20 DefRangeRegisterRelativeSymbol.fields
    fun (baseRegister, spilled, offsetParent, offsetBasePointer, range) gaps =>
      ⟨baseRegister, spilled, offsetParent, offsetBasePointer, range, gaps⟩

end PdbSymbols
