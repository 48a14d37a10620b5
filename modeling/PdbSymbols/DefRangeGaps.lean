import PdbSymbols.SymbolData

set_option autoImplicit false

/-!
# Gap arrays

Six live-range decoders size their gap array from the payload length (`withGaps`). When the
payload holds the fixed fields, that count is exactly the number of whole four-byte groups after
them, so each decoder reads its layout. When it does not, the `usize` subtraction underflows,
and these six arms are the only place where decoding a record can panic in the build the model
follows, with debug assertions off.
-/

namespace PdbSymbols

open ParseBuffer

def GapLayout {β α : Type} (dec : List UInt8 → SymbolKind → Checked (α × Nat)) (header : Nat)
    (fields : Parse β) (mk : β → List AddressGap → α) : Prop :=
  ∀ p kind, header - 4 ≤ p.length →
    ∃ f, Parse.run (p.take (header - 4)) fields = .ok (f, header - 4) ∧
      dec p kind = pure (mk f (layoutGaps (p.drop (header - 4))),
        header - 4 + 4 * (layoutGaps (p.drop (header - 4))).length)

theorem gapLayout_of_withGaps {β α : Type} {dec : List UInt8 → SymbolKind → Checked (α × Nat)}
    {header : Nat} {fields : Parse β} {mk : β → List AddressGap → α}
    (hdec : ∀ p kind, dec p kind = withGaps p header fields mk) (hw : FixedWidth fields (header - 4))
    (hh : 4 ≤ header) : GapLayout dec header fields mk := fun p kind hl => by
  obtain ⟨f, hf⟩ := hw (p.take (header - 4)) (by simp; omega)
  refine ⟨f, by simpa [Nat.min_eq_left hl] using (hf []).run, ?_⟩
  rw [hdec, withGaps_eq p header fields mk hf hh hl, length_layoutGaps, List.length_drop,
    Nat.mul_comm]

theorem defRange_gaps_decode :
    GapLayout DefRangeSymbol.tryFromCtx 16 DefRangeSymbol.fields
        (fun (program, range) gaps => ⟨program, range, gaps⟩) ∧
      GapLayout DefRangeSubFieldSymbol.tryFromCtx 20 DefRangeSubFieldSymbol.fields
        (fun (program, parentOffset, range) gaps => ⟨program, parentOffset, range, gaps⟩) ∧
      GapLayout DefRangeRegisterSymbol.tryFromCtx 16 DefRangeRegisterSymbol.fields
        (fun (register, flags, range) gaps => ⟨register, flags, range, gaps⟩) ∧
      GapLayout DefRangeFramePointerRelativeSymbol.tryFromCtx 16
        DefRangeFramePointerRelativeSymbol.fields (fun (offset, range) gaps => ⟨offset, range, gaps⟩) ∧
      GapLayout DefRangeSubFieldRegisterSymbol.tryFromCtx 20 DefRangeSubFieldRegisterSymbol.fields
        (fun (register, flags, offset, range) gaps => ⟨register, flags, offset, range, gaps⟩) ∧
      GapLayout DefRangeRegisterRelativeSymbol.tryFromCtx 20 DefRangeRegisterRelativeSymbol.fields
        (fun (baseRegister, spilled, offsetParent, offsetBasePointer, range) gaps =>
          ⟨baseRegister, spilled, offsetParent, offsetBasePointer, range, gaps⟩) := by
  refine ⟨gapLayout_of_withGaps (fun _ _ => rfl) ?_ (by decide),
    gapLayout_of_withGaps (fun _ _ => rfl) ?_ (by decide),
    gapLayout_of_withGaps (fun _ _ => rfl) ?_ (by decide),
    gapLayout_of_withGaps (fun _ _ => rfl) ?_ (by decide),
    gapLayout_of_withGaps (fun _ _ => rfl) ?_ (by decide),
    gapLayout_of_withGaps (fun _ _ => rfl) ?_ (by decide)⟩
  · exact fixedWidth_parseU32.bind fun _ => fixedWidth_parseAddressRange.bind fun _ => FixedWidth.pure _
  · exact fixedWidth_parseU32.bind fun _ => fixedWidth_parseU32.bind fun _ =>
      fixedWidth_parseAddressRange.bind fun _ => FixedWidth.pure _
  · exact fixedWidth_parseRegister.bind fun _ => fixedWidth_parseRangeFlags.bind fun _ =>
      fixedWidth_parseAddressRange.bind fun _ => FixedWidth.pure _
  · exact fixedWidth_parseI_four.bind fun _ => fixedWidth_parseAddressRange.bind fun _ =>
      FixedWidth.pure _
  · exact fixedWidth_parseRegister.bind fun _ => fixedWidth_parseRangeFlags.bind fun _ =>
      fixedWidth_parseU32.bind fun _ => fixedWidth_parseAddressRange.bind fun _ => FixedWidth.pure _
  · exact fixedWidth_parseRegister.bind fun _ => fixedWidth_parseU16.bind fun _ =>
      fixedWidth_parseI_four.bind fun _ => fixedWidth_parseAddressRange.bind fun _ =>
        FixedWidth.pure _

theorem defRange_register_gaps_source_record :
    ∃ f, Parse.run [17, 0, 0, 0, 70, 40, 0, 0, 1, 0, 66, 0] DefRangeRegisterSymbol.fields =
        .ok (f, 12) ∧
      DefRangeRegisterSymbol.tryFromCtx [17, 0, 0, 0, 70, 40, 0, 0, 1, 0, 66, 0, 44, 0, 19, 0]
          S_DEFRANGE_REGISTER =
        pure (⟨f.1, f.2.1, f.2.2, layoutGaps [44, 0, 19, 0]⟩, 12 + 4 * (layoutGaps [44, 0, 19, 0]).length) :=
  defRange_gaps_decode.2.2.1 [17, 0, 0, 0, 70, 40, 0, 0, 1, 0, 66, 0, 44, 0, 19, 0]
    S_DEFRANGE_REGISTER (by decide)

/-- A one-byte `S_DEFRANGE` payload: `1 + 4 - 16` underflows. -/
theorem defRange_short_payload_panics : (Symbol.mk ⟨0⟩ [0x3f, 0x11, 0]).parse = none := rfl

end PdbSymbols
