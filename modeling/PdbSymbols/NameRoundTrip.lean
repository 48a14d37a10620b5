import Mathlib.Tactic.Ring
import PdbSymbols.FlagWords
import PdbSymbols.RecordStream
import PdbSymbols.RecordDecoding

set_option autoImplicit false

/-!
# Names as text, written and read back

A writer puts a name into a record as its UTF-8 bytes (`str::as_bytes`); `to_string()` reads
them back with `String::from_utf8_lossy`. The first section shows that the model of the chunk
loop (`nextChar`) undoes `String.utf8EncodeChar` character by character, so valid UTF-8 comes
back unchanged, and that no character but NUL encodes to a zero byte. The second composes this
with the record grammar and the dispatch: a stream written from user-defined types reads back,
through `SymbolTable::iter()`, `next()` and `parse()`, as those same values.
-/

namespace PdbSymbols

section Utf8

theorem uint32_toUInt8_toNat (x : UInt32) : x.toUInt8.toNat = x.toNat % 2 ^ 8 := rfl

theorem uint32_le_iff {a b : UInt32} : a ≤ b ↔ a.toNat ≤ b.toNat := Iff.rfl

theorem uint8_or_toNat (a b : UInt8) : (a ||| b).toNat = a.toNat ||| b.toNat := BitVec.toNat_or ..

/-- A byte of an encoded character: the low `j` bits of `x` under a tag whose low `j` bits are
clear. -/
theorem utf8Byte_toNat (x : UInt32) (m t : UInt8) {j : Nat} (hj : j ≤ 8) (hm : m.toNat = 2 ^ j - 1)
    (ht : t.toNat % 2 ^ j = 0) : (x.toUInt8 &&& m ||| t).toNat = t.toNat + x.toNat % 2 ^ j := by
  rw [uint8_or_toNat, UInt8.and_toNat, hm, Nat.and_pow_two_sub_one_eq_mod, uint32_toUInt8_toNat,
    Nat.mod_mod_of_dvd _ (Nat.pow_dvd_pow 2 hj), Nat.lor_comm]
  obtain ⟨k, hk⟩ := Nat.dvd_of_mod_eq_zero ht
  rw [hk, ← Nat.mul_add_lt_is_or (Nat.mod_lt _ (Nat.two_pow_pos j))]

theorem uint32_shiftRight_toNat (v s : UInt32) (hs : s.toNat < 32) :
    (v >>> s).toNat = v.toNat / 2 ^ s.toNat := by
  rw [uint32_toNat_shiftRight, Nat.mod_eq_of_lt hs, Nat.shiftRight_eq_div_pow]

/-- A continuation byte of an encoded character. -/
theorem utf8Cont_toNat (v s : UInt32) (hs : s.toNat < 32) :
    ((v >>> s).toUInt8 &&& 0x3f ||| 0x80).toNat = 128 + v.toNat / 2 ^ s.toNat % 64 := by
  rw [utf8Byte_toNat (v >>> s) 0x3f 0x80 (j := 6) (by omega) rfl rfl, uint32_shiftRight_toNat _ _ hs]
  rfl

theorem utf8Lead2_toNat (v : UInt32) :
    ((v >>> 6).toUInt8 &&& 0x1f ||| 0xc0).toNat = 192 + v.toNat / 64 % 32 := by
  rw [utf8Byte_toNat (v >>> 6) 0x1f 0xc0 (j := 5) (by omega) rfl rfl,
    uint32_shiftRight_toNat _ _ (by decide)]
  rfl

theorem utf8Lead3_toNat (v : UInt32) :
    ((v >>> 12).toUInt8 &&& 0x0f ||| 0xe0).toNat = 224 + v.toNat / 4096 % 16 := by
  rw [utf8Byte_toNat (v >>> 12) 0x0f 0xe0 (j := 4) (by omega) rfl rfl,
    uint32_shiftRight_toNat _ _ (by decide)]
  rfl

theorem utf8Lead4_toNat (v : UInt32) :
    ((v >>> 18).toUInt8 &&& 0x07 ||| 0xf0).toNat = 240 + v.toNat / 262144 % 8 := by
  rw [utf8Byte_toNat (v >>> 18) 0x07 0xf0 (j := 3) (by omega) rfl rfl,
    uint32_shiftRight_toNat _ _ (by decide)]
  rfl

theorem utf8Cont6_toNat (v : UInt32) :
    ((v >>> 6).toUInt8 &&& 0x3f ||| 0x80).toNat = 128 + v.toNat / 64 % 64 :=
  utf8Cont_toNat v 6 (by decide)

theorem utf8Cont12_toNat (v : UInt32) :
    ((v >>> 12).toUInt8 &&& 0x3f ||| 0x80).toNat = 128 + v.toNat / 4096 % 64 :=
  utf8Cont_toNat v 12 (by decide)

theorem utf8Low_toNat (v : UInt32) : (v.toUInt8 &&& 0x3f ||| 0x80).toNat = 128 + v.toNat % 64 :=
  utf8Byte_toNat v 0x3f 0x80 (j := 6) (by omega) rfl rfl

/-- A tag whose low bits are clear, over a field below them: the field comes back. -/
theorem tag_mod {c y m : Nat} (hc : c % m = 0) (hy : y < m) : (c + y) % m = y := by
  rw [Nat.add_mod, hc, Nat.zero_add, Nat.mod_mod, Nat.mod_eq_of_lt hy]

/-- The code point comes back from its two, three or four encoded bytes. -/
theorem utf8_two_decode (n : Nat) (h : n < 2048) :
    (192 + n / 64 % 32) % 32 * 64 + (128 + n % 64) % 64 = n := by
  rw [tag_mod (c := 192) rfl (Nat.mod_lt _ (by norm_num)),
    tag_mod (c := 128) rfl (Nat.mod_lt _ (by norm_num)), Nat.mod_eq_of_lt (by omega : n / 64 < 32)]
  exact Nat.div_add_mod' n 64

theorem utf8_three_decode (n : Nat) (h : n < 65536) :
    (224 + n / 4096 % 16) % 16 * 4096 + (128 + n / 64 % 64) % 64 * 64 + (128 + n % 64) % 64 = n := by
  rw [tag_mod (c := 224) rfl (Nat.mod_lt _ (by norm_num)),
    tag_mod (c := 128) rfl (Nat.mod_lt _ (by norm_num)),
    tag_mod (c := 128) rfl (Nat.mod_lt _ (by norm_num)),
    Nat.mod_eq_of_lt (by omega : n / 4096 < 16)]
  have h2 := Nat.mod_add_div (n / 64) 64
  simp only [Nat.div_div_eq_div_mul, Nat.reduceMul] at h2
  conv_rhs => rw [← Nat.mod_add_div n 64, ← h2]
  ring

theorem utf8_four_decode (n : Nat) (h : n < 2097152) :
    (240 + n / 262144 % 8) % 8 * 262144 + (128 + n / 4096 % 64) % 64 * 4096 +
      (128 + n / 64 % 64) % 64 * 64 + (128 + n % 64) % 64 = n := by
  rw [tag_mod (c := 240) rfl (Nat.mod_lt _ (by norm_num)),
    tag_mod (c := 128) rfl (Nat.mod_lt _ (by norm_num)),
    tag_mod (c := 128) rfl (Nat.mod_lt _ (by norm_num)),
    tag_mod (c := 128) rfl (Nat.mod_lt _ (by norm_num)),
    Nat.mod_eq_of_lt (by omega : n / 262144 < 8)]
  have h2 := Nat.mod_add_div (n / 64) 64
  have h3 := Nat.mod_add_div (n / 4096) 64
  simp only [Nat.div_div_eq_div_mul, Nat.reduceMul] at h2 h3
  conv_rhs => rw [← Nat.mod_add_div n 64, ← h2, ← h3]
  ring

theorem nextChar_utf8EncodeChar (c : Char) (rest : List UInt8) :
    nextChar (String.utf8EncodeChar c ++ rest) = some (c, rest) := by
  obtain ⟨v, hvalid⟩ := c
  have hc : Char.ofNat v.toNat = ⟨v, hvalid⟩ := Char.ofNat_toNat ⟨v, hvalid⟩
  have hlow : isCont (v.toUInt8 &&& 0x3f ||| 0x80) = true := by
    rw [isCont_iff, utf8Low_toNat]; omega
  simp only [String.utf8EncodeChar, uint32_le_iff, UInt32.reduceToNat]
  split_ifs with h1 h2 h3
  · have hb : v.toUInt8.toNat = v.toNat := by rw [uint32_toUInt8_toNat]; omega
    rw [List.singleton_append, nextChar_one (by omega), hb, hc]
  · rw [List.cons_append, List.cons_append, List.nil_append,
      nextChar_two (by rw [utf8Lead2_toNat]; omega) hlow, utf8Lead2_toNat, utf8Low_toNat,
      utf8_two_decode _ (by omega), hc]
  · have hc3 : second3 ((v >>> 12).toUInt8 &&& 0x0f ||| 0xe0)
        ((v >>> 6).toUInt8 &&& 0x3f ||| 0x80) := by
      have hv : v.toNat < 0xd800 ∨ 0xdfff < v.toNat := hvalid.imp_right And.left
      simp only [second3, isCont, Bool.or_eq_true, Bool.and_eq_true, decide_eq_true_eq,
        uint8_le_iff, uint8_eq_iff, utf8Lead3_toNat, utf8Cont6_toNat,
        UInt8.reduceToNat]
      omega
    rw [List.cons_append, List.cons_append, List.cons_append, List.nil_append,
      nextChar_three (by rw [utf8Lead3_toNat]; omega) hc3 hlow, utf8Lead3_toNat,
      utf8Cont6_toNat, utf8Low_toNat, utf8_three_decode _ (by omega), hc]
  · have hc4 : second4 ((v >>> 18).toUInt8 &&& 0x07 ||| 0xf0)
        ((v >>> 12).toUInt8 &&& 0x3f ||| 0x80) := by
      have hv : v.toNat < 0x110000 := hvalid.elim (fun h => by omega) And.right
      simp only [second4, isCont, Bool.or_eq_true, Bool.and_eq_true, decide_eq_true_eq,
        uint8_le_iff, uint8_eq_iff, utf8Lead4_toNat, utf8Cont12_toNat,
        UInt8.reduceToNat]
      omega
    rw [List.cons_append, List.cons_append, List.cons_append, List.cons_append, List.nil_append,
      nextChar_four (by rw [utf8Lead4_toNat]; omega) hc4 (by rw [isCont_iff, utf8Cont6_toNat]; omega) hlow,
      utf8Lead4_toNat, utf8Cont12_toNat, utf8Cont6_toNat,
      utf8Low_toNat, utf8_four_decode _ (hvalid.elim (fun h => by omega) fun h => by omega), hc]


/-- The chunk loop reads back every string's UTF-8 bytes, one character a step, when its fuel
covers the bytes. -/
theorem utf8LossyAux_flatMap (cs : List Char) (fuel : Nat)
    (hf : (cs.flatMap String.utf8EncodeChar).length ≤ fuel) :
    utf8LossyAux fuel (cs.flatMap String.utf8EncodeChar) = cs := by
  induction cs generalizing fuel with
  | nil => cases fuel <;> rfl
  | cons c cs ih =>
    have hc := String.length_utf8EncodeChar c ▸ Char.utf8Size_pos c
    rw [List.flatMap_cons, List.length_append] at hf
    obtain ⟨fuel, rfl⟩ : ∃ k, fuel = k + 1 := ⟨fuel - 1, by omega⟩
    simp only [List.flatMap_cons, utf8LossyAux, nextChar_utf8EncodeChar, ih fuel (by omega)]

/-- `to_string()` gives back every string from its UTF-8 bytes: `from_utf8_lossy` replaces
nothing in valid UTF-8. -/
theorem toString_toUTF8 (s : String) : (RawString.mk s.toUTF8.data.toList).toString = s :=
  congrArg String.mk (utf8LossyAux_flatMap s.data _ le_rfl)

theorem length_toUTF8 (s : String) : s.toUTF8.data.toList.length = s.utf8ByteSize := by
  rw [Array.length_toList, ← String.size_toUTF8]
  rfl

/-- Only NUL encodes to a zero byte: every byte of a longer sequence has its top bit set. -/
theorem eq_nul_of_zero_mem_utf8EncodeChar {c : Char} (h : (0 : UInt8) ∈ String.utf8EncodeChar c) :
    c = '\x00' := by
  obtain ⟨v, hvalid⟩ := c
  simp only [String.utf8EncodeChar, uint32_le_iff, UInt32.reduceToNat] at h
  split_ifs at h
  · rw [List.mem_singleton, uint8_eq_iff, uint32_toUInt8_toNat] at h
    exact Char.ext (UInt32.toNat.inj (show v.toNat = 0 by simp only [UInt8.toNat_zero] at h; omega))
  all_goals
    simp only [List.mem_cons, List.mem_singleton, List.not_mem_nil, or_false, uint8_eq_iff,
      UInt8.toNat_zero, utf8Lead2_toNat, utf8Lead3_toNat, utf8Lead4_toNat, utf8Cont6_toNat,
      utf8Cont12_toNat, utf8Low_toNat] at h
    omega

theorem zero_not_mem_toUTF8 {s : String} (h : '\x00' ∉ s.data) : 0 ∉ s.toUTF8.data.toList := by
  intro h0
  obtain ⟨c, hc, hz⟩ := List.mem_flatMap.mp h0
  exact h (eq_nul_of_zero_mem_utf8EncodeChar hz ▸ hc)

end Utf8

section Written

open ParseBuffer SymbolIter

/-- What a reader of a whole stream sees: every symbol `iter()` yields, each `parse()`d, and how
the iteration stopped. -/
def readAll (stream : List UInt8) : List (Checked SymbolData) × Option Ending :=
  let r := drain (stream.length + 1) (SymbolTable.mk stream).iter
  (r.1.map Symbol.parse, r.2)

theorem layoutRecords_map_snd (offset : Nat) (bodies : List (List UInt8)) :
    (layoutRecords offset bodies).map Prod.snd = bodies := by
  induction bodies generalizing offset with
  | nil => rfl
  | cons b bs ih => exact congrArg (b :: ·) (ih _)

theorem visible_layoutRecords {offset : Nat} {bodies : List (List UInt8)}
    (h : ∀ b ∈ bodies, isPadding b = false) :
    visible (layoutRecords offset bodies) = layoutRecords offset bodies :=
  List.filter_eq_self.mpr fun r hr => by
    rw [h r.2 (layoutRecords_map_snd offset bodies ▸ List.mem_map_of_mem Prod.snd hr)]
    rfl

/-- A stream written from record bodies that fit their length prefix and are not padding reads
back as one symbol per body, in order, each parsing as its body does, and then ends cleanly. -/
theorem readAll_written (bodies : List (List UInt8))
    (hb : ∀ b ∈ bodies, 2 ≤ b.length ∧ b.length < 2 ^ 16) (hp : ∀ b ∈ bodies, isPadding b = false) :
    readAll (bodies.flatMap encodeRecord) =
      (bodies.map fun b => (Symbol.mk ⟨0⟩ b).parse, some .exhausted) := by
  rw [readAll, SymbolTable.iter, drain_eq _ _ _ (by simp [len, fromSlice]), rest_fromSlice,
    pos_fromSlice, splitRecords_encodeRecord bodies hb, visible_layoutRecords hp, List.map_map]
  conv_rhs => rw [← layoutRecords_map_snd 0 bodies, List.map_map]
  rfl

/-- A record whose kind the dispatch knows is not padding. -/
theorem isPadding_of_symbolArm {kind : SymbolKind} {arm : SymbolArm} (h : symbolArm kind = some arm)
    (payload : List UInt8) : isPadding (u16Bytes kind ++ payload) = false := by
  have hk : recordKind (u16Bytes kind ++ payload) = kind := by
    rw [recordKind, List.take_left' (length_u16Bytes kind), ofLE_u16Bytes]
  have hpad : symbolArm S_ALIGN = none ∧ symbolArm S_SKIP = none := by decide
  simp only [isPadding, hk, decide_eq_false_iff_not]
  rintro (rfl | rfl) <;> simp [hpad] at h

/-- A user-defined type as a writer lays out its record body: the kind, the type index, and
the name's UTF-8 bytes in the kind's name encoding. -/
def udtBody (kind : SymbolKind) (u : UserDefinedTypeSymbol) : List UInt8 :=
  u16Bytes kind ++ (u32Bytes u.typeIndex.val ++ encodeName kind u.name.toUTF8.data.toList)

/-- The names a record of the kind can carry: by the length byte below `S_ST_MAX`, free of NUL
from it on, and short enough that the body fits its `u16` length. -/
def TextFits (kind : SymbolKind) (name : String) : Prop :=
  (if kind < S_ST_MAX then name.utf8ByteSize < 256 else '\x00' ∉ name.data) ∧
    name.utf8ByteSize + 7 < 2 ^ 16

instance (kind : SymbolKind) (name : String) : Decidable (TextFits kind name) :=
  inferInstanceAs (Decidable ((if kind < S_ST_MAX then _ else _) ∧ _))

theorem nameFits_of_textFits {kind : SymbolKind} {name : String} (h : TextFits kind name) :
    NameFits kind name.toUTF8.data.toList := by
  obtain ⟨h, -⟩ := h
  unfold NameFits
  split_ifs at h ⊢
  · exact length_toUTF8 name ▸ h
  · exact zero_not_mem_toUTF8 h

theorem length_udtBody (kind : SymbolKind) (u : UserDefinedTypeSymbol) :
    (udtBody kind u).length = u.name.utf8ByteSize + 7 := by
  unfold udtBody encodeName
  split_ifs <;> simp [length_toUTF8] <;> omega

/-- A user-defined type written with a name its kind can carry parses back to itself, name text
included. -/
theorem parse_udtBody {kind : SymbolKind} (harm : symbolArm kind = some .userDefinedType)
    {u : UserDefinedTypeSymbol} (hn : TextFits kind u.name) (index : SymbolIndex) :
    (Symbol.mk index (udtBody kind u)).parse = some (.ok (.userDefinedType u)) := by
  obtain ⟨⟨t⟩, name⟩ := u
  have h : (Symbol.mk index (udtBody kind ⟨⟨t⟩, name⟩)).parse =
      some (.ok (.userDefinedType ⟨⟨t⟩, (RawString.mk name.toUTF8.data.toList).toString⟩)) :=
    parse_of_reads_all harm (fun _ => rfl) index (payload_ne_nil_of_u32Bytes _ _)
      ((reads_parseTypeIndex t _).bind (reads_parseSymbolName [] kind (nameFits_of_textFits hn)).bind_pure)
  rwa [toString_toUTF8] at h

/-- A symbol stream written from user-defined types, one record each. -/
def writeUdts (udts : List (SymbolKind × UserDefinedTypeSymbol)) : List UInt8 :=
  (udts.map fun u => udtBody u.1 u.2).flatMap encodeRecord

theorem udt_stream_round_trip (udts : List (SymbolKind × UserDefinedTypeSymbol))
    (h : ∀ u ∈ udts, symbolArm u.1 = some .userDefinedType ∧ TextFits u.1 u.2.name) :
    readAll (writeUdts udts) = (udts.map fun u => some (.ok (.userDefinedType u.2)), some .exhausted) := by
  have hbodies : ∀ b ∈ udts.map (fun u => udtBody u.1 u.2),
      (2 ≤ b.length ∧ b.length < 2 ^ 16) ∧ isPadding b = false := by
    simp only [List.mem_map]
    rintro _ ⟨u, hu, rfl⟩
    have := (h u hu).2.2
    exact ⟨by rw [length_udtBody]; omega, isPadding_of_symbolArm (h u hu).1 _⟩
  rw [writeUdts, readAll_written _ (fun b hb => (hbodies b hb).1) (fun b hb => (hbodies b hb).2),
    List.map_map]
  exact congrArg (·, _) (List.map_congr_left fun u hu => parse_udtBody (h u hu).1 (h u hu).2 _)

theorem udt_stream_round_trip_two :
    (∀ u ∈ ([(S_UDT, ⟨⟨0x1000⟩, "Foo"⟩), (S_UDT_ST, ⟨⟨0x1001⟩, "é"⟩)] :
        List (SymbolKind × UserDefinedTypeSymbol)),
        symbolArm u.1 = some .userDefinedType ∧ TextFits u.1 u.2.name) ∧
      readAll (writeUdts [(S_UDT, ⟨⟨0x1000⟩, "Foo"⟩), (S_UDT_ST, ⟨⟨0x1001⟩, "é"⟩)]) =
        ([some (.ok (.userDefinedType ⟨⟨0x1000⟩, "Foo"⟩)),
          some (.ok (.userDefinedType ⟨⟨0x1001⟩, "é"⟩))], some .exhausted) :=
  ⟨by decide, udt_stream_round_trip _ (by decide)⟩

end Written

end PdbSymbols
