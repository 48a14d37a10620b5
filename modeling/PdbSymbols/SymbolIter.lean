import PdbSymbols.SymbolData

set_option autoImplicit false

/-!
# The symbol stream iterator

`SymbolIter::next` walks the stream record by record (§4.4): a length, then that many bytes, and
padding records are skipped. `nextSymbol` is its loop on the iterator's cursor; `SymbolIter`
keeps the cursor within its buffer, which `seek` clamps and every read checks.
-/

namespace PdbSymbols

open ParseBuffer

def nextSymbol (buf : ParseBuffer) : Except Error (Option Symbol) × ParseBuffer :=
  if buf.isEmpty then (.ok none, buf)
  else
    let index : SymbolIndex := ⟨UInt32.ofNat buf.pos⟩
    match _h1 : parseU16 buf with
    | .error e => (.error e, buf)
    | .ok (symbolLength, buf1) =>
      if symbolLength.toNat < 2 then (.error .symbolTooShort, buf1)
      else match _h2 : take symbolLength.toNat buf1 with
        | .error e => (.error e, buf1)
        | .ok (data, buf2) =>
          let symbol : Symbol := ⟨index, data⟩
          if symbol.rawKind = S_ALIGN ∨ symbol.rawKind = S_SKIP then nextSymbol buf2
          else (.ok (some symbol), buf2)
termination_by buf.len
decreasing_by
  obtain ⟨h2le, rfl⟩ := parseU16_ok _h1
  obtain ⟨-, -, rfl⟩ := take_ok _h2
  simp only [len_advance]
  omega

/-- The kind of a record body, the `u16` in its first two bytes. -/
def recordKind (body : List UInt8) : SymbolKind := UInt16.ofNat (ofLE (body.take 2))

def isPadding (body : List UInt8) : Bool := recordKind body = S_ALIGN ∨ recordKind body = S_SKIP

theorem rawKind_eq_recordKind (index : SymbolIndex) {body : List UInt8} (h : 2 ≤ body.length) :
    (Symbol.mk index body).rawKind = recordKind body := by
  obtain ⟨lo, hi, t, rfl⟩ : ∃ lo hi t, body = lo :: hi :: t := by
    match body, h with
    | lo :: hi :: t, _ => exact ⟨lo, hi, t, rfl⟩
  have := reads_parseU16 t (rfl : [lo, hi].length = 2) (fromSlice (lo :: hi :: t)) rfl
  simp [Symbol.rawKind, recordKind, this]

theorem nextSymbol_of_rest_nil {buf : ParseBuffer} (h : buf.rest = []) :
    nextSymbol buf = (.ok none, buf) := by
  rw [nextSymbol, if_pos (by simp [isEmpty, len_eq, h])]

theorem nextSymbol_of_rest_single {buf : ParseBuffer} {x : UInt8} (h : buf.rest = [x]) :
    nextSymbol buf = (.error .unexpectedEof, buf) := by
  have h1 : parseU16 buf = .error .unexpectedEof := by
    simp [parseU16, parseLE, map_apply, take, len_eq, h]
  rw [nextSymbol, if_neg (by simp [isEmpty, len_eq, h])]
  split <;> simp_all

/-- The length field of a record at the cursor. -/
theorem parseU16_of_rest {buf : ParseBuffer} {lo hi : UInt8} {t : List UInt8}
    (h : buf.rest = lo :: hi :: t) :
    parseU16 buf = .ok (UInt16.ofNat (ofLE [lo, hi]), buf.advance 2) :=
  reads_parseU16 t (rfl : [lo, hi].length = 2) buf h

theorem toNat_length {lo hi : UInt8} : (UInt16.ofNat (ofLE [lo, hi])).toNat = ofLE [lo, hi] :=
  UInt16.toNat_ofNat_of_lt (ofLE_pair_lt lo hi)

theorem nextSymbol_of_short {buf : ParseBuffer} {lo hi : UInt8} {t : List UInt8}
    (h : buf.rest = lo :: hi :: t) (hn : ofLE [lo, hi] < 2) :
    nextSymbol buf = (.error .symbolTooShort, buf.advance 2) := by
  have h1 := parseU16_of_rest h
  rw [nextSymbol, if_neg (by simp [isEmpty, len_eq, h])]
  split
  · simp_all
  · rename_i n buf1 heq
    rw [h1] at heq
    cases heq
    rw [if_pos (by rw [toNat_length]; exact hn)]

theorem nextSymbol_of_past_end {buf : ParseBuffer} {lo hi : UInt8} {t : List UInt8}
    (h : buf.rest = lo :: hi :: t) (hn : 2 ≤ ofLE [lo, hi]) (ht : t.length < ofLE [lo, hi]) :
    nextSymbol buf = (.error .unexpectedEof, buf.advance 2) := by
  have h1 := parseU16_of_rest h
  have h2 : take (ofLE [lo, hi]) (buf.advance 2) = .error .unexpectedEof := by
    simp [take, len_eq, h]; omega
  rw [nextSymbol, if_neg (by simp [isEmpty, len_eq, h])]
  split
  · simp_all
  · rename_i n buf1 heq
    rw [h1] at heq
    cases heq
    rw [if_neg (by rw [toNat_length]; omega)]
    split
    · simp_all [toNat_length]
    · simp_all [toNat_length]

theorem nextSymbol_of_record {buf : ParseBuffer} {lo hi : UInt8} {t : List UInt8}
    (h : buf.rest = lo :: hi :: t) (hn : 2 ≤ ofLE [lo, hi]) (ht : ofLE [lo, hi] ≤ t.length) :
    nextSymbol buf =
      if isPadding (t.take (ofLE [lo, hi])) then nextSymbol (buf.advance (2 + ofLE [lo, hi]))
      else (.ok (some ⟨⟨UInt32.ofNat buf.pos⟩, t.take (ofLE [lo, hi])⟩),
        buf.advance (2 + ofLE [lo, hi])) := by
  have h1 := parseU16_of_rest h
  have h2 : take (ofLE [lo, hi]) (buf.advance 2) =
      .ok (t.take (ofLE [lo, hi]), buf.advance (2 + ofLE [lo, hi])) := by
    simp [take, len_eq, h, ht]
  have hkind := rawKind_eq_recordKind ⟨UInt32.ofNat buf.pos⟩
    (show 2 ≤ (t.take (ofLE [lo, hi])).length by simp; omega)
  rw [nextSymbol, if_neg (by simp [isEmpty, len_eq, h])]
  split
  · simp_all
  · rename_i n buf1 heq
    rw [h1] at heq
    cases heq
    rw [if_neg (by rw [toNat_length]; omega)]
    split
    · simp_all [toNat_length]
    · rename_i data buf2 heq
      rw [toNat_length, h2] at heq
      cases heq
      simp only [isPadding, hkind, decide_eq_true_eq]

theorem len_of_rest {buf : ParseBuffer} {lo hi : UInt8} {t : List UInt8}
    (h : buf.rest = lo :: hi :: t) : buf.len = t.length + 2 := by
  simp [len_eq, h]

/-- The cases of the loop of `next()` at a cursor, as the four lemmas above split them, with the
record case by recursion on the cursor after the record: proofs about `nextSymbol` follow them. -/
theorem nextSymbol_rec {motive : ParseBuffer → Prop}
    (atEnd : ∀ buf, buf.rest = [] → motive buf)
    (single : ∀ buf x, buf.rest = [x] → motive buf)
    (short : ∀ buf lo hi t, buf.rest = lo :: hi :: t → ofLE [lo, hi] < 2 → motive buf)
    (pastEnd : ∀ buf lo hi t, buf.rest = lo :: hi :: t → 2 ≤ ofLE [lo, hi] →
      t.length < ofLE [lo, hi] → motive buf)
    (record : ∀ buf lo hi t, buf.rest = lo :: hi :: t → 2 ≤ ofLE [lo, hi] →
      ofLE [lo, hi] ≤ t.length → motive (buf.advance (2 + ofLE [lo, hi])) → motive buf)
    (buf : ParseBuffer) : motive buf :=
  match hr : buf.rest with
  | [] => atEnd buf hr
  | [x] => single buf x hr
  | lo :: hi :: t =>
    if hn : ofLE [lo, hi] < 2 then short buf lo hi t hr hn
    else if ht : t.length < ofLE [lo, hi] then pastEnd buf lo hi t hr (by omega) ht
    else record buf lo hi t hr (by omega) (by omega)
      (nextSymbol_rec atEnd single short pastEnd record _)
termination_by buf.len
decreasing_by rw [len_advance, len_of_rest hr]; omega

/-- Every call leaves the cursor further on in the same buffer, never past its end. -/
theorem nextSymbol_advance (buf : ParseBuffer) :
    ∃ k ≤ buf.len, (nextSymbol buf).2 = buf.advance k := by
  induction buf using nextSymbol_rec with
  | atEnd buf h => exact ⟨0, Nat.zero_le _, by rw [nextSymbol_of_rest_nil h]; rfl⟩
  | single buf x h => exact ⟨0, Nat.zero_le _, by rw [nextSymbol_of_rest_single h]; rfl⟩
  | short buf lo hi t h hn =>
    exact ⟨2, by rw [len_of_rest h]; omega, by rw [nextSymbol_of_short h hn]⟩
  | pastEnd buf lo hi t h hn ht =>
    exact ⟨2, by rw [len_of_rest h]; omega, by rw [nextSymbol_of_past_end h hn ht]⟩
  | record buf lo hi t h hn ht ih =>
    have hlen := len_of_rest h
    rw [nextSymbol_of_record h hn ht]
    split
    · obtain ⟨k, hk, heq⟩ := ih
      refine ⟨2 + ofLE [lo, hi] + k, ?_, by simp [heq]⟩
      rw [len_advance] at hk
      omega
    · exact ⟨2 + ofLE [lo, hi], by omega, rfl⟩

/-- `SymbolIter`: a cursor over the symbol stream, within the stream. -/
@[ext]
structure SymbolIter where
  buf : ParseBuffer
  inBounds : buf.pos ≤ buf.data.length

theorem nextSymbol_inBounds {buf : ParseBuffer} (h : buf.pos ≤ buf.data.length) :
    (nextSymbol buf).2.pos ≤ (nextSymbol buf).2.data.length := by
  obtain ⟨k, hk, heq⟩ := nextSymbol_advance buf
  rw [heq]
  simp only [pos_advance, data_advance, len] at hk ⊢
  omega

namespace SymbolIter

/-- `next()`: the next symbol that is not padding, `Ok(None)` at the end of the stream, or the
error that stops the iteration. -/
def next (it : SymbolIter) : Except Error (Option Symbol) × SymbolIter :=
  ((nextSymbol it.buf).1, ⟨(nextSymbol it.buf).2, nextSymbol_inBounds it.inBounds⟩)

theorem inBounds_of_nextSymbol {buf buf' : ParseBuffer} {r : Except Error (Option Symbol)}
    (hb : buf.pos ≤ buf.data.length) (h : nextSymbol buf = (r, buf')) :
    buf'.pos ≤ buf'.data.length := by
  simpa only [h] using nextSymbol_inBounds hb

theorem next_mk {buf buf' : ParseBuffer} {r : Except Error (Option Symbol)}
    (hb : buf.pos ≤ buf.data.length) (h : nextSymbol buf = (r, buf')) :
    next ⟨buf, hb⟩ = (r, ⟨buf', inBounds_of_nextSymbol hb h⟩) := by
  simp only [next, h]

theorem nextSymbol_of_next {it it' : SymbolIter} {r : Except Error (Option Symbol)}
    (h : it.next = (r, it')) : nextSymbol it.buf = (r, it'.buf) :=
  congrArg (fun x => (x.1, x.2.buf)) h

theorem next_congr {buf buf' : ParseBuffer} (hb : buf.pos ≤ buf.data.length)
    (hb' : buf'.pos ≤ buf'.data.length) (h : nextSymbol buf = nextSymbol buf') :
    next ⟨buf, hb⟩ = next ⟨buf', hb'⟩ := by
  simp only [next, h]

/-- `seek(index)`: the cursor moves to the index, clamped to the end of the stream. -/
def seek (it : SymbolIter) (index : SymbolIndex) : SymbolIter :=
  ⟨it.buf.seek index.val.toNat, Nat.min_le_right _ _⟩

/-- `skip_to(index)`: `seek` then `next`. -/
def skipTo (it : SymbolIter) (index : SymbolIndex) : Except Error (Option Symbol) × SymbolIter :=
  (it.seek index).next

end SymbolIter

/-- `SymbolTable`: the bytes of the symbol stream. -/
structure SymbolTable where
  stream : List UInt8

namespace SymbolTable

/-- `iter()`: an iterator from the start of the stream. -/
def iter (table : SymbolTable) : SymbolIter := ⟨ParseBuffer.fromSlice table.stream, Nat.zero_le _⟩

/-- `iter_at(index)`: `iter()` then `seek(index)`. -/
def iterAt (table : SymbolTable) (index : SymbolIndex) : SymbolIter := table.iter.seek index

end SymbolTable

end PdbSymbols
