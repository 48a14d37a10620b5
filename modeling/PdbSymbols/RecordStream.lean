import PdbSymbols.SymbolIter

set_option autoImplicit false

/-!
# What the iterator yields

A symbol stream is a sequence of records, each a little-endian `u16` length `n ≥ 2` and then
`n` bytes of body (§4.4). `splitRecords` reads that grammar greedily: the records at the front
of the bytes, each at the offset of its length prefix, and how the bytes end after them.
Repeated `next()` calls yield exactly the records that are not padding and then stop at that
ending; `seek` to the index of a yielded symbol yields it again, from the same state on.
-/

namespace PdbSymbols

open ParseBuffer

/-- How the records of a stream end: at a record boundary at the end of the bytes, or at a
record that does not fit the grammar. -/
inductive Ending where
  | exhausted
  | malformed (e : Error)
  deriving DecidableEq

/-- The greedy split of `bytes`, the stream from `offset` on, into records (the offset of the
length prefix, the body) and the ending after them. -/
def splitRecords (offset : Nat) (bytes : List UInt8) : List (Nat × List UInt8) × Ending :=
  match bytes with
  | [] => ([], .exhausted)
  | [_] => ([], .malformed .unexpectedEof)
  | lo :: hi :: t =>
    if ofLE [lo, hi] < 2 then ([], .malformed .symbolTooShort)
    else if t.length < ofLE [lo, hi] then ([], .malformed .unexpectedEof)
    else
      let rest := splitRecords (offset + 2 + ofLE [lo, hi]) (t.drop (ofLE [lo, hi]))
      ((offset, t.take (ofLE [lo, hi])) :: rest.1, rest.2)
termination_by bytes.length
decreasing_by simp only [List.length_drop, List.length_cons]; omega

section Split

variable {offset : Nat} {lo hi : UInt8} {t : List UInt8}

theorem splitRecords_nil : splitRecords offset [] = ([], .exhausted) := by
  rw [splitRecords]

theorem splitRecords_single (x : UInt8) :
    splitRecords offset [x] = ([], .malformed .unexpectedEof) := by
  rw [splitRecords]

theorem splitRecords_short (hn : ofLE [lo, hi] < 2) :
    splitRecords offset (lo :: hi :: t) = ([], .malformed .symbolTooShort) := by
  rw [splitRecords, if_pos hn]

theorem splitRecords_past_end (hn : 2 ≤ ofLE [lo, hi]) (ht : t.length < ofLE [lo, hi]) :
    splitRecords offset (lo :: hi :: t) = ([], .malformed .unexpectedEof) := by
  rw [splitRecords, if_neg (by omega), if_pos ht]

theorem splitRecords_record (hn : 2 ≤ ofLE [lo, hi]) (ht : ofLE [lo, hi] ≤ t.length) :
    splitRecords offset (lo :: hi :: t) =
      ((offset, t.take (ofLE [lo, hi])) ::
          (splitRecords (offset + 2 + ofLE [lo, hi]) (t.drop (ofLE [lo, hi]))).1,
        (splitRecords (offset + 2 + ofLE [lo, hi]) (t.drop (ofLE [lo, hi]))).2) := by
  rw [splitRecords, if_neg (by omega), if_neg (by omega)]

end Split

/-- Every record of a split starts within the bytes it was split from. -/
theorem splitRecords_offset_lt (offset : Nat) (bytes : List UInt8) :
    ∀ r ∈ (splitRecords offset bytes).1, offset ≤ r.1 ∧ r.1 < offset + bytes.length := by
  match bytes with
  | [] => simp [splitRecords_nil]
  | [x] => simp [splitRecords_single]
  | lo :: hi :: t =>
    by_cases hn : ofLE [lo, hi] < 2
    · simp [splitRecords_short hn]
    by_cases ht : t.length < ofLE [lo, hi]
    · simp [splitRecords_past_end (by omega) ht]
    rw [splitRecords_record (by omega) (by omega)]
    intro r hr
    rcases List.mem_cons.mp hr with rfl | hr
    · simp
    · have := splitRecords_offset_lt _ _ r hr
      simp only [List.length_drop, List.length_cons] at this ⊢
      omega
termination_by bytes.length

/-- The records the iterator yields: those that are not padding. -/
def visible (records : List (Nat × List UInt8)) : List (Nat × List UInt8) :=
  records.filter fun r => !isPadding r.2

namespace SymbolIter

/-- At most `fuel` calls of `next()`: the symbols they return, then `Ok(None)` or the error that
stopped them, or `none` when every call returned a symbol. -/
def drain : Nat → SymbolIter → List Symbol × Option Ending
  | 0, _ => ([], none)
  | fuel + 1, it =>
    match it.next with
    | (.ok (some s), it') => ((drain fuel it').1.cons s, (drain fuel it').2)
    | (.ok none, _) => ([], some .exhausted)
    | (.error e, _) => ([], some (.malformed e))

end SymbolIter

open SymbolIter

/-- The symbol that stands for a record of the split. -/
def toSymbol (r : Nat × List UInt8) : Symbol := ⟨⟨UInt32.ofNat r.1⟩, r.2⟩

/-- From any cursor, enough calls of `next()` yield the visible records of the split of the
rest of the stream, then stop at its ending. -/
theorem drain_eq (buf : ParseBuffer) (h : buf.pos ≤ buf.data.length) (fuel : Nat)
    (hf : buf.len < fuel) :
    drain fuel ⟨buf, h⟩ =
      ((visible (splitRecords buf.pos buf.rest).1).map toSymbol,
        some (splitRecords buf.pos buf.rest).2) := by
  obtain ⟨fuel, rfl⟩ : ∃ f, fuel = f + 1 := ⟨fuel - 1, by omega⟩
  induction buf using nextSymbol_rec generalizing fuel with
  | atEnd buf hr => simp [drain, next_mk h (nextSymbol_of_rest_nil hr), hr, splitRecords_nil, visible]
  | single buf x hr =>
    simp [drain, next_mk h (nextSymbol_of_rest_single hr), hr, splitRecords_single, visible]
  | short buf lo hi t hr hn =>
    simp [drain, next_mk h (nextSymbol_of_short hr hn), hr, splitRecords_short hn, visible]
  | pastEnd buf lo hi t hr hn ht =>
    simp [drain, next_mk h (nextSymbol_of_past_end hr hn ht), hr, splitRecords_past_end hn ht,
      visible]
  | record buf lo hi t hr hn ht ih =>
    have hlen := len_of_rest hr
    have hrec := nextSymbol_of_record hr hn ht
    have hb : (buf.advance (2 + ofLE [lo, hi])).pos ≤ (buf.advance (2 + ofLE [lo, hi])).data.length := by
      simp only [len] at hlen
      simp only [pos_advance, data_advance]
      omega
    have hrest : (buf.advance (2 + ofLE [lo, hi])).rest = t.drop (ofLE [lo, hi]) := by
      rw [rest_advance, hr, Nat.add_comm]; rfl
    specialize ih hb
    rw [hrest, pos_advance, ← Nat.add_assoc, len_advance] at ih
    rw [hr, splitRecords_record hn ht]
    by_cases hpad : isPadding (t.take (ofLE [lo, hi]))
    · rw [if_pos hpad] at hrec
      rw [drain, next_congr h hb hrec, ← drain, ih fuel (by omega)]
      simp [visible, hpad]
    · rw [if_neg hpad] at hrec
      obtain ⟨fuel, rfl⟩ : ∃ f, fuel = f + 1 := ⟨fuel - 1, by omega⟩
      rw [drain, next_mk h hrec]
      dsimp only
      rw [ih fuel (by omega)]
      simp [visible, hpad, toSymbol]

/-- `SymbolIter::next` accepts exactly the record grammar: from any start position, at most
`|B| - p + 1` calls yield each record of the split that is not padding, with the offset of its
length prefix as index and its body as data, and then `Ok(None)` at a record boundary at the
end of the stream or the error of the first malformed record. -/
theorem next_accepts_record_grammar (B : List UInt8) (p : Nat) (hB : B.length ≤ 2 ^ 32)
    (hp : p ≤ B.length) :
    (drain (B.length - p + 1) ⟨⟨B, p⟩, hp⟩).1.map (fun s => (s.index.val.toNat, s.data)) =
        visible (splitRecords p (B.drop p)).1 ∧
      (drain (B.length - p + 1) ⟨⟨B, p⟩, hp⟩).2 = some (splitRecords p (B.drop p)).2 := by
  have hlen : (⟨B, p⟩ : ParseBuffer).len < B.length - p + 1 := by simp [len]
  rw [drain_eq _ hp _ hlen]
  refine ⟨?_, rfl⟩
  rw [List.map_map]
  conv => rhs; rw [← List.map_id (visible _)]
  refine List.map_congr_left fun r hr => ?_
  have hr' := splitRecords_offset_lt p (B.drop p) r (List.mem_filter.mp hr).1
  simp only [List.length_drop] at hr'
  simp [toSymbol, UInt32.toNat_ofNat_of_lt (show r.1 < 2 ^ 32 by omega)]

theorem next_accepts_record_grammar_source_stream :
    (([0, 0, 0, 0, 2, 0, 0x4e, 0x11, 2, 0, 6, 0] : List UInt8).length ≤ 2 ^ 32 ∧ 4 ≤ 12) ∧
      (drain (12 - 4 + 1) ⟨⟨[0, 0, 0, 0, 2, 0, 0x4e, 0x11, 2, 0, 6, 0], 4⟩, by decide⟩).1.map
          (fun s => (s.index.val.toNat, s.data)) =
        visible (splitRecords 4 (([0, 0, 0, 0, 2, 0, 0x4e, 0x11, 2, 0, 6, 0] : List UInt8).drop 4)).1 ∧
      (drain (12 - 4 + 1) ⟨⟨[0, 0, 0, 0, 2, 0, 0x4e, 0x11, 2, 0, 6, 0], 4⟩, by decide⟩).2 =
        some (splitRecords 4 (([0, 0, 0, 0, 2, 0, 0x4e, 0x11, 2, 0, 6, 0] : List UInt8).drop 4)).2 :=
  ⟨⟨by decide, by decide⟩, next_accepts_record_grammar _ 4 (by decide) (by decide)⟩

/-- A symbol that `next()` returns was read at its own index, only padding records lay between
the cursor and it, and it is a record of at least two bytes that is not padding. -/
theorem nextSymbol_some_at (buf : ParseBuffer) {s : Symbol} {buf' : ParseBuffer}
    (h : nextSymbol buf = (.ok (some s), buf')) :
    ∃ q, buf.pos ≤ q ∧ q < buf.data.length ∧ s.index = ⟨UInt32.ofNat q⟩ ∧
      ¬isPadding s.data ∧ 2 ≤ s.data.length ∧ nextSymbol ⟨buf.data, q⟩ = (.ok (some s), buf') := by
  induction buf using nextSymbol_rec with
  | atEnd buf hr => simp [nextSymbol_of_rest_nil hr] at h
  | single buf x hr => simp [nextSymbol_of_rest_single hr] at h
  | short buf lo hi t hr hn => simp [nextSymbol_of_short hr hn] at h
  | pastEnd buf lo hi t hr hn ht => simp [nextSymbol_of_past_end hr hn ht] at h
  | record buf lo hi t hr hn ht ih =>
    have hrec := nextSymbol_of_record hr hn ht
    by_cases hpad : isPadding (t.take (ofLE [lo, hi]))
    · rw [if_pos hpad] at hrec
      obtain ⟨q, hq, hlt, hidx, hvis⟩ := ih (hrec ▸ h)
      exact ⟨q, by simp only [pos_advance] at hq; omega, hlt, hidx, hvis⟩
    · rw [if_neg hpad, h] at hrec
      simp only [Prod.mk.injEq, Except.ok.injEq, Option.some.injEq] at hrec
      obtain ⟨rfl, -⟩ := hrec
      have hlen := len_of_rest hr
      simp only [len] at hlen
      exact ⟨buf.pos, le_rfl, by omega, rfl, hpad, by simp; omega, h⟩

/-- Symbol indexes round-trip through `seek`: on any iterator over the same stream, `seek` to the
index of a symbol that `next()` returned and then `next()` return that symbol again and leave the
iterator where the first call left it, and so do `skip_to` and `iter_at`. -/
theorem seek_index_round_trip (it : SymbolIter) (hB : it.buf.data.length ≤ 2 ^ 32) {s : Symbol}
    {it' : SymbolIter} (h : it.next = (.ok (some s), it')) (jt : SymbolIter)
    (hj : jt.buf.data = it.buf.data) :
    (jt.seek s.index).next = (.ok (some s), it') ∧ jt.skipTo s.index = (.ok (some s), it') ∧
      ((SymbolTable.mk it.buf.data).iterAt s.index).next = (.ok (some s), it') := by
  obtain ⟨q, -, hq, hidx, -, -, heq⟩ := nextSymbol_some_at it.buf (nextSymbol_of_next h)
  have hseek : ∀ kt : SymbolIter, kt.buf.data = it.buf.data →
      (kt.seek s.index).next = (.ok (some s), it') := by
    intro kt hk
    have hbuf : kt.seek s.index = ⟨⟨it.buf.data, q⟩, hq.le⟩ := by
      ext1
      simp only [SymbolIter.seek, ParseBuffer.seek, hidx, hk, UInt32.toNat_ofNat_of_lt (by omega : q < 2 ^ 32),
        Nat.min_eq_left hq.le]
    rw [hbuf, next_mk _ heq]
  exact ⟨hseek jt hj, hseek jt hj, hseek _ rfl⟩

/-- The first call of `next()` on the stream of the source's iterator tests, after its 4-byte skip. -/
theorem nextSymbol_source_stream :
    nextSymbol ⟨[0, 0, 0, 0, 2, 0, 0x4e, 0x11, 2, 0, 6, 0], 4⟩ =
      (.ok (some ⟨⟨4⟩, [0x4e, 0x11]⟩), ⟨[0, 0, 0, 0, 2, 0, 0x4e, 0x11, 2, 0, 6, 0], 8⟩) := by
  rw [nextSymbol_of_record (show (⟨[0, 0, 0, 0, 2, 0, 0x4e, 0x11, 2, 0, 6, 0], 4⟩ : ParseBuffer).rest
    = 2 :: 0 :: [0x4e, 0x11, 2, 0, 6, 0] from rfl) (by decide) (by decide)]
  rfl

/-- The second call of `next()` on the same stream, which yields the `S_END` record at 8. -/
theorem nextSymbol_source_stream_end :
    nextSymbol ⟨[0, 0, 0, 0, 2, 0, 0x4e, 0x11, 2, 0, 6, 0], 8⟩ =
      (.ok (some ⟨⟨8⟩, [6, 0]⟩), ⟨[0, 0, 0, 0, 2, 0, 0x4e, 0x11, 2, 0, 6, 0], 12⟩) := by
  rw [nextSymbol_of_record (show (⟨[0, 0, 0, 0, 2, 0, 0x4e, 0x11, 2, 0, 6, 0], 8⟩ : ParseBuffer).rest
    = 2 :: 0 :: [6, 0] from rfl) (by decide) (by decide)]
  rfl

/-- The source's `test_seek`: the iterator of the tests, at 4, seeks to 8 and yields `S_END`. -/
theorem seek_index_round_trip_source_stream :
    (([0, 0, 0, 0, 2, 0, 0x4e, 0x11, 2, 0, 6, 0] : List UInt8).length ≤ 2 ^ 32 ∧
        (SymbolIter.mk ⟨[0, 0, 0, 0, 2, 0, 0x4e, 0x11, 2, 0, 6, 0], 8⟩ (by decide)).next =
          (.ok (some ⟨⟨8⟩, [6, 0]⟩), ⟨⟨[0, 0, 0, 0, 2, 0, 0x4e, 0x11, 2, 0, 6, 0], 12⟩, by decide⟩)) ∧
      ((SymbolIter.mk ⟨[0, 0, 0, 0, 2, 0, 0x4e, 0x11, 2, 0, 6, 0], 4⟩ (by decide)).seek ⟨8⟩).next =
        (.ok (some ⟨⟨8⟩, [6, 0]⟩), ⟨⟨[0, 0, 0, 0, 2, 0, 0x4e, 0x11, 2, 0, 6, 0], 12⟩, by decide⟩) := by
  have h := next_mk (by decide) nextSymbol_source_stream_end
  exact ⟨⟨by decide, h⟩, (seek_index_round_trip _ (by decide) h _ rfl).1⟩

/-- A record of at least two bytes that is not padding has neither padding kind. -/
theorem rawKind_ne_padding {s : Symbol} (hp : ¬isPadding s.data) (h2 : 2 ≤ s.data.length) :
    s.rawKind ≠ S_ALIGN ∧ s.rawKind ≠ S_SKIP := by
  rw [show s = ⟨s.index, s.data⟩ from rfl, rawKind_eq_recordKind _ h2]
  simpa [isPadding, not_or] using hp

/-- Over any run of `next()` calls from any iterator, no symbol yielded is padding, and each holds
at least its two-byte kind. -/
theorem next_never_yields_padding (fuel : Nat) (it : SymbolIter) :
    ∀ s ∈ (drain fuel it).1, s.rawKind ≠ S_ALIGN ∧ s.rawKind ≠ S_SKIP ∧ 2 ≤ s.data.length := by
  induction fuel generalizing it with
  | zero => simp [drain]
  | succ fuel ih =>
    intro s hs
    simp only [drain] at hs
    split at hs
    · rename_i s' it' heq
      rcases List.mem_cons.mp hs with rfl | hs
      · obtain ⟨-, -, -, -, hp, h2, -⟩ := nextSymbol_some_at _ (nextSymbol_of_next heq)
        exact ⟨(rawKind_ne_padding hp h2).1, (rawKind_ne_padding hp h2).2, h2⟩
      · exact ih it' s hs
    all_goals simp at hs

theorem next_never_yields_padding_source_stream :
    Symbol.mk ⟨4⟩ [0x4e, 0x11] ∈
        (drain 9 ⟨⟨[0, 0, 0, 0, 2, 0, 0x4e, 0x11, 2, 0, 6, 0], 4⟩, by decide⟩).1 ∧
      ((Symbol.mk ⟨4⟩ [0x4e, 0x11]).rawKind ≠ S_ALIGN ∧ (Symbol.mk ⟨4⟩ [0x4e, 0x11]).rawKind ≠ S_SKIP ∧
        2 ≤ (Symbol.mk ⟨4⟩ [0x4e, 0x11]).data.length) := by
  have hmem : Symbol.mk ⟨4⟩ [0x4e, 0x11] ∈
      (drain 9 ⟨⟨[0, 0, 0, 0, 2, 0, 0x4e, 0x11, 2, 0, 6, 0], 4⟩, by decide⟩).1 := by
    simp only [drain, next_mk (by decide) nextSymbol_source_stream]
    exact List.mem_cons_self _ _
  exact ⟨hmem, next_never_yields_padding 9 _ _ hmem⟩

/-- A symbol that `next()` returns lies at or after the cursor and within the stream, and the
cursor is left just past its record. -/
theorem nextSymbol_some_cursor (buf : ParseBuffer) {s : Symbol} {buf' : ParseBuffer}
    (h : nextSymbol buf = (.ok (some s), buf')) :
    ∃ q, buf.pos ≤ q ∧ s.index = ⟨UInt32.ofNat q⟩ ∧ q + 2 + s.data.length ≤ buf.data.length ∧
      buf' = ⟨buf.data, q + 2 + s.data.length⟩ := by
  induction buf using nextSymbol_rec with
  | atEnd buf hr => simp [nextSymbol_of_rest_nil hr] at h
  | single buf x hr => simp [nextSymbol_of_rest_single hr] at h
  | short buf lo hi t hr hn => simp [nextSymbol_of_short hr hn] at h
  | pastEnd buf lo hi t hr hn ht => simp [nextSymbol_of_past_end hr hn ht] at h
  | record buf lo hi t hr hn ht ih =>
    have hrec := nextSymbol_of_record hr hn ht
    have hlen := len_of_rest hr
    simp only [len] at hlen
    split at hrec
    · obtain ⟨q, hq, hidx, hend, rfl⟩ := ih (hrec ▸ h)
      exact ⟨q, by simp only [pos_advance] at hq; omega, hidx, hend, rfl⟩
    · rw [h] at hrec
      simp only [Prod.mk.injEq, Except.ok.injEq, Option.some.injEq] at hrec
      obtain ⟨rfl, rfl⟩ := hrec
      have htake : (t.take (ofLE [lo, hi])).length = ofLE [lo, hi] := by simp; omega
      refine ⟨buf.pos, le_rfl, rfl, ?_, ?_⟩
      · rw [htake]; omega
      · rw [htake, ParseBuffer.advance, Nat.add_assoc]

/-- Over any run of `next()` calls from any iterator on a stream whose offsets fit the `u32`
index, the symbols come in stream order and never overlap: each lies at or after the cursor the
run started from and within the stream, and each record (its index, its length field and its
body) ends at or before the index of every later one. -/
theorem next_yields_in_stream_order (fuel : Nat) (it : SymbolIter)
    (hB : it.buf.data.length ≤ 2 ^ 32) :
    (∀ s ∈ (drain fuel it).1, it.buf.pos ≤ s.index.val.toNat ∧
        s.index.val.toNat + 2 + s.data.length ≤ it.buf.data.length) ∧
      (drain fuel it).1.Pairwise fun s t =>
        s.index.val.toNat + 2 + s.data.length ≤ t.index.val.toNat := by
  induction fuel generalizing it with
  | zero => simp [drain]
  | succ fuel ih =>
    simp only [drain]
    split
    · rename_i s it' heq
      obtain ⟨q, hq, hidx, hend, hbuf⟩ := nextSymbol_some_cursor _ (nextSymbol_of_next heq)
      have hidx' : s.index.val.toNat = q := by
        rw [hidx, UInt32.toNat_ofNat_of_lt (show q < UInt32.size by simp only [UInt32.size]; omega)]
      obtain ⟨hin, hord⟩ := ih it' (by rw [hbuf]; exact hB)
      rw [hbuf] at hin
      dsimp only at hin
      refine ⟨?_, List.pairwise_cons.mpr ⟨fun t ht => ?_, hord⟩⟩
      · intro t ht
        rcases List.mem_cons.mp ht with rfl | ht
        · exact ⟨hidx' ▸ hq, hidx' ▸ hend⟩
        · obtain ⟨h1, h2⟩ := hin t ht
          exact ⟨by omega, h2⟩
      · rw [hidx']
        exact (hin t ht).1
    all_goals simp

theorem next_yields_in_stream_order_source_stream :
    ([0, 0, 0, 0, 2, 0, 0x4e, 0x11, 2, 0, 6, 0] : List UInt8).length ≤ 2 ^ 32 ∧
      ((∀ s ∈ (drain 9 ⟨⟨[0, 0, 0, 0, 2, 0, 0x4e, 0x11, 2, 0, 6, 0], 4⟩, by decide⟩).1,
          4 ≤ s.index.val.toNat ∧ s.index.val.toNat + 2 + s.data.length ≤ 12) ∧
        (drain 9 ⟨⟨[0, 0, 0, 0, 2, 0, 0x4e, 0x11, 2, 0, 6, 0], 4⟩, by decide⟩).1.Pairwise
          fun s t => s.index.val.toNat + 2 + s.data.length ≤ t.index.val.toNat) :=
  ⟨by decide, next_yields_in_stream_order 9 _ (by decide)⟩

section Writing

/-- A record on the wire (§6): the length of its body as a little-endian `u16`, then the body. -/
def encodeRecord (body : List UInt8) : List UInt8 := toLE 2 body.length ++ body

/-- Bodies written one after another from `offset`, each with the offset of its length prefix. -/
def layoutRecords (offset : Nat) : List (List UInt8) → List (Nat × List UInt8)
  | [] => []
  | b :: bs => (offset, b) :: layoutRecords (offset + 2 + b.length) bs

/-- The grammar reads back what was written: records whose bodies have a length that fits the
`u16` prefix and holds the kind split into those bodies, and the stream ends cleanly. -/
theorem splitRecords_encodeRecord (bodies : List (List UInt8))
    (hb : ∀ b ∈ bodies, 2 ≤ b.length ∧ b.length < 2 ^ 16) (offset : Nat) :
    splitRecords offset (bodies.flatMap encodeRecord) = (layoutRecords offset bodies, .exhausted) := by
  induction bodies generalizing offset with
  | nil => exact splitRecords_nil
  | cons b bs ih =>
    obtain ⟨h2, h16⟩ := hb b (List.mem_cons_self _ _)
    have hn : ofLE [UInt8.ofNat (b.length % 256), UInt8.ofNat (b.length / 256 % 256)] = b.length := by
      rw [show [UInt8.ofNat (b.length % 256), UInt8.ofNat (b.length / 256 % 256)] = toLE 2 b.length
        from rfl, ofLE_toLE, Nat.mod_eq_of_lt (by simpa using h16)]
    have hwire : (b :: bs).flatMap encodeRecord = UInt8.ofNat (b.length % 256) ::
        UInt8.ofNat (b.length / 256 % 256) :: (b ++ bs.flatMap encodeRecord) := rfl
    rw [hwire, splitRecords_record (by omega) (by simp [hn]), hn, List.take_left, List.drop_left,
      ih fun b' hb' => hb b' (List.mem_cons_of_mem _ hb')]
    rfl

end Writing

/-- A stream written record by record reads back through `SymbolTable::iter()`: the calls of
`next()` yield every written record that is not padding, in order, at the offset it was written
to, and then `Ok(None)`. -/
theorem iter_reads_written_records (bodies : List (List UInt8))
    (hb : ∀ b ∈ bodies, 2 ≤ b.length ∧ b.length < 2 ^ 16) :
    drain ((bodies.flatMap encodeRecord).length + 1) (SymbolTable.mk (bodies.flatMap encodeRecord)).iter =
      ((visible (layoutRecords 0 bodies)).map toSymbol, some .exhausted) := by
  rw [SymbolTable.iter, drain_eq _ _ _ (by simp [len, fromSlice]), rest_fromSlice, pos_fromSlice,
    splitRecords_encodeRecord bodies hb]

theorem iter_reads_written_source_stream :
    (∀ b ∈ [[0x4e, 0x11], [6, 0]], 2 ≤ b.length ∧ b.length < 2 ^ 16) ∧
      drain (([[0x4e, 0x11], [6, 0]].flatMap encodeRecord).length + 1)
          (SymbolTable.mk ([[0x4e, 0x11], [6, 0]].flatMap encodeRecord)).iter =
        ((visible (layoutRecords 0 [[0x4e, 0x11], [6, 0]])).map toSymbol, some .exhausted) :=
  ⟨by decide, iter_reads_written_records _ (by decide)⟩

end PdbSymbols
