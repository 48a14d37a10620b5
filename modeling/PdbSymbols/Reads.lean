import PdbSymbols.ParseBuffer

set_option autoImplicit false

/-!
# What a parser reads

`Reads p xs ys a`: on a cursor whose unread bytes are `xs ++ ys`, `p` returns `a` and leaves the
cursor just past `xs`. Every decoding proof composes these judgments; the primitive reads get
theirs here, so that later proofs never unfold the cursor.
-/

namespace PdbSymbols

open ParseBuffer

def Reads {α : Type} (p : Parse α) (xs ys : List UInt8) (a : α) : Prop :=
  ∀ b : ParseBuffer, b.rest = xs ++ ys → p b = .ok (a, b.advance xs.length)

/-- `p` returns an error on a cursor whose unread bytes are `xs`. -/
def Fails {α : Type} (p : Parse α) (xs : List UInt8) : Prop :=
  ∀ b : ParseBuffer, b.rest = xs → ∃ e, p b = .error e

theorem bind_apply {α β : Type} (p : Parse α) (f : α → Parse β) (b : ParseBuffer) :
    (p >>= f) b = match p b with
      | .ok (a, b') => f a b'
      | .error e => .error e := by
  show StateT.bind p f b = _
  simp only [StateT.bind]
  rcases p b with _ | ⟨a, b'⟩ <;> rfl

theorem map_apply {α β : Type} (g : α → β) (p : Parse α) (b : ParseBuffer) :
    (g <$> p) b = (p b).map fun (a, b') => (g a, b') := by
  show StateT.map g p b = _
  simp only [StateT.map]
  rcases p b with _ | ⟨a, b'⟩ <;> rfl

theorem bind_of_ok {α β : Type} {p : Parse α} (f : α → Parse β) {b b' : ParseBuffer} {a : α}
    (h : p b = .ok (a, b')) : (p >>= f) b = f a b' := by
  rw [bind_apply, h]

theorem bind_of_error {α β : Type} {p : Parse α} (f : α → Parse β) {b : ParseBuffer} {e : Error}
    (h : p b = .error e) : (p >>= f) b = .error e := by
  rw [bind_apply, h]

theorem pure_apply {α : Type} (a : α) (b : ParseBuffer) : (pure a : Parse α) b = .ok (a, b) := rfl

namespace Reads

variable {α β : Type} {p : Parse α} {xs ys zs : List UInt8} {a : α}

theorem pure (ys : List UInt8) (a : α) : Reads (Pure.pure a) [] ys a := fun b _ => by
  simp [pure_apply, ParseBuffer.advance]

theorem bind {f : α → Parse β} {c : β} (hp : Reads p xs (ys ++ zs) a) (hf : Reads (f a) ys zs c) :
    Reads (p >>= f) (xs ++ ys) zs c := fun b hb => by
  rw [bind_apply, hp b (by simp [hb])]
  simpa using hf (b.advance xs.length) (by simp [hb])

theorem map (g : α → β) (hp : Reads p xs ys a) : Reads (g <$> p) xs ys (g a) := fun b hb => by
  simp [map_apply, hp b hb]

theorem run (hp : Reads p xs ys a) : Parse.run (xs ++ ys) p = .ok (a, xs.length) := by
  simp [Parse.run, hp _ (rest_fromSlice _)]

/-- A decoder that reads its whole slice. -/
theorem run_all (hp : Reads p xs [] a) : Parse.run xs p = .ok (a, xs.length) := by
  simpa using hp.run

/-- A step that reads nothing. -/
theorem bind_nil {f : α → Parse β} {c : β} (hp : Reads p [] (ys ++ zs) a)
    (hf : Reads (f a) ys zs c) : Reads (p >>= f) ys zs c :=
  hp.bind hf

/-- `buf.take(buf.len())`, a read of the rest of the record, on the rest of the record. -/
theorem get_take_len {k : List UInt8 → Parse β} {c : β} (hk : Reads (take xs.length >>= k) xs [] c) :
    Reads (get >>= fun b => take b.len >>= k) xs [] c := fun b hb => by
  have hl : b.len = xs.length := by rw [len_eq, hb, List.append_nil]
  rw [bind_apply]
  show (take b.len >>= k) b = _
  rw [hl]
  exact hk b hb

theorem bind_pure {g : α → β} (hp : Reads p xs ys a) :
    Reads (p >>= fun a => Pure.pure (g a)) xs ys (g a) := fun b hb => by
  rw [bind_apply, hp b hb]; rfl

end Reads

namespace Fails

variable {α β : Type} {p : Parse α} {xs ys : List UInt8} {a : α}

theorem map (g : α → β) (hp : Fails p xs) : Fails (g <$> p) xs := fun b hb => by
  obtain ⟨e, he⟩ := hp b hb
  exact ⟨e, by simp [map_apply, he]⟩

end Fails

theorem take_ok {n : Nat} {b b' : ParseBuffer} {xs : List UInt8} (h : take n b = .ok (xs, b')) :
    n ≤ b.len ∧ xs = b.rest.take n ∧ b' = b.advance n := by
  unfold take at h
  split at h
  · cases h; exact ⟨‹_›, rfl, rfl⟩
  · cases h

theorem parseLE_ok {w v : Nat} {b b' : ParseBuffer} (h : parseLE w b = .ok (v, b')) :
    w ≤ b.len ∧ b' = b.advance w := by
  rw [parseLE, map_apply] at h
  rcases ht : take w b with e | ⟨xs, b''⟩ <;> rw [ht] at h
  · cases h
  · cases h
    obtain ⟨hw, -, rfl⟩ := take_ok ht
    exact ⟨hw, rfl⟩

theorem parseU16_ok {v : UInt16} {b b' : ParseBuffer} (h : parseU16 b = .ok (v, b')) :
    2 ≤ b.len ∧ b' = b.advance 2 := by
  rw [parseU16, map_apply] at h
  rcases ht : parseLE 2 b with e | ⟨n, b''⟩ <;> rw [ht] at h
  · cases h
  · cases h
    exact parseLE_ok ht

theorem len_advance (b : ParseBuffer) (n : Nat) : (b.advance n).len = b.len - n := by
  simp [len_eq]

theorem reads_take (xs ys : List UInt8) : Reads (take xs.length) xs ys xs := fun b hb => by
  simp [take, len_eq, hb]

theorem fails_take {n : Nat} {xs : List UInt8} (h : xs.length < n) : Fails (take n) xs :=
  fun b hb => ⟨.unexpectedEof, by simp [take, len_eq, hb]; omega⟩

theorem reads_parseLE (xs ys : List UInt8) : Reads (parseLE xs.length) xs ys (ofLE xs) :=
  (reads_take xs ys).map ofLE

theorem fails_parseLE {w : Nat} {xs : List UInt8} (h : xs.length < w) : Fails (parseLE w) xs :=
  (fails_take h).map ofLE

theorem reads_parseU8 (x : UInt8) (ys : List UInt8) : Reads parseU8 [x] ys x := by
  simpa [ofLE_cons] using (reads_parseLE [x] ys).map UInt8.ofNat

theorem reads_parseU16 {xs : List UInt8} (ys : List UInt8) (h : xs.length = 2) :
    Reads parseU16 xs ys (UInt16.ofNat (ofLE xs)) := by
  show Reads (UInt16.ofNat <$> parseLE 2) _ _ _
  exact h ▸ (reads_parseLE xs ys).map _

theorem reads_parseU32 {xs : List UInt8} (ys : List UInt8) (h : xs.length = 4) :
    Reads parseU32 xs ys (UInt32.ofNat (ofLE xs)) := by
  show Reads (UInt32.ofNat <$> parseLE 4) _ _ _
  exact h ▸ (reads_parseLE xs ys).map _

theorem reads_u16Bytes (x : UInt16) (ys : List UInt8) : Reads parseU16 (u16Bytes x) ys x := by
  simpa using reads_parseU16 ys (length_u16Bytes x)

theorem reads_u32Bytes (x : UInt32) (ys : List UInt8) : Reads parseU32 (u32Bytes x) ys x := by
  simpa using reads_parseU32 ys (length_u32Bytes x)

theorem fails_parseU32 {xs : List UInt8} (h : xs.length < 4) : Fails parseU32 xs :=
  (fails_parseLE h).map _

theorem splitAtNul_append {s : List UInt8} (r : List UInt8) (hs : 0 ∉ s) :
    splitAtNul (s ++ 0 :: r) = some (s, r) := by
  induction s with
  | nil => simp [splitAtNul]
  | cons x s ih =>
    simp only [List.mem_cons, not_or] at hs
    simp [splitAtNul, Ne.symm hs.1, ih hs.2]

theorem splitAtNul_eq_none {xs : List UInt8} (h : 0 ∉ xs) : splitAtNul xs = none := by
  induction xs with
  | nil => rfl
  | cons x xs ih =>
    simp only [List.mem_cons, not_or] at h
    simp [splitAtNul, Ne.symm h.1, ih h.2]

theorem reads_parseCString {s : List UInt8} (ys : List UInt8) (hs : 0 ∉ s) :
    Reads parseCString (s ++ [0]) ys ⟨s⟩ := fun b hb => by
  simp [parseCString, hb, splitAtNul_append _ hs]

theorem fails_parseCString {xs : List UInt8} (h : 0 ∉ xs) : Fails parseCString xs :=
  fun b hb => ⟨.unexpectedEof, by simp [parseCString, hb, splitAtNul_eq_none h]⟩

theorem reads_parseU8PascalString {s : List UInt8} (ys : List UInt8) (hs : s.length < 256) :
    Reads parseU8PascalString (UInt8.ofNat s.length :: s) ys ⟨s⟩ := by
  have hn : (UInt8.ofNat s.length).toNat = s.length := UInt8.toNat_ofNat_of_lt hs
  have hname : Reads (take (UInt8.ofNat s.length).toNat >>= fun x => pure (RawString.mk x)) s ys
      ⟨s⟩ := by
    rw [hn]; simpa using (reads_take s ys).map RawString.mk
  simpa using (reads_parseU8 _ (s ++ ys)).bind hname

theorem splitAtNul_some {xs s r : List UInt8} (h : splitAtNul xs = some (s, r)) :
    xs = s ++ 0 :: r ∧ 0 ∉ s := by
  induction xs generalizing s r with
  | nil => cases h
  | cons x xs ih =>
    by_cases hx : x = 0
    · simp only [splitAtNul, hx, if_true, Option.some.injEq, Prod.mk.injEq] at h
      obtain ⟨rfl, rfl⟩ := h
      simp [hx]
    · simp only [splitAtNul, hx, if_false, Option.map_eq_some', Prod.exists] at h
      obtain ⟨s', r', h', hs⟩ := h
      simp only [Prod.mk.injEq] at hs
      obtain ⟨rfl, rfl⟩ := hs
      obtain ⟨rfl, h0⟩ := ih h'
      simp [h0, Ne.symm hx]

theorem splitAtNul_none {xs : List UInt8} (h : splitAtNul xs = none) : 0 ∉ xs := by
  induction xs with
  | nil => simp
  | cons x xs ih =>
    by_cases hx : x = 0
    · simp [splitAtNul, hx] at h
    · simp only [splitAtNul, hx, if_false, Option.map_eq_none'] at h
      simp [ih h, Ne.symm hx]

theorem consumes_take {n : Nat} (hn : 0 < n) : Consumes (take n) := fun b xs b' h => by
  obtain ⟨hle, -, rfl⟩ := take_ok h
  simp only [len_eq, rest_advance, List.length_drop] at hle ⊢
  omega

theorem Consumes.map {α β : Type} {p : Parse α} (g : α → β) (hp : Consumes p) :
    Consumes (g <$> p) := fun b c b' h => by
  rw [map_apply] at h
  rcases hpb : p b with e | ⟨a, b''⟩ <;> rw [hpb] at h
  · cases h
  · cases h; exact hp b a b' hpb

theorem consumes_parseU32 : Consumes parseU32 := ((consumes_take (by decide)).map ofLE).map _

theorem consumes_parseCString : Consumes parseCString := fun b s b' h => by
  unfold parseCString at h
  rcases hs : splitAtNul b.rest with _ | ⟨s', r⟩ <;> rw [hs] at h
  · cases h
  · cases h
    have hb := (splitAtNul_some hs).1
    simp only [len_eq, rest_advance, List.length_drop, hb, List.length_append, List.length_cons]
    omega

theorem consumes_parseU8PascalString : Consumes parseU8PascalString := fun b s b' h => by
  rw [parseU8PascalString] at h
  rcases h1 : parseU8 b with e | ⟨n, b1⟩
  · rw [bind_of_error _ h1] at h; cases h
  · have hlt := ((consumes_take (by decide)).map ofLE |>.map UInt8.ofNat) b n b1 h1
    rw [bind_of_ok _ h1] at h
    rcases h2 : take n.toNat b1 with e | ⟨xs, b2⟩
    · rw [bind_of_error _ h2] at h; cases h
    · rw [bind_of_ok _ h2] at h
      cases h
      obtain ⟨-, -, rfl⟩ := take_ok h2
      simp only [len_eq, rest_advance, List.length_drop] at hlt ⊢
      omega

theorem untilEmpty_of_rest_nil {α : Type} {p : Parse α} (hp : Consumes p) {b : ParseBuffer}
    (h : b.rest = []) : untilEmpty p hp b = .ok ([], b) := by
  rw [untilEmpty]; simp [isEmpty, len_eq, h]

theorem untilEmpty_of_rest_ne_nil {α : Type} {p : Parse α} (hp : Consumes p) {b : ParseBuffer}
    (h : b.rest ≠ []) : untilEmpty p hp b = match p b with
      | .error e => .error e
      | .ok (a, b') => (untilEmpty p hp b').map fun (as, b'') => (a :: as, b'') := by
  rw [untilEmpty]
  simp only [isEmpty, len_eq, beq_iff_eq, List.length_eq_zero, h, if_false]
  split <;> simp_all

theorem untilEmpty_of_ok {α : Type} {p : Parse α} (hp : Consumes p) {b b' : ParseBuffer} {a : α}
    (h : b.rest ≠ []) (hpb : p b = .ok (a, b')) :
    untilEmpty p hp b = (untilEmpty p hp b').map fun (as, b'') => (a :: as, b'') := by
  rw [untilEmpty_of_rest_ne_nil hp h, hpb]

theorem untilEmpty_of_error {α : Type} {p : Parse α} (hp : Consumes p) {b : ParseBuffer} {e : Error}
    (h : b.rest ≠ []) (hpb : p b = .error e) : untilEmpty p hp b = .error e := by
  rw [untilEmpty_of_rest_ne_nil hp h, hpb]

theorem reads_untilEmpty {α : Type} {p : Parse α} (hp : Consumes p) :
    ∀ chunks : List (List UInt8 × α), (∀ c ∈ chunks, c.1 ≠ [] ∧ ∀ ys, Reads p c.1 ys c.2) →
      Reads (untilEmpty p hp) (chunks.flatMap Prod.fst) [] (chunks.map Prod.snd)
  | [], _ => fun b hb => by simpa using untilEmpty_of_rest_nil hp (by simpa using hb)
  | c :: cs, hc => fun b hb => by
    have hc0 := hc c (List.mem_cons_self _ _)
    have ih := reads_untilEmpty hp cs (fun c' h' => hc c' (List.mem_cons_of_mem _ h'))
    rw [untilEmpty_of_ok hp (by simp [hb, hc0.1]) (hc0.2 _ b (by simpa using hb)),
      ih _ (by simp [hb])]
    simp

theorem fails_untilEmpty {α : Type} {p : Parse α} (hp : Consumes p) {tail : List UInt8}
    (ht : tail ≠ []) (hf : Fails p tail) :
    ∀ chunks : List (List UInt8 × α), (∀ c ∈ chunks, ∀ ys, Reads p c.1 ys c.2) →
      Fails (untilEmpty p hp) (chunks.flatMap Prod.fst ++ tail)
  | [], _ => fun b hb => by
    obtain ⟨e, he⟩ := hf b (by simpa using hb)
    exact ⟨e, untilEmpty_of_error hp (by simpa [hb] using ht) he⟩
  | c :: cs, hc => fun b hb => by
    have hb' : b.rest = c.1 ++ (cs.flatMap Prod.fst ++ tail) := by simp [hb, List.append_assoc]
    obtain ⟨e, he⟩ := fails_untilEmpty hp ht hf cs (fun c' h' => hc c' (List.mem_cons_of_mem _ h'))
      (b.advance c.1.length) (by simp [hb'])
    refine ⟨e, ?_⟩
    rw [untilEmpty_of_ok hp (by simp [hb, ht]) (hc c (List.mem_cons_self _ _) _ b hb'), he]
    rfl

theorem reads_times {α : Type} {p : Parse α} (ys : List UInt8) :
    ∀ chunks : List (List UInt8 × α), (∀ c ∈ chunks, ∀ zs, Reads p c.1 zs c.2) →
      Reads (times chunks.length p) (chunks.flatMap Prod.fst) ys (chunks.map Prod.snd)
  | [], _ => by simpa [times] using Reads.pure ys ([] : List α)
  | c :: cs, hc => by
    have ih := reads_times ys cs (fun c' h' => hc c' (List.mem_cons_of_mem _ h'))
    have h := (hc c (List.mem_cons_self _ _) _).bind (f := fun a => do
      let as ← times cs.length p
      pure (a :: as)) (ih.bind (Reads.pure ys (c.2 :: cs.map Prod.snd)))
    simpa [times] using h

/-- `p` reads exactly the next `w` bytes, and what it returns depends on them alone. -/
def FixedWidth {α : Type} (p : Parse α) (w : Nat) : Prop :=
  ∀ xs : List UInt8, xs.length = w → ∃ a, ∀ ys, Reads p xs ys a

namespace FixedWidth

variable {α β : Type} {p : Parse α} {m n : Nat}

theorem pure (a : α) : FixedWidth (Pure.pure a : Parse α) 0 := fun xs hx =>
  ⟨a, fun ys => by rw [List.length_eq_zero.mp hx]; exact Reads.pure ys a⟩

theorem bind {f : α → Parse β} (hp : FixedWidth p m) (hf : ∀ a, FixedWidth (f a) n) :
    FixedWidth (p >>= f) (m + n) := fun xs hx => by
  obtain ⟨a, ha⟩ := hp (xs.take m) (by simp; omega)
  obtain ⟨c, hc⟩ := hf a (xs.drop m) (by simp; omega)
  exact ⟨c, fun ys => List.take_append_drop m xs ▸ (ha _).bind (hc ys)⟩

theorem map (g : α → β) (hp : FixedWidth p m) : FixedWidth (g <$> p) m := fun xs hx => by
  obtain ⟨a, ha⟩ := hp xs hx
  exact ⟨g a, fun ys => (ha ys).map g⟩

end FixedWidth

theorem fixedWidth_take (n : Nat) : FixedWidth (take n) n := fun xs hx =>
  ⟨xs, fun ys => hx ▸ reads_take xs ys⟩

theorem fixedWidth_parseLE (w : Nat) : FixedWidth (parseLE w) w := (fixedWidth_take w).map ofLE

theorem fixedWidth_parseU16 : FixedWidth parseU16 2 := (fixedWidth_parseLE 2).map _
theorem fixedWidth_parseU32 : FixedWidth parseU32 4 := (fixedWidth_parseLE 4).map _
theorem fixedWidth_parseI_four : FixedWidth (parseI 4) 4 := (fixedWidth_parseLE 4).map _

end PdbSymbols
