import PdbSymbols.ByteOrder
import PdbSymbols.RawString

set_option autoImplicit false

/-!
# The field decoder

`ParseBuffer` lives in `common.rs`, which is not in src/; it is modelled from §4.2 of the spec:
a cursor over a borrowed slice whose reads fail with `UnexpectedEof` when fewer bytes remain
than they need, and never read past the end. A decoder of the source is a `Parse` computation
run on a fresh cursor over its slice. Where source code can panic, its result is `Checked`.

The model follows one build profile throughout: overflow checks on and debug assertions off.
A `usize` subtraction that underflows is a panic, as in a debug build. The three debug
assertions of the module are left out: the length check of `raw_kind`, whose callers hold two
bytes, and the checks on tail-array counts in `FunctionListSymbol` and `InlineesSymbol`, which
§7 of the spec counts debug-time checks and not errors. Those functions return what a release
build returns.
-/

namespace PdbSymbols

/-- The variants of the crate's `Error` that symbol decoding returns. -/
inductive Error where
  | unexpectedEof
  | symbolTooShort
  | unimplementedSymbolKind (kind : UInt16)
  | unexpectedNumericPrefix (leaf : UInt16)
  deriving DecidableEq

/-- Modelled from the spec: `ParseBuffer` of `common.rs` (§4.2), the borrowed bytes and the
offset of the next byte to read. -/
structure ParseBuffer where
  data : List UInt8
  pos : Nat
  deriving DecidableEq

namespace ParseBuffer

/-- `ParseBuffer::from(this)`. -/
def fromSlice (this : List UInt8) : ParseBuffer := ⟨this, 0⟩

def len (b : ParseBuffer) : Nat := b.data.length - b.pos

def isEmpty (b : ParseBuffer) : Bool := b.len == 0

/-- The unread bytes, `&self.0[self.1..]`. -/
def rest (b : ParseBuffer) : List UInt8 := b.data.drop b.pos

def advance (b : ParseBuffer) (n : Nat) : ParseBuffer := ⟨b.data, b.pos + n⟩

/-- Modelled from the spec: `seek` moves the cursor without validating the target, clamped to
the end of the slice as `common.rs` clamps it. -/
def seek (b : ParseBuffer) (pos : Nat) : ParseBuffer := ⟨b.data, min pos b.data.length⟩

@[simp] theorem rest_fromSlice (this : List UInt8) : (fromSlice this).rest = this := rfl

@[simp] theorem pos_fromSlice (this : List UInt8) : (fromSlice this).pos = 0 := rfl

theorem len_eq (b : ParseBuffer) : b.len = b.rest.length := by simp [len, rest]

@[simp] theorem rest_advance (b : ParseBuffer) (n : Nat) : (b.advance n).rest = b.rest.drop n := by
  simp [advance, rest, List.drop_drop, Nat.add_comm]

@[simp] theorem advance_advance (b : ParseBuffer) (m n : Nat) :
    (b.advance m).advance n = b.advance (m + n) := by
  simp [advance, Nat.add_assoc]

@[simp] theorem pos_advance (b : ParseBuffer) (n : Nat) : (b.advance n).pos = b.pos + n := rfl

@[simp] theorem data_advance (b : ParseBuffer) (n : Nat) : (b.advance n).data = b.data := rfl

end ParseBuffer

@[simp] theorem except_map_ok {α β : Type} (f : α → β) (a : α) :
    Except.map (ε := Error) f (.ok a) = .ok (f a) := rfl

@[simp] theorem except_map_error {α β : Type} (f : α → β) (e : Error) :
    Except.map f (.error e) = .error e := rfl

/-- A step over a cursor, as the `&mut ParseBuffer` methods returning `Result` are. -/
abbrev Parse := StateT ParseBuffer (Except Error)

/-- `take(n)`: the next `n` bytes. -/
def take (n : Nat) : Parse (List UInt8) := fun b =>
  if n ≤ b.len then .ok (b.rest.take n, b.advance n) else .error .unexpectedEof

/-- `parse::<T>()` of a little-endian integer `w` bytes wide, through scroll's `gread_with`. -/
def parseLE (w : Nat) : Parse Nat := ofLE <$> take w

def parseU8 : Parse UInt8 := UInt8.ofNat <$> parseLE 1

def parseU16 : Parse UInt16 := UInt16.ofNat <$> parseLE 2

def parseU32 : Parse UInt32 := UInt32.ofNat <$> parseLE 4

def parseU64 : Parse UInt64 := UInt64.ofNat <$> parseLE 8

/-- Signed integers, kept as their two's complement bits. -/
def parseI (w : Nat) : Parse (BitVec (8 * w)) := BitVec.ofNat (8 * w) <$> parseLE w

/-- The bytes up to the first NUL, and those after it. -/
def splitAtNul : List UInt8 → Option (List UInt8 × List UInt8)
  | [] => none
  | x :: xs => if x = 0 then some ([], xs) else (splitAtNul xs).map fun (s, r) => (x :: s, r)

/-- `parse_cstring()`: the bytes before the next NUL, which is consumed too. -/
def parseCString : Parse RawString := fun b =>
  match splitAtNul b.rest with
  | none => .error .unexpectedEof
  | some (s, _) => .ok (⟨s⟩, b.advance (s.length + 1))

/-- `parse_u8_pascal_string()`: a length byte, then that many bytes. -/
def parseU8PascalString : Parse RawString := do
  let length ← parseU8
  return ⟨← take length.toNat⟩

/-- `parse_with(ctx)` through scroll's `gread_with`: a cursor at the end of the slice is refused
(`BadOffset`), then the decoder runs on the rest and the cursor moves past what it consumed. -/
def parseWith {α : Type} (dec : List UInt8 → Except Error (α × Nat)) : Parse α := fun b =>
  if b.len = 0 then .error .unexpectedEof else (dec b.rest).map fun (a, n) => (a, b.advance n)

/-- `for _ in 0..n { items.push(item?) }`. -/
def times {α : Type} : Nat → Parse α → Parse (List α)
  | 0, _ => pure []
  | n + 1, p => do
    let a ← p
    let as ← times n p
    pure (a :: as)

/-- A parser that moves the cursor forward whenever it succeeds. -/
def Consumes {α : Type} (p : Parse α) : Prop :=
  ∀ b a b', p b = .ok (a, b') → b'.len < b.len

/-- `while !buf.is_empty() { items.push(item?) }`. -/
def untilEmpty {α : Type} (p : Parse α) (hp : Consumes p) (b : ParseBuffer) :
    Except Error (List α × ParseBuffer) :=
  if b.isEmpty then .ok ([], b)
  else match _h : p b with
    | .error e => .error e
    | .ok (a, b') => (untilEmpty p hp b').map fun (as, b'') => (a :: as, b'')
termination_by b.len
decreasing_by exact hp b a b' _h

/-- A decoder's `try_from_ctx`: a fresh cursor over `this`, and `Ok((value, buf.pos()))`. -/
def Parse.run {α : Type} (this : List UInt8) (p : Parse α) : Except Error (α × Nat) :=
  (p (ParseBuffer.fromSlice this)).map fun (a, b) => (a, b.pos)

/-- The outcome of source code that can panic: `none` is the panic (an index out of bounds, or a
`usize` subtraction that underflows). -/
def Checked (α : Type) : Type := Option (Except Error α)

instance : Monad Checked where
  pure a := some (.ok a)
  bind x f := match x with
    | none => none
    | some (.error e) => some (.error e)
    | some (.ok a) => f a

namespace Checked

def ofExcept {α : Type} (x : Except Error α) : Checked α := some x

def fail {α : Type} (e : Error) : Checked α := some (.error e)

/-- `this[i]`. -/
def index (this : List UInt8) (i : Nat) : Checked UInt8 := this[i]?.map .ok

/-- `&this[k..]`. -/
def sliceFrom (this : List UInt8) (k : Nat) : Checked (List UInt8) :=
  if k ≤ this.length then pure (this.drop k) else none

/-- `a - b` on `usize`. -/
def usizeSub (a b : Nat) : Checked Nat := if b ≤ a then pure (a - b) else none

section Monad

variable {α β : Type}

@[simp] theorem pure_eq (a : α) : (pure a : Checked α) = some (.ok a) := rfl

@[simp] theorem fail_eq (e : Error) : (fail e : Checked α) = some (.error e) := rfl

@[simp] theorem ofExcept_eq (x : Except Error α) : ofExcept x = some x := rfl

@[simp] theorem ok_bind (a : α) (f : α → Checked β) :
    @Bind.bind Checked _ α β (some (.ok a)) f = f a := rfl

@[simp] theorem error_bind (e : Error) (f : α → Checked β) :
    @Bind.bind Checked _ α β (some (.error e)) f = some (.error e) := rfl

@[simp] theorem none_bind (f : α → Checked β) : @Bind.bind Checked _ α β none f = none := rfl

@[simp] theorem map_ok (f : α → β) (a : α) :
    @Functor.map Checked _ α β f (some (.ok a)) = some (.ok (f a)) := rfl

@[simp] theorem map_error (f : α → β) (e : Error) :
    @Functor.map Checked _ α β f (some (.error e)) = some (.error e) := rfl

theorem map_eq_ok_iff (f : α → β) (x : Checked α) (b : β) :
    @Functor.map Checked _ α β f x = some (.ok b) ↔ ∃ a, x = some (.ok a) ∧ f a = b := by
  rcases x with _ | _ | a
  · exact ⟨fun h => (nomatch h), fun ⟨_, h, _⟩ => (nomatch h)⟩
  · exact ⟨fun h => (nomatch h), fun ⟨_, h, _⟩ => (nomatch h)⟩
  · refine ⟨fun h => ⟨a, rfl, ?_⟩, fun ⟨_, h, hf⟩ => ?_⟩
    · injection h with h; injection h
    · cases h; cases hf; rfl

end Monad

end Checked

/-- `parse_with(ctx)` of a decoder that can panic. -/
def parseWithChecked {α : Type} (dec : List UInt8 → Checked (α × Nat)) (b : ParseBuffer) :
    Checked (α × ParseBuffer) :=
  if b.len = 0 then Checked.fail .unexpectedEof
  else do
    let (a, n) ← dec b.rest
    pure (a, b.advance n)

end PdbSymbols
