import PdbSymbols.NamedRecords

set_option autoImplicit false

/-!
# Variable records with a sniffed parameter slot

Four records look past their name for an undocumented trailing slot (§4.3): when enough bytes
follow the name and a marker byte is `$`, an `i32` is read after the marker. The source repeats
the sniff in each decoder with its own offsets; `parseSlot` is that code once, and each decoder
applies it to the offsets it uses. The sniff indexes the record directly, so it is `Checked`.
-/

namespace PdbSymbols

open ParseBuffer

/-- `if (this.len() as i64 - name.len() as i64 - fixed) >= 6 { if this[name.len() + marker] ==
0x24 { Some(ParseBuffer::from(&this[(name.len() + slotAt)..]).parse()?) } else { None } } else
{ None }`. -/
def parseSlot (this : List UInt8) (nameLen fixed marker slotAt : Nat) :
    Checked (Option (BitVec 32)) :=
  if (this.length : Int) - nameLen - fixed ≥ 6 then do
    let byte ← Checked.index this (nameLen + marker)
    if byte = 0x24 then do
      let tail ← Checked.sliceFrom this (nameLen + slotAt)
      some <$> Checked.ofExcept ((Parse.run tail (parseI 4)).map Prod.fst)
    else pure none
  else pure none

/-- What the four decoders share: a fresh cursor over `this` reads the fixed fields and the name,
then `parseSlot` sniffs past the name; the cursor's position is what the record consumed. -/
def withSlot {α β : Type} (this : List UInt8) (fields : Parse (α × RawString))
    (fixed marker slotAt : Nat) (mk : α → String → Option (BitVec 32) → β) :
    Checked (β × Nat) := do
  let ((head, name), pos) ← Checked.ofExcept (Parse.run this fields)
  let slot ← parseSlot this name.len fixed marker slotAt
  pure (mk head name.toString slot, pos)

theorem run_parseI_four (xs : List UInt8) :
    Parse.run xs (parseI 4) =
      if 4 ≤ xs.length then .ok (BitVec.ofNat 32 (ofLE (xs.take 4)), 4)
      else .error .unexpectedEof := by
  by_cases h : 4 ≤ xs.length <;>
    simp [Parse.run, parseI, parseLE, map_apply, take, len_eq, h]

/-- The sniff as the four decoders make it, with the slot right after the marker and the marker
below the length threshold: it never panics, and with a marker it needs four bytes after it. -/
theorem parseSlot_eq (this : List UInt8) (nameLen fixed marker : Nat)
    (hm : marker + 3 = fixed + 6) :
    parseSlot this nameLen fixed marker (marker + 1) =
      if nameLen + fixed + 6 ≤ this.length ∧ this[nameLen + marker]? = some 0x24 then
        if nameLen + marker + 5 ≤ this.length then
          pure (some (BitVec.ofNat 32 (ofLE ((this.drop (nameLen + marker + 1)).take 4))))
        else Checked.fail .unexpectedEof
      else pure none := by
  unfold parseSlot
  by_cases ht : nameLen + fixed + 6 ≤ this.length
  · rw [if_pos (by omega)]
    simp only [Checked.index, List.getElem?_eq_getElem (by omega : nameLen + marker < this.length),
      Option.map_some', Checked.ok_bind, ht, true_and, Option.some.injEq]
    by_cases hb : this[nameLen + marker] = 0x24
    · rw [if_pos hb, if_pos hb, Checked.sliceFrom, if_pos (by omega), Checked.pure_eq,
        Checked.ok_bind, run_parseI_four]
      by_cases h4 : nameLen + marker + 5 ≤ this.length
      · rw [if_pos (by simp; omega), if_pos h4]; rfl
      · rw [if_neg (by simp; omega), if_neg h4]; rfl
    · rw [if_neg hb, if_neg hb]
  · rw [if_neg (by omega), if_neg (by omega)]

structure RegisterVariableSymbol where
  typeIndex : TypeIndex
  register : Register
  name : String
  slot : Option (BitVec 32)
  deriving DecidableEq

/-- The fields of `S_REGISTER` before the slot. -/
def RegisterVariableSymbol.fields (kind : SymbolKind) : Parse ((TypeIndex × Register) × RawString) := do
  let typeIndex ← parseTypeIndex
  let register ← parseRegister
  let name ← parseSymbolName kind
  pure ((typeIndex, register), name)

def RegisterVariableSymbol.tryFromCtx (this : List UInt8) (kind : SymbolKind) :
    Checked (RegisterVariableSymbol × Nat) :=
  withSlot this (RegisterVariableSymbol.fields kind) 8 0xb 0xc
    fun (typeIndex, register) name slot => ⟨typeIndex, register, name, slot⟩

structure LocalSymbol where
  typeIndex : TypeIndex
  flags : LocalVariableFlags
  name : String
  slot : Option (BitVec 32)
  deriving DecidableEq

/-- The fields of `S_LOCAL` before the slot. -/
def LocalSymbol.fields (kind : SymbolKind) : Parse ((TypeIndex × LocalVariableFlags) × RawString) := do
  let typeIndex ← parseTypeIndex
  let flags ← parseLocalVariableFlags
  let name ← parseSymbolName kind
  pure ((typeIndex, flags), name)

def LocalSymbol.tryFromCtx (this : List UInt8) (kind : SymbolKind) : Checked (LocalSymbol × Nat) :=
  withSlot this (LocalSymbol.fields kind) 8 0xb 0xc
    fun (typeIndex, flags) name slot => ⟨typeIndex, flags, name, slot⟩

structure RegisterRelativeSymbol where
  offset : BitVec 32
  typeIndex : TypeIndex
  register : Register
  name : String
  slot : Option (BitVec 32)
  deriving DecidableEq

/-- The fields of `S_REGREL32` before the slot. -/
def RegisterRelativeSymbol.fields (kind : SymbolKind) :
    Parse ((BitVec 32 × TypeIndex × Register) × RawString) := do
  let offset ← parseI 4
  let typeIndex ← parseTypeIndex
  let register ← parseRegister
  let name ← parseSymbolName kind
  pure ((offset, typeIndex, register), name)

def RegisterRelativeSymbol.tryFromCtx (this : List UInt8) (kind : SymbolKind) :
    Checked (RegisterRelativeSymbol × Nat) :=
  withSlot this (RegisterRelativeSymbol.fields kind) 0xc 0xf 0x10
    fun (offset, typeIndex, register) name slot => ⟨offset, typeIndex, register, name, slot⟩

structure BasePointerRelativeSymbol where
  offset : BitVec 32
  typeIndex : TypeIndex
  name : String
  slot : Option (BitVec 32)
  deriving DecidableEq

/-- The fields of `S_BPREL32` before the slot: `S_BPREL32_16T` carries a 16-bit type index, and
any kind outside the three is refused. -/
def BasePointerRelativeSymbol.fields (kind : SymbolKind) :
    Parse ((BitVec 32 × TypeIndex) × RawString) := do
  let offset ← parseI 4
  let typeIndex ←
    if kind = S_BPREL32 ∨ kind = S_BPREL32_ST then parseTypeIndex
    else if kind = S_BPREL32_16T then (fun (v : UInt16) => TypeIndex.mk v.toUInt32) <$> parseU16
    else throw (.unimplementedSymbolKind kind)
  let name ← parseSymbolName kind
  pure ((offset, typeIndex), name)

def BasePointerRelativeSymbol.tryFromCtx (this : List UInt8) (kind : SymbolKind) :
    Checked (BasePointerRelativeSymbol × Nat) :=
  withSlot this (BasePointerRelativeSymbol.fields kind) 0xa 0xd 0xe
    fun (offset, typeIndex) name slot => ⟨offset, typeIndex, name, slot⟩

/-- The slot law of the four decoders: once the fixed fields and the name decode, the record
decodes with no slot below the length threshold or without the `$` marker, fails when the
marker has fewer than four bytes after it, and otherwise carries the little-endian `i32` right
after the marker; it never panics. -/
theorem withSlot_eq {α β : Type} (this : List UInt8) (fields : Parse (α × RawString))
    (fixed marker : Nat) (mk : α → String → Option (BitVec 32) → β) (hm : marker + 3 = fixed + 6)
    {head : α} {name : RawString} {pos : Nat} (h : Parse.run this fields = .ok ((head, name), pos)) :
    withSlot this fields fixed marker (marker + 1) mk =
      if name.len + fixed + 6 ≤ this.length ∧ this[name.len + marker]? = some 0x24 then
        if name.len + marker + 5 ≤ this.length then
          pure (mk head name.toString
            (some (BitVec.ofNat 32 (ofLE ((this.drop (name.len + marker + 1)).take 4)))), pos)
        else Checked.fail .unexpectedEof
      else pure (mk head name.toString none, pos) := by
  simp only [withSlot, h, Checked.ofExcept_eq, Checked.ok_bind]
  rw [parseSlot_eq this _ fixed marker hm]
  split_ifs <;> rfl

theorem withSlot_eq_register :
    (0xb + 3 = 8 + 6 ∧
      Parse.run [0, 0, 0, 0, 0, 0, 0, 0, 0, 0, 0, 0x24, 1, 0, 0, 0]
        (RegisterVariableSymbol.fields S_REGISTER) = .ok (((⟨0⟩, ⟨0⟩), ⟨[]⟩), 7)) ∧
      RegisterVariableSymbol.tryFromCtx [0, 0, 0, 0, 0, 0, 0, 0, 0, 0, 0, 0x24, 1, 0, 0, 0]
        S_REGISTER = pure (⟨⟨0⟩, ⟨0⟩, "", some 1⟩, 7) := by
  have h : Parse.run [0, 0, 0, 0, 0, 0, 0, 0, 0, 0, 0, 0x24, 1, 0, 0, 0]
      (RegisterVariableSymbol.fields S_REGISTER) = .ok (((⟨0⟩, ⟨0⟩), ⟨[]⟩), 7) := rfl
  exact ⟨⟨rfl, h⟩, (withSlot_eq _ _ 8 0xb _ rfl h).trans rfl⟩

end PdbSymbols
