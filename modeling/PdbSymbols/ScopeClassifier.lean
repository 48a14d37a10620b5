import PdbSymbols.SymbolData

set_option autoImplicit false

/-!
# The scope classifier

`starts_scope()` and `ends_scope()` classify a symbol by its raw kind, from two lists written by
hand; the decoder classifies it by the variant its dispatch arm builds. The end lists agree on
every kind. The start lists agree on every kind the dispatch decodes except `S_LPROC32_ID`, which
decodes to a procedure and is missing from `starts_scope()`.
-/

namespace PdbSymbols

open ParseBuffer

/-- The variants that carry the index of the end of their scope. -/
def SymbolData.opensScope : SymbolData → Bool
  | .procedure _ | .managedProcedure _ | .block _ | .thunk _ | .separatedCode _ | .inlineSite _ =>
    true
  | _ => false

/-- The variants that end a scope. -/
def SymbolData.closesScope : SymbolData → Bool
  | .scopeEnd | .procedureEnd | .inlineSiteEnd => true
  | _ => false

/-- The arms that decode the variants that open a scope, and those that close one. -/
def scopeArms : List SymbolArm :=
  [.procedure, .managedProcedure, .block, .thunk, .separatedCode, .inlineSite]

def scopeEndArms : List SymbolArm := [.scopeEnd, .procedureEnd, .inlineSiteEnd]

theorem decodeWith_ok {α : Type} {mk : α → SymbolData} {dec : List UInt8 → Except Error (α × Nat)}
    {b b' : ParseBuffer} {v : SymbolData} (h : decodeWith mk dec b = some (.ok (v, b'))) :
    ∃ a, v = mk a := by
  simp only [decodeWith, Checked.ofExcept_eq, Option.some.injEq, map_apply] at h
  rcases hp : parseWith dec b with _ | ⟨a, _⟩ <;> rw [hp] at h <;> cases h
  exact ⟨a, rfl⟩

theorem decodeWithChecked_ok {α : Type} {mk : α → SymbolData}
    {dec : List UInt8 → Checked (α × Nat)} {b b' : ParseBuffer} {v : SymbolData}
    (h : decodeWithChecked mk dec b = some (.ok (v, b'))) : ∃ a, v = mk a := by
  simp only [decodeWithChecked, parseWithChecked] at h
  split at h
  · cases h
  · rcases hd : dec b.rest with _ | _ | ⟨a, n⟩ <;> rw [hd] at h <;> cases h
    exact ⟨a, rfl⟩

/-- What an arm decodes opens a scope exactly when the arm is one of the scope arms, and closes
one exactly when it is one of the end arms. -/
theorem decodeArm_scope {kind : SymbolKind} {b b' : ParseBuffer} {arm : SymbolArm} {v : SymbolData}
    (h : decodeArm kind b arm = some (.ok (v, b'))) :
    v.opensScope = decide (arm ∈ scopeArms) ∧ v.closesScope = decide (arm ∈ scopeEndArms) := by
  cases arm
  all_goals first
    | (obtain ⟨a, rfl⟩ := decodeWith_ok h; exact ⟨rfl, rfl⟩)
    | (obtain ⟨a, rfl⟩ := decodeWithChecked_ok h; exact ⟨rfl, rfl⟩)
    | (cases h; exact ⟨rfl, rfl⟩)

theorem contains_map_toNat (l : List UInt16) (k : UInt16) :
    (l.map UInt16.toNat).contains k.toNat = l.contains k := by
  have hbeq : ∀ x : UInt16, (k.toNat == x.toNat) = (k == x) := fun x =>
    Bool.eq_iff_iff.mpr (by simp only [beq_iff_eq]; exact ⟨UInt16.toNat.inj, congrArg _⟩)
  induction l with
  | nil => rfl
  | cons x l ih => simp only [List.map_cons, List.contains_cons, ih, hbeq]

/-- The two hand-written tables agree on every kind the dispatch lists but `S_LPROC32_ID`; the
kinds are compared as numbers, which the kernel decides fast. -/
theorem scope_tables_agree :
    ∀ e ∈ symbolArms, ∀ k ∈ e.2,
      (scopeEndKinds.map UInt16.toNat).contains k.toNat = decide (e.1 ∈ scopeEndArms) ∧
        (k.toNat ≠ S_LPROC32_ID.toNat →
          (scopeStartKinds.map UInt16.toNat).contains k.toNat = decide (e.1 ∈ scopeArms)) := by
  decide

/-- A symbol that decodes ends a scope exactly when its variant does, and starts one exactly when
its variant carries an end index, unless its kind is `S_LPROC32_ID`. -/
theorem scope_classifier_agrees (s : Symbol) {v : SymbolData} (h : s.parse = some (.ok v)) :
    s.endsScope = v.closesScope ∧ (s.rawKind ≠ S_LPROC32_ID → s.startsScope = v.opensScope) := by
  obtain ⟨index, data⟩ := s
  match data with
  | [] => exact absurd h (fun h => nomatch h)
  | [x] => exact absurd h (fun h => nomatch h)
  | lo :: hi :: payload =>
    rw [show lo :: hi :: payload = u16Bytes (UInt16.ofNat (ofLE [lo, hi])) ++ payload by
      rw [u16Bytes_ofLE]; rfl] at h ⊢
    generalize UInt16.ofNat (ofLE [lo, hi]) = kind at h ⊢
    cases harm : symbolArm kind with
    | none => rw [parse_of_no_arm harm] at h; exact absurd h (fun h => nomatch h)
    | some arm =>
      rw [parse_eq_decodeArm harm, Checked.map_eq_ok_iff] at h
      obtain ⟨⟨v', b'⟩, hd, rfl⟩ := h
      obtain ⟨hopen, hclose⟩ := decodeArm_scope hd
      obtain ⟨kinds, hmem, hk⟩ := symbolArm_eq_some harm
      obtain ⟨hend, hstart⟩ := scope_tables_agree _ hmem kind hk
      rw [contains_map_toNat] at hend hstart
      simp only [Symbol.endsScope, Symbol.startsScope, rawKind_u16Bytes, hopen, hclose]
      exact ⟨hend, fun h => hstart (fun h' => h (UInt16.toNat.inj h'))⟩

theorem scope_classifier_scope_end :
    (Symbol.mk ⟨0⟩ [6, 0]).parse = some (.ok .scopeEnd) ∧
      ((Symbol.mk ⟨0⟩ [6, 0]).endsScope = SymbolData.scopeEnd.closesScope ∧
        ((Symbol.mk ⟨0⟩ [6, 0]).rawKind ≠ S_LPROC32_ID →
          (Symbol.mk ⟨0⟩ [6, 0]).startsScope = SymbolData.scopeEnd.opensScope)) :=
  ⟨rfl, scope_classifier_agrees ⟨⟨0⟩, [6, 0]⟩ rfl⟩

/-- An `S_LPROC32_ID` record of zeros decodes to a procedure, which carries an end index, and
`starts_scope()` says it starts no scope. -/
theorem lproc32_id_starts_no_scope :
    ∃ p, (Symbol.mk ⟨0⟩ (u16Bytes S_LPROC32_ID ++ List.replicate 36 0)).parse =
        some (.ok (.procedure p)) ∧
      (Symbol.mk ⟨0⟩ (u16Bytes S_LPROC32_ID ++ List.replicate 36 0)).startsScope = false :=
  ⟨_, rfl, rfl⟩

end PdbSymbols
