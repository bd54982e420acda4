/-! # Text

A JSON document may spell half of a surrogate pair on its own, so its strings are sequences of
code points rather than of characters. Text without lone halves is exactly the text of a `String`.
-/

namespace ModbusRpc

/-- A code point: a character, or one half of a surrogate pair standing alone. -/
inductive CodePoint where
  | scalar (c : Char)
  | surrogate (half : Fin 0x800)
  deriving DecidableEq, Inhabited, Repr

namespace CodePoint

def value : CodePoint → Nat
  | scalar c => c.toNat
  | surrogate half => 0xD800 + half.val

def ofNat? (n : Nat) : Option CodePoint :=
  if h : n.isValidChar then some (.scalar (Char.ofNatAux n h))
  else if h : 0xD800 ≤ n ∧ n < 0xE000 then some (.surrogate ⟨n - 0xD800, by omega⟩)
  else none

def char? : CodePoint → Option Char
  | scalar c => some c
  | surrogate _ => none

end CodePoint

abbrev Text := List CodePoint

namespace Text

def ofString (s : String) : Text := s.toList.map .scalar

instance : Coe String Text := ⟨ofString⟩

def chars? (t : Text) : Option (List Char) := t.mapM CodePoint.char?

def toString? (t : Text) : Option String := t.chars?.map String.ofList

theorem chars?_map_scalar (cs : List Char) : Text.chars? (cs.map .scalar) = some cs := by
  induction cs with
  | nil => rfl
  | cons c cs ih =>
    simp only [chars?, List.map_cons, List.mapM_cons, CodePoint.char?] at ih ⊢
    simp [ih]

theorem chars?_eq_some_iff {t : Text} {cs : List Char} :
    t.chars? = some cs ↔ t = cs.map .scalar := by
  refine ⟨fun h => ?_, fun h => h ▸ chars?_map_scalar cs⟩
  induction t generalizing cs with
  | nil =>
    cases h
    rfl
  | cons p t ih =>
    unfold chars? at h ih
    rw [List.mapM_cons] at h
    cases p with
    | surrogate half => cases h
    | scalar c =>
      cases hr : t.mapM CodePoint.char? with
      | none =>
        rw [hr] at h
        cases h
      | some rest =>
        rw [hr] at h
        cases h
        rw [ih hr, List.map_cons]

@[simp] theorem toString?_ofString (s : String) : (ofString s).toString? = some s := by
  simp [ofString, toString?, chars?_map_scalar]

theorem ofString_inj {s t : String} : ofString s = ofString t ↔ s = t := by
  refine ⟨fun h => ?_, fun h => h ▸ rfl⟩
  simpa using congrArg toString? h

end Text

end ModbusRpc
