import ModbusRpc.Json.Writable

/-! # Lone halves of surrogate pairs

A value holds half of a surrogate pair alone if one of its texts does. Texts of the gateway's own
are strings, so none of them does, and numbers hold no text at all.
-/

namespace ModbusRpc

namespace Text

variable {p : CodePoint} {s t : Text}

@[simp] theorem isNone_chars?_nil : (chars? []).isNone = false := rfl

@[simp] theorem isNone_chars?_cons :
    (chars? (p :: t)).isNone = (p.char?.isNone || t.chars?.isNone) := by
  cases hp : p.char? <;> cases ht : t.chars? <;> simp_all [chars?]

@[simp] theorem isNone_chars?_append :
    (s ++ t).chars?.isNone = (s.chars?.isNone || t.chars?.isNone) := by
  induction s with
  | nil => simp
  | cons p s ih => rw [List.cons_append, isNone_chars?_cons, ih, isNone_chars?_cons, Bool.or_assoc]

@[simp] theorem isNone_chars?_ofString (s : String) : (ofString s).chars?.isNone = false := by
  simp [ofString, chars?_map_scalar]

end Text

namespace Json

variable {fields : List (String × Json)} {f : String × Json}

@[simp] theorem hasLoneSurrogate_text {t : Text} :
    (text t).hasLoneSurrogate = t.chars?.isNone := by
  rw [hasLoneSurrogate]

@[simp] theorem hasLoneSurrogate_ofString {s : String} : (ofString s).hasLoneSurrogate = false := by
  simp [ofString]

@[simp] theorem hasLoneSurrogate_int {n : Int} : (int n).hasLoneSurrogate = false := by
  simp [hasLoneSurrogate]

@[simp] theorem hasLoneSurrogate_object {ms : Members} :
    (object ms).hasLoneSurrogate = membersHaveLoneSurrogate ms := by
  rw [hasLoneSurrogate]

@[simp] theorem membersHaveLoneSurrogate_nil : membersHaveLoneSurrogate [] = false := by
  rw [membersHaveLoneSurrogate]

@[simp] theorem membersHaveLoneSurrogate_cons {k : Text} {v : Json} {ms : Members} :
    membersHaveLoneSurrogate ((k, v) :: ms) =
      (k.chars?.isNone || v.hasLoneSurrogate || membersHaveLoneSurrogate ms) := by
  rw [membersHaveLoneSurrogate]

@[simp] theorem hasLoneSurrogate_ofFields : (ofFields fields).hasLoneSurrogate =
    fields.any fun f => f.2.hasLoneSurrogate := by
  rw [ofFields, hasLoneSurrogate_object]
  induction fields with
  | nil => simp
  | cons f fields ih => simp [ih]

end Json

end ModbusRpc
