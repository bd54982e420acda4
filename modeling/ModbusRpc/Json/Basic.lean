import ModbusRpc.Text.Basic

/-! # JSON values

Integers and floating-point numbers are different values, whatever they measure, and objects keep
the order in which their keys first appeared.
-/

namespace ModbusRpc

inductive Json where
  | null
  | bool (b : Bool)
  | int (n : Int)
  | float (x : Float)
  | text (t : Text)
  | array (items : List Json)
  | object (members : List (Text × Json))
  deriving Inhabited

abbrev Members := List (Text × Json)

namespace Members

def get? (ms : Members) (key : Text) : Option Json := List.lookup key ms

/-- Sets the value at a key; a key that is present keeps its place. -/
def put (key : Text) (v : Json) : Members → Members
  | [] => [(key, v)]
  | (k, w) :: ms => if k = key then (k, v) :: ms else (k, w) :: put key v ms

variable {key k : Text} {v : Json} {ms : Members}

@[simp] theorem get?_nil : get? [] key = none := rfl

theorem get?_cons : get? ((k, v) :: ms) key = if key = k then some v else get? ms key := by
  by_cases h : key = k
  · simp [get?, h]
  · have hb : (key == k) = false := by simpa using h
    simp [get?, List.lookup_cons, hb, h]

theorem get?_put_self : get? (put key v ms) key = some v := by
  induction ms with
  | nil => simp [put, get?_cons]
  | cons p ms ih =>
    obtain ⟨j, w⟩ := p
    by_cases h : j = key
    · simp [put, get?_cons, h]
    · have h' : ¬ key = j := fun e => h e.symm
      simp [put, get?_cons, h, h', ih]

theorem get?_put_of_ne (h : k ≠ key) : get? (put key v ms) k = get? ms k := by
  induction ms with
  | nil => simp [put, get?_cons, h]
  | cons p ms ih =>
    obtain ⟨j, w⟩ := p
    by_cases hj : j = key
    · subst hj; simp [put, get?_cons, h]
    · simp [put, get?_cons, hj, ih]

end Members

namespace Json

def ofString (s : String) : Json := .text (Text.ofString s)

def ofFields (fields : List (String × Json)) : Json :=
  .object (fields.map fun f => (Text.ofString f.1, f.2))

end Json

end ModbusRpc
