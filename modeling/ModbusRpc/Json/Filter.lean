import ModbusRpc.Json.Basic

/-! # Leaving out members

A value can be cut down to the members that may be shown, at every depth.
-/

namespace ModbusRpc.Json

mutual

/-- A value without the members, at any depth, whose keys `keep` does not accept. -/
def filterKeys (keep : Text → Bool) : Json → Json
  | array items => array (filterItems keep items)
  | object members => object (filterMembers keep members)
  | v => v

def filterItems (keep : Text → Bool) : List Json → List Json
  | [] => []
  | v :: vs => filterKeys keep v :: filterItems keep vs

def filterMembers (keep : Text → Bool) : List (Text × Json) → List (Text × Json)
  | [] => []
  | (k, v) :: ms =>
    if keep k then (k, filterKeys keep v) :: filterMembers keep ms else filterMembers keep ms

end

end ModbusRpc.Json
