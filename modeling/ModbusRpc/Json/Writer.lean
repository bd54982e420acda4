import ModbusRpc.Decimal.Notation
import ModbusRpc.Json.Basic
import ModbusRpc.Text.Quoted

/-! # Writing JSON

The compact form uses ASCII only: other code points are written by the numbers of their sixteen-bit
units. The display form is the one used inside messages, where texts are quoted for reading.
-/

namespace ModbusRpc.Json

/-- Numbers in the compact form. Those that are not finite have the names that the reader knows. -/
def numberNotation : FloatNotation :=
  { plainNotation with infinity := "Infinity", notANumber := "NaN" }

def unitEscape (n : Nat) : List Char := '\\' :: 'u' :: Text.hexDigits 4 n

def writePoint (p : CodePoint) : List Char :=
  let n := p.value
  if n = 0x22 ∨ n = 0x5C then ['\\', Char.ofNat n]
  else if 0x20 ≤ n ∧ n < 0x7F then [Char.ofNat n]
  else if n < 0x10000 then unitEscape n
  else unitEscape (0xD800 + (n - 0x10000) / 0x400) ++ unitEscape (0xDC00 + (n - 0x10000) % 0x400)

def writeText (t : Text) : String := String.ofList ('"' :: t.flatMap writePoint ++ ['"'])

mutual

def write : Json → String
  | null => "null"
  | bool b => if b then "true" else "false"
  | int n => toString n
  | float x => numberNotation.render x
  | text t => writeText t
  | array items => "[" ++ String.intercalate "," (writeItems items) ++ "]"
  | object members => "\x7b" ++ String.intercalate "," (writeMembers members) ++ "\x7d"

def writeItems : List Json → List String
  | [] => []
  | v :: vs => write v :: writeItems vs

def writeMembers : List (Text × Json) → List String
  | [] => []
  | (k, v) :: ms => (writeText k ++ ":" ++ write v) :: writeMembers ms

end

mutual

def display : Json → String
  | null => "None"
  | bool b => if b then "True" else "False"
  | int n => toString n
  | float x => plainNotation.render x
  | text t => t.quoted
  | array items => "[" ++ String.intercalate ", " (displayItems items) ++ "]"
  | object members => "\x7b" ++ String.intercalate ", " (displayMembers members) ++ "\x7d"

def displayItems : List Json → List String
  | [] => []
  | v :: vs => display v :: displayItems vs

def displayMembers : List (Text × Json) → List String
  | [] => []
  | (k, v) :: ms => (k.quoted ++ ": " ++ display v) :: displayMembers ms

end

end ModbusRpc.Json
