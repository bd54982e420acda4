import ModbusRpc.Json.Basic

/-! # Issues of outside values

Values from the environment and from request bodies are checked field by field. Whatever is wrong
with them is collected as a list of issues, in the order of the fields.
-/

namespace ModbusRpc

inductive Flaw where
  | missing
  | surplus
  | notInteger
  | notIntegerText
  | fractional
  | huge
  | infinite
  | notNumber
  | notNumberText
  | notText
  | brokenText
  | emptyText
  | notObject
  | notFields
  /-- The value is not one of a few allowed texts. -/
  | notAllowed (allowed : List String)
  deriving DecidableEq, Repr

def choiceText : List String → String
  | [] => ""
  | [a] => "'" ++ a ++ "'"
  | [a, b] => "'" ++ a ++ "' or '" ++ b ++ "'"
  | a :: rest => "'" ++ a ++ "', " ++ choiceText rest

namespace Flaw

def kind : Flaw → String
  | missing => "missing"
  | surplus => "extra_forbidden"
  | notInteger => "int_type"
  | notIntegerText => "int_parsing"
  | fractional => "int_from_float"
  | huge => "int_parsing_size"
  | infinite => "finite_number"
  | notNumber => "float_type"
  | notNumberText => "float_parsing"
  | notText => "string_type"
  | brokenText => "string_unicode"
  | emptyText => "string_too_short"
  | notObject => "dict_type"
  | notFields => "model_attributes_type"
  | notAllowed _ => "literal_error"

def message : Flaw → String
  | missing => "Field required"
  | surplus => "Extra inputs are not permitted"
  | notInteger => "Input should be a valid integer"
  | notIntegerText => "Input should be a valid integer, unable to parse string as an integer"
  | fractional => "Input should be a valid integer, got a number with a fractional part"
  | huge => "Unable to parse input string as an integer, exceeded maximum size"
  | infinite => "Input should be a finite number"
  | notNumber => "Input should be a valid number"
  | notNumberText => "Input should be a valid number, unable to parse string as a number"
  | notText => "Input should be a valid string"
  | brokenText => "Input should be a valid string, unable to parse raw data as a unicode string"
  | emptyText => "String should have at least 1 character"
  | notObject => "Input should be a valid dictionary"
  | notFields => "Input should be a valid dictionary or object to extract fields from"
  | notAllowed allowed => "Input should be " ++ choiceText allowed

def context : Flaw → List (String × Json)
  | emptyText => [("min_length", .int 1)]
  | notAllowed allowed => [("expected", .ofString (choiceText allowed))]
  | _ => []

end Flaw

structure Issue where
  location : List Text
  flaw : Flaw
  input : Json

/-- A value that was checked, with the issues that were found. It is of use only if there are
none. -/
structure Checked (α : Type) where
  value : α
  issues : List Issue

namespace Checked

/-- The outcome of one check, with a value to go on with if it fails. -/
def of {α : Type} (location : List Text) (input : Json) (fallback : α) :
    Except Flaw α → Checked α
  | .ok a => ⟨a, []⟩
  | .error flaw => ⟨fallback, [⟨location, flaw, input⟩]⟩

def result {α : Type} (c : Checked α) : Except (List Issue) α :=
  if c.issues.isEmpty then .ok c.value else .error c.issues

instance : Monad Checked where
  pure a := ⟨a, []⟩
  bind c f := ⟨(f c.value).value, c.issues ++ (f c.value).issues⟩

end Checked

end ModbusRpc
