import ModbusRpc.Text.Printable

/-! # Quoted text

Text inside a message is put in quotes: single ones, or double ones when it holds a single quote
and no double quote. Backslashes, the quote in use and code points that are not printable are
escaped.
-/

namespace ModbusRpc.Text

def hexDigit (n : Nat) : Char := Nat.digitChar (n % 16)

def hexDigits : (width n : Nat) → List Char
  | 0, _ => []
  | width + 1, n => hexDigits width (n / 16) ++ [hexDigit n]

def numericEscape (n : Nat) : List Char :=
  if n < 0x100 then '\\' :: 'x' :: hexDigits 2 n
  else if n < 0x10000 then '\\' :: 'u' :: hexDigits 4 n
  else '\\' :: 'U' :: hexDigits 8 n

/-- A text as a string, in which halves of surrogate pairs are escaped. -/
def shown (t : Text) : String :=
  String.ofList (t.flatMap fun p =>
    match p with
    | .scalar c => [c]
    | .surrogate _ => numericEscape p.value)

def escape (quote : Char) (p : CodePoint) : List Char :=
  match p with
  | .surrogate _ => numericEscape p.value
  | .scalar c =>
    if c = quote ∨ c = '\\' then ['\\', c]
    else if c = '\t' then ['\\', 't']
    else if c = '\n' then ['\\', 'n']
    else if c = '\r' then ['\\', 'r']
    else if p.isPrintable then [c]
    else numericEscape p.value

def quoteFor (t : Text) : Char :=
  if t.contains (.scalar '\'') && !t.contains (.scalar '"') then '"' else '\''

def quoted (t : Text) : String :=
  let quote := t.quoteFor
  String.ofList (quote :: t.flatMap (escape quote) ++ [quote])

end ModbusRpc.Text
