import ModbusRpc.Decimal.Nearest
import ModbusRpc.Json.Basic

/-! # Reading JSON

The reader goes through a text once and stops at the first fault, which it reports with the position
of the code point in question. Next to the standard grammar it knows the numbers `NaN`, `Infinity`
and `-Infinity`. Nesting and the length of integers are limited.
-/

namespace ModbusRpc.Json

inductive SyntaxFault where
  | expectedValue
  | expectedKey
  | expectedColon
  | expectedComma
  | extraData
  | unterminatedString
  | controlCharacter
  | badEscape
  | badUnicodeEscape
  deriving DecidableEq, Repr

namespace SyntaxFault

def message : SyntaxFault → String
  | expectedValue => "Expecting value"
  | expectedKey => "Expecting property name enclosed in double quotes"
  | expectedColon => "Expecting ':' delimiter"
  | expectedComma => "Expecting ',' delimiter"
  | extraData => "Extra data"
  | unterminatedString => "Unterminated string starting at"
  | controlCharacter => "Invalid control character at"
  | badEscape => "Invalid \\escape"
  | badUnicodeEscape => "Invalid \\uXXXX escape"

end SyntaxFault

inductive ReadFault where
  | malformed (fault : SyntaxFault) (position : Nat)
  | tooDeep
  | tooManyDigits
  deriving DecidableEq, Repr

structure Limits where
  depth : Nat
  intDigits : Nat

namespace Reader

/-- Inside the reader a position is given by how many code points are left there. -/
inductive Stop where
  | malformed (fault : SyntaxFault) (left : Nat)
  | tooDeep
  | tooManyDigits

def fail {α : Type} (fault : SyntaxFault) (rest : Text) : Except Stop α :=
  .error (.malformed fault rest.length)

def isSpace : CodePoint → Bool
  | .scalar c => c = ' ' || c = '\t' || c = '\n' || c = '\r'
  | .surrogate _ => false

def skipSpace (t : Text) : Text := t.dropWhile isSpace

def hexValue? : CodePoint → Option Nat
  | .surrogate _ => none
  | .scalar c =>
    if c.isDigit then some (c.toNat - '0'.toNat)
    else if 'a' ≤ c ∧ c ≤ 'f' then some (c.toNat - 'a'.toNat + 10)
    else if 'A' ≤ c ∧ c ≤ 'F' then some (c.toNat - 'A'.toNat + 10)
    else none

/-- The sixteen-bit unit written by four digits, which may not end the text. -/
def unit? : Text → Option (Nat × Text)
  | a :: b :: c :: d :: p :: rest => do
    let a ← hexValue? a
    let b ← hexValue? b
    let c ← hexValue? c
    let d ← hexValue? d
    some (((a * 16 + b) * 16 + c) * 16 + d, p :: rest)
  | _ => none

/-- The code point of a high surrogate `n` and a low one that is escaped right after it. -/
def joined? (n : Nat) : Text → Option (CodePoint × Text)
  | .scalar '\\' :: .scalar 'u' :: rest => do
    let (low, rest) ← unit? rest
    if 0xD800 ≤ n ∧ n < 0xDC00 ∧ 0xDC00 ≤ low ∧ low < 0xE000 then
      let p ← CodePoint.ofNat? (0x10000 + (n - 0xD800) * 0x400 + (low - 0xDC00))
      some (p, rest)
    else none
  | _ => none

def escaped? : CodePoint → Option Char
  | .scalar '"' => some '"'
  | .scalar '\\' => some '\\'
  | .scalar '/' => some '/'
  | .scalar 'b' => some '\x08'
  | .scalar 'f' => some '\x0c'
  | .scalar 'n' => some '\n'
  | .scalar 'r' => some '\r'
  | .scalar 't' => some '\t'
  | _ => none

/-- Reads a string behind its opening quote, at which `start` begins; `done` is reversed. -/
def readText (start : Text) : Nat → Text → Text → Except Stop (Text × Text)
  | 0, _, _ => fail .unterminatedString start
  | fuel + 1, done, t =>
    match t with
    | [] => fail .unterminatedString start
    | .scalar '"' :: rest => .ok (done.reverse, rest)
    | .scalar '\\' :: [] => fail .unterminatedString start
    | .scalar '\\' :: .scalar 'u' :: rest =>
      match unit? rest with
      | none => fail .badUnicodeEscape (.scalar 'u' :: rest)
      | some (n, rest') =>
        match joined? n rest' with
        | some (p, rest'') => readText start fuel (p :: done) rest''
        | none =>
          match CodePoint.ofNat? n with
          | some p => readText start fuel (p :: done) rest'
          | none => fail .badUnicodeEscape (.scalar 'u' :: rest)
    | .scalar '\\' :: p :: rest =>
      match escaped? p with
      | some c => readText start fuel (.scalar c :: done) rest
      | none => fail .badEscape t
    | p :: rest =>
      if p.value < 0x20 then fail .controlCharacter t else readText start fuel (p :: done) rest

def digitOf? : CodePoint → Option Char
  | .scalar c => if c.isDigit then some c else none
  | .surrogate _ => none

def spanDigits : Text → List Char × Text
  | [] => ([], [])
  | p :: rest =>
    match digitOf? p with
    | some c => let (ds, tail) := spanDigits rest; (c :: ds, tail)
    | none => ([], p :: rest)

def spanFraction : Text → List Char × Text
  | .scalar '.' :: rest =>
    match spanDigits rest with
    | ([], _) => ([], .scalar '.' :: rest)
    | (ds, tail) => (ds, tail)
  | rest => ([], rest)

def exponent? : Text → Option (Int × Text)
  | .scalar e :: rest =>
    if e = 'e' ∨ e = 'E' then
      let (negative, rest) := match rest with
        | .scalar '-' :: rest => (true, rest)
        | .scalar '+' :: rest => (false, rest)
        | rest => (false, rest)
      match spanDigits rest with
      | ([], _) => none
      | (ds, tail) =>
        let n := Decimal.ofDigits ds
        some (if negative then -n else n, tail)
    else none
  | _ => none

def spanWhole : Text → List Char × Text
  | .scalar '0' :: rest => (['0'], rest)
  | rest => spanDigits rest

/-- Reads a number. Without fraction and exponent it is an integer. -/
def readNumber (limits : Limits) (t : Text) : Except Stop (Json × Text) :=
  let (negative, body) := match t with
    | .scalar '-' :: rest => (true, rest)
    | rest => (false, rest)
  match spanWhole body with
  | ([], _) => fail .expectedValue t
  | (whole, rest) =>
    let (fraction, rest) := spanFraction rest
    let (exponent, rest) := match exponent? rest with
      | some (n, rest) => (some n, rest)
      | none => (none, rest)
    if fraction = [] ∧ exponent = none then
      if limits.intDigits < whole.length then .error .tooManyDigits
      else
        let n : Int := Decimal.ofDigits whole
        .ok (.int (if negative then -n else n), rest)
    else
      let d : Decimal :=
        ⟨negative, Decimal.ofDigits (whole ++ fraction), exponent.getD 0 - fraction.length⟩
      .ok (.float d.toFloat, rest)

def words : List (String × Json) := [
  ("null", .null), ("true", .bool true), ("false", .bool false),
  ("NaN", .float (Float.ofBits 0x7FF8000000000000)),
  ("Infinity", .float (Float.ofBits 0x7FF0000000000000)),
  ("-Infinity", .float (Float.ofBits 0xFFF0000000000000))]

def readPlain (limits : Limits) (t : Text) : Except Stop (Json × Text) :=
  match words.find? fun w => (Text.ofString w.1).isPrefixOf t with
  | some (w, v) => .ok (v, t.drop w.length)
  | none => readNumber limits t

mutual

/-- Reads the value at the head of a text, `depth` levels inside others. -/
def readValue (limits : Limits) : Nat → Nat → Text → Except Stop (Json × Text)
  | 0, _, t => fail .expectedValue t
  | fuel + 1, depth, t =>
    match t with
    | .scalar '"' :: rest => do
      let (s, rest) ← readText t fuel [] rest
      .ok (.text s, rest)
    | .scalar '[' :: rest =>
      if limits.depth ≤ depth then .error .tooDeep
      else
        match skipSpace rest with
        | .scalar ']' :: rest => .ok (.array [], rest)
        | rest => readItems limits fuel (depth + 1) [] rest
    | .scalar '\x7b' :: rest =>
      if limits.depth ≤ depth then .error .tooDeep
      else
        match skipSpace rest with
        | .scalar '\x7d' :: rest => .ok (.object [], rest)
        | rest => readMembers limits fuel (depth + 1) [] rest
    | _ => readPlain limits t

def readItems (limits : Limits) : Nat → Nat → List Json → Text → Except Stop (Json × Text)
  | 0, _, _, t => fail .expectedValue t
  | fuel + 1, depth, done, t => do
    let (v, rest) ← readValue limits fuel depth t
    match skipSpace rest with
    | .scalar ']' :: rest => .ok (.array (v :: done).reverse, rest)
    | .scalar ',' :: rest => readItems limits fuel depth (v :: done) (skipSpace rest)
    | rest => fail .expectedComma rest

def readMembers (limits : Limits) : Nat → Nat → Members → Text → Except Stop (Json × Text)
  | 0, _, _, t => fail .expectedKey t
  | fuel + 1, depth, done, t =>
    match t with
    | .scalar '"' :: rest => do
      let (key, rest) ← readText t fuel [] rest
      match skipSpace rest with
      | .scalar ':' :: rest =>
        let (v, rest) ← readValue limits fuel depth (skipSpace rest)
        match skipSpace rest with
        | .scalar '\x7d' :: rest => .ok (.object (done.put key v), rest)
        | .scalar ',' :: rest =>
          readMembers limits fuel depth (done.put key v) (skipSpace rest)
        | rest => fail .expectedComma rest
      | rest => fail .expectedColon rest
    | _ => fail .expectedKey t

end

/-- Reads one value with white space around it. A value takes no more steps than twice the number
of its code points. -/
def readWhole (limits : Limits) (t : Text) : Except Stop Json := do
  let (v, rest) ← readValue limits (2 * t.length + 2) 0 (skipSpace t)
  match skipSpace rest with
  | [] => .ok v
  | rest => fail .extraData rest

end Reader

def read (limits : Limits) (t : Text) : Except ReadFault Json :=
  match Reader.readWhole limits t with
  | .ok v => .ok v
  | .error (.malformed fault left) => .error (.malformed fault (t.length - left))
  | .error .tooDeep => .error .tooDeep
  | .error .tooManyDigits => .error .tooManyDigits

end ModbusRpc.Json
