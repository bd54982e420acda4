import ModbusRpc.Decimal.Nearest
import ModbusRpc.Text.Blank
import ModbusRpc.Validation.Issue

/-! # Numbers written as text

An integer may have a sign, zeros in front, single underscores between its digits and a fraction of
zeros. What follows the zeros in front is read as an integer of its own, so that it may bring a
minus sign too. The text of a number with a fraction or an exponent may hold single underscores
anywhere but at its ends, if there are no blanks around it.
-/

namespace ModbusRpc.Validation

def splitFirst (stop : Char → Bool) (cs : List Char) : List Char × Option (List Char) :=
  match cs.dropWhile fun c => !stop c with
  | [] => (cs, none)
  | _ :: rest => (cs.takeWhile fun c => !stop c, some rest)

def hasDoubled : List Char → Bool
  | '_' :: '_' :: _ => true
  | _ :: rest => hasDoubled rest
  | [] => false

/-- A text without its underscores, if they are single and not at its ends. -/
def joinGroups (cs : List Char) : List Char :=
  if cs.head? = some '_' ∨ cs.getLast? = some '_' ∨ hasDoubled cs then cs
  else cs.filter (· ≠ '_')

/-! ## Integers -/

def maxDigits : Nat := 4300

def splitMinus : List Char → Bool × List Char
  | '-' :: rest => (true, rest)
  | cs => (false, cs)

/-- The digits that a text begins with, a minus sign aside, unless the first is zero. -/
def leadingDigits (cs : List Char) : List Char :=
  let digits := (splitMinus cs).2.takeWhile Char.isDigit
  if digits.head? = some '0' then [] else digits

def isPlain : List Char → Bool
  | [] => false
  | ['0'] => true
  | c :: cs => c ≠ '0' && (c :: cs).all Char.isDigit

def plainInteger? (cs : List Char) : Option Int :=
  let (negative, digits) := splitMinus cs
  if isPlain digits && digits.length ≤ maxDigits then
    let n : Int := Decimal.ofDigits digits
    some (if negative then -n else n)
  else none

/-- What is left behind zeros and underscores. `last` is the last of them, which is kept in front of
a point and at the end. -/
def behindZeros (last : Char) : List Char → Option (List Char)
  | [] => some [last]
  | c :: cs =>
    if c = '0' ∨ c = '_' then behindZeros c cs
    else if c.isDigit ∨ c = '-' then some (c :: cs)
    else if c = '.' then some (last :: c :: cs)
    else none

def dropZeros : List Char → Option (List Char)
  | [] => none
  | c :: cs =>
    if c = '0' then behindZeros c cs else if c.isDigit then some (c :: cs) else none

def dropFraction (cs : List Char) : List Char :=
  match splitFirst (· = '.') cs with
  | (whole, some fraction) =>
    if !fraction.isEmpty && fraction.all (· = '0') then whole else cs
  | (_, none) => cs

def tidyBody (cs : List Char) : Option (List Char) :=
  (dropZeros cs).map fun body => joinGroups (dropFraction body)

/-- An integer brought to the plain form if it can be. -/
def tidy (cs : List Char) : Option (List Char) :=
  match trimWith isBlank cs with
  | '-' :: body => (tidyBody body).map ('-' :: ·)
  | '+' :: body => tidyBody body
  | body => tidyBody body

/-- The integer that a text writes. One that begins with too many digits counts as too large,
whatever follows them. -/
def integerOfText (cs : List Char) : Except Flaw Int :=
  if maxDigits < (leadingDigits cs).length then .error .huge
  else ((tidy cs).bind plainInteger?).elim (.error .notIntegerText) .ok

/-! ## Numbers with fractions -/

def splitSign : List Char → Bool × List Char
  | '-' :: rest => (true, rest)
  | '+' :: rest => (false, rest)
  | cs => (false, cs)

def exponentOfText (cs : List Char) : Option Int :=
  let (negative, digits) := splitSign cs
  if digits.isEmpty || !digits.all Char.isDigit then none
  else
    let n : Int := Decimal.ofDigits digits
    some (if negative then -n else n)

def decimalOfText (negative : Bool) (cs : List Char) : Option Decimal := do
  let (mantissa, exponent?) := splitFirst (fun c => c = 'e' || c = 'E') cs
  let (whole, fraction?) := splitFirst (· = '.') mantissa
  let fraction := fraction?.getD []
  let digits := whole ++ fraction
  if digits.isEmpty || !digits.all Char.isDigit then none
  let exponent : Int ← match exponent? with
    | none => some 0
    | some e => exponentOfText e
  some ⟨negative, Decimal.ofDigits digits, exponent - fraction.length⟩

def plainFloat? (cs : List Char) : Option Float :=
  let (negative, body) := splitSign cs
  let name := String.ofList (body.map Char.toLower)
  if name = "inf" ∨ name = "infinity" then
    some (Float.ofBits (if negative then 0xFFF0000000000000 else 0x7FF0000000000000))
  else if name = "nan" then some (Float.ofBits 0x7FF8000000000000)
  else (decimalOfText negative body).map Decimal.toFloat

/-- The number that a text writes, with blanks around it or with underscores in it. -/
def floatOfText (cs : List Char) : Option Float :=
  (plainFloat? (trimWith isBlank cs)).or (plainFloat? (joinGroups cs))

end ModbusRpc.Validation
