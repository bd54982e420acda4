import ModbusRpc.Text.Basic

/-! # Blanks around values

Values from the environment may be surrounded by white space. The members of the class are the
code points with the Unicode property of that name.
-/

namespace ModbusRpc

def isBlank (c : Char) : Bool :=
  let n := c.toNat
  (0x09 ≤ n && n ≤ 0x0D) || n = 0x20 || n = 0x85 || n = 0xA0 || n = 0x1680 ||
    (0x2000 ≤ n && n ≤ 0x200A) || n = 0x2028 || n = 0x2029 || n = 0x202F || n = 0x205F ||
    n = 0x3000

def isBlankOrSeparator (c : Char) : Bool := isBlank c || (0x1C ≤ c.toNat && c.toNat ≤ 0x1F)

def isAsciiBlank (c : Char) : Bool := c.toNat < 0x80 && isBlankOrSeparator c

def trimWith (blank : Char → Bool) (cs : List Char) : List Char :=
  ((cs.dropWhile blank).reverse.dropWhile blank).reverse

end ModbusRpc
