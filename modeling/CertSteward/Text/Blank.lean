/-!
# Blank characters

The characters with the Unicode property White_Space, and what is left of a
text when they are cut off at both ends.
-/

namespace CertSteward.Text

set_option autoImplicit false

def isBlank (c : Char) : Bool :=
  let n := c.toNat
  (0x09 ≤ n && n ≤ 0x0D) || n == 0x20 || n == 0x85 || n == 0xA0 || n == 0x1680 ||
    (0x2000 ≤ n && n ≤ 0x200A) || n == 0x2028 || n == 0x2029 || n == 0x202F ||
    n == 0x205F || n == 0x3000

/-- Without its leading and trailing blanks. -/
def trim (text : String) : String :=
  let cut := text.toList.dropWhile isBlank
  String.ofList (cut.reverse.dropWhile isBlank).reverse

end CertSteward.Text
