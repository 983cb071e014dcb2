import SessionLayer.Text.Hex

/-!
# Percent encoding

A character that may not stand for itself is written as its bytes in UTF-8, each after a percent sign
with two hexadecimal digits in upper case. Which ASCII characters that applies to depends on where the
text stands; characters beyond ASCII are always encoded, and a percent sign never is.
-/

set_option autoImplicit false

namespace SessionLayer.Text

/-- One byte in encoded form. -/
def percentByte (b : UInt8) : List Char :=
  ['%', upperHexDigit (b.toNat / 16), upperHexDigit (b.toNat % 16)]

/-- Whether `c` is an ASCII control character. -/
def isControl (c : Char) : Bool :=
  c.toNat < 0x20 || c.toNat == 0x7F

/-- Whether `c` is encoded in a place where the characters in `reserved` may not stand. -/
def needsEncoding (reserved : List Char) (c : Char) : Bool :=
  0x80 ≤ c.toNat || isControl c || reserved.contains c

/-- A text in encoded form. -/
def percentEncode (reserved : List Char) (text : List Char) : List Char :=
  text.flatMap fun c =>
    if needsEncoding reserved c then (String.utf8EncodeChar c).flatMap percentByte else [c]

end SessionLayer.Text
