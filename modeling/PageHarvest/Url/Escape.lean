import PageHarvest.Data.Plain

/-!
# Percent escapes

A character that is not allowed in a part of a URL is written as the bytes of its UTF-8 form, each
as `%` and two digits. What is allowed differs from part to part; nothing beyond ASCII is.
-/

namespace PageHarvest.Url

/-- A hexadecimal digit in capitals. -/
def hexDigit (n : Nat) : Char :=
  if n < 10 then Char.ofNat ('0'.toNat + n) else Char.ofNat ('A'.toNat + n - 10)

def escapeByte (b : UInt8) : List Char :=
  ['%', hexDigit (b.toNat / 16), hexDigit (b.toNat % 16)]

/-- The bytes of a character in UTF-8. -/
def utf8 (c : Char) : List UInt8 := (String.singleton c).toUTF8.toList

/-- Whether a character is a control or lies beyond ASCII. -/
def isControl (c : Char) : Bool := c.toNat < 0x20 || 0x7e < c.toNat

/-- Escapes the characters that are controls or in the list. -/
def escape (special : List Char) (cs : List Char) : List Char :=
  cs.flatMap fun c =>
    if isControl c || special.contains c then (utf8 c).flatMap escapeByte else [c]

/-- The characters that are escaped in a fragment. -/
def fragmentSet : List Char := [' ', '"', '<', '>', '\x60']

/-- The characters that are escaped in a path. -/
def pathSet : List Char := fragmentSet ++ ['#', '?', '\x7b', '\x7d']

/-- The characters that are escaped in a name or a password. -/
def userSet : List Char := pathSet ++ ['/', ':', ';', '=', '@', '[', '\\', ']', '^', '|']

/-- The characters that are escaped in a query. -/
def querySet : List Char := [' ', '"', '#', '<', '>']

/-- The characters that are escaped in the query of a special URL. -/
def specialQuerySet : List Char := querySet ++ ['\'']

/-- The bytes that a text with escapes stands for. -/
def unescape : List Char → List UInt8
  | '%' :: a :: b :: rest =>
    match Plain.digit? 16 a, Plain.digit? 16 b with
    | some x, some y => UInt8.ofNat (16 * x + y) :: unescape rest
    | _, _ => '%'.toUInt8 :: unescape (a :: b :: rest)
  | c :: rest => utf8 c ++ unescape rest
  | [] => []

end PageHarvest.Url
