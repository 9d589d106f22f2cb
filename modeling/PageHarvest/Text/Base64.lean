/-!
# Base 64

Bytes as text: three bytes are four signs of six bits each. Two bytes and one byte are filled up
with `=`.
-/

namespace PageHarvest.Text

/-- The sign of six bits. -/
def base64Sign (n : Nat) : Char :=
  if n < 26 then Char.ofNat ('A'.toNat + n)
  else if n < 52 then Char.ofNat ('a'.toNat + n - 26)
  else if n < 62 then Char.ofNat ('0'.toNat + n - 52)
  else if n = 62 then '+'
  else '/'

/-- The signs of three bytes together, from the highest bits on. -/
def base64Signs (n : Nat) : List Char :=
  [base64Sign (n / Nat.pow 2 18 % 64), base64Sign (n / Nat.pow 2 12 % 64),
    base64Sign (n / Nat.pow 2 6 % 64), base64Sign (n % 64)]

def base64Chars : List UInt8 → List Char
  | a :: b :: c :: rest =>
    base64Signs (a.toNat * Nat.pow 2 16 + b.toNat * Nat.pow 2 8 + c.toNat) ++ base64Chars rest
  | [a, b] => (base64Signs (a.toNat * Nat.pow 2 16 + b.toNat * Nat.pow 2 8)).take 3 ++ ['=']
  | [a] => (base64Signs (a.toNat * Nat.pow 2 16)).take 2 ++ ['=', '=']
  | [] => []

def base64 (bytes : List UInt8) : String := String.ofList (base64Chars bytes)

end PageHarvest.Text
