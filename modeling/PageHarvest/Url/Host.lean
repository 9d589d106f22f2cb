import PageHarvest.Text.Blank
import PageHarvest.Text.Search
import PageHarvest.Url.Escape
import PageHarvest.Url.Name.Basic

/-!
# Hosts

A host is a name or an address. Names of special URLs are in lower case and in ASCII; one whose
last part is a number is an address of four bytes.
-/

namespace PageHarvest.Url

/-- Why a text is no URL. -/
inductive Problem
  | emptyHost
  | badName
  | badPort
  | badIpv4
  | badIpv6
  | badHostCharacter
  | noBase
  | opaqueBase
  deriving DecidableEq, Repr

def Problem.message : Problem → String
  | emptyHost => "empty host"
  | badName => "invalid international domain name"
  | badPort => "invalid port number"
  | badIpv4 => "invalid IPv4 address"
  | badIpv6 => "invalid IPv6 address"
  | badHostCharacter => "invalid domain character"
  | noBase => "relative URL without a base"
  | opaqueBase => "relative URL with a cannot-be-a-base base"

inductive Host
  | name (s : String)
  | ipv4 (address : Nat)
  | ipv6 (pieces : List Nat)
  deriving DecidableEq, Repr

namespace Host

open Text

def splitDots (cs : List Char) : List (List Char) := splitChars (· == '.') cs

/-! ## Addresses of four bytes -/

/-- A number in an address, to base ten, eight after `0` or sixteen after `0x`. -/
def ipv4Number? (cs : List Char) : Option Nat :=
  let read (base : Nat) (ds : List Char) : Option Nat :=
    if ds.isEmpty then some 0 else Plain.digits? base ds
  match cs with
  | [] => none
  | '0' :: 'x' :: ds => read 16 ds
  | '0' :: 'X' :: ds => read 16 ds
  | '0' :: d :: ds => read 8 (d :: ds)
  | ds => read 10 ds

def endsInNumber (cs : List Char) : Bool :=
  let parts := (splitDots cs).reverse
  let last := match parts with
    | [] :: before :: _ => before
    | last :: _ => last
    | [] => []
  (!last.isEmpty && last.all isAsciiDigit) || (ipv4Number? last).isSome

/-- The address of its numbers; the last one fills the bytes that are left. -/
def ipv4OfNumbers? (ns : List Nat) : Option Nat :=
  match ns.reverse with
  | [] => none
  | last :: before =>
    let k := before.length
    if 4 ≤ k ∨ Nat.pow 2 (8 * (4 - k)) ≤ last ∨ before.any (255 < ·) then none
    else some (before.reverse.zipIdx.foldl (fun n p => n + p.1 * Nat.pow 2 (8 * (3 - p.2))) last)

def readIpv4? (cs : List Char) : Option Nat := do
  let parts := splitDots cs
  let parts := if parts.getLast? == some [] then parts.dropLast else parts
  ipv4OfNumbers? (← parts.mapM ipv4Number?)

/-! ## Addresses of sixteen bytes -/

/-- A piece of one to four digits. -/
def piece? (cs : List Char) : Option Nat :=
  if 4 < cs.length then none else Plain.digits? 16 cs

/-- A byte in decimal without leading zeros. -/
def byte? (cs : List Char) : Option Nat :=
  if Plain.isPadded cs then none else (Plain.digits? 10 cs).filter (· ≤ 255)

/-- Four bytes as two pieces. -/
def bytePieces? (cs : List Char) : Option (List Nat) := do
  match ← (splitDots cs).mapM byte? with
  | [a, b, c, d] => return [256 * a + b, 256 * c + d]
  | _ => none

/-- Pieces between colons; the last one may be four bytes. -/
def pieces? : List (List Char) → Option (List Nat)
  | [] => some []
  | [last] =>
    if last.contains '.' then bytePieces? last else (piece? last).map fun n => [n]
  | first :: rest => do
    let n ← piece? first
    return n :: (← pieces? rest)

/-- What stands around the first `::`. -/
def splitDoubleColon? : List Char → Option (List Char × List Char)
  | ':' :: ':' :: rest => some ([], rest)
  | c :: rest => (splitDoubleColon? rest).map fun r => (c :: r.1, r.2)
  | [] => none

def piecesOf? (cs : List Char) : Option (List Nat) :=
  if cs.isEmpty then some [] else pieces? (splitChars (· == ':') cs)

def readIpv6? (cs : List Char) : Option (List Nat) :=
  match splitDoubleColon? cs with
  | some (left, right) => do
    if left.contains '.' then none
    let before ← piecesOf? left
    let after ← piecesOf? right
    let k := before.length + after.length
    if 7 < k then none else return before ++ List.replicate (8 - k) 0 ++ after
  | none => (piecesOf? cs).filter fun ns => ns.length = 8

/-! ## Names -/

/-- The characters that no name may have. -/
def isForbidden (c : Char) : Bool :=
  c.toNat ≤ 0x20 ||
    ['#', '/', ':', '<', '>', '?', '@', '[', '\\', ']', '^', '|', '%', '\x7f'].contains c

/-- A name in lower case and in ASCII. -/
def asciiName? (cs : List Char) : Option (List Char) :=
  (Name.toAscii? cs).filter fun ascii => !ascii.any isForbidden

/-- The text of bytes in UTF-8; none if they are no text. -/
def textOfBytes? (bytes : List UInt8) : Option (List Char) :=
  (String.fromUTF8? ⟨bytes.toArray⟩).map String.toList

/-! ## Reading and writing -/

def orFail {α : Type} (p : Problem) : Option α → Except Problem α
  | some a => .ok a
  | none => .error p

/-- An address in brackets, after the opening one. -/
def readBracketed (cs : List Char) : Except Problem Host :=
  orFail .badIpv6 (((dropBack? [']'] cs).bind readIpv6?).map .ipv6)

/-- The host of a special URL. -/
def read (cs : List Char) : Except Problem Host :=
  match cs with
  | '[' :: rest => readBracketed rest
  | cs => do
    let plain ← orFail .badName (textOfBytes? (unescape cs))
    let name ← orFail .badName (asciiName? plain)
    if name.isEmpty then throw .emptyHost
    if endsInNumber name then orFail .badIpv4 ((readIpv4? name).map .ipv4)
    else return .name (String.ofList name)

/-- The host of a URL that is not special. -/
def readOther (cs : List Char) : Except Problem Host :=
  match cs with
  | '[' :: rest => readBracketed rest
  | cs =>
    let isBad (c : Char) : Bool :=
      ['\x00', '\t', '\n', '\r', ' ', '#', '/', ':', '<', '>', '?', '@', '[', '\\', ']', '^',
        '|'].contains c
    if cs.any isBad then .error .badHostCharacter
    else .ok (.name (String.ofList (escape [] cs)))

def ipv4Text (address : Nat) : String :=
  ".".intercalate
    ([Nat.pow 2 24, Nat.pow 2 16, Nat.pow 2 8, 1].map fun k => toString (address / k % 256))

/-- The length of the run of zeros at the start. -/
def zeros (ns : List Nat) : Nat := (ns.takeWhile (· == 0)).length

/-- The place and length of the longest run of zeros, the first of equal ones. -/
def longestZeros (ns : List Nat) : Nat × Nat :=
  (List.range ns.length).foldl
    (fun best i => if best.2 < zeros (ns.drop i) then (i, zeros (ns.drop i)) else best) (0, 0)

def pieceText (n : Nat) : String := String.ofList (Nat.toDigits 16 n)

def ipv6Text (pieces : List Nat) : String :=
  let text (ns : List Nat) : String := ":".intercalate (ns.map pieceText)
  let (i, k) := longestZeros pieces
  if k < 2 then text pieces else text (pieces.take i) ++ "::" ++ text (pieces.drop (i + k))

def text : Host → String
  | name s => s
  | ipv4 address => ipv4Text address
  | ipv6 pieces => "[" ++ ipv6Text pieces ++ "]"

end Host

end PageHarvest.Url
