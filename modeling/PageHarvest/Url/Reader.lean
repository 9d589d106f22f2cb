import PageHarvest.Text.Blank
import PageHarvest.Url.Basic

/-!
# Reading URLs

`read` takes a whole URL, `join` a reference relative to another URL. Controls and spaces around
the text do not count, nor do tabs and line ends inside it. In special URLs a backslash is a slash.
-/

namespace PageHarvest.Url

open Text

/-- What reading depends on. -/
inductive SchemeKind
  | file
  | special
  | other
  deriving DecidableEq

def SchemeKind.of (scheme : String) : SchemeKind :=
  if scheme = "file" then .file else if isSpecial scheme then .special else .other

def SchemeKind.isSpecial : SchemeKind → Bool
  | file | special => true
  | other => false

def isSlash (c : Char) : Bool := c = '/' || c = '\\'

/-- Whether a character separates the parts of a path. -/
def SchemeKind.isSeparator (k : SchemeKind) (c : Char) : Bool :=
  c = '/' || (k.isSpecial && c = '\\')

def isTail (c : Char) : Bool := c = '?' || c = '#'

/-! ## Query and fragment -/

def readFragment (cs : List Char) : String := String.ofList (escape fragmentSet cs)

def readQuery (k : SchemeKind) (cs : List Char) : String :=
  String.ofList (escape (if k.isSpecial then specialQuerySet else querySet) cs)

/-- The query and the fragment of a text that starts with their marks. -/
def readTail (k : SchemeKind) (cs : List Char) : Option String × Option String :=
  match cs with
  | '?' :: rest =>
    let fragment := match rest.dropWhile (· != '#') with
      | _ :: f => some (readFragment f)
      | [] => none
    (some (readQuery k (rest.takeWhile (· != '#'))), fragment)
  | '#' :: rest => (none, some (readFragment rest))
  | _ => (none, none)

/-! ## Paths -/

def isSingleDot (cs : List Char) : Bool := [".", "%2e"].contains (asciiLower (String.ofList cs))

def isDoubleDot (cs : List Char) : Bool :=
  ["..", "%2e.", ".%2e", "%2e%2e"].contains (asciiLower (String.ofList cs))

/-- A letter and a colon or a bar. -/
def isDrive : List Char → Bool
  | [a, b] => isAsciiLetter a && (b = ':' || b = '|')
  | _ => false

/-- A letter and a colon. -/
def isNormalDrive : List Char → Bool
  | [a, ':'] => isAsciiLetter a
  | _ => false

/-- Whether a path starts with a drive. -/
def startsWithDrive : List Char → Bool
  | a :: b :: rest =>
    isDrive [a, b] && (match rest with
      | c :: _ => isSlash c || isTail c
      | [] => true)
  | _ => false

def endsWithSlash (path : List Char) : Bool := path.getLast? == some '/'

/-- The path up to and with its last slash. -/
def upToSlash (path : List Char) : List Char := (path.reverse.dropWhile (· != '/')).reverse

/-- What follows the last slash. -/
def afterSlash (path : List Char) : List Char := (path.reverse.takeWhile (· != '/')).reverse

/-- The path without its last part; a drive stays. -/
def dropLastPart (k : SchemeKind) (path : List Char) : List Char :=
  if k = .file && isNormalDrive (afterSlash path) then path else upToSlash path

/-- The path without its last slash, unless that is the only one or a drive stands before it. -/
def dropLastSlash (path : List Char) : List Char :=
  let before := path.dropLast
  if endsWithSlash path && before.contains '/' && !startsWithDrive (afterSlash before) then before
  else path

def withSlash (path : List Char) : List Char :=
  if endsWithSlash path then path else path ++ ['/']

/-- The path one level up. -/
def goUp (k : SchemeKind) (path : List Char) : List Char :=
  if path.isEmpty then path else dropLastPart k (dropLastSlash path)

/-- Adds a part to a path; `isLast` tells that no separator follows it. -/
def addPart (k : SchemeKind) (path part : List Char) (isLast : Bool) : List Char :=
  if isDoubleDot part then
    let up := goUp k path
    if isLast then up else withSlash up
  else if isSingleDot part then withSlash path
  else
    let part := match part with
      | [a, b] => if k = .file && path = ['/'] && isDrive [a, b] then [a, ':'] else part
      | _ => part
    path ++ part ++ (if isLast then [] else ['/'])

/-- Adds the parts of a text to a path, up to the query or the fragment. Every turn but the last
takes a separator. -/
def readParts (k : SchemeKind) : Nat → List Char → List Char → List Char × List Char
  | 0, path, cs => (path, cs)
  | fuel + 1, path, cs =>
    let ends (c : Char) : Bool := k.isSeparator c || isTail c
    let part := escape pathSet (cs.takeWhile fun c => !ends c)
    match cs.dropWhile fun c => !ends c with
    | c :: rest =>
      if k.isSeparator c then readParts k fuel (addPart k path part false) rest
      else (addPart k path part true, c :: rest)
    | [] => (addPart k path part true, [])

/-- The path after the parts of a text, and what follows them. The path of a file starts with one
slash. -/
def readPath (k : SchemeKind) (path cs : List Char) : List Char × List Char :=
  let (path, rest) := readParts k (cs.length + 1) path cs
  if k = .file then ('/' :: path.dropWhile (· == '/'), rest) else (path, rest)

/-- The path right after an authority. -/
def readPathStart (k : SchemeKind) (cs : List Char) : List Char × List Char :=
  match cs with
  | c :: rest =>
    if k.isSpecial then readPath k ['/'] (if isSlash c then rest else c :: rest)
    else if isTail c then ([], c :: rest)
    else if c = '/' then readPath k ['/'] rest
    else readPath k ['/'] (c :: rest)
  | [] => if k.isSpecial then readPath k ['/'] [] else ([], [])

/-! ## Authorities -/

/-- What stands around the last `@` in front of the host. -/
def splitUser (k : SchemeKind) (cs : List Char) : Option (List Char) × List Char :=
  let isEnd (c : Char) : Bool := k.isSeparator c || isTail c
  let front := cs.takeWhile fun c => !isEnd c
  if front.contains '@' then
    let host := (front.reverse.takeWhile (· != '@')).reverse
    (some (front.take (front.length - host.length - 1)), host ++ cs.drop front.length)
  else (none, cs)

/-- The name and the password in front of a host. -/
def readUser (cs : List Char) : String × String :=
  let form (cs : List Char) : String := String.ofList (escape userSet cs)
  match splitOnce? ':' cs with
  | some (user, password) => (form user, form password)
  | none => (form cs, "")

/-- What stands in front of the port or the path; a colon in brackets does not end it. -/
def splitHost (k : SchemeKind) (isInside : Bool) : List Char → List Char × List Char
  | [] => ([], [])
  | c :: rest =>
    if (c = ':' && !isInside) || k.isSeparator c || isTail c then ([], c :: rest)
    else
      let isInside := if c = '[' then true else if c = ']' then false else isInside
      let (host, rest) := splitHost k isInside rest
      (c :: host, rest)

/-- A port after its colon: none if it is empty or the one that the scheme has anyway. -/
def readPort (scheme : String) (cs : List Char) :
    Except Problem (Option Nat × List Char) :=
  let ds := cs.takeWhile isAsciiDigit
  let rest := cs.dropWhile isAsciiDigit
  let isEnd := match rest with
    | c :: _ => isSlash c || isTail c
    | [] => true
  let n := ds.foldl (fun n c => 10 * n + (c.toNat - '0'.toNat)) 0
  if 65535 < n || !isEnd then .error .badPort
  else if ds.isEmpty || defaultPort? scheme = some n then .ok (none, rest)
  else .ok (some n, rest)

/-- The host and the port. -/
def readHostAndPort (scheme : String) (cs : List Char) :
    Except Problem (Host × Option Nat × List Char) := do
  let k := SchemeKind.of scheme
  let (hostText, rest) := splitHost k false cs
  if hostText.isEmpty && (k.isSpecial || rest.head? = some ':') then throw .emptyHost
  let host ← if k.isSpecial then Host.read hostText else Host.readOther hostText
  match rest with
  | ':' :: rest => do
    let (port, rest) ← readPort scheme rest
    return (host, port, rest)
  | rest => return (host, none, rest)

/-- The URL of a scheme from its authority on. -/
def readAuthority (scheme : String) (cs : List Char) : Except Problem Url := do
  let k := SchemeKind.of scheme
  let (userText, rest) := splitUser k cs
  let endsHost : Bool := match rest with
    | c :: _ => k.isSeparator c || isTail c
    | [] => false
  if userText = some [] && endsHost then throw .emptyHost
  let (user, password) := readUser (userText.getD [])
  let (host, port, rest) ← readHostAndPort scheme rest
  if host = .name "" ∧ (user ≠ "" ∨ password ≠ "") then throw .emptyHost
  let (path, rest) := readPathStart k rest
  let (query, fragment) := readTail k rest
  return ⟨scheme, some ⟨user, password, host, port⟩, String.ofList path, query, fragment⟩

/-! ## References -/

/-- A URL with a new path, and with the tail that the text goes on with. -/
def withPath (u : Url) (k : SchemeKind) (r : List Char × List Char) : Url :=
  let (query, fragment) := readTail k r.2
  { u with path := String.ofList r.1, query, fragment }

/-- The URL with a new query and fragment. -/
def withTail (u : Url) (k : SchemeKind) (cs : List Char) : Url :=
  let (query, fragment) := readTail k cs
  { u with query, fragment }

/-- A reference without a scheme, relative to a URL with a path that has slashes. -/
def readRelative (base : Url) (cs : List Char) : Except Problem Url :=
  let k := SchemeKind.of base.scheme
  match cs with
  | [] => .ok { base with fragment := none }
  | '?' :: _ => .ok (withTail base k cs)
  | '#' :: rest => .ok { base with fragment := some (readFragment rest) }
  | c :: rest =>
    if isSlash c then
      if 2 ≤ (cs.takeWhile isSlash).length then
        match dropFront? ['/', '/'] cs with
        | some after => readAuthority base.scheme after
        | none => readAuthority base.scheme (cs.dropWhile isSlash)
      else .ok (withPath base k (readPath k ['/'] rest))
    else
      let path := dropLastPart k base.path.toList
      let path := if path.isEmpty then ['/'] else path
      .ok (withPath base k (readPath k path cs))

/-- The host of the URL of a file; a drive is none. -/
def readFileHost (cs : List Char) : Except Problem (Host × List Char) :=
  let isEnd (c : Char) : Bool := isSlash c || isTail c
  let text := cs.takeWhile fun c => !isEnd c
  if text.isEmpty || isDrive text then
    .ok (.name "", cs)
  else do
    let host ← Host.read text
    return (if host = .name "localhost" then .name "" else host, cs.drop text.length)

/-- The URL of a file after its scheme. Without a host, the slash in front of the path counts as a
part of it, so that a drive after it keeps its bar. -/
def readFile (base : Option Url) (cs : List Char) : Except Problem Url :=
  let bare : Url := ⟨"file", some ⟨"", "", .name "", none⟩, "", none, none⟩
  match cs with
  | c :: d :: rest =>
    if isSlash c && isSlash d then do
      let (host, after) ← readFileHost rest
      let isBare := host = .name "" && after.head?.any isSlash
      let (path, rest) := if isBare then readPath .file ['/'] after else readPathStart .file after
      let host := if startsWithDrive (path.drop 1) then .name "" else host
      return withPath { bare with authority := some ⟨"", "", host, none⟩ } .file (path, rest)
    else readSingle bare c (d :: rest)
  | c :: rest => readSingle bare c rest
  | [] =>
    match base with
    | some b => .ok { b with fragment := none }
    | none => .ok { bare with path := "/" }
where
  /-- A text that does not start with two slashes. -/
  readSingle (bare : Url) (c : Char) (rest : List Char) : Except Problem Url :=
    let fresh (u : Url) (cs : List Char) : Except Problem Url :=
      .ok (withPath u .file (readPath .file ['/'] cs))
    if isSlash c then
      match base with
      | some b =>
        let drive := (b.path.toList.drop 1).takeWhile (· != '/')
        if startsWithDrive rest then fresh bare rest
        else if isNormalDrive drive then
          .ok (withPath bare .file (readPath .file ('/' :: drive ++ ['/']) rest))
        else fresh { bare with authority := b.authority } rest
      | none => fresh bare rest
    else
      match base with
      | some b =>
        if c = '?' then .ok (withTail b .file (c :: rest))
        else if c = '#' then .ok { b with fragment := some (readFragment rest) }
        else if startsWithDrive (c :: rest) then fresh bare (c :: rest)
        else
          .ok (withPath b .file
            (readPath .file (dropLastPart .file b.path.toList) (c :: rest)))
      | none => fresh bare (c :: rest)

/-- A URL of a scheme that is not special, after the scheme. -/
def readOtherScheme (scheme : String) (cs : List Char) : Except Problem Url :=
  let bare : Url := ⟨scheme, none, "", none, none⟩
  match cs with
  | '/' :: '/' :: rest => readAuthority scheme rest
  | '/' :: rest => .ok (withPath bare .other (readPath .other ['/'] rest))
  | cs =>
    .ok (withPath bare .other
      (escape [] (cs.takeWhile fun c => !isTail c), cs.dropWhile fun c => !isTail c))

/-! ## Whole texts -/

def isSchemeChar (c : Char) : Bool :=
  isAsciiLetter c || isAsciiDigit c || c = '+' || c = '-' || c = '.'

/-- The scheme at the start of a text, in lower case, and what follows its colon. -/
def splitScheme? (cs : List Char) : Option (String × List Char) :=
  match cs.dropWhile isSchemeChar with
  | ':' :: rest =>
    let scheme := cs.takeWhile isSchemeChar
    if (scheme.head?.map isAsciiLetter).getD false then
      some (asciiLower (String.ofList scheme), rest)
    else none
  | _ => none

/-- The characters that count. -/
def cleaned (s : String) : List Char :=
  let isAround (c : Char) : Bool := c.toNat ≤ 0x20
  let trimmed := ((s.toList.dropWhile isAround).reverse.dropWhile isAround).reverse
  trimmed.filter fun c => c != '\t' && c != '\n' && c != '\r'

/-- A text with a scheme. -/
def readWithScheme (base : Option Url) (scheme : String) (cs : List Char) : Except Problem Url :=
  match SchemeKind.of scheme with
  | .file => readFile (base.filter fun b => b.scheme == "file") cs
  | .special =>
    match base with
    | some b =>
      if (cs.takeWhile isSlash).length < 2 && b.scheme == scheme then readRelative b cs
      else readAuthority scheme (cs.dropWhile isSlash)
    | none => readAuthority scheme (cs.dropWhile isSlash)
  | .other => readOtherScheme scheme cs

/-- A text, relative to a base if there is one. -/
def readAgainst (base : Option Url) (s : String) : Except Problem Url :=
  let cs := cleaned s
  match splitScheme? cs, base with
  | some (scheme, rest), base => readWithScheme base scheme rest
  | none, none => .error .noBase
  | none, some b =>
    match cs with
    | '#' :: rest => .ok { b with fragment := some (readFragment rest) }
    | cs =>
      if b.isOpaque then .error .opaqueBase
      else if b.scheme = "file" then readFile (some b) cs
      else readRelative b cs

/-- The URL that a text denotes by itself. -/
def read (s : String) : Except Problem Url := readAgainst none s

/-- The URL that a text denotes on the page of another URL. -/
def join (base : Url) (s : String) : Except Problem Url := readAgainst (some base) s

end PageHarvest.Url
