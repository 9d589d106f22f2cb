import PageHarvest.Url.Host

/-!
# URLs

A URL has a scheme, a path, and, if it has a host, a user and a port. The path of a URL without a
host may be opaque: a text without structure, to which no relative reference can be resolved.
-/

namespace PageHarvest.Url

/-- The schemes whose URLs have a host and a path with slashes, and their ports. -/
def specialPorts : List (String × Option Nat) :=
  [("http", some 80), ("https", some 443), ("ws", some 80), ("wss", some 443), ("ftp", some 21),
    ("file", none)]

def isSpecial (scheme : String) : Bool := (specialPorts.lookup scheme).isSome

def defaultPort? (scheme : String) : Option Nat := (specialPorts.lookup scheme).join

/-- Who asks, where and at which port. -/
structure Authority where
  user : String
  password : String
  host : Host
  port : Option Nat
  deriving DecidableEq, Repr

end PageHarvest.Url

namespace PageHarvest

structure Url where
  scheme : String
  authority : Option Url.Authority
  /-- The path as it is written, with its slashes. -/
  path : String
  query : Option String
  fragment : Option String
  deriving DecidableEq, Repr

namespace Url

def Authority.text (a : Authority) : String :=
  let password := if a.password = "" then "" else ":" ++ a.password
  let user := if a.user = "" ∧ a.password = "" then "" else a.user ++ password ++ "@"
  let port := match a.port with
    | some n => ":" ++ toString n
    | none => ""
  user ++ a.host.text ++ port

/-- Whether the path is opaque. -/
def isOpaque (u : Url) : Bool := u.authority.isNone && !Text.startsWith u.path "/"

/-- The scheme, the authority and the path. A path that would be taken for an authority gets `/.`
in front. -/
def hierarchy (u : Url) : String :=
  u.scheme ++ ":" ++ match u.authority with
    | some a => "//" ++ a.text ++ u.path
    | none => if Text.startsWith u.path "//" then "/." ++ u.path else u.path

def optionalPart (mark : String) : Option String → String
  | some s => mark ++ s
  | none => ""

/-- The URL as a text. -/
def text (u : Url) : String :=
  u.hierarchy ++ optionalPart "?" u.query ++ optionalPart "#" u.fragment

/-- The URL without its fragment. An opaque path that would then end the URL loses the spaces at
its end. -/
def withoutFragment (u : Url) : Url :=
  let path :=
    if u.isOpaque && u.query.isNone then
      String.ofList (u.path.toList.reverse.dropWhile (· == ' ')).reverse
    else u.path
  { u with path, fragment := none }

end Url

end PageHarvest
