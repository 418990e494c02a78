import TicketGrant.Encoding.Percent
import TicketGrant.Url.Address

/-!
# URLs

A URL is kept in its parsed parts, each already in its written form: lower-case scheme, escaped
user name and path, normalized host, no default port. `render` writes the parts one after another.
-/
namespace TicketGrant

/-- The host of a URL. -/
inductive Host where
  /-- A name; empty for URLs that leave the host out. -/
  | name (text : String)
  | ipv4 (address : Nat)
  | ipv6 (pieces : List Nat)
deriving DecidableEq

/-- A host as it is written. -/
def Host.render : Host → String
  | .name text => text
  | .ipv4 address => Url.Ipv4.render address
  | .ipv6 pieces => "[" ++ Url.Ipv6.render pieces ++ "]"

/-- What stands between `//` and the path. -/
structure Authority where
  username : String
  password : String
  host : Host
  port : Option Nat
deriving DecidableEq

/-- User name and password as they are written. -/
def Authority.credentials (a : Authority) : String :=
  if a.username = "" ∧ a.password = "" then ""
  else a.username ++ (if a.password = "" then "" else ":" ++ a.password) ++ "@"

/-- An authority as it is written. -/
def Authority.render (a : Authority) : String :=
  a.credentials ++ a.host.render ++
    match a.port with
    | none => ""
    | some port => ":" ++ toString port

/-- The path of a URL. -/
inductive UrlPath where
  /-- A text without structure, as after `mailto:`; such a URL is no base for other URLs. -/
  | bare (text : String)
  /-- Segments, a slash before each. -/
  | rooted (segments : List String)
deriving DecidableEq

/-- A path as it is written. -/
def UrlPath.render : UrlPath → String
  | .bare text => text
  | .rooted segments => String.join (segments.map ("/" ++ ·))

/-- Whether a path is written with two slashes at its start. -/
def UrlPath.isDoubled : UrlPath → Bool
  | .rooted ("" :: _ :: _) => true
  | _ => false

/-- A bare path loses the spaces at its end when nothing follows it any more. -/
def UrlPath.trimmed : UrlPath → UrlPath
  | .bare text => .bare (String.ofList (text.toList.reverse.dropWhile (· == ' ')).reverse)
  | path => path

/-- A parsed URL. -/
structure Url where
  scheme : String
  /-- What follows `//`, if that stands after the scheme. -/
  authority : Option Authority
  /-- Whether `/.` stands before the path. It is put there when a path begins with two slashes and
  no authority keeps them from being read as the start of one; it stays when the path changes. -/
  guarded : Bool
  path : UrlPath
  query : Option String
  fragment : Option String
deriving DecidableEq

namespace Url

/-- The part before the path. -/
def renderOrigin (u : Url) : String :=
  u.scheme ++ ":" ++
    (match u.authority with
      | some authority => "//" ++ authority.render
      | none => "") ++
    if u.guarded then "/." else ""

/-- A URL as it is written. -/
def render (u : Url) : String :=
  u.renderOrigin ++ u.path.render ++
    (match u.query with
      | none => ""
      | some query => "?" ++ query) ++
    match u.fragment with
    | none => ""
    | some fragment => "#" ++ fragment

/-- Whether the path has segments, so that others can be appended. -/
def isBase (u : Url) : Bool :=
  match u.path with
  | .bare _ => false
  | .rooted _ => true

/-- The URL without query and fragment. -/
def withoutQuery (u : Url) : Url :=
  { u with query := none, fragment := none, path := u.path.trimmed }

/-- The URL with segments appended to its path. An empty last segment, as after a final slash, makes
room for them; so does an empty first one if it is all that is left. -/
def appendSegments? (u : Url) (segments : List String) : Option Url :=
  match u.path with
  | .bare _ => none
  | .rooted old =>
    let kept := if old.getLast? = some "" then old.dropLast else old
    let kept := if kept = [""] then [] else kept
    some { u with path := .rooted (kept ++ segments) }

end Url
end TicketGrant
