import TicketGrant.Text.Utf8
import TicketGrant.Url.Basic

/-!
# Request targets

A request names its target by a URL, but not every URL can be a target. It must not be too long;
with a scheme it needs an authority; and authority, path and query allow fewer characters than URLs
do. A URL without `//` is taken for a lone authority. The fragment is not sent.
-/
namespace TicketGrant.Http

/-- Why a request cannot be built. -/
inductive RequestFault where
  | targetTooLong
  | targetCharacter
  | schemeTooLong
  | authority
  /-- Nothing follows the scheme. -/
  | targetEmpty
  /-- The target lacks its authority, or has more than an authority. -/
  | targetFormat
  | method
  | headerName
  | headerValue
deriving DecidableEq

/-- What the fault tells. -/
def RequestFault.message : RequestFault → String
  | .targetTooLong => "uri too long"
  | .targetCharacter => "invalid uri character"
  | .schemeTooLong => "scheme too long"
  | .authority => "invalid authority"
  | .targetEmpty => "empty string"
  | .targetFormat => "invalid format"
  | .method => "invalid HTTP method"
  | .headerName => "invalid HTTP header name"
  | .headerValue => "failed to parse header value"

/-- What a request is sent to, as it is written. -/
structure Target where
  text : String
deriving DecidableEq

namespace Target

/-- A target has at most this many bytes. -/
def maxSize : Nat := 65534

/-- A scheme has at most this many characters. -/
def maxScheme : Nat := 64

/-- Whether a character may stand in an authority or ends it. -/
def inAuthority (c : Char) : Bool :=
  c.isAlphanum || "!#$&'()*+,-./:;=?@[]_~".toList.contains c

/-- Whether a character ends an authority. -/
def endsAuthority (c : Char) : Bool := c == '/' || c == '?' || c == '#'

/-- Whether a character may stand in a path. -/
def inPath (c : Char) : Bool :=
  let n := c.toNat
  n == 0x21 || (0x24 ≤ n && n ≤ 0x3B) || n == 0x3D || (0x40 ≤ n && n ≤ 0x5F) ||
    (0x61 ≤ n && n ≤ 0x7A) || n == 0x7C || 0x7E ≤ n || "\x22\x7b\x7d".toList.contains c

/-- Whether a character may stand in a query. -/
def inQuery (c : Char) : Bool :=
  let n := c.toNat
  n == 0x21 || (0x24 ≤ n && n ≤ 0x3B) || n == 0x3D || 0x3F ≤ n

/-- What has been seen of an authority. -/
structure Scan where
  /-- Colons since the last `@` or `]`. -/
  colons : Nat := 0
  opened : Bool := false
  closed : Bool := false
  /-- Whether there was a `%` since the last `@` or `]`. -/
  percent : Bool := false
  /-- Whether the last character was an `@`. -/
  atSign : Bool := false

/-- Reads one character of an authority. -/
def Scan.step (s : Scan) (c : Char) : Except RequestFault Scan :=
  let s' := { s with atSign := false }
  if c = ':' then
    if 8 ≤ s.colons then .error .authority else .ok { s' with colons := s.colons + 1 }
  else if c = '[' then
    if s.percent || s.opened then .error .authority else .ok { s' with opened := true }
  else if c = ']' then
    if !s.opened || s.closed then .error .authority
    else .ok { s' with closed := true, colons := 0, percent := false }
  else if c = '@' then .ok { s with colons := 0, percent := false, atSign := true }
  else if c = '%' then .ok { s' with percent := true }
  else if inAuthority c then .ok s'
  else .error .targetCharacter

/-- Whether what was seen is a whole authority. -/
def Scan.isWhole (s : Scan) : Bool :=
  s.opened == s.closed && s.colons ≤ 1 && !s.atSign && !s.percent

/-- The authority at the start of a text, and what follows it. -/
def splitAuthority (text : List Char) : Except RequestFault (List Char × List Char) := do
  let authority := text.takeWhile (!endsAuthority ·)
  let scan ← authority.foldlM Scan.step {}
  if scan.isWhole then .ok (authority, text.drop authority.length) else .error .authority

/-- Whether a character may stand in a scheme. -/
def inScheme (c : Char) : Bool := c.isAlphanum || c == '+' || c == '-' || c == '.' || c == '~'

/-- The scheme of a text in which `://` follows it, and what comes after. -/
def splitScheme (text : List Char) : Except RequestFault (Option (List Char) × List Char) :=
  let scheme := text.takeWhile inScheme
  match text.drop scheme.length with
  | ':' :: '/' :: '/' :: rest =>
    if scheme.length ≤ maxScheme then .ok (some scheme, rest) else .error .schemeTooLong
  | _ => .ok (none, text)

/-- Path and query as they are sent: an empty path is a slash, and a fragment is left out. -/
def pathAndQuery (text : List Char) : Except RequestFault (List Char) :=
  let path := text.takeWhile fun c => c != '?' && c != '#'
  if !path.all inPath then .error .targetCharacter
  else
    let path := if path.isEmpty then ['/'] else path
    match text.dropWhile fun c => c != '?' && c != '#' with
    | '?' :: rest =>
      let query := rest.takeWhile (· != '#')
      if query.all inQuery then .ok (path ++ '?' :: query) else .error .targetCharacter
    | _ => .ok path

/-- The target of a written URL. -/
def ofText (text : String) : Except RequestFault Target := do
  if maxSize < text.utf8ByteSize then .error .targetTooLong
  else
    let (scheme, rest) ← splitScheme text.toList
    if rest.isEmpty then throw .targetEmpty
    let (authority, rest) ← splitAuthority rest
    match scheme with
    | none => if rest.isEmpty then .ok ⟨text⟩ else .error .targetFormat
    | some scheme =>
      if authority.isEmpty then .error .targetFormat
      else
        let rest ← pathAndQuery rest
        .ok ⟨String.ofList (scheme ++ ':' :: '/' :: '/' :: authority ++ rest)⟩

/-- The target of a URL. -/
def ofUrl (u : Url) : Except RequestFault Target := ofText u.render

end Target
end TicketGrant.Http
