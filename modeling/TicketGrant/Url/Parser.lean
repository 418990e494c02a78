import TicketGrant.Url.Basic
import TicketGrant.Url.Idna

/-!
# Reading URLs

A URL is cut at its delimiters, from the outside in: fragment, query, scheme, authority, path. Each
part is then normalized by its own rule. Schemes of the web have a default port, need a host and
treat `\` as `/`; a path after another scheme may be bare.
-/
namespace TicketGrant

/-- Why a text is no URL. -/
inductive UrlError where
  | relative
  | emptyHost
  | domainName
  | domainCharacter
  | ipv4
  | ipv6
  | port
deriving DecidableEq

/-- What the error tells. -/
def UrlError.message : UrlError → String
  | .relative => "relative URL without a base"
  | .emptyHost => "empty host"
  | .domainName => "invalid international domain name"
  | .domainCharacter => "invalid domain character"
  | .ipv4 => "invalid IPv4 address"
  | .ipv6 => "invalid IPv6 address"
  | .port => "invalid port number"

namespace Url

/-- How a scheme is treated. -/
inductive SchemeKind where
  /-- Local files: the host may be missing. -/
  | file
  /-- Schemes of the web, with a default port. -/
  | web (defaultPort : Nat)
  /-- All others. -/
  | other
deriving DecidableEq

/-- The kind of a scheme. -/
def schemeKind (scheme : String) : SchemeKind :=
  match scheme with
  | "file" => .file
  | "http" => .web 80
  | "https" => .web 443
  | "ws" => .web 80
  | "wss" => .web 443
  | "ftp" => .web 21
  | _ => .other

/-- Whether `\` counts as `/` after a scheme. -/
def SchemeKind.isSpecial : SchemeKind → Bool
  | .other => false
  | _ => true

/-- Whether a character ends a segment. -/
def SchemeKind.isSlash (kind : SchemeKind) (c : Char) : Bool :=
  c == '/' || (kind.isSpecial && c == '\\')

/-! ### What may stand unescaped -/

/-- Visible ASCII and the space. -/
def isPlain (c : Char) : Bool := 0x20 ≤ c.toNat && c.toNat < 0x7F

/-- In a fragment. -/
def inFragment (c : Char) : Bool := isPlain c && !([' ', '\x22', '<', '>', '\x60'].contains c)

/-- In a path with segments. -/
def inPath (c : Char) : Bool := inFragment c && !(['#', '?', '\x7b', '\x7d'].contains c)

/-- In a user name or a password. -/
def inCredentials (c : Char) : Bool :=
  inPath c && !(['/', ':', ';', '=', '@', '[', '\\', ']', '^', '|'].contains c)

/-- In a query. -/
def inQuery (kind : SchemeKind) (c : Char) : Bool :=
  isPlain c && !([' ', '\x22', '#', '<', '>'].contains c) && !(kind.isSpecial && c == '\x27')

/-- The escaped form of a text. -/
def escaped (allowed : Char → Bool) (text : List Char) : String :=
  String.ofList (Percent.encode allowed text)

/-! ### Hosts -/

/-- The characters that a host of another scheme must not hold. -/
def isForbiddenInHost (c : Char) : Bool :=
  c == '\x00' || c == '\t' || c == '\n' || c == '\x0d' || " #/:<>?@[\\]^|".toList.contains c

/-- An address in square brackets. -/
def bracketed (text : List Char) : Except UrlError Host :=
  if text.getLast? ≠ some ']' then .error .ipv6
  else
    match Ipv6.parse? text.dropLast with
    | some pieces => .ok (.ipv6 pieces)
    | none => .error .ipv6

/-- The host of a web URL. -/
def parseHost (text : List Char) : Except UrlError Host :=
  match text with
  | '[' :: rest => bracketed rest
  | _ =>
    match Utf8.decode? (Percent.decode (Utf8.encode (String.ofList text))) >>= Idna.toAscii? with
    | none => .error .domainName
    | some name =>
      if name = "" then .error .emptyHost
      else if Ipv4.isMeant name.toList then
        match Ipv4.parse? name.toList with
        | some address => .ok (.ipv4 address)
        | none => .error .ipv4
      else .ok (.name name)

/-- The host of a URL with another scheme. -/
def parseOtherHost (text : List Char) : Except UrlError Host :=
  match text with
  | '[' :: rest => bracketed rest
  | _ =>
    if text.any isForbiddenInHost then .error .domainCharacter
    else .ok (.name (escaped isPlain text))

/-! ### Authorities -/

/-- What stands before and after the last `@`. -/
def splitCredentials (text : List Char) : Option (List Char) × List Char :=
  let after := (text.reverse.takeWhile (· != '@')).reverse
  if after.length = text.length then (none, text)
  else (some (text.take (text.length - after.length - 1)), after)

/-- The host's text and what follows it: a colon ends the host, except between brackets. -/
def splitHost (inBrackets : Bool) : List Char → List Char × List Char
  | [] => ([], [])
  | c :: rest =>
    if c = ':' ∧ !inBrackets then ([], c :: rest)
    else
      let inBrackets := if c = '[' then true else if c = ']' then false else inBrackets
      let (host, after) := splitHost inBrackets rest
      (c :: host, after)

/-- The port after a colon, and what follows it. A slash of either kind ends it. -/
def parsePort (kind : SchemeKind) (text : List Char) : Except UrlError (Option Nat × List Char) :=
  match text with
  | ':' :: rest =>
    let digits := rest.takeWhile Char.isDigit
    let after := rest.drop digits.length
    match number? 10 digits, after.head?.all (fun c => c == '/' || c == '\\') with
    | some port, true =>
      if port > 65535 then .error .port
      else if digits.isEmpty ∨ kind = .web port then .ok (none, after)
      else .ok (some port, after)
    | _, _ => .error .port
  | _ => .ok (none, text)

/-- The authority, and what follows it before the path. `more` tells whether anything of the URL
follows the authority. -/
def parseAuthority (kind : SchemeKind) (text : List Char) (more : Bool) :
    Except UrlError (Authority × List Char) := do
  let (credentials, rest) := splitCredentials text
  if credentials = some [] ∧ rest.isEmpty ∧ more then throw .emptyHost
  let user := credentials.getD []
  let username := escaped inCredentials (user.takeWhile (· != ':'))
  let password := escaped inCredentials ((user.dropWhile (· != ':')).drop 1)
  let (hostText, rest) := splitHost false rest
  if hostText.isEmpty ∧ kind.isSpecial then throw .emptyHost
  let host ← if kind.isSpecial then parseHost hostText else parseOtherHost hostText
  if host = .name "" ∧ (rest.head? = some ':' ∨ username ≠ "" ∨ password ≠ "") then
    throw .emptyHost
  let (port, rest) ← parsePort kind rest
  return (⟨username, password, host, port⟩, rest)

/-! ### Paths -/

/-- A segment, its escaped points written as points. -/
def dots (segment : String) : String :=
  String.ofList (go segment.toList)
where
  go : List Char → List Char
    | '%' :: '2' :: 'e' :: rest => '.' :: go rest
    | '%' :: '2' :: 'E' :: rest => '.' :: go rest
    | c :: rest => c :: go rest
    | [] => []

/-- Whether a text is a letter and a colon or a bar, the name of a drive. -/
def isDrive (segment : List Char) : Bool :=
  match segment with
  | [c, mark] => c.isAlpha && (mark == ':' || mark == '|')
  | _ => false

/-- Whether a character is skipped wherever it stands. -/
def isSkipped (c : Char) : Bool := c == '\t' || c == '\n' || c == '\x0d'

/-- What counts of a text: no tabs and no line ends. -/
def significant (text : List Char) : List Char := text.filter (!isSkipped ·)

/-- Whether a segment that starts with a drive goes on after a tab or a line end. Only a drive with
a colon counts. -/
def breaksAfterDrive (segment : List Char) : Bool :=
  match significant segment with
  | letter :: ':' :: _ :: _ =>
    letter.isAlpha && ((segment.dropWhile (· != ':')).drop 1).head?.any isSkipped
  | _ => false

/-- What has been read of a path. -/
structure PathSoFar where
  /-- The segments, last first. -/
  segments : List String := []
  /-- Whether a drive was found at the start of the path of a file. -/
  onDrive : Bool := false

/-- Reads one more segment. A point stays where it is, two points go back by one; neither is kept,
but at the end of the path both leave an empty segment. A drive is never gone back from. The first
segment of a file's path may be a drive, which is written with a colon; if a tab or a line end
follows a drive that had its colon, the rest is a segment of its own, whatever it is. -/
def PathSoFar.push (path : PathSoFar) (kind : SchemeKind) (segment : List Char) (isLast : Bool) :
    PathSoFar :=
  let inner := significant segment
  let text := escaped inPath inner
  let close := fun (kept : List String) =>
    { path with segments := if isLast then "" :: kept else kept }
  if dots text = ".." then
    match path.segments with
    | [] => close []
    | previous :: rest => close (if isDrive previous.toList then path.segments else rest)
  else if dots text = "." then close path.segments
  else if kind = .file ∧ path.segments.isEmpty ∧ isDrive inner then
    { segments := [String.ofList (inner.take 1 ++ [':'])], onDrive := true }
  else if kind = .file ∧ path.segments.isEmpty ∧ breaksAfterDrive segment then
    { path with segments := [escaped inPath (inner.drop 2), String.ofList (inner.take 2)] }
  else { path with segments := text :: path.segments }

/-- Reads all segments. -/
def PathSoFar.pushAll (path : PathSoFar) (kind : SchemeKind) : List (List Char) → PathSoFar
  | [] => path
  | [last] => path.push kind last true
  | segment :: rest => (path.push kind segment false).pushAll kind rest

/-- The pieces of a text between slashes. -/
def splitSlashes (kind : SchemeKind) (text : List Char) : List (List Char) :=
  let step := fun (c : Char) (acc : List Char × List (List Char)) =>
    if kind.isSlash c then ([], acc.1 :: acc.2) else (c :: acc.1, acc.2)
  let (first, rest) := text.foldr step ([], [])
  first :: rest

/-- A text without the slash at its start, if one stands there. -/
def dropSlash (kind : SchemeKind) (text : List Char) : List Char :=
  match text with
  | c :: rest => if kind.isSlash c then rest else text
  | [] => []

/-- The segments of a path. -/
def parsePath (kind : SchemeKind) (text : List Char) : List String :=
  (PathSoFar.pushAll {} kind (splitSlashes kind (dropSlash kind text))).segments.reverse

/-- The segments of a file's path, none of them empty at its start, and whether a drive was found
there. -/
def parseFilePath (text : List Char) : UrlPath × Bool :=
  let path := PathSoFar.pushAll {} .file (splitSlashes .file text)
  let kept := path.segments.reverse.dropWhile (· == "")
  (.rooted (if kept.isEmpty then [""] else kept), path.onDrive)

/-! ### URLs -/

/-- What stands before a character, and what after it if it occurs. -/
def cutAt (c : Char) (text : List Char) : List Char × Option (List Char) :=
  (text.takeWhile (· != c), ((text.dropWhile (· != c)).tail?))

/-- The scheme in lower case, and what follows its colon. -/
def splitScheme (text : List Char) : Option (String × List Char) :=
  let name := significant (text.takeWhile (· != ':'))
  match name, text.dropWhile (· != ':') with
  | c :: rest, _ :: after =>
    if c.isAlpha ∧ rest.all (fun d => d.isAlphanum || "+-.".toList.contains d) then
      some (String.ofList (name.map Char.toLower), after)
    else none
  | _, _ => none

/-- What follows a slash at the start of a text, tabs and line ends aside. -/
def afterSlash? (kind : SchemeKind) (text : List Char) : Option (List Char) :=
  match text.dropWhile isSkipped with
  | c :: rest => if kind.isSlash c then some rest else none
  | [] => none

/-- Authority and path of a file. The host may be missing, and a drive is never a host. A drive at
the start of the path takes the place of the host. Where there is no host, the slash after it is
part of the path, so that no drive stands at the start. -/
def parseFile (text : List Char) : Except UrlError (Authority × UrlPath) := do
  let noHost : Authority := ⟨"", "", .name "", none⟩
  match afterSlash? .file text with
  | none => return (noHost, (parseFilePath text).1)
  | some inner =>
    match afterSlash? .file inner with
    | none => return (noHost, (parseFilePath inner).1)
    | some rest =>
      let name := rest.takeWhile (!SchemeKind.file.isSlash ·)
      let path := rest.drop name.length
      let hostText := significant name
      if isDrive hostText then return (noHost, (parseFilePath rest).1)
      let host ← if hostText.isEmpty then pure (.name "") else parseHost hostText
      if host = .name "" ∨ host = .name "localhost" then return (noHost, (parseFilePath path).1)
      let (path, onDrive) := parseFilePath (dropSlash .file path)
      return (if onDrive then noHost else { noHost with host }, path)

/-- Authority and path of a URL. -/
def parseHierarchy (kind : SchemeKind) (text : List Char) (more : Bool) :
    Except UrlError (Option Authority × UrlPath) := do
  match kind with
  | .file =>
    let (authority, path) ← parseFile text
    return (some authority, path)
  | .web _ =>
    let text := (significant text).dropWhile kind.isSlash
    let name := text.takeWhile (!kind.isSlash ·)
    let path := text.drop name.length
    let (authority, rest) ← parseAuthority kind name (more || !path.isEmpty)
    return (some authority, .rooted (parsePath kind (rest ++ path)))
  | .other =>
    let text := significant text
    match text with
    | '/' :: '/' :: text =>
      let name := text.takeWhile (· != '/')
      let path := text.drop name.length
      let (authority, rest) ← parseAuthority kind name (more || !path.isEmpty)
      let path := rest ++ path
      return (some authority, .rooted (if path.isEmpty then [] else parsePath kind path))
    | '/' :: _ => return (none, .rooted (parsePath kind text))
    | _ => return (none, .bare (escaped isPlain text))

/-- Whether a character is dropped from both ends of a URL. -/
def isMargin (c : Char) : Bool := c.toNat ≤ 0x20

/-- A text without its margins. -/
def withoutMargins (text : String) : List Char :=
  let inner := text.toList.dropWhile isMargin
  (inner.reverse.dropWhile isMargin).reverse

/-- Reads a URL. -/
def parse (text : String) : Except UrlError Url := do
  match splitScheme (withoutMargins text) with
  | none => throw .relative
  | some (scheme, rest) =>
    let kind := schemeKind scheme
    let (rest, fragment) := cutAt '#' rest
    let (rest, query) := cutAt '?' rest
    let (authority, path) ← parseHierarchy kind rest (query.isSome || fragment.isSome)
    return {
      scheme, authority, path
      guarded := authority.isNone && path.isDoubled
      query := query.map fun text => escaped (inQuery kind) (significant text)
      fragment := fragment.map fun text => escaped inFragment (significant text) }

/-- The URL that a text writes, if any. -/
def parse? (text : String) : Option Url := (parse text).toOption

end Url
end TicketGrant
