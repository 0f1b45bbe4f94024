import PluginKit.Net.Host
import PluginKit.Number.Whole
import PluginKit.Text.Base64

/-!
Web addresses: taking them apart, escaping what may not stand in them, resolving `.` and `..`, and
putting a relative address after a base. Every change of an address checks all of it again.
-/

namespace PluginKit.Net

structure Url where
  scheme : List Char
  user : List Char
  host : List Char
  port : Option Int
  path : List Char
  query : Option (List Char)
  fragment : Option (List Char)
  deriving DecidableEq

inductive UrlFault where
  | tooLong (component : Option String)
  | notPrintable (c : Char) (position : Nat)
  | host (fault : HostFault)
  | badPort (port : List Char)
  | openPath
  | doubleSlash
  | leadingColon
  | unencodable (fault : Utf8.EncodeFault)
  deriving DecidableEq

def UrlFault.message : UrlFault → String
  | .tooLong none => "URL too long"
  | .tooLong (some component) => "URL component '" ++ component ++ "' too long"
  | .notPrintable c position =>
    "Invalid non-printable ASCII character in URL, " ++ Text.quoted (String.ofList [c]) ++
      " at position " ++ toString position ++ "."
  | .host fault => fault.message
  | .badPort port => "Invalid port: " ++ LabelFault.shown port
  | .openPath => "For absolute URLs, path must be empty or begin with '/'"
  | .doubleSlash => "Relative URLs cannot have a path starting with '//'"
  | .leadingColon => "Relative URLs cannot have a path starting with ':'"
  | .unencodable fault => fault.message

/-! ## Paths -/

def resolveSegments : List (List Char) → List (List Char) → List (List Char)
  | kept, [] => kept.reverse
  | kept, segment :: rest =>
    if segment = ['.'] then resolveSegments kept rest
    else if segment = ['.', '.'] then
      match kept with
      | [] => resolveSegments [] rest
      | [[]] => resolveSegments [[]] rest
      | _ :: others => resolveSegments others rest
    else resolveSegments (segment :: kept) rest

def resolvePath (path : List Char) : List Char :=
  let segments := Text.splitAt '/' path
  if segments.any fun s => s = ['.'] || s = ['.', '.'] then
    List.intercalate ['/'] (resolveSegments [] segments)
  else path

/-! ## Parts -/

structure UrlParts where
  scheme : List Char
  authority : List Char
  path : List Char
  query : Option (List Char)
  fragment : Option (List Char)

def cut (mark : Char) (s : List Char) : List Char × Option (List Char) :=
  match s.dropWhile (· ≠ mark) with
  | _ :: rest => (s.takeWhile (· ≠ mark), some rest)
  | [] => (s, none)

def cutLast (mark : Char) (s : List Char) : Option (List Char × List Char) :=
  let tail := s.reverse.takeWhile (· ≠ mark)
  if tail.length = s.length then none
  else some (s.take (s.length - tail.length - 1), tail.reverse)

def cutScheme (s : List Char) : List Char × List Char :=
  let mark := fun (d : Char) => isAlphanumeric d || d = '+' || d = '.' || d = '-'
  let name := s.takeWhile mark
  match s.dropWhile mark with
  | ':' :: rest => if (name.head?.map Char.isAlpha).getD true then (name, rest) else ([], s)
  | _ => ([], s)

def isAuthorityEnd (c : Char) : Bool := c = '/' || c = '?' || c = '#'

def UrlParts.ofText (s : List Char) : UrlParts :=
  let (scheme, afterScheme) := cutScheme s
  let (authority, rest) := match afterScheme with
    | '/' :: '/' :: more =>
      (more.takeWhile fun c => !isAuthorityEnd c, more.dropWhile fun c => !isAuthorityEnd c)
    | more => ([], more)
  let (target, fragment) := cut '#' rest
  let (path, query) := cut '?' target
  ⟨scheme, authority, path, query, fragment⟩

def cutAuthority (s : List Char) : List Char × List Char × List Char :=
  let (user, server) := (cutLast '@' s).getD ([], s)
  let (host, rest) := match server, cutLast ']' server with
    | '[' :: _, some (inside, after) => (inside ++ [']'], after)
    | _, _ => (server.takeWhile (· ≠ ':'), server.dropWhile (· ≠ ':'))
  (user, host, match rest with | ':' :: port => port | port => port)

def defaultPort? (scheme : List Char) : Option Int :=
  match String.ofList scheme with
  | "ftp" => some 21
  | "http" => some 80
  | "https" => some 443
  | "ws" => some 80
  | "wss" => some 443
  | _ => none

def readPort (scheme port : List Char) : Except UrlFault (Option Int) :=
  if port.isEmpty then .ok none
  else match Whole.parse 10 (String.ofList port) with
    | .error _ => .error (.badPort port)
    | .ok number => .ok (if defaultPort? scheme = some number then none else some number)

def checkPath (path : List Char) (hasScheme hasAuthority : Bool) : Except UrlFault Unit :=
  if hasAuthority then
    if path.isEmpty || path.head? = some '/' then .ok () else .error .openPath
  else if hasScheme then .ok ()
  else if ['/', '/'].isPrefixOf path then .error .doubleSlash
  else if path.head? = some ':' then .error .leadingColon
  else .ok ()

def escapePart (keep : Char → Bool) (s : List Char) : Except UrlFault (List Char) :=
  match (Text.pieces s).findSome? fun piece => Utf8.encodeFault? (String.ofList piece) with
  | some fault => .error (.unencodable fault)
  | none => .ok (escape keep s)

namespace Url

def ofParts (parts : UrlParts) : Except UrlFault Url := do
  let (user, host, port) := cutAuthority parts.authority
  let user ← escapePart isUserChar user
  let host ← (writeHost host).mapError .host
  let port ← readPort parts.scheme port
  let hasAuthority := !user.isEmpty || !host.isEmpty || port.isSome
  checkPath parts.path (!parts.scheme.isEmpty) hasAuthority
  let path := if !parts.scheme.isEmpty || hasAuthority then resolvePath parts.path else parts.path
  let path ← escapePart isPathChar path
  let query ← parts.query.mapM (escapePart isQueryChar)
  let fragment ← parts.fragment.mapM (escapePart isFragmentChar)
  return ⟨parts.scheme.map Char.toLower, user, host, port, path, query, fragment⟩

def lengthLimit : Nat := 65536

def isControl (c : Char) : Bool := c.toNat < 0x20 || c.toNat = 0x7f

def parse (text : String) : Except UrlFault Url :=
  let s := text.toList
  if lengthLimit < Text.size s then .error (.tooLong none)
  else match s.find? isControl with
    | some c => .error (.notPrintable c (Text.size (s.takeWhile fun d => !isControl d)))
    | none => ofParts (UrlParts.ofText s)

def server (url : Url) : List Char :=
  (if url.host.contains ':' then '[' :: url.host ++ [']'] else url.host) ++
    match url.port with
    | some port => ':' :: (toString port).toList
    | none => []

def authority (url : Url) : List Char :=
  (if url.user.isEmpty then [] else url.user ++ ['@']) ++ url.server

def longPart? (parts : UrlParts) : Option String :=
  ([("scheme", parts.scheme), ("authority", parts.authority), ("path", parts.path),
    ("query", parts.query.getD []), ("fragment", parts.fragment.getD [])].find? fun part =>
      lengthLimit < Text.size part.2).map Prod.fst

def withParts (url : Url) (path : List Char) (query : Option (List Char)) : Except UrlFault Url :=
  let parts : UrlParts := ⟨url.scheme, url.authority, path, query, url.fragment⟩
  match longPart? parts with
  | some component => .error (.tooLong (some component))
  | none => ofParts parts

def target (url : Url) : List Char :=
  (if url.path.isEmpty then ['/'] else url.path) ++
    match url.query with
    | some query => '?' :: query
    | none => []

def withTarget (url : Url) (target : List Char) : Except UrlFault Url :=
  let (path, query) := cut '?' target
  url.withParts path query

def withQuery (url : Url) (query : Option (List Char)) : Except UrlFault Url :=
  url.withParts url.path query

def asBase (url : Url) : Except UrlFault Url :=
  if url.target.getLast? = some '/' then .ok url else url.withTarget (url.target ++ ['/'])

def join (base relative : Url) : Except UrlFault Url :=
  base.withTarget (base.target ++ relative.target.dropWhile (· = '/'))

def text (url : Url) : List Char :=
  (if url.scheme.isEmpty then [] else url.scheme ++ [':']) ++
    (if url.authority.isEmpty then [] else '/' :: '/' :: url.authority) ++ url.path ++
    (match url.query with
      | some query => '?' :: query
      | none => []) ++
    match url.fragment with
    | some fragment => '#' :: fragment
    | none => []

def credentials? (url : Url) : Option String :=
  let (name, password) := cut ':' url.user
  let secret := password.getD []
  if name.isEmpty && secret.isEmpty then none
  else some ("Basic " ++
    String.ofList (Base64.encode (unescape name ++ ':'.toNat.toUInt8 :: unescape secret)))

def bare (url : Url) : List Char :=
  let s := url.text
  let s := if ['U', 'R', 'L', ':'].isPrefixOf s then s.drop 4 else s
  if s.getLast? = some '#' then s.dropLast else s

def hasKind (url : Url) : Bool :=
  let s := url.bare
  let isName := fun (c : Char) => c ≠ '/' && c ≠ ':'
  s.head?.any isName && (s.dropWhile isName).head? = some ':'

def nameFault? (url : Url) : Option LabelFault :=
  if encodedMark.isPrefixOf url.host then
    match readDomain url.host with
    | .ok _ => none
    | .error fault => some fault
  else none

end Url

end PluginKit.Net
