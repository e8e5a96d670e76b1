import EndpointRouting.Url.Host

/-!
# URLs

An absolute URL is read into its parts and written in its normal form.
-/

namespace EndpointRouting

/-- The path of a URL: one opaque text, or segments between slashes. -/
inductive Url.Path where
  | opaqueText (text : List Char)
  | segments (segments : List (List Char))
  deriving DecidableEq, Repr

structure Url where
  scheme : List Char
  username : List Char := []
  password : Option (List Char) := none
  host : Option Url.Host := none
  port : Option Nat := none
  path : Url.Path
  query : Option (List Char) := none
  fragment : Option (List Char) := none
  deriving DecidableEq, Repr

namespace Url

/-- The schemes with a structure of their own. -/
inductive SchemeKind where
  | file
  | special (port : Nat)
  | other
  deriving DecidableEq, Repr

def SchemeKind.of (scheme : List Char) : SchemeKind :=
  match String.ofList scheme with
  | "http" | "ws" => .special 80
  | "https" | "wss" => .special 443
  | "ftp" => .special 21
  | "file" => .file
  | _ => .other

def SchemeKind.isSpecial : SchemeKind → Bool
  | .other => false
  | _ => true

/-- What separates the segments of a path. -/
def SchemeKind.isSlash (k : SchemeKind) (c : Char) : Bool := c == '/' || (k.isSpecial && c == '\\')

/-- The input without control characters and spaces around it, and without tabs and newlines. -/
def clean (cs : List Char) : List Char :=
  let outer (c : Char) := c.toNat ≤ 0x20
  ((cs.dropWhile outer).reverse.dropWhile outer).reverse.filter
    fun c => c != '\t' && c != '\n' && c != '\r'

/-- The scheme in lower case, and what follows its colon. -/
def readScheme (cs : List Char) : Option (List Char × List Char) :=
  let isSchemeChar (c : Char) := c.isAlphanum || c == '+' || c == '-' || c == '.'
  match cs.dropWhile isSchemeChar with
  | ':' :: rest =>
    if cs.head?.any Char.isAlpha then some ((cs.takeWhile isSchemeChar).map Char.toLower, rest)
    else none
  | _ => none

/-! ### Paths -/

def isDot (segment : List Char) : Bool :=
  ["." , "%2e"].contains (String.ofList (segment.map Char.toLower))

def isDoubleDot (segment : List Char) : Bool :=
  ["..", ".%2e", "%2e.", "%2e%2e"].contains (String.ofList (segment.map Char.toLower))

/-- A letter and a colon, which name a drive. -/
def isDrive : List Char → Bool
  | [a, ':'] => a.isAlpha
  | _ => false

def isLooseDrive : List Char → Bool
  | [a, b] => a.isAlpha && (b == ':' || b == '|')
  | _ => false

/-- The segments without the last one; a drive alone stays. -/
def shorten (file : Bool) (segments : List (List Char)) : List (List Char) :=
  match segments with
  | [only] => if file && isDrive only then [only] else []
  | segments => segments.dropLast

/-- Adds segments in order, resolving dots. -/
def resolve (file : Bool) : List (List Char) → List (List Char) → List (List Char)
  | path, [] => path
  | path, segment :: rest =>
    let path :=
      if isDoubleDot segment then
        shorten file path ++ (if rest.isEmpty then [[]] else [])
      else if isDot segment then
        path ++ (if rest.isEmpty then [[]] else [])
      else if file && path.isEmpty && isLooseDrive segment then
        [segment.take 1 ++ [':']]
      else path ++ [segment]
    resolve file path rest

/-- The pieces of a text between the characters that satisfy `p`. -/
def splitAt (p : Char → Bool) : List Char → List (List Char)
  | [] => [[]]
  | c :: rest =>
    if p c then [] :: splitAt p rest
    else match splitAt p rest with
      | piece :: pieces => (c :: piece) :: pieces
      | [] => [[c]]

/-- The segments of a path that starts with a slash, or is to start with one. -/
def readSegments (k : SchemeKind) (cs : List Char) : List (List Char) :=
  let body := match cs with
    | c :: rest => if k.isSlash c then rest else cs
    | [] => []
  let pieces := (splitAt k.isSlash body).map (·.flatMap (percentEncode inPath))
  let segments := resolve (k == .file) [] pieces
  if k == .file then
    match segments.dropWhile List.isEmpty with
    | [] => [[]]
    | segments => segments
  else segments

/-! ### Parts -/

/-- The path, the query and the fragment. -/
structure Tail where
  path : List Char
  query : Option (List Char)
  fragment : Option (List Char)

def splitTail (cs : List Char) : Tail :=
  let path := cs.takeWhile fun c => c != '?' && c != '#'
  let rest := cs.drop path.length
  match rest with
  | '?' :: rest =>
    let query := rest.takeWhile (· != '#')
    match rest.drop query.length with
    | '#' :: fragment => ⟨path, some query, some fragment⟩
    | _ => ⟨path, some query, none⟩
  | '#' :: fragment => ⟨path, none, some fragment⟩
  | _ => ⟨path, none, none⟩

def Tail.fill (k : SchemeKind) (t : Tail) (u : Url) : Url :=
  let inQuery := if k.isSpecial then inSpecialQuery else inQuery
  { u with
    query := t.query.map (·.flatMap (percentEncode inQuery))
    fragment := t.fragment.map (·.flatMap (percentEncode inFragment)) }

/-- The text up to the first slash, question mark or hash, and the rest. -/
def splitAuthority (k : SchemeKind) (cs : List Char) : List Char × List Char :=
  let inside (c : Char) := !k.isSlash c && c != '?' && c != '#'
  (cs.takeWhile inside, cs.dropWhile inside)

/-- The text before the last at sign and the text after it. -/
def splitUserInfo (authority : List Char) : Option (List Char) × List Char :=
  let host := (authority.reverse.takeWhile (· != '@')).reverse
  if host.length = authority.length then (none, authority)
  else (some (authority.take (authority.length - host.length - 1)), host)

/-- The host and the text after its colon; a colon in brackets does not count. A backslash ends
the port even where it does not separate segments. -/
def splitPort : Bool → List Char → List Char × Option (List Char)
  | _, [] => ([], none)
  | inside, c :: rest =>
    if c == ':' && !inside then ([], some rest)
    else
      let (host, port) := splitPort (c == '[' || (inside && c != ']')) rest
      (c :: host, port)

def readPort (k : SchemeKind) (cs : List Char) : Except UrlError (Option Nat) :=
  let n := cs.foldl (fun n d => n * 10 + (d.toNat - 48)) 0
  if !cs.all Char.isDigit || 65535 < n then .error .invalidPort
  else if cs.isEmpty || k == .special n then .ok none
  else .ok (some n)

/-- A URL with an authority, after its two slashes. -/
def readAuthority (k : SchemeKind) (scheme cs : List Char) : Except UrlError Url := do
  let (authority, rest) := splitAuthority k cs
  let (info, hostPort) := splitUserInfo authority
  if info == some [] && hostPort.isEmpty && !rest.isEmpty then .error .emptyHost
  let encode := List.flatMap (percentEncode inUserInfo)
  let info := info.getD []
  let username := encode (info.takeWhile (· != ':'))
  let password := encode ((info.dropWhile (· != ':')).drop 1)
  let (hostText, portAndMore) := splitPort false hostPort
  let portText := portAndMore.map (·.takeWhile (· != '\\'))
  let rest := (portAndMore.getD []).dropWhile (· != '\\') ++ rest
  if k.isSpecial && hostText.isEmpty then .error .emptyHost
  let host ← if k.isSpecial then Host.readDomain hostText else Host.readOpaque hostText
  let empty := host.write.isEmpty
  if empty && portText.isSome then .error .emptyHost
  let port ← match portText with
    | some text => readPort k text
    | none => .ok none
  let password := if password.isEmpty then none else some password
  if empty && (!username.isEmpty || password.isSome) then .error .emptyHost
  let tail := splitTail rest
  let path := if !k.isSpecial && tail.path.isEmpty then [] else readSegments k tail.path
  .ok (tail.fill k
    { scheme, username, password, host := some host, port, path := .segments path })

def readFile (scheme cs : List Char) : Except UrlError Url := do
  match cs with
  | a :: b :: rest =>
    if SchemeKind.file.isSlash a && SchemeKind.file.isSlash b then
      let (hostText, after) := splitAuthority .file rest
      if isLooseDrive hostText then
        let tail := splitTail rest
        .ok (tail.fill .file
          { scheme, host := some (.domain []), path := .segments (readSegments .file tail.path) })
      else
        let host ← if hostText.isEmpty then .ok (Host.domain []) else Host.readDomain hostText
        let tail := splitTail after
        let path := readSegments .file tail.path
        let host := if host == .domain "localhost".toList || path.head?.any isDrive then .domain []
          else host
        .ok (tail.fill .file { scheme, host := some host, path := .segments path })
    else plain cs
  | _ => plain cs
where
  plain (cs : List Char) : Except UrlError Url :=
    let tail := splitTail cs
    .ok (tail.fill .file
      { scheme, host := some (.domain []), path := .segments (readSegments .file tail.path) })

/-- Reads an absolute URL. -/
def read (text : String) : Except UrlError Url :=
  match readScheme (clean text.toList) with
  | none => .error .relative
  | some (scheme, rest) =>
    match SchemeKind.of scheme with
    | .file => readFile scheme rest
    | .special port =>
      let kind := SchemeKind.special port
      readAuthority kind scheme (rest.dropWhile kind.isSlash)
    | .other =>
      match rest with
      | '/' :: '/' :: rest => readAuthority .other scheme rest
      | '/' :: _ =>
        let tail := splitTail rest
        .ok (tail.fill .other { scheme, path := .segments (readSegments .other tail.path) })
      | _ =>
        let tail := splitTail rest
        .ok (tail.fill .other
          { scheme, path := .opaqueText (tail.path.flatMap (percentEncode inControls)) })

/-- The user, the host and the port, as they stand after the scheme. -/
def writeAuthority (u : Url) : List Char :=
  match u.host with
  | none => []
  | some host =>
    let info := u.username ++ (match u.password with | some p => ':' :: p | none => [])
    ['/', '/'] ++ info ++ (if info.isEmpty then [] else ['@']) ++ host.write ++
      (match u.port with | some n => ':' :: (toString n).toList | none => [])

def writePath (u : Url) : List Char :=
  match u.path with
  | .opaqueText text => text
  | .segments segments =>
    let path := segments.flatMap ('/' :: ·)
    if u.host.isNone && path.take 2 == ['/', '/'] then '/' :: '.' :: path else path

/-- The normal form of a URL. -/
def write (u : Url) : String :=
  String.ofList (u.scheme ++ ':' :: u.writeAuthority ++ u.writePath ++
    (match u.query with | some q => '?' :: q | none => []) ++
    (match u.fragment with | some f => '#' :: f | none => []))

end Url

end EndpointRouting
