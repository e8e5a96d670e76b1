import EndpointRouting.Text.Alphanumeric
import EndpointRouting.Text.Case
import EndpointRouting.Text.Graphic
import EndpointRouting.Url.Punycode

/-!
# Hosts

A host is a domain name in its ASCII form, an IPv4 or IPv6 address, or an opaque name.
-/

namespace EndpointRouting.Url
open Text

inductive UrlError where
  | relative
  | emptyHost
  | invalidPort
  | invalidIpv6
  | invalidIpv4
  | invalidInternational
  | invalidDomainCharacter
  deriving DecidableEq, Repr

def UrlError.message : UrlError → String
  | relative => "relative URL without a base"
  | emptyHost => "empty host"
  | invalidPort => "invalid port number"
  | invalidIpv6 => "invalid IPv6 address"
  | invalidIpv4 => "invalid IPv4 address"
  | invalidInternational => "invalid international domain name"
  | invalidDomainCharacter => "invalid domain character"

inductive Host where
  | domain (name : List Char)
  | ipv4 (address : Nat)
  | ipv6 (pieces : List Nat)
  | opaqueName (name : List Char)
  deriving DecidableEq, Repr

/-! ### Percent encoding -/

def hexDigitUpper (n : Nat) : Char := Char.ofNat (if n < 10 then 48 + n else 55 + n)

def percentByte (b : UInt8) : List Char :=
  ['%', hexDigitUpper (b.toNat / 16), hexDigitUpper (b.toNat % 16)]

/-- Writes the bytes of a character when it is not ASCII or is in the set. -/
def percentEncode (set : Char → Bool) (c : Char) : List Char :=
  if 0x80 ≤ c.toNat || set c then (String.ofList [c]).toUTF8.toList.flatMap percentByte else [c]

def inControls (c : Char) : Bool := c.toNat < 0x20 || c.toNat == 0x7f
def inFragment (c : Char) : Bool := inControls c || [' ', '"', '<', '>', '\x60'].contains c
def inQuery (c : Char) : Bool := inControls c || [' ', '"', '#', '<', '>'].contains c
def inSpecialQuery (c : Char) : Bool := inQuery c || c == '\''
def inPath (c : Char) : Bool := inFragment c || ['#', '?', '\x7b', '\x7d', '^'].contains c
def inUserInfo (c : Char) : Bool :=
  inPath c || ['/', ':', ';', '=', '@', '[', '\\', ']', '|'].contains c

def hexValue? (c : Char) : Option Nat :=
  if c.isDigit then some (c.toNat - 48)
  else if 'a' ≤ c.toLower && c.toLower ≤ 'f' then some (c.toLower.toNat - 87)
  else none

/-- The bytes of a text whose percent escapes are resolved. -/
def percentDecode : List Char → List UInt8
  | '%' :: a :: b :: rest =>
    match hexValue? a, hexValue? b with
    | some x, some y => UInt8.ofNat (x * 16 + y) :: percentDecode rest
    | _, _ => 37 :: percentDecode (a :: b :: rest)
  | c :: rest => (String.ofList [c]).toUTF8.toList ++ percentDecode rest
  | [] => []

/-! ### IPv4 -/

/-- A number in decimal, octal or hexadecimal notation. -/
def ipv4Number? (cs : List Char) : Option Nat :=
  let number (base : Nat) (ds : List Char) : Option Nat :=
    ds.foldlM (fun n d => do
      let v ← hexValue? d
      if v < base then some (n * base + v) else none) 0
  match cs with
  | [] => none
  | '0' :: 'x' :: ds | '0' :: 'X' :: ds => number 16 ds
  | ['0'] => some 0
  | '0' :: ds => number 8 ds
  | ds => number 10 ds

/-- The last label of a domain is a number, so the whole must be an address. -/
def endsInNumber (domain : List Char) : Bool :=
  let last := match (domain.splitOn '.').reverse with
    | [] :: next :: _ => some next
    | [[]] => none
    | next :: _ => some next
    | [] => none
  match last with
  | some cs => (!cs.isEmpty && cs.all Char.isDigit) || (ipv4Number? cs).isSome
  | none => false

def readIpv4 (domain : List Char) : Except UrlError Nat :=
  let parts := domain.splitOn '.'
  let parts := if parts.getLast? == some [] then parts.dropLast else parts
  match parts.mapM ipv4Number? with
  | none => .error .invalidIpv4
  | some numbers =>
    match numbers.reverse with
    | last :: front =>
      if 4 < numbers.length || front.any (255 < ·) || Nat.pow 256 (5 - numbers.length) ≤ last then
        .error .invalidIpv4
      else .ok (front.reverse.zipIdx.foldl (fun n (part, i) => n + part * Nat.pow 256 (3 - i)) last)
    | [] => .error .invalidIpv4

def writeIpv4 (address : Nat) : List Char :=
  let part (i : Nat) := toString (address / Nat.pow 256 i % 256)
  (String.intercalate "." [part 3, part 2, part 1, part 0]).toList

/-! ### IPv6 -/

/-- The four decimal numbers at the end of an address, as two pieces. -/
def embeddedIpv4? (cs : List Char) : Option (List Nat) :=
  let numbers := (cs.splitOn '.').mapM fun part =>
    if part.isEmpty || 3 < part.length || !part.all Char.isDigit ||
        (1 < part.length && part.head? == some '0') then none
    else
      let n := part.foldl (fun n d => n * 10 + (d.toNat - 48)) 0
      if n ≤ 255 then some n else none
  match numbers with
  | some [a, b, c, d] => some [a * 256 + b, c * 256 + d]
  | _ => none

/-- Pieces between colons; the last may be an IPv4 address. -/
def ipv6Pieces? : List (List Char) → Option (List Nat)
  | [] => some []
  | [last] =>
    if last.contains '.' then embeddedIpv4? last
    else (piece? last).map fun n => [n]
  | part :: rest => do some ((← piece? part) :: (← ipv6Pieces? rest))
where
  piece? (ds : List Char) : Option Nat :=
    if ds.isEmpty || 4 < ds.length then none
    else ds.foldlM (fun n d => (hexValue? d).map (n * 16 + ·)) 0

def pieces? (cs : List Char) : Option (List Nat) :=
  if cs.isEmpty then some [] else ipv6Pieces? (cs.splitOn ':')

/-- The text before the first double colon and the text after it. -/
def splitDoubleColon : List Char → Option (List Char × List Char)
  | ':' :: ':' :: rest => some ([], rest)
  | c :: rest => (splitDoubleColon rest).map fun (a, b) => (c :: a, b)
  | [] => none

def readIpv6 (cs : List Char) : Except UrlError (List Nat) :=
  let read := match splitDoubleColon cs with
    | some (front, back) => do
      if front.contains '.' then none
      else
        let a ← pieces? front
        let b ← pieces? back
        if a.length + b.length < 8 then
          some (a ++ List.replicate (8 - a.length - b.length) 0 ++ b)
        else none
    | none => (pieces? cs).filter (·.length == 8)
  match read with
  | some pieces => .ok pieces
  | none => .error .invalidIpv6

/-- The length of the run of zeros at each place. -/
def zeroRuns : List Nat → List Nat
  | [] => []
  | n :: rest =>
    let runs := zeroRuns rest
    (if n = 0 then runs.head?.getD 0 + 1 else 0) :: runs

def writePieces (pieces : List Nat) : List Char :=
  (String.intercalate ":" (pieces.map fun n => String.ofList (Nat.toDigits 16 n))).toList

/-- The first longest run of two zeros or more is left out. -/
def writeIpv6 (pieces : List Nat) : List Char :=
  let runs := zeroRuns pieces
  let longest := runs.foldl max 0
  if longest < 2 then writePieces pieces
  else
    let start := runs.findIdx (· == longest)
    writePieces (pieces.take start) ++ [':', ':'] ++ writePieces (pieces.drop (start + longest))

/-! ### Domains -/

/-- Characters that stand for nothing in a domain. -/
def isIgnored (c : Char) : Bool :=
  let n := c.toNat
  n == 0xad || n == 0x200b || n == 0x2060 || n == 0xfeff || (0xfe00 ≤ n && n ≤ 0xfe0f)

/-- A character of a domain in the form that is registered. -/
def mapDomainChar (c : Char) : List Char :=
  let n := c.toNat
  if isIgnored c then []
  else if n == 0x3002 || n == 0xff61 then ['.']
  else if 0xff01 ≤ n && n ≤ 0xff5e then [(Char.ofNat (n - 0xfee0)).toLower]
  else lowerChar c

/-- ASCII characters that no domain contains. -/
def isForbidden (c : Char) : Bool :=
  c.toNat ≤ 0x20 || c.toNat == 0x7f ||
    ['#', '/', ':', '<', '>', '?', '@', '[', '\\', ']', '^', '|', '%'].contains c

/-- Characters beyond ASCII that a label may contain. -/
def isDomainChar (c : Char) : Bool := c.toNat < 0x80 || isPrintable c

/-- A label in ASCII. -/
def labelToAscii (label : List Char) : Option (List Char) :=
  match label with
  | 'x' :: 'n' :: '-' :: '-' :: encoded =>
    match Punycode.decode? encoded with
    | some decoded =>
      if decoded.all (·.toNat < 0x80) || Punycode.encode decoded != encoded ||
          !decoded.all isDomainChar || decoded != decoded.flatMap mapDomainChar then none
      else some label
    | none => none
  | _ =>
    if label.all (·.toNat < 0x80) then some label
    else if label.all isDomainChar && !label.head?.any isExtending then
      some ('x' :: 'n' :: '-' :: '-' :: Punycode.encode label)
    else none

def domainToAscii (bytes : List UInt8) : Except UrlError (List Char) :=
  match String.fromUTF8? ⟨bytes.toArray⟩ with
  | none => .error .invalidInternational
  | some name =>
    let mapped := name.toList.flatMap mapDomainChar
    match (mapped.splitOn '.').mapM labelToAscii with
    | some labels =>
      let domain := ['.'].intercalate labels
      if domain.any isForbidden then .error .invalidInternational else .ok domain
    | none => .error .invalidInternational

/-! ### Reading and writing -/

def bracketed? (cs : List Char) : Option (Except UrlError Host) :=
  match cs with
  | '[' :: rest =>
    some (if rest.getLast? == some ']' then (readIpv6 rest.dropLast).map .ipv6
      else .error .invalidIpv6)
  | _ => none

/-- The host of a scheme that has domains. -/
def Host.readDomain (cs : List Char) : Except UrlError Host :=
  match bracketed? cs with
  | some host => host
  | none => do
    let domain ← domainToAscii (percentDecode cs)
    if domain.isEmpty then .error .emptyHost
    else if endsInNumber domain then (readIpv4 domain).map .ipv4
    else .ok (.domain domain)

/-- The host of any other scheme. -/
def Host.readOpaque (cs : List Char) : Except UrlError Host :=
  match bracketed? cs with
  | some host => host
  | none =>
    if cs.any fun c => c.toNat == 0 || ['\t', '\n', '\r', ' ', '#', '/', ':', '<', '>', '?', '@',
        '[', '\\', ']', '^', '|'].contains c then
      .error .invalidDomainCharacter
    else .ok (.opaqueName (cs.flatMap (percentEncode inControls)))

def Host.write : Host → List Char
  | .domain name | .opaqueName name => name
  | .ipv4 address => writeIpv4 address
  | .ipv6 pieces => '[' :: writeIpv6 pieces ++ [']']

end EndpointRouting.Url
