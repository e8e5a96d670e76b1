/-!
# Characters

Names compared up to ASCII case, blank text, the JSON form of text, and sets of code points.
-/

namespace EndpointRouting.Text

/-! ### ASCII case -/

/-- The text with the letters A to Z in lower case. -/
def caseKey (s : String) : String := String.ofList (s.toList.map Char.toLower)

/-- Equal up to ASCII case. -/
def sameName (a b : String) : Bool := caseKey a == caseKey b

theorem sameName_self (a : String) : sameName a a = true := by simp [sameName]

/-! ### Blank text -/

/-- The property White_Space. -/
def isBlankChar (c : Char) : Bool :=
  let n := c.toNat
  (9 ≤ n && n ≤ 13) || n == 0x20 || n == 0x85 || n == 0xa0 || n == 0x1680 ||
    (0x2000 ≤ n && n ≤ 0x200a) || n == 0x2028 || n == 0x2029 || n == 0x202f || n == 0x205f ||
    n == 0x3000

/-- `cs` without the blank characters at its two ends. -/
def trimChars (cs : List Char) : List Char :=
  ((cs.dropWhile isBlankChar).reverse.dropWhile isBlankChar).reverse

def trim (s : String) : String := String.ofList (trimChars s.toList)

/-- Empty, or made of blank characters only. -/
def isBlank (s : String) : Bool := s.toList.all isBlankChar

/-! ### JSON -/

/-- Four hexadecimal digits. -/
def hexFour (n : Nat) : List Char :=
  let ds := Nat.toDigits 16 n
  List.replicate (4 - ds.length) '0' ++ ds

def jsonEscape (c : Char) : List Char :=
  if c = '"' then ['\\', '"']
  else if c = '\\' then ['\\', '\\']
  else if c = '\n' then ['\\', 'n']
  else if c = '\r' then ['\\', 'r']
  else if c = '\t' then ['\\', 't']
  else if c.toNat = 8 then ['\\', 'b']
  else if c.toNat = 12 then ['\\', 'f']
  else if c.toNat < 0x20 then ['\\', 'u'] ++ hexFour c.toNat
  else [c]

def jsonString (s : String) : String :=
  String.ofList ('"' :: s.toList.flatMap jsonEscape ++ ['"'])

/-- An array of strings, with nothing between its items but commas. -/
def jsonStrings (items : List String) : String :=
  "[" ++ ",".intercalate (items.map jsonString) ++ "]"

/-! ### Sets of code points

A set is a list of ranges in ascending order; `contains` stops at the first range above the
code point it looks for. Sets are combined as lists of ranges, and those of ranges in any order are
sorted first. A `Run` moves every `stride`-th code point of a range by one distance. -/

/-- Inclusive ranges of code points, ascending. -/
abbrev Ranges := List (Nat × Nat)

def Ranges.contains : Ranges → Nat → Bool
  | [], _ => false
  | (lo, hi) :: rest, n => if n < lo then false else if n ≤ hi then true else contains rest n

/-- The largest code point. -/
def lastCodePoint : Nat := 0x10ffff

namespace Ranges

/-- Ranges in the order of their starts after a first one; those that touch become one. -/
def joinTo : Nat × Nat → Ranges → Ranges
  | r, [] => [r]
  | r, s :: rest => if s.1 ≤ r.2 + 1 then joinTo (r.1, max r.2 s.2) rest else r :: joinTo s rest

/-- The set of some ranges in any order. -/
def ofUnsorted (rs : List (Nat × Nat)) : Ranges :=
  match rs.mergeSort fun r s => r.1 ≤ s.1 with
  | [] => []
  | r :: rest => joinTo r rest

/-- The code points from `n` on that are in none of the ranges. -/
def gapsFrom (n : Nat) : Ranges → Ranges
  | [] => [(n, lastCodePoint)]
  | (lo, hi) :: rest =>
    let further := gapsFrom (max n (hi + 1)) rest
    if n < lo then (n, lo - 1) :: further else further

def union (a b : Ranges) : Ranges := ofUnsorted (a ++ b)

/-- All other code points. -/
def complement (a : Ranges) : Ranges := (gapsFrom 0 a).filter fun r => r.1 ≤ r.2

/-- The code points of `a` that are not in `b`. -/
def minus (a b : Ranges) : Ranges := (a.complement.union b).complement

end Ranges

/-- Sets by their names, as these are compared. -/
abbrev NamedRanges := List (List String × Ranges)

def NamedRanges.get? (table : NamedRanges) (name : String) : Option Ranges :=
  (table.find? (·.1.contains name)).map (·.2)

/-- The code points `first`, `first + stride`, … up to `last`, each moved by `distance`. -/
structure Run where
  first : Nat
  last : Nat
  stride : Nat
  distance : Int

/-- The code points that the run moves. -/
def Run.sources (r : Run) : Ranges :=
  if r.stride = 1 then [(r.first, r.last)]
  else (List.range ((r.last - r.first) / r.stride + 1)).map fun i =>
    (r.first + i * r.stride, r.first + i * r.stride)

def Run.covers (r : Run) (n : Nat) : Bool :=
  decide (r.first ≤ n) && decide (n ≤ r.last) && (n - r.first) % r.stride == 0

/-- The image of `n`, when the run covers it. -/
def Run.image? (r : Run) (n : Nat) : Option Nat :=
  if r.covers n then some (n + r.distance).toNat else none

/-- The code point whose image is `n`, when there is one. -/
def Run.preimage? (r : Run) (n : Nat) : Option Nat :=
  let source := (n - r.distance).toNat
  if r.covers source then some source else none

end EndpointRouting.Text
