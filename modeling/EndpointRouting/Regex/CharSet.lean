import EndpointRouting.Regex.Property
import EndpointRouting.Text.Case

/-!
# Sets of characters in a pattern

A set is kept as it is written; `holds` and `closed` say which characters are in it. Under case
folding a bracketed set is closed under folding before it is negated.
-/

namespace EndpointRouting.Regex
open Text

/-- The named ASCII classes. -/
inductive AsciiClass where
  | alnum | alpha | ascii | blank | cntrl | digit | graph | lower | print | punct | space | upper
  | word | xdigit
  deriving DecidableEq, Repr

def AsciiClass.ofName? (name : List Char) : Option AsciiClass :=
  match String.ofList name with
  | "alnum" => some .alnum
  | "alpha" => some .alpha
  | "ascii" => some .ascii
  | "blank" => some .blank
  | "cntrl" => some .cntrl
  | "digit" => some .digit
  | "graph" => some .graph
  | "lower" => some .lower
  | "print" => some .print
  | "punct" => some .punct
  | "space" => some .space
  | "upper" => some .upper
  | "word" => some .word
  | "xdigit" => some .xdigit
  | _ => none

/-- A hexadecimal digit of either case. -/
def isHexDigit (c : Char) : Bool :=
  c.isDigit || ('a' ≤ c && c ≤ 'f') || ('A' ≤ c && c ≤ 'F')

def isAsciiWord (c : Char) : Bool := c.isAlphanum || c == '_'

def AsciiClass.contains : AsciiClass → Char → Bool
  | .alnum, c => c.isAlphanum
  | .alpha, c => c.isAlpha
  | .ascii, c => c.toNat < 0x80
  | .blank, c => c == ' ' || c == '\t'
  | .cntrl, c => c.toNat < 0x20 || c.toNat == 0x7f
  | .digit, c => c.isDigit
  | .graph, c => '!' ≤ c && c ≤ '~'
  | .lower, c => c.isLower
  | .print, c => ' ' ≤ c && c ≤ '~'
  | .punct, c => '!' ≤ c && c ≤ '~' && !c.isAlphanum
  | .space, c => c == ' ' || (9 ≤ c.toNat && c.toNat ≤ 13)
  | .upper, c => c.isUpper
  | .word, c => isAsciiWord c
  | .xdigit, c => isHexDigit c

/-- The classes with a one-letter escape. -/
inductive Shorthand where
  | digit | space | word
  deriving DecidableEq, Repr

def Shorthand.contains (unicode : Bool) : Shorthand → Char → Bool
  | .digit, c => if unicode then isDigit c else c.isDigit
  | .space, c => if unicode then isBlankChar c else AsciiClass.space.contains c
  | .word, c => if unicode then isWord c else isAsciiWord c

/-! ### Sets -/

/-- A set of characters, as written. -/
inductive CharSet where
  | nothing
  | range (first last : Char)
  | ascii (kind : AsciiClass)
  | shorthand (kind : Shorthand) (negated : Bool)
  | property (name : PropertyName) (span : Span)
  | bracket (negated : Bool) (body : CharSet)
  | union (left right : CharSet)
  | inter (left right : CharSet)
  | diff (left right : CharSet)
  | symm (left right : CharSet)
  deriving DecidableEq, Repr

/-- How the characters of a pattern are read. -/
structure Mode where
  fold : Bool := false
  unicode : Bool := true
  deriving DecidableEq, Repr

/-- Some character that `m` does not tell from `c` satisfies `p`. -/
def Mode.any (m : Mode) (p : Char → Bool) (c : Char) : Bool :=
  if m.fold then (if m.unicode then caseOrbit c else [c.toLower, c.toUpper]).any p else p c

/-- Membership before closing under case folding. -/
def CharSet.holds (m : Mode) : CharSet → Char → Bool
  | .nothing, _ => false
  | .range first last, c => first ≤ c && c ≤ last
  | .ascii kind, c => kind.contains c
  | .shorthand kind negated, c => kind.contains m.unicode c != negated
  | .property name _, c => name.contains c
  | .bracket negated body, c => m.any (body.holds m) c != negated
  | .union left right, c => left.holds m c || right.holds m c
  | .inter left right, c => m.any (left.holds m) c && m.any (right.holds m) c
  | .diff left right, c => m.any (left.holds m) c && !m.any (right.holds m) c
  | .symm left right, c => m.any (left.holds m) c != m.any (right.holds m) c

/-- Membership in the set as a part of a pattern. -/
def CharSet.closed (m : Mode) (s : CharSet) (c : Char) : Bool := m.any (s.holds m) c

/-- The first reason why the set cannot be used under `m`. -/
def CharSet.fault? (m : Mode) : CharSet → Option (Cause × Option Span)
  | .nothing => none
  | .range first last =>
    if m.unicode || last.toNat < 0x80 && first.toNat < 0x80 then none
    else some (.unicodeDisallowed, none)
  | .ascii _ => none
  | .shorthand _ negated =>
    if m.unicode || !negated then none else some (.invalidEncoding, none)
  | .property name span =>
    if m.unicode then
      match name.ranges with
      | .ok _ => none
      | .error cause => some (cause, some span)
    else some (.unicodeDisallowed, some span)
  | .bracket negated body =>
    match body.fault? m with
    | some fault => some fault
    | none => if m.unicode || !negated then none else some (.invalidEncoding, none)
  | .union left right | .inter left right | .diff left right | .symm left right =>
    (left.fault? m).or (right.fault? m)

/-- The number of ranges that the set takes in a compiled pattern, roughly. -/
def CharSet.weight : CharSet → Nat
  | .nothing => 0
  | .range .. => 1
  | .ascii _ => 4
  | .shorthand .digit _ => digits.length
  | .shorthand .space _ => 10
  | .shorthand .word _ => words.length
  | .property name _ =>
    match name.ranges with
    | .ok ranges => ranges.length
    | .error _ => 0
  | .bracket _ body => body.weight
  | .union left right | .inter left right | .diff left right | .symm left right =>
    left.weight + right.weight

/-- Only ASCII characters are in the set, by the way it is written. -/
def CharSet.isAscii : CharSet → Bool
  | .nothing | .ascii _ => true
  | .range _ last => last.toNat < 0x80
  | .shorthand .. | .property .. => false
  | .bracket negated body => !negated && body.isAscii
  | .union left right | .symm left right => left.isAscii && right.isAscii
  | .inter left right => left.isAscii || right.isAscii
  | .diff left _ => left.isAscii

end EndpointRouting.Regex
