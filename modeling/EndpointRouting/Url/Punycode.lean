/-!
# Punycode

The ASCII form of a label with other characters in it: its ASCII characters, and then the
others in ascending order, each as a number that tells its value and its place.
-/

namespace EndpointRouting.Url.Punycode

def digit (n : Nat) : Char := Char.ofNat (if n < 26 then 97 + n else 22 + n)

def digitValue? (c : Char) : Option Nat :=
  if c.isDigit then some (c.toNat - 22)
  else if c.isAlpha then some (c.toLower.toNat - 97)
  else none

/-- The digits below this value end a number at position `k`. -/
def threshold (bias k : Nat) : Nat := max 1 (min 26 (k - bias))

/-- Divides by 35 until the number is small; each division adds a full position. -/
def shrink : Nat → Nat → Nat → Nat
  | 0, _, k => k
  | fuel + 1, delta, k =>
    if delta > 455 then shrink fuel (delta / 35) (k + 36) else k + 36 * delta / (delta + 38)

/-- The bias after a number that was written among `count` characters. -/
def adapt (delta count : Nat) (initial : Bool) : Nat :=
  let delta := if initial then delta / 700 else delta / 2
  let delta := delta + delta / count
  shrink delta delta 0

/-- A number in digits whose base changes with their position. -/
def writeNumber (bias : Nat) : Nat → Nat → Nat → List Char
  | 0, _, _ => []
  | fuel + 1, k, n =>
    let t := threshold bias k
    if n < t then [digit n]
    else digit (t + (n - t) % (36 - t)) :: writeNumber bias fuel (k + 36) ((n - t) / (36 - t))

structure Encoder where
  output : List Char
  delta : Nat
  bias : Nat
  done : Nat

/-- One character of the label while the code point `n` is being placed. -/
def Encoder.visit (basic n : Nat) (e : Encoder) (c : Char) : Encoder :=
  if c.toNat < n then { e with delta := e.delta + 1 }
  else if c.toNat == n then
    { output := e.output ++ writeNumber e.bias (e.delta + 1) 36 e.delta
      delta := 0
      bias := adapt e.delta (e.done + 1) (e.done == basic)
      done := e.done + 1 }
  else e

/-- Places the code points, which ascend, from `n` on. -/
def Encoder.place (label : List Char) (basic : Nat) : Encoder → Nat → List Nat → Encoder
  | e, _, [] => e
  | e, n, m :: rest =>
    let e := { e with delta := e.delta + (m - n) * (e.done + 1) }
    let e := label.foldl (Encoder.visit basic m) e
    Encoder.place label basic { e with delta := e.delta + 1 } (m + 1) rest

def encode (label : List Char) : List Char :=
  let basic := label.filter (·.toNat < 128)
  let others := ((label.map Char.toNat).filter (128 ≤ ·)).mergeSort.eraseDups
  let start : Encoder := ⟨basic ++ (if basic.isEmpty then [] else ['-']), 0, 72, basic.length⟩
  (Encoder.place label basic.length start 128 others).output

/-- A number, and the digits after it. -/
def readNumber (bias : Nat) : Nat → Nat → Nat → List Char → Option (Nat × List Char)
  | _, _, _, [] => none
  | k, weight, n, c :: rest => do
    let d ← digitValue? c
    let n := n + d * weight
    let t := threshold bias k
    if d < t then some (n, rest) else readNumber bias (k + 36) (weight * (36 - t)) n rest

/-- Inserts the characters that the digits tell of into `output`. Each number takes a digit, so
`fuel` is their count. -/
def insertAll : Nat → Nat → Nat → Nat → List Char → List Char → Option (List Char)
  | _, _, _, _, output, [] => some output
  | 0, _, _, _, _, _ => none
  | fuel + 1, n, i, bias, output, digits => do
    let (delta, rest) ← readNumber bias 36 1 0 digits
    let count := output.length + 1
    let place := i + delta
    let n := n + place / count
    let here := place % count
    if n.isValidChar then
      insertAll fuel n (here + 1) (adapt delta count (i == 0))
        (output.take here ++ Char.ofNat n :: output.drop here) rest
    else none

def decode? (label : List Char) : Option (List Char) :=
  let tail := (label.reverse.takeWhile (· != '-')).reverse
  let basic := (label.take (label.length - tail.length)).dropLast
  insertAll tail.length 128 0 72 basic tail

end EndpointRouting.Url.Punycode
