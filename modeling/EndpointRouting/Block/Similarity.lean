/-!
# Similar names

How similar two names are: the Jaro similarity of their characters, raised for names that start
alike. All values are fractions.
-/

namespace EndpointRouting.Block

/-- A fraction of natural numbers. -/
structure Fraction where
  num : Nat
  den : Nat
  deriving DecidableEq, Repr

namespace Fraction

def add (a b : Fraction) : Fraction := ⟨a.num * b.den + b.num * a.den, a.den * b.den⟩

def less (a b : Fraction) : Bool := a.num * b.den < b.num * a.den

/-- The part `share` of what is missing from `a` to one. -/
def raise (a share : Fraction) : Fraction :=
  a.add ⟨share.num * (a.den - a.num), share.den * a.den⟩

end Fraction

/-- The index of the first free place in a window that holds `c`. -/
def findPartner (c : Char) (low high : Nat) (places : List (Char × Bool)) : Option Nat :=
  (places.take high).zipIdx.find? (fun ((d, used), j) => low ≤ j && c == d && !used) |>.map (·.2)

/-- Pairs each character of `a`, from its index on, with an equal character of `b` nearby that is
not paired yet: the paired characters, and the places of `b`. -/
def pairUp (range : Nat) : Nat → List Char → List (Char × Bool) →
    List Char × List (Char × Bool)
  | _, [], places => ([], places)
  | i, c :: rest, places =>
    match findPartner c (i - range) (i + range + 1) places with
    | some j =>
      let (paired, places) := pairUp range (i + 1) rest (places.set j (c, true))
      (c :: paired, places)
    | none => pairUp range (i + 1) rest places

/-- The Jaro similarity. -/
def jaro (a b : List Char) : Fraction :=
  if a.isEmpty && b.isEmpty then ⟨1, 1⟩
  else
    let (left, places) := pairUp (max a.length b.length / 2 - 1) 0 a (b.map (·, false))
    let right := (places.filter (·.2)).map (·.1)
    let m := left.length
    if m = 0 then ⟨0, 1⟩
    else
      let swapped := ((left.zip right).filter fun (c, d) => c != d).length / 2
      let sum := (Fraction.add ⟨m, a.length⟩ ⟨m, b.length⟩).add ⟨m - swapped, m⟩
      ⟨sum.num, sum.den * 3⟩

/-- How many characters two names have in common at their start, up to four. -/
def commonStart : Nat → List Char → List Char → Nat
  | n + 1, c :: a, d :: b => if c = d then commonStart n a b + 1 else 0
  | _, _, _ => 0

/-- The similarity, raised by a tenth of what is missing for each common character at the start,
if it is above seven tenths. -/
def similarity (a b : String) : Fraction :=
  let s := jaro a.toList b.toList
  if Fraction.less ⟨7, 10⟩ s then s.raise ⟨commonStart 4 a.toList b.toList, 10⟩ else s

/-- The most similar of the names, if one is similar enough; the earlier of two alike. -/
def mostSimilar (given : String) (names : List String) : Option String :=
  let better (best : Option (Fraction × String)) (name : String) :=
    let s := similarity given name
    if Fraction.less ⟨8, 10⟩ s && best.all (·.1.less s) then some (s, name) else best
  (names.foldl better none).map (·.2)

end EndpointRouting.Block
