import EndpointRouting.Text.CaseRuns
import EndpointRouting.Text.Cased

/-!
# Letter case

Lower case of one character and of a text, where a capital sigma at the end of a word has its
own form, and the characters that simple case folding identifies with a given one.
-/

namespace EndpointRouting.Text

/-- The lower case of one character by itself. -/
def lowerChar (c : Char) : List Char :=
  if c.toNat < 0x80 then [c.toLower]
  else if c.toNat = 0x130 then ['i', Char.ofNat 0x307]
  else match lowerRuns.findSome? (·.image? c.toNat) with
    | some n => [Char.ofNat n]
    | none => [c]

/-- The upper case of `c` differs from `c`. -/
def hasUpper (c : Char) : Bool := upperable.any (·.covers c.toNat)

/-- The lower case of `c` differs from `c`. -/
def hasLower (c : Char) : Bool := lowerChar c != [c]

def isCased (c : Char) : Bool := cased.contains c.toNat

def isCaseIgnorable (c : Char) : Bool := caseIgnorable.contains c.toNat

/-- The first character that is not case-ignorable is cased. -/
def meetsCased : List Char → Bool
  | [] => false
  | c :: rest => if isCaseIgnorable c then meetsCased rest else isCased c

/-- Lower case of `cs`, where `before` is the text ahead of it, nearest character first. -/
def lowerAfter (before : List Char) : List Char → List Char
  | [] => []
  | c :: rest =>
    (if c.toNat = 0x3a3 then
      [Char.ofNat (if meetsCased before && !meetsCased rest then 0x3c2 else 0x3c3)]
    else lowerChar c) ++ lowerAfter (c :: before) rest

def lowerChars (cs : List Char) : List Char := lowerAfter [] cs

def lower (s : String) : String := String.ofList (lowerChars s.toList)

/-- The image of a code point under simple case folding. -/
def caseFold (n : Nat) : Nat := (foldRuns.findSome? (·.image? n)).getD n

/-- All characters that fold to the same character as `c`. -/
def caseOrbit (c : Char) : List Char :=
  let image := caseFold c.toNat
  (image :: foldRuns.filterMap (·.preimage? image)).map Char.ofNat

end EndpointRouting.Text
