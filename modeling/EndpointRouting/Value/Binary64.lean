/-!
# Decimal text to binary floating point

A decimal is read exactly as a fraction and rounded once, to the nearest value of the 64-bit
format; a tie goes to the even significand.
-/

namespace EndpointRouting.Value

/-- A value of the 64-bit format, by its bits. All that is not a number is one value. -/
inductive Binary64 where
  | bits (b : Nat)
  | nan
  deriving DecidableEq, Repr

inductive DecimalError where
  | empty
  | invalid
  deriving DecidableEq, Repr

def DecimalError.message : DecimalError → String
  | empty => "cannot parse float from empty string"
  | invalid => "invalid float literal"

namespace Binary64

/-- The bits of infinity. -/
def infinity : Nat := 0x7ff * Nat.pow 2 52

/-- The quotient rounded to the nearest integer, ties to even. -/
def roundDiv (num den : Nat) : Nat :=
  let q := num / den
  let r := num % den
  if 2 * r < den then q else if den < 2 * r then q + 1 else q + q % 2

/-- The quotient times a power of two, as a fraction. -/
def scale (num den : Nat) (e : Int) : Nat × Nat :=
  if 0 ≤ e then (num * Nat.pow 2 e.toNat, den) else (num, den * Nat.pow 2 (-e).toNat)

/-- The largest `e` with `2 ^ e ≤ num / den`, for a positive quotient. -/
def exponent (num den : Nat) : Int :=
  let guess : Int := Int.ofNat num.log2 - Int.ofNat den.log2
  let (n, d) := scale num den (-guess)
  if d ≤ n then guess else guess - 1

/-- The bits of the value nearest to a positive fraction. -/
def nearest (num den : Nat) : Nat :=
  let unit := max (exponent num den - 52) (-1074)
  let (n, d) := scale num den (-unit)
  let significand := roundDiv n d
  let bits :=
    if significand < Nat.pow 2 52 then significand
    else (unit + 1075).toNat * Nat.pow 2 52 + (significand - Nat.pow 2 52)
  min bits infinity

/-- The bits of the value nearest to `digits * 10 ^ e`. -/
def ofDecimal (digits : Nat) (e : Int) : Nat :=
  let width : Int := (Nat.toDigits 10 digits).length
  if digits = 0 then 0
  else if width + e > 310 then infinity
  else if width + e < -330 then 0
  else if 0 ≤ e then nearest (digits * Nat.pow 10 e.toNat) 1
  else nearest digits (Nat.pow 10 (-e).toNat)

/-- The number that decimal digits write. -/
def digitsValue (ds : List Char) : Nat := ds.foldl (fun n d => n * 10 + (d.toNat - 48)) 0

/-- An exponent, or nothing. -/
def readExponent : List Char → Option Int
  | [] => some 0
  | c :: rest =>
    if c == 'e' || c == 'E' then
      let (negative, digits) := match rest with
        | '-' :: r => (true, r)
        | '+' :: r => (false, r)
        | r => (false, r)
      if digits.isEmpty || !digits.all Char.isDigit then none
      else some (if negative then -Int.ofNat (digitsValue digits) else digitsValue digits)
    else none

/-- The bits of an unsigned decimal. -/
def readDecimal (cs : List Char) : Option Nat :=
  let whole := cs.takeWhile Char.isDigit
  let rest := cs.dropWhile Char.isDigit
  let (fraction, rest) := match rest with
    | '.' :: r => (r.takeWhile Char.isDigit, r.dropWhile Char.isDigit)
    | r => ([], r)
  if whole.isEmpty && fraction.isEmpty then none
  else (readExponent rest).map fun e =>
    ofDecimal (digitsValue (whole ++ fraction)) (e - fraction.length)

/-- The value that text writes. -/
def read (cs : List Char) : Except DecimalError Binary64 :=
  let (negative, body) := match cs with
    | '-' :: r => (true, r)
    | '+' :: r => (false, r)
    | r => (false, r)
  let signed (b : Nat) := Binary64.bits (if negative then Nat.pow 2 63 + b else b)
  match cs with
  | [] => .error .empty
  | _ =>
    match readDecimal body with
    | some b => .ok (signed b)
    | none =>
      match String.ofList (body.map Char.toLower) with
      | "inf" | "infinity" => .ok (signed infinity)
      | "nan" => .ok .nan
      | _ => .error .invalid

/-- Sixteen hexadecimal digits. -/
def text : Binary64 → String
  | .nan => "nan"
  | .bits b =>
    let ds := Nat.toDigits 16 b
    String.ofList (List.replicate (16 - ds.length) '0' ++ ds)

end Binary64

end EndpointRouting.Value
