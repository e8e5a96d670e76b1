/-!
# Integers of fixed width

Decimal text read into an integer type. Digits are checked from the left; the first character
that is no digit, or the first digit that takes the number out of range, decides.
-/

namespace EndpointRouting.Value

/-- An integer type: how many bits it has, and whether it is signed. -/
structure IntegerType where
  bits : Nat
  signed : Bool
  deriving DecidableEq, Repr

namespace IntegerType

def max (t : IntegerType) : Nat :=
  if t.signed then Nat.pow 2 (t.bits - 1) - 1 else Nat.pow 2 t.bits - 1

/-- The largest magnitude below zero. -/
def below (t : IntegerType) : Nat := if t.signed then Nat.pow 2 (t.bits - 1) else 0

/-- The types by name. -/
def named : List (String × IntegerType) :=
  [("i8", ⟨8, true⟩), ("i16", ⟨16, true⟩), ("i32", ⟨32, true⟩), ("i64", ⟨64, true⟩),
   ("i128", ⟨128, true⟩), ("u8", ⟨8, false⟩), ("u16", ⟨16, false⟩), ("u32", ⟨32, false⟩),
   ("u64", ⟨64, false⟩), ("u128", ⟨128, false⟩)]

end IntegerType

inductive IntegerError where
  | empty
  | invalidDigit
  | tooLarge
  | tooSmall
  deriving DecidableEq, Repr

def IntegerError.message : IntegerError → String
  | empty => "cannot parse integer from empty string"
  | invalidDigit => "invalid digit found in string"
  | tooLarge => "number too large to fit in target type"
  | tooSmall => "number too small to fit in target type"

/-- The number that digits extend `n` to, up to `limit`. -/
def magnitude (limit : Nat) (overflow : IntegerError) : Nat → List Char → Except IntegerError Nat
  | n, [] => .ok n
  | n, c :: rest =>
    if c.isDigit then
      let n := n * 10 + (c.toNat - 48)
      if n ≤ limit then magnitude limit overflow n rest else .error overflow
    else .error .invalidDigit

/-- The integer written by `cs`. A sign needs a digit after it, and an unsigned type takes no
minus sign. -/
def IntegerType.read (t : IntegerType) (cs : List Char) : Except IntegerError Int :=
  match cs with
  | [] => .error .empty
  | ['+'] | ['-'] => .error .invalidDigit
  | '+' :: rest => (magnitude t.max .tooLarge 0 rest).map Int.ofNat
  | '-' :: rest =>
    if t.signed then (magnitude t.below .tooSmall 0 rest).map fun n => -Int.ofNat n
    else .error .invalidDigit
  | _ => (magnitude t.max .tooLarge 0 cs).map Int.ofNat

end EndpointRouting.Value
