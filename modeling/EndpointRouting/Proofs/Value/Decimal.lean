import EndpointRouting.Value.Integer
import Mathlib.Tactic.Ring

/-!
# Decimal text

Digits are read from the left, and refused at the first one that takes the number over the limit.
That is the same as comparing the number that they write with the limit.
-/

namespace EndpointRouting.Value

/-- The number that decimal digits write, each at its place. -/
def decimal : List Char → Nat
  | [] => 0
  | d :: rest => (d.toNat - '0'.toNat) * 10 ^ rest.length + decimal rest

/-- Text of ASCII digits, at least one. -/
structure IsDecimal (cs : List Char) : Prop where
  some_digit : cs ≠ []
  digits : ∀ c ∈ cs, c.isDigit = true

theorem magnitude_eq {limit : Nat} (overflow : IntegerError) {n : Nat} {cs : List Char}
    (fits : n ≤ limit) (digits : ∀ c ∈ cs, c.isDigit = true) :
    magnitude limit overflow n cs =
      if n * 10 ^ cs.length + decimal cs ≤ limit then .ok (n * 10 ^ cs.length + decimal cs)
      else .error overflow := by
  induction cs generalizing n with
  | nil => simp [magnitude, decimal, fits]
  | cons d rest ih =>
    obtain ⟨digit, later⟩ := List.forall_mem_cons.mp digits
    have value : n * 10 ^ (d :: rest).length + decimal (d :: rest) =
        (n * 10 + (d.toNat - 48)) * 10 ^ rest.length + decimal rest := by
      change n * 10 ^ (rest.length + 1) + ((d.toNat - 48) * 10 ^ rest.length + decimal rest) = _
      ring
    rw [magnitude, if_pos digit, value]
    dsimp only
    by_cases further : n * 10 + (d.toNat - 48) ≤ limit
    · rw [if_pos further, ih further later]
    · -- digits that follow make the number no smaller
      have grows : n * 10 + (d.toNat - 48) ≤
          (n * 10 + (d.toNat - 48)) * 10 ^ rest.length :=
        Nat.le_mul_of_pos_right _ (Nat.pow_pos (by decide))
      rw [if_neg further, if_neg (by omega)]

/-- Every integer type takes a text of digits just if the number that it writes is in range. -/
theorem read_decimal (t : IntegerType) {cs : List Char} (text : IsDecimal cs) :
    t.read cs = if decimal cs ≤ t.max then .ok (decimal cs : Int) else .error .tooLarge := by
  have unsigned : t.read cs = (magnitude t.max .tooLarge 0 cs).map Int.ofNat := by
    obtain ⟨c, rest, rfl⟩ := List.exists_cons_of_ne_nil text.some_digit
    have digit := text.digits c List.mem_cons_self
    have not_plus : c ≠ '+' := by
      rintro rfl
      exact absurd digit (by decide)
    have not_minus : c ≠ '-' := by
      rintro rfl
      exact absurd digit (by decide)
    unfold IntegerType.read
    split
    case h_6 => rfl
    all_goals
      rename_i heq
      cases heq <;> contradiction
  rw [unsigned, magnitude_eq .tooLarge (Nat.zero_le _) text.digits]
  rw [Nat.zero_mul, Nat.zero_add]
  split <;> rfl

end EndpointRouting.Value
