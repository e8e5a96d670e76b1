import EndpointRouting.Proofs.Route.Filling
import EndpointRouting.Proofs.Value.Decimal
import EndpointRouting.Value.Reader

/-!
# Digits in a path, read as integers

A variable with the pattern `:digit:+` captures ASCII digits, at least one. A handler that reads the
variable as an integer of some type gets the number that they write, if it is in range.
-/

namespace EndpointRouting
namespace Regex

def digitTest : Test := .set ⟨false, true⟩ (.bracket false (.range '0' '9'))

theorem digitTest_accepts (c : Char) : digitTest.accepts c = c.isDigit := by
  change ((decide ('0' ≤ c) && decide (c ≤ '9')) != false) = _
  rw [Bool.bne_false]
  rfl

theorem passed_of_mem_stops {p : Char → Bool} {s u : Cursor} {text : List Char}
    (here : s.after = text) (member : u ∈ stops p s text) :
    ∃ passed, text = passed ++ u.after ∧ ∀ c ∈ passed, p c = true := by
  induction text generalizing s with
  | nil =>
    obtain rfl := List.mem_singleton.mp member
    exact ⟨[], here.symm, by simp⟩
  | cons c rest ih =>
    rw [stops] at member
    split at member
    · rename_i goes_on
      rcases List.mem_append.mp member with further | last
      · obtain ⟨passed, split, each⟩ := ih (s := s.next c rest) rfl further
        exact ⟨c :: passed, by rw [split]; rfl, List.forall_mem_cons.mpr ⟨goes_on, each⟩⟩
      · obtain rfl := List.mem_singleton.mp last
        exact ⟨[], here.symm, by simp⟩
    · obtain rfl := List.mem_singleton.mp member
      exact ⟨[], here.symm, by simp⟩

/-- A run passes characters that its test accepts, at least one. -/
theorem passed_of_mem_run {t : Test} {s u : Cursor} {value : List Char}
    (member : u ∈ (Node.repeat (.one t) ⟨1, none⟩ true).ends s)
    (between : s.after = value ++ u.after) : value ≠ [] ∧ ∀ c ∈ value, t.accepts c = true := by
  rw [ends_run] at member
  split at member
  · cases member
  · rename_i c rest here
    split at member
    · rename_i accepted
      have walked : ∃ passed, rest = passed ++ u.after ∧ ∀ d ∈ passed, t.accepts d = true :=
        passed_of_mem_stops (s := s.next c rest) rfl member
      obtain ⟨passed, split, each⟩ := walked
      rw [between, split, ← List.cons_append] at here
      rw [List.append_cancel_right here]
      exact ⟨List.cons_ne_nil c passed, List.forall_mem_cons.mpr ⟨accepted, each⟩⟩
    · cases member

end Regex

namespace Template
open Regex Value

def digits (name : List Char) : Variable := ⟨name, some ":digit:+".toList⟩

theorem inner_digits (name : List Char) : (digits name).inner = "[0-9]+".toList := by
  have expanded : expandClasses ":digit:+".toList = "[0-9]+".toList := by decide +kernel
  unfold Variable.inner digits
  rw [Option.map_some, Option.getD_some, expanded]

theorem compile_digits :
    Regex.compile "[0-9]+".toList = .ok ⟨.repeat (.one digitTest) ⟨1, none⟩ true, []⟩ := by
  rfl

theorem isDecimal_of_takes {name value : List Char} (takes : (digits name).Takes value) :
    IsDecimal value := by
  obtain ⟨own, n, k, s, u, compiled, moved, member, between⟩ := takes
  rw [inner_digits, compile_digits] at compiled
  cases compiled
  -- the groups are counted from elsewhere, which the places that a match leads to do not show
  have same : n.ends = (Node.repeat (.one digitTest) ⟨1, none⟩ true).ends := by
    rw [← bare_ends n, moved]
    exact bare_ends (.repeat (.one digitTest) ⟨1, none⟩ true)
  rw [same] at member
  obtain ⟨some_digit, each⟩ := passed_of_mem_run member between
  refine ⟨some_digit, fun c listed => ?_⟩
  rw [← digitTest_accepts]
  exact each c listed

/-- Literal text that means nothing to an expression, one variable for digits, and other variables
without patterns of their own. -/
structure Numbered (name : List Char) (ps : List Piece) : Prop where
  ordinary : ∀ c, .literal c ∈ ps → c ∉ special
  valid : ∀ v, .var v ∈ ps → ValidName v.name
  listed : .var (digits name) ∈ ps
  others : ∀ v, .var v ∈ ps → v = digits name ∨ v.pattern = none

theorem Numbered.contained {name : List Char} {ps : List Piece} (numbered : Numbered name ps) :
    Contained ps where
  ordinary := numbered.ordinary
  valid := numbered.valid
  patterns v p member own := by
    rcases numbered.others v member with rfl | plain
    · obtain rfl : ":digit:+".toList = p := Option.some.inj own
      exact selfContained_of_eval (by decide +kernel) (by decide +kernel)
    · rw [plain] at own
      cases own

end Template

namespace Route
open Http Template
open Value hiding pieces

variable {d : Definition} {t : Table} {r : Route} {q matched : Request}

/-- What `:digit:+` captured of an accepted path are ASCII digits. Read as an integer of any type
they give the number that they write, leading zeros or not, if the type has it; otherwise they are
refused under the name of the variable, and the text is the one in the path. -/
theorem integer_of_hit (built : Table.build d = .ok t) (member : r ∈ t.routes) {name : List Char}
    (numbered : Numbered name (pieces r.pattern.toList)) (hit : r.accept? q = some matched) :
    (∃ path, q.path = some path ∧ path.toList =
      filled (fun name => (matched.attribute? name).getD "") (pieces r.pattern.toList)) ∧
    ∃ raw, matched.attribute? (.ofList name) = some raw ∧ IsDecimal raw.toList ∧
      ∀ type : IntegerType,
        (PathVariable.mk (.ofList name) (.integer type)).isDefinedAt matched = true ∧
        (PathVariable.mk (.ofList name) (.integer type)).read matched =
          if decimal raw.toList ≤ type.max then .ok (.integer (decimal raw.toList))
          else .error (.invalidValue (.ofList name) raw IntegerError.tooLarge.message) := by
  have listed : digits name ∈ vars r.pattern.toList := mem_vars.mpr numbered.listed
  -- the endpoint itself has no variables
  have elsewhere : r.isIndex = false := by
    by_contra root
    have none_listed : vars r.pattern.toList = [] :=
      vars_of_isRoot (by simpa [isIndex] using root)
    rw [none_listed] at listed
    cases listed
  obtain ⟨path, values⟩ := values_of_hit built member numbered.contained elsewhere hit
  obtain ⟨raw, defined, takes⟩ := values (digits name) listed
  change matched.attribute? (.ofList name) = some raw at defined
  have text := isDecimal_of_takes takes
  refine ⟨path, raw, defined, text, fun type => ⟨?_, ?_⟩⟩
  · change (matched.attribute? (.ofList name)).isSome = true
    rw [defined]
    rfl
  · have number := read_decimal type text
    unfold PathVariable.read
    dsimp only
    rw [defined]
    unfold interpretAs Interpreter.read
    simp only [number]
    split <;> rfl

/-- An entry by its number, with a plain variable after it. -/
def ledger : Definition where
  type := ⟨"Tasks", false⟩
  handlers := [⟨⟨"entry", false⟩, [⟨.get, some "/\x7bid: :digit:+\x7d/\x7bno\x7d"⟩], none⟩]

def ledgerRoute : Route :=
  ⟨.get, "/api/tasks/\x7bid: :digit:+\x7d/\x7bno\x7d", "/\x7bid: :digit:+\x7d/\x7bno\x7d",
    some "/(?<id>[0-9]+)/(?<no>[^/]+)", ["id", "no"], ⟨"entry", false⟩, .open⟩

theorem numbered_ledger : Numbered ['i', 'd'] (pieces ledgerRoute.pattern.toList) := by
  have scanned : pieces ledgerRoute.pattern.toList = [.literal '/', .var (digits ['i', 'd']),
      .literal '/', .var ⟨['n', 'o'], none⟩] := by decide +kernel
  rw [scanned]
  constructor
  · intro c member
    obtain rfl : c = '/' := by simpa using member
    decide
  · intro v member
    have either : v = digits ['i', 'd'] ∨ v = ⟨['n', 'o'], none⟩ := by simpa using member
    rcases either with rfl | rfl <;>
      exact ⟨by decide +kernel, List.forall_mem_singleton.mpr (by decide +kernel)⟩
  · simp
  · intro v member
    have either : v = digits ['i', 'd'] ∨ v = ⟨['n', 'o'], none⟩ := by simpa using member
    rcases either with rfl | rfl
    · exact .inl rfl
    · exact .inr rfl

/-- `0300` is 300 for a signed type of 16 bits, and too large for an unsigned one of 8. -/
theorem integer_of_hit_ledger :
    ∃ matched, ledgerRoute.accept? ⟨.get, some "/0300/x", {}, {}, {}⟩ = some matched ∧
      (PathVariable.mk "id" (.integer ⟨16, true⟩)).read matched = .ok (.integer 300) ∧
      (PathVariable.mk "id" (.integer ⟨8, false⟩)).read matched =
        .error (.invalidValue "id" "0300" "number too large to fit in target type") := by
  have built : Table.build ledger = .ok ⟨"/api/tasks", [ledgerRoute]⟩ := by decide +kernel
  have hit : ledgerRoute.accept? ⟨.get, some "/0300/x", {}, {}, {}⟩ =
      some ⟨.get, some "/0300/x", ⟨[("id", "0300"), ("no", "x")]⟩, {}, {}⟩ := by decide +kernel
  obtain ⟨-, raw, defined, -, reads⟩ :=
    integer_of_hit built List.mem_cons_self numbered_ledger hit
  obtain rfl : "0300" = raw := Option.some.inj defined
  exact ⟨_, hit, (reads ⟨16, true⟩).2, (reads ⟨8, false⟩).2⟩

end Route
end EndpointRouting
