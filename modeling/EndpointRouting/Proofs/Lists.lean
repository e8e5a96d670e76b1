import Mathlib.Data.List.Forall2
import Mathlib.Data.List.Nodup
import Mathlib.Data.List.TakeWhile

/-!
# Lists

A list up to a separator, entries with different keys, and lists that are put together from parts.
-/

namespace EndpointRouting

variable {α β : Type}

/-- The separator is met first where the rest begins. -/
theorem upTo_append [BEq α] [LawfulBEq α] {x : α} {xs rest : List α} (clean : x ∉ xs)
    (bounded : rest = [] ∨ ∃ later, rest = x :: later) :
    (xs ++ rest).takeWhile (· != x) = xs ∧ (xs ++ rest).dropWhile (· != x) = rest := by
  have passed : ∀ y ∈ xs, (y != x) = true := by
    intro y member
    rw [bne_iff_ne]
    rintro rfl
    exact clean member
  rw [List.takeWhile_append_of_pos passed, List.dropWhile_append_of_pos passed]
  rcases bounded with rfl | ⟨later, rfl⟩ <;> simp

/-- With different keys only one entry has a given key. -/
theorem find?_of_nodup [BEq α] [LawfulBEq α] {es : List (α × β)}
    (distinct : (es.map (·.1)).Nodup) {e : α × β} (member : e ∈ es) :
    es.find? (·.1 == e.1) = some e := by
  cases found : es.find? (·.1 == e.1) with
  | none =>
    have missed := List.find?_eq_none.mp found e member
    exact absurd (beq_self_eq_true e.1) missed
  | some e' =>
    have present : e' ∈ es := List.mem_of_find?_eq_some found
    have same : e'.1 = e.1 := by simpa using List.find?_some found
    rw [List.inj_on_of_nodup_map distinct present member same]

/-- An element of two lists put together is one of the first or one of the second. -/
theorem split_append {a b before later : List α} {x : α} (split : a ++ b = before ++ x :: later) :
    (∃ mid, a = before ++ x :: mid ∧ later = mid ++ b) ∨
      ∃ mid, before = a ++ mid ∧ b = mid ++ x :: later := by
  rcases List.append_eq_append_iff.mp split with ⟨mid, rfl, inner⟩ | ⟨mid, inner, rest⟩
  · exact .inr ⟨mid, rfl, inner⟩
  · cases mid with
    | nil =>
      rw [List.append_nil] at inner
      exact .inr ⟨[], by rw [inner, List.append_nil], rest.symm⟩
    | cons y mid =>
      obtain ⟨rfl, rfl⟩ := List.cons.inj rest
      exact .inl ⟨mid, inner, rfl⟩

/-- A list stands wholly on one side of an element that it does not have. -/
theorem split_apart {a b before xs after : List α} {x : α} (apart : x ∉ xs)
    (split : a ++ x :: b = before ++ xs ++ after) :
    (∃ mid, a = before ++ xs ++ mid ∧ after = mid ++ x :: b) ∨
      ∃ mid, before = a ++ x :: mid ∧ b = mid ++ xs ++ after := by
  rcases split_append split.symm with ⟨mid, inner, rfl⟩ | ⟨mid, rfl, rfl⟩
  · rcases split_append inner with ⟨mid, rfl, rfl⟩ | ⟨mid, rfl, rfl⟩
    · exact .inr ⟨mid, rfl, rfl⟩
    · simp at apart
  · exact .inl ⟨mid, rfl, rfl⟩

theorem prefix_of_append_cons {a b xs : List α} {x : α} (apart : x ∉ xs)
    (front : xs <+: a ++ x :: b) : xs <+: a := by
  obtain ⟨after, same⟩ := front
  have split : a ++ x :: b = [] ++ xs ++ after := same.symm
  rcases split_apart apart split with ⟨mid, rfl, -⟩ | ⟨mid, none_before, -⟩
  · exact ⟨mid, rfl⟩
  · simp at none_before

theorem split_singleton {before later : List α} {x y : α} (split : [y] = before ++ x :: later) :
    before = [] ∧ x = y ∧ later = [] := by
  cases before with
  | nil =>
    obtain ⟨rfl, rfl⟩ := List.cons.inj split
    exact ⟨rfl, rfl, rfl⟩
  | cons z rest => simp at split

theorem intercalate_concat (x : α) {xss : List (List α)} (xs : List α)
    (filled : xss ≠ []) : [x].intercalate (xss ++ [xs]) = [x].intercalate xss ++ x :: xs := by
  induction xss with
  | nil => contradiction
  | cons first others ih =>
    cases others with
    | nil => simp
    | cons second others =>
      rw [List.cons_append, List.cons_append, List.intercalate_cons_cons,
        List.intercalate_cons_cons, ← List.cons_append, ih (List.cons_ne_nil _ _),
        List.append_assoc (first ++ [x])]

theorem forall_mem_iff_of_forall₂ {R : α → β → Prop} {P : α → Prop} {Q : β → Prop} {xs : List α}
    {ys : List β} (related : List.Forall₂ R xs ys) (same : ∀ x y, R x y → (Q y ↔ P x)) :
    (∀ y ∈ ys, Q y) ↔ ∀ x ∈ xs, P x := by
  induction related with
  | nil => simp
  | cons first _ ih => rw [List.forall_mem_cons, List.forall_mem_cons, same _ _ first, ih]

theorem map_eq_of_forall₂ {γ : Type} {R : α → β → Prop} {f : α → γ} {g : β → γ} {xs : List α}
    {ys : List β} (related : List.Forall₂ R xs ys) (same : ∀ x y, R x y → g y = f x) :
    ys.map g = xs.map f := by
  induction related with
  | nil => rfl
  | cons first _ ih => rw [List.map_cons, List.map_cons, same _ _ first, ih]

theorem length_le_flatMap_cons (f : α → β) (g : α → List β) (xs : List α) :
    xs.length ≤ (xs.flatMap fun x => f x :: g x).length := by
  induction xs with
  | nil => exact Nat.le_refl _
  | cons x xs ih =>
    rw [List.flatMap_cons, List.length_append, List.length_cons, List.length_cons]
    omega

/-- As many parts as elements: each element has only its first part. -/
theorem flatMap_cons_eq_map_iff {f h : α → β} {g : α → List β} {xs : List α} :
    xs.flatMap (fun x => f x :: g x) = xs.map h ↔ ∀ x ∈ xs, f x = h x ∧ g x = [] := by
  constructor
  · intro same
    induction xs with
    | nil => simp
    | cons x xs ih =>
      rw [List.flatMap_cons, List.map_cons, List.cons_append, List.cons.injEq] at same
      obtain ⟨first, rest⟩ := same
      have longer := length_le_flatMap_cons f g xs
      have lengths := congrArg List.length rest
      rw [List.length_append, List.length_map] at lengths
      have nothing : g x = [] := List.length_eq_zero_iff.mp (by omega)
      rw [nothing, List.nil_append] at rest
      intro y member
      rcases List.mem_cons.mp member with rfl | later
      · exact ⟨first, nothing⟩
      · exact ih rest y later
  · intro each
    induction xs with
    | nil => rfl
    | cons x xs ih =>
      obtain ⟨first, nothing⟩ := each x List.mem_cons_self
      rw [List.flatMap_cons, List.map_cons, nothing, first,
        ih fun y member => each y (List.mem_cons_of_mem _ member)]
      rfl

end EndpointRouting
