import EndpointRouting.Text.Basic

/-!
# Operations on sets of code points

A code point is found in ranges that ascend exactly when one of them covers it. Every operation
gives ranges that ascend, and covers what its name says, up to the last code point.
-/

namespace EndpointRouting.Text.Ranges

/-- In the order of their starts. -/
def Ascending (rs : Ranges) : Prop := rs.Pairwise fun r s => r.1 ≤ s.1

/-- One of the ranges covers the code point. -/
def Covers (rs : List (Nat × Nat)) (n : Nat) : Prop := ∃ r ∈ rs, r.1 ≤ n ∧ n ≤ r.2

variable {r : Nat × Nat} {rs rest a b : Ranges} {k n : Nat}

@[simp] theorem covers_nil : ¬ Covers [] n := fun ⟨_, member, _⟩ => by cases member

@[simp] theorem covers_cons : Covers (r :: rs) n ↔ (r.1 ≤ n ∧ n ≤ r.2) ∨ Covers rs n := by
  simp [Covers]

@[simp] theorem covers_append : Covers (a ++ b) n ↔ Covers a n ∨ Covers b n := by
  simp [Covers, or_and_right, exists_or]

theorem contains_iff (h : Ascending rs) : rs.contains n = true ↔ Covers rs n := by
  induction rs with
  | nil => simp [contains]
  | cons r rest ih =>
    obtain ⟨lo, hi⟩ := r
    obtain ⟨first, later⟩ := List.pairwise_cons.mp h
    rw [contains, covers_cons]
    split
    · -- all ranges start above `n`
      rename_i above
      have missed : ¬ Covers rest n := fun ⟨s, member, bounds⟩ =>
        absurd (first s member) (by omega)
      simp only [missed, or_false, Bool.false_eq_true, false_iff, not_and, Nat.not_le]
      omega
    · rename_i reached
      split
      · rename_i within
        simp [within, Nat.le_of_not_lt reached]
      · rename_i beyond
        rw [ih later]
        simp [beyond]

/-! ### Ranges in any order -/

theorem ascending_joinTo (h : Ascending (r :: rest)) :
    Ascending (joinTo r rest) ∧ ∀ s ∈ joinTo r rest, r.1 ≤ s.1 := by
  induction rest generalizing r with
  | nil => simp [joinTo, Ascending]
  | cons t rest ih =>
    obtain ⟨first, later⟩ := List.pairwise_cons.mp h
    rw [joinTo]
    split
    · exact ih (List.pairwise_cons.mpr
        ⟨fun s member => first s (List.mem_cons_of_mem _ member), later.tail⟩)
    · obtain ⟨ascending, start⟩ := ih later
      have behind : ∀ s ∈ joinTo t rest, r.1 ≤ s.1 := fun s member =>
        Nat.le_trans (first t List.mem_cons_self) (start s member)
      exact ⟨List.pairwise_cons.mpr ⟨behind, ascending⟩,
        List.forall_mem_cons.mpr ⟨Nat.le_refl _, behind⟩⟩

theorem covers_joinTo (h : Ascending (r :: rest)) :
    Covers (joinTo r rest) n ↔ Covers (r :: rest) n := by
  induction rest generalizing r with
  | nil => rfl
  | cons t rest ih =>
    obtain ⟨first, later⟩ := List.pairwise_cons.mp h
    rw [joinTo]
    split
    · rename_i touching
      have ordered : r.1 ≤ t.1 := first t List.mem_cons_self
      have both : (r.1 ≤ n ∧ n ≤ max r.2 t.2) ↔ (r.1 ≤ n ∧ n ≤ r.2) ∨ (t.1 ≤ n ∧ n ≤ t.2) := by
        omega
      have merged : Ascending ((r.1, max r.2 t.2) :: rest) := List.pairwise_cons.mpr
        ⟨fun s member => first s (List.mem_cons_of_mem _ member), later.tail⟩
      rw [ih merged, covers_cons, covers_cons, covers_cons, both, or_assoc]
    · rw [covers_cons, ih later, covers_cons, covers_cons, covers_cons]

theorem ascending_mergeSort (rs : List (Nat × Nat)) :
    Ascending (rs.mergeSort fun r s => r.1 ≤ s.1) := by
  have sorted : (rs.mergeSort fun r s => decide (r.1 ≤ s.1)).Pairwise
      fun r s => decide (r.1 ≤ s.1) = true := by
    apply List.pairwise_mergeSort
    · intro r s t first second
      exact decide_eq_true (Nat.le_trans (of_decide_eq_true first) (of_decide_eq_true second))
    · intro r s
      simpa using Nat.le_total r.1 s.1
  exact sorted.imp of_decide_eq_true

theorem ascending_ofUnsorted (rs : List (Nat × Nat)) : Ascending (ofUnsorted rs) := by
  have sorted := ascending_mergeSort rs
  unfold ofUnsorted
  split
  · exact List.Pairwise.nil
  · rename_i order
    rw [order] at sorted
    exact (ascending_joinTo sorted).1

theorem covers_ofUnsorted (rs : List (Nat × Nat)) : Covers (ofUnsorted rs) n ↔ Covers rs n := by
  have sorted := ascending_mergeSort rs
  have same : Covers (rs.mergeSort fun r s => r.1 ≤ s.1) n ↔ Covers rs n := by
    simp only [Covers, List.mem_mergeSort]
  unfold ofUnsorted
  split
  · rename_i order
    rw [← same, order]
  · rename_i order
    rw [order] at sorted same
    rw [covers_joinTo sorted, same]

/-! ### Gaps -/

theorem ascending_gapsFrom (k : Nat) (rs : Ranges) :
    Ascending (gapsFrom k rs) ∧ ∀ s ∈ gapsFrom k rs, k ≤ s.1 := by
  induction rs generalizing k with
  | nil => simp [gapsFrom, Ascending]
  | cons r rest ih =>
    obtain ⟨lo, hi⟩ := r
    obtain ⟨ascending, start⟩ := ih (max k (hi + 1))
    have behind : ∀ s ∈ gapsFrom (max k (hi + 1)) rest, k ≤ s.1 := fun s member =>
      Nat.le_trans (Nat.le_max_left _ _) (start s member)
    rw [gapsFrom]
    split
    · exact ⟨List.pairwise_cons.mpr ⟨behind, ascending⟩,
        List.forall_mem_cons.mpr ⟨Nat.le_refl _, behind⟩⟩
    · exact ⟨ascending, behind⟩

theorem covers_gapsFrom (h : Ascending rs) (last : n ≤ lastCodePoint) :
    Covers (gapsFrom k rs) n ↔ k ≤ n ∧ ¬ Covers rs n := by
  induction rs generalizing k with
  | nil => simp [gapsFrom, last]
  | cons r rest ih =>
    obtain ⟨lo, hi⟩ := r
    obtain ⟨first, later⟩ := List.pairwise_cons.mp h
    have further := ih (k := max k (hi + 1)) later
    rw [gapsFrom]
    by_cases covered : Covers rest n
    · have reached : lo ≤ n :=
        let ⟨s, member, bounds⟩ := covered
        Nat.le_trans (first s member) bounds.1
      split
      · simp only [covers_cons, further, covered, not_true, and_false, or_false, or_true, iff_false]
        omega
      · simp [covers_cons, further, covered]
    · split
      · simp only [covers_cons, further, covered, not_false_iff, and_true, or_false]
        omega
      · simp only [covers_cons, further, covered, not_false_iff, and_true, or_false]
        omega

/-! ### The operations -/

theorem ascending_union (a b : Ranges) : Ascending (a.union b) := ascending_ofUnsorted _

theorem ascending_complement (a : Ranges) : Ascending a.complement :=
  (ascending_gapsFrom 0 a).1.filter _

theorem covers_complement (ha : Ascending a) (last : n ≤ lastCodePoint) :
    Covers a.complement n ↔ ¬ Covers a n := by
  have gaps : Covers (gapsFrom 0 a) n ↔ ¬ Covers a n := by
    simpa using covers_gapsFrom (k := 0) ha last
  rw [← gaps]
  simp only [Covers, complement, List.mem_filter, decide_eq_true_eq]
  constructor
  · rintro ⟨s, ⟨member, -⟩, bounds⟩
    exact ⟨s, member, bounds⟩
  · rintro ⟨s, member, bounds⟩
    exact ⟨s, ⟨member, Nat.le_trans bounds.1 bounds.2⟩, bounds⟩

theorem contains_union (ha : Ascending a) (hb : Ascending b) :
    (a.union b).contains n = (a.contains n || b.contains n) := by
  rw [Bool.eq_iff_iff, Bool.or_eq_true, contains_iff (ascending_union a b), contains_iff ha,
    contains_iff hb, union, covers_ofUnsorted, covers_append]

theorem contains_complement (ha : Ascending a) (last : n ≤ lastCodePoint) :
    a.complement.contains n = !a.contains n := by
  rw [Bool.eq_iff_iff, contains_iff (ascending_complement a), covers_complement ha last,
    ← contains_iff ha, Bool.not_eq_true, Bool.not_eq_true']

theorem contains_minus (ha : Ascending a) (hb : Ascending b) (last : n ≤ lastCodePoint) :
    (a.minus b).contains n = (a.contains n && !b.contains n) := by
  rw [minus, contains_complement (ascending_union _ _) last,
    contains_union (ascending_complement a) hb, contains_complement ha last, Bool.not_or,
    Bool.not_not]

end EndpointRouting.Text.Ranges
