import EndpointRouting.Regex.Match
import Mathlib.Data.List.TakeWhile

/-!
# Runs of characters in a row of parts

A row of parts matches up to the end of a text if its first part ends somewhere from where the
others do. A greedy run offers every place where it may stop, the furthest first, and a lazy one the
nearest first. When what comes next cannot begin with a character of the run, only the furthest
place counts.
-/

namespace EndpointRouting.Regex

/-- The best match from a place to the end of the text. -/
def Node.whole? (n : Node) (s : Cursor) : Option Cursor := (n.ends s).find? (·.after.isEmpty)

/-- Parts in a row. -/
def Node.ofParts : List Node → Node
  | [] => .empty
  | [n] => n
  | n :: rest => .seq n (ofParts rest)

/-- One or more characters that the test accepts, as many as there are, under an index. -/
def Node.run (index : Nat) (t : Test) : Node := .capture index (.repeat (.one t) ⟨1, none⟩ true)

/-- Places that are told apart by how much text is left. -/
theorem distinct_of_pairwise {ss : List Cursor}
    (apart : ss.Pairwise fun s u => s.after.length ≠ u.after.length) : distinct ss = ss := by
  induction ss with
  | nil => rfl
  | cons s rest ih =>
    obtain ⟨first, later⟩ := List.pairwise_cons.mp apart
    rw [distinct, ih later, List.filter_eq_self.mpr]
    intro u member
    rw [bne_iff_ne]
    exact (first u member).symm

theorem find?_distinct (ss : List Cursor) :
    (distinct ss).find? (·.after.isEmpty) = ss.find? (·.after.isEmpty) := by
  induction ss with
  | nil => rfl
  | cons s rest ih =>
    rw [distinct, List.find?_cons, List.find?_cons]
    cases ended : s.after.isEmpty with
    | true => rfl
    | false =>
      rw [List.find?_filter]
      dsimp only
      rw [← ih]
      congr 1
      funext u
      cases last : u.after.isEmpty with
      | false => simp
      | true =>
        have nothing : u.after.length = 0 := by simpa using last
        have some_left : s.after.length ≠ 0 := by simpa using ended
        simpa [nothing] using some_left.symm

/-- The first part of a row, and then the others. -/
theorem whole?_ofParts_cons (n : Node) (ns : List Node) (s : Cursor) :
    (Node.ofParts (n :: ns)).whole? s = (n.ends s).findSome? (Node.ofParts ns).whole? := by
  cases ns with
  | nil =>
    change (n.ends s).find? _ = _
    rw [List.find?_eq_findSome?_guard]
    congr 1
    funext u
    cases ended : u.after.isEmpty <;>
      simp [Node.ofParts, Node.whole?, Node.ends, Option.guard, ended]
  | cons m ns =>
    change (Node.seq n (Node.ofParts (m :: ns))).whole? s = _
    rw [Node.whole?, Node.ends, find?_distinct, List.find?_flatMap]
    rfl

/-! ### Runs -/

/-- Where a run of such characters may stop in the text after a place, the furthest first. -/
def stops (p : Char → Bool) (s : Cursor) : List Char → List Cursor
  | [] => [s]
  | c :: rest => if p c then stops p (s.next c rest) rest ++ [s] else [s]

/-- The same places, the nearest first. -/
def strides (p : Char → Bool) (s : Cursor) : List Char → List Cursor
  | [] => [s]
  | c :: rest => s :: if p c then strides p (s.next c rest) rest else []

/-- The place after the whole run. -/
def past (p : Char → Bool) (s : Cursor) : List Char → Cursor
  | [] => s
  | c :: rest => if p c then past p (s.next c rest) rest else s

variable {p : Char → Bool} {s : Cursor}

theorem past_after {text : List Char} (here : s.after = text) :
    (past p s text).after = text.dropWhile p ∧ (past p s text).captures = s.captures := by
  induction text generalizing s with
  | nil => exact ⟨here, rfl⟩
  | cons c rest ih =>
    rw [past, List.dropWhile_cons]
    cases p c with
    | true => exact ih (s := s.next c rest) rfl
    | false => exact ⟨here, rfl⟩

theorem length_of_mem_stops {text : List Char} (here : s.after = text) {u : Cursor}
    (member : u ∈ stops p s text) : u.after.length ≤ text.length := by
  induction text generalizing s with
  | nil =>
    rw [List.mem_singleton.mp member, here]
  | cons c rest ih =>
    rw [stops] at member
    split at member
    · rcases List.mem_append.mp member with further | last
      · have shorter := ih (s := s.next c rest) rfl further
        rw [List.length_cons]
        omega
      · rw [List.mem_singleton.mp last, here]
    · rw [List.mem_singleton.mp member, here]

theorem stops_apart {text : List Char} (here : s.after = text) :
    (stops p s text).Pairwise fun u w => u.after.length ≠ w.after.length := by
  induction text generalizing s with
  | nil => exact List.pairwise_singleton _ _
  | cons c rest ih =>
    rw [stops]
    split
    · refine List.pairwise_append.mpr ⟨ih (s := s.next c rest) rfl, List.pairwise_singleton _ _, ?_⟩
      intro u further w last
      have shorter : u.after.length ≤ rest.length :=
        length_of_mem_stops (s := s.next c rest) rfl further
      rw [List.mem_singleton.mp last, here, List.length_cons]
      omega
    · exact List.pairwise_singleton _ _

/-- Before the end of the run there is more of it, so a search that cannot begin with a character
of the run succeeds behind it or nowhere. -/
theorem findSome?_stops {α : Type} {g : Cursor → Option α}
    (barred : ∀ u c rest, u.after = c :: rest → p c = true → g u = none) {text : List Char}
    (here : s.after = text) : (stops p s text).findSome? g = g (past p s text) := by
  induction text generalizing s with
  | nil => exact List.findSome?_singleton
  | cons c rest ih =>
    rw [stops, past]
    split
    · rename_i goes_on
      rw [List.findSome?_append, ih (s := s.next c rest) rfl, List.findSome?_singleton,
        barred s c rest here goes_on, Option.or_none]
    · exact List.findSome?_singleton

theorem stops_eq_reverse (text : List Char) : stops p s text = (strides p s text).reverse := by
  induction text generalizing s with
  | nil => rfl
  | cons c rest ih =>
    rw [stops, strides, List.reverse_cons]
    split
    · rw [ih]
    · rfl

theorem strides_apart {text : List Char} (here : s.after = text) :
    (strides p s text).Pairwise fun u w => u.after.length ≠ w.after.length := by
  have apart := stops_apart (p := p) here
  rw [stops_eq_reverse, List.pairwise_reverse] at apart
  exact apart.imp Ne.symm

/-- From each place the visit goes on to the next one and returns; no place is met twice. -/
theorem visit_run {t : Test} {greedy : Bool} {n : Nat} {seen : Seen} (room : s.after.length ≤ n)
    (fresh : ∀ k ∈ seen, s.after.length < k.2) :
    ∃ seen', visit (consuming (Node.one t).ends) greedy false n s seen =
      (if greedy then stops t.accepts s s.after else strides t.accepts s s.after, seen') := by
  induction n generalizing s seen with
  | zero =>
    have nothing : s.after = [] := List.length_eq_zero_iff.mp (Nat.le_zero.mp room)
    rw [nothing]
    exact ⟨seen, by cases greedy <;> rfl⟩
  | succ n ih =>
    have unseen : seen.contains (0, s.after.length) = false := by
      rw [List.contains_eq_any_beq, List.any_eq_false]
      intro k member same
      have further := fresh k member
      rw [← eq_of_beq same] at further
      exact Nat.lt_irrefl _ further
    rw [visit]
    simp only [Bool.false_eq_true, if_false, unseen]
    cases here : s.after with
    | nil =>
      have none_left : consuming (Node.one t).ends s = [] := by
        simp [consuming, Node.ends, here]
      rw [none_left]
      exact ⟨_, rfl⟩
    | cons c rest =>
      by_cases goes_on : t.accepts c = true
      · have one_more : consuming (Node.one t).ends s = [s.next c rest] := by
          simp [consuming, Node.ends, here, goes_on, Cursor.next]
        rw [here, List.length_cons] at room fresh
        have fresh' : ∀ k ∈ (0, (c :: rest).length) :: seen,
            (s.next c rest).after.length < k.2 := by
          intro k member
          rcases List.mem_cons.mp member with rfl | old
          · exact Nat.lt_succ_self _
          · exact Nat.lt_of_succ_lt (fresh k old)
        obtain ⟨seen', further⟩ := ih (Nat.le_of_succ_le_succ room) fresh'
        rw [one_more, stops, strides, if_pos goes_on, if_pos goes_on]
        refine ⟨seen', ?_⟩
        simp only [sweep, further, List.append_nil]
        cases greedy <;> rfl
      · have none_left : consuming (Node.one t).ends s = [] := by
          simp [consuming, Node.ends, here, goes_on]
        rw [none_left, stops, strides, if_neg goes_on, if_neg goes_on]
        exact ⟨_, by cases greedy <;> rfl⟩

/-- A first round and all that follow it. -/
theorem rounds_run (t : Test) (greedy : Bool) (s : Cursor) :
    rounds (Node.one t).ends greedy s =
      match s.after with
      | [] => []
      | c :: rest =>
        if t.accepts c then
          if greedy then stops t.accepts (s.next c rest) rest
          else strides t.accepts (s.next c rest) rest
        else [] := by
  rw [rounds]
  cases here : s.after with
  | nil => simp [Node.ends, here, sweep, distinct]
  | cons c rest =>
    by_cases accepted : t.accepts c = true
    · have first : (Node.one t).ends s = [s.next c rest] := by
        simp [Node.ends, here, accepted]
      have fresh : ∀ k ∈ ([] : Seen), (s.next c rest).after.length < k.2 := by simp
      obtain ⟨seen', visited⟩ : ∃ seen', visit (consuming (Node.one t).ends) greedy false
          rest.length (s.next c rest) [] = (if greedy then stops t.accepts (s.next c rest) rest
            else strides t.accepts (s.next c rest) rest, seen') :=
        visit_run (Nat.le_refl rest.length) fresh
      have shorter : (s.next c rest).after.length < (c :: rest).length := Nat.lt_succ_self _
      dsimp only
      rw [first, if_pos accepted]
      simp only [sweep, if_pos shorter, List.append_nil]
      change distinct (visit _ _ _ rest.length (s.next c rest) []).1 = _
      rw [visited]
      cases greedy with
      | true => exact distinct_of_pairwise (stops_apart rfl)
      | false => exact distinct_of_pairwise (strides_apart rfl)
    · have none_left : (Node.one t).ends s = [] := by simp [Node.ends, here, accepted]
      dsimp only
      rw [none_left, if_neg accepted]
      rfl

/-- A run ends one character further on, or where it may stop from there. -/
theorem ends_run (t : Test) (s : Cursor) :
    (Node.repeat (.one t) ⟨1, none⟩ true).ends s =
      match s.after with
      | [] => []
      | c :: rest => if t.accepts c then stops t.accepts (s.next c rest) rest else [] := by
  change distinct ((exactly (Node.one t).ends 0 s).flatMap (rounds (Node.one t).ends true)) = _
  rw [exactly, List.flatMap_singleton, rounds_run]
  split
  · rfl
  · split
    · exact distinct_of_pairwise (stops_apart rfl)
    · rfl

/-- A lazy run may stop at once, and then wherever it can, the nearest first. -/
theorem ends_lazy (t : Test) (s : Cursor) :
    (Node.repeat (.one t) ⟨0, none⟩ false).ends s = strides t.accepts s s.after := by
  have more : s :: rounds (Node.one t).ends false s = strides t.accepts s s.after := by
    rw [rounds_run]
    cases s.after <;> rfl
  change distinct (s :: rounds (Node.one t).ends false s) = _
  rw [more]
  exact distinct_of_pairwise (strides_apart rfl)

/-! ### Rows -/

theorem whole?_char (c : Char) (ns : List Node) (s : Cursor) :
    (Node.ofParts (.one (.char c) :: ns)).whole? s =
      match s.after with
      | [] => none
      | d :: rest => if c = d then (Node.ofParts ns).whole? (s.next d rest) else none := by
  rw [whole?_ofParts_cons, Node.ends]
  cases s.after with
  | nil => rfl
  | cons d rest =>
    by_cases same : c = d
    · simp [Test.accepts, same]
    · simp [Test.accepts, same]

/-- A run takes all the characters it can, if what follows it cannot begin with one of them. -/
theorem whole?_run {t : Test} {ns : List Node}
    (barred : ∀ u c rest, u.after = c :: rest → t.accepts c = true →
      (Node.ofParts ns).whole? u = none) (index : Nat) (s : Cursor) :
    (Node.ofParts (.run index t :: ns)).whole? s =
      if s.after.takeWhile t.accepts = [] then none
      else (Node.ofParts ns).whole? ((past t.accepts s s.after).capture index s) := by
  have captured (u : Cursor) : (u.capture index s).after = u.after := rfl
  rw [whole?_ofParts_cons, Node.run, Node.ends, ends_run, List.findSome?_map]
  cases here : s.after with
  | nil => rfl
  | cons c rest =>
    dsimp only
    rw [past, List.takeWhile_cons]
    split
    · have furthest : (stops t.accepts (s.next c rest) rest).findSome?
          ((Node.ofParts ns).whole? ∘ fun u => u.capture index s) =
            (Node.ofParts ns).whole? ((past t.accepts (s.next c rest) rest).capture index s) := by
        refine findSome?_stops ?_ rfl
        intro u d later there goes_on
        exact barred (u.capture index s) d later ((captured u).trans there) goes_on
      rw [furthest, if_neg (List.cons_ne_nil _ _)]
    · rw [if_pos rfl, List.findSome?_nil]

theorem captured_run {t : Test} (index : Nat) (s : Cursor) :
    ((past t.accepts s s.after).capture index s).after = s.after.dropWhile t.accepts ∧
      ((past t.accepts s s.after).capture index s).captures =
        (index, s.after.takeWhile t.accepts) :: s.captures := by
  obtain ⟨left, kept⟩ := past_after (p := t.accepts) (s := s) rfl
  refine ⟨left, ?_⟩
  change (index, _) :: _ = _
  rw [left, kept]
  congr 2
  have parted : s.after.takeWhile t.accepts ++ s.after.dropWhile t.accepts = s.after :=
    List.takeWhile_append_dropWhile
  have lengths := congrArg List.length parted
  rw [List.length_append] at lengths
  rw [← lengths, Nat.add_sub_cancel]
  exact List.prefix_iff_eq_take.mp (List.takeWhile_prefix _) |>.symm

end EndpointRouting.Regex
