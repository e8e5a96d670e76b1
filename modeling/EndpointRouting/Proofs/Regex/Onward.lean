import EndpointRouting.Proofs.Regex.Bare
import EndpointRouting.Proofs.Regex.Segment
import EndpointRouting.Regex.Match
import Mathlib.Logic.Relation

/-!
# Where a match leads

A match goes onward: from the place where it ends, the text between can be read off, and the
captures made before are still there below those made on the way. A group whose index is not in the
rest of a pattern keeps what it captured, and whatever a group captures is a piece of the text.
-/

namespace EndpointRouting.Regex

/-- All groups of the node have indices above `k`. -/
def Node.Above (k : Nat) : Node → Prop
  | .capture index body => k < index ∧ body.Above k
  | .seq first second | .alt first second => first.Above k ∧ second.Above k
  | .repeat body _ _ => body.Above k
  | .empty | .one _ | .place _ => True

/-- `text` stands between two places, and on the way only groups above `k` have captured. -/
structure Onward (k : Nat) (text : List Char) (s u : Cursor) : Prop where
  after : s.after = text ++ u.after
  captures : ∃ added, u.captures = added ++ s.captures ∧ ∀ e ∈ added, k < e.1

variable {k m : Nat} {s u w : Cursor} {ss : List Cursor} {text more : List Char}

theorem Onward.refl (k : Nat) (s : Cursor) : Onward k [] s s := ⟨rfl, [], rfl, by simp⟩

theorem Onward.trans (h : Onward k text s u) (h' : Onward k more u w) :
    Onward k (text ++ more) s w := by
  obtain ⟨after, added, captures, above⟩ := h
  obtain ⟨after', added', captures', above'⟩ := h'
  refine ⟨by rw [after, after', List.append_assoc], added' ++ added, ?_, ?_⟩
  · rw [captures', captures, List.append_assoc]
  · intro e member
    rcases List.mem_append.mp member with late | early
    · exact above' e late
    · exact above e early

theorem Onward.mono (h : Onward m text s u) (le : k ≤ m) : Onward k text s u := by
  obtain ⟨after, added, captures, above⟩ := h
  exact ⟨after, added, captures, fun e member => Nat.lt_of_le_of_lt le (above e member)⟩

theorem Onward.capture (h : Onward k text s u) (index : Nat) :
    (u.capture index s).captures = (index, text) :: u.captures := by
  have taken : s.after.take (s.after.length - u.after.length) = text := by
    rw [h.after, List.length_append, Nat.add_sub_cancel, List.take_left]
  change (index, _) :: _ = _
  rw [taken]

theorem Onward.captured? (h : Onward k text s u) {index : Nat} (le : index ≤ k) :
    u.captured? index = s.captured? index := by
  obtain ⟨-, added, captures, above⟩ := h
  have other : added.find? (·.1 == index) = none := by
    rw [List.find?_eq_none]
    intro e member same
    have := above e member
    have := eq_of_beq same
    omega
  unfold Cursor.captured?
  rw [captures, List.find?_append, other, Option.none_or]

/-! ### Repeating -/

/-- One place leads to another by rounds. -/
abbrev ByRounds (round : Cursor → List Cursor) : Cursor → Cursor → Prop :=
  Relation.ReflTransGen fun s u => u ∈ round s

variable {round : Cursor → List Cursor}

theorem mem_of_mem_distinct (member : u ∈ distinct ss) : u ∈ ss := by
  induction ss with
  | nil => exact member
  | cons s rest ih =>
    rcases List.mem_cons.mp member with rfl | later
    · exact List.mem_cons_self
    · exact List.mem_cons_of_mem _ (ih (List.mem_filter.mp later).1)

theorem byRounds_exactly {n : Nat} (member : u ∈ exactly round n s) : ByRounds round s u := by
  induction n generalizing u with
  | zero =>
    obtain rfl := List.mem_singleton.mp member
    exact .refl
  | succ n ih =>
    obtain ⟨w, before, last⟩ := List.mem_flatMap.mp (mem_of_mem_distinct member)
    exact (ih before).tail last

/-- A sweep finds only what some visit of one of the places finds. -/
theorem mem_sweep {visit : Cursor → Seen → List Cursor × Seen} {seen : Seen}
    (member : u ∈ (sweep visit ss seen).1) : ∃ s ∈ ss, ∃ seen', u ∈ (visit s seen').1 := by
  induction ss generalizing seen with
  | nil => cases member
  | cons s rest ih =>
    rw [sweep] at member
    rcases List.mem_append.mp member with here | later
    · exact ⟨s, List.mem_cons_self, seen, here⟩
    · obtain ⟨v, listed, seen', found⟩ := ih later
      exact ⟨v, List.mem_cons_of_mem _ listed, seen', found⟩

theorem mem_visit {greedy counted : Bool} {n : Nat} {seen : Seen}
    (member : u ∈ (visit round greedy counted (n + 1) s seen).1) :
    u = s ∨ ∃ seen', u ∈ (sweep (visit round greedy counted n) (round s) seen').1 := by
  rw [visit] at member
  dsimp only at member
  by_cases met : seen.contains (if counted then n else 0, s.after.length) = true
  · rw [if_pos met] at member
    cases member
  · rw [if_neg met] at member
    cases greedy with
    | true =>
      rcases List.mem_append.mp member with later | same
      · exact .inr ⟨_, later⟩
      · exact .inl (List.mem_singleton.mp same)
    | false =>
      rcases List.mem_cons.mp member with same | later
      · exact .inl same
      · exact .inr ⟨_, later⟩

theorem byRounds_visit {greedy counted : Bool} {n : Nat} {seen : Seen}
    (member : u ∈ (visit round greedy counted n s seen).1) : ByRounds round s u := by
  induction n generalizing s u seen with
  | zero =>
    obtain rfl := List.mem_singleton.mp member
    exact .refl
  | succ n ih =>
    rcases mem_visit member with rfl | ⟨seen', later⟩
    · exact .refl
    · obtain ⟨v, first, seen'', found⟩ := mem_sweep later
      exact .head first (ih found)

theorem byRounds_rounds {greedy : Bool} (member : u ∈ rounds round greedy s) :
    ByRounds round s u := by
  obtain ⟨v, first, seen, found⟩ := mem_sweep (mem_of_mem_distinct member)
  split at found
  · have each (a b : Cursor) (step : b ∈ consuming round a) : b ∈ round a :=
      (List.mem_filter.mp step).1
    exact .head first (Relation.ReflTransGen.mono each _ _ (byRounds_visit found))
  · obtain rfl := List.mem_singleton.mp found
    exact .single first

/-- However often a part repeats, a match of it is made of rounds. -/
theorem byRounds_repeat {body : Node} {count : Count} {greedy : Bool}
    (member : u ∈ (Node.repeat body count greedy).ends s) : ByRounds body.ends s u := by
  rw [Node.ends] at member
  split at member
  · obtain ⟨v, first, seen, found⟩ := mem_sweep (mem_of_mem_distinct member)
    exact (byRounds_exactly first).trans (byRounds_visit found)
  · split at member
    · have either : u ∈ rounds body.ends greedy s ∨ u = s := by
        have listed := mem_of_mem_distinct member
        cases greedy
        · rcases List.mem_cons.mp listed with same | later
          · exact .inr same
          · exact .inl later
        · rcases List.mem_append.mp listed with later | same
          · exact .inl later
          · exact .inr (List.mem_singleton.mp same)
      rcases either with later | rfl
      · exact byRounds_rounds later
      · exact .refl
    · obtain ⟨v, first, found⟩ := List.mem_flatMap.mp (mem_of_mem_distinct member)
      exact (byRounds_exactly first).trans (byRounds_rounds found)

/-! ### Matching -/

/-- A match leads onward, and records nothing but its own groups. -/
theorem onward_ends {n : Node} (above : n.Above k) (member : u ∈ n.ends s) :
    ∃ text, Onward k text s u := by
  induction n generalizing s u with
  | empty =>
    rw [List.mem_singleton.mp member]
    exact ⟨[], .refl k s⟩
  | one t =>
    rw [Node.ends] at member
    split at member
    · rename_i c rest here
      split at member
      · rw [List.mem_singleton.mp member]
        exact ⟨[c], here, [], rfl, by simp⟩
      · cases member
    · cases member
  | place p =>
    rw [Node.ends] at member
    split at member
    · rw [List.mem_singleton.mp member]
      exact ⟨[], .refl k s⟩
    · cases member
  | capture index body ih =>
    obtain ⟨v, found, rfl⟩ := List.mem_map.mp member
    obtain ⟨text, onward⟩ := ih above.2 found
    have recorded := onward.capture index
    obtain ⟨after, added, captures, higher⟩ := onward
    refine ⟨text, after, (index, text) :: added, ?_, ?_⟩
    · -- the group is recorded when it closes, on top of those in it
      rw [recorded, captures, List.cons_append]
    · intro e listed
      rcases List.mem_cons.mp listed with rfl | old
      · exact above.1
      · exact higher e old
  | seq first second ihf ihs =>
    obtain ⟨v, before, last⟩ := List.mem_flatMap.mp (mem_of_mem_distinct member)
    obtain ⟨text, onward⟩ := ihf above.1 before
    obtain ⟨more, onward'⟩ := ihs above.2 last
    exact ⟨text ++ more, onward.trans onward'⟩
  | alt first second ihf ihs =>
    rcases List.mem_append.mp (mem_of_mem_distinct member) with left | right
    · exact ihf above.1 left
    · exact ihs above.2 right
  | «repeat» body count greedy ih =>
    have path := byRounds_repeat member
    clear member
    -- how the rounds were found, greedy or not, with a bound or not, has no part in it any more
    induction path with
    | refl => exact ⟨[], .refl k s⟩
    | tail before last further =>
      obtain ⟨text, onward⟩ := further
      obtain ⟨more, onward'⟩ := ih above last
      exact ⟨text ++ more, onward.trans onward'⟩

theorem mem_ends_ofParts {n : Node} {ns : List Node}
    (member : u ∈ (Node.ofParts (n :: ns)).ends s) :
    ∃ v ∈ n.ends s, u ∈ (Node.ofParts ns).ends v := by
  cases ns with
  | nil => exact ⟨u, member, List.mem_singleton_self u⟩
  | cons n' ns => exact List.mem_flatMap.mp (mem_of_mem_distinct member)

/-! ### Moved groups -/

theorem above_bare_zero {n : Node} : (n.bare 0).Above k ↔ n.Above k := by
  induction n with
  | empty | one | place => exact Iff.rfl
  | capture index body ih => simp only [Node.bare, Node.Above, ih, Nat.add_zero]
  | seq first second ihf ihs | alt first second ihf ihs => simp only [Node.bare, Node.Above, ihf, ihs]
  | «repeat» body count greedy ih => simp only [Node.bare, Node.Above, ih]

theorem above_bare_succ (k : Nat) (n : Node) : (n.bare (k + 1)).Above k := by
  induction n with
  | empty | one | place => trivial
  | capture index body ih =>
    refine ⟨?_, ih⟩
    omega
  | seq first second ihf ihs | alt first second ihf ihs => exact ⟨ihf, ihs⟩
  | «repeat» body count greedy ih => exact ih

/-! ### Pieces of the text -/

/-- A place in a text, with captures that are pieces of the text. -/
structure Within (text : List Char) (s : Cursor) : Prop where
  after : s.after <:+ text
  captures : ∀ e ∈ s.captures, e.2 <:+: text

theorem Within.capture (here : Within text s) (there : Within text u) (index : Nat) :
    Within text (u.capture index s) where
  after := there.after
  captures := by
    intro e listed
    rcases List.mem_cons.mp listed with rfl | old
    · exact (List.take_prefix _ _).isInfix.trans here.after.isInfix
    · exact there.captures e old

/-- A match ends within the text that it starts in. -/
theorem within_ends {n : Node} (here : Within text s) (member : u ∈ n.ends s) : Within text u := by
  induction n generalizing s u with
  | empty => rwa [List.mem_singleton.mp member]
  | one t =>
    rw [Node.ends] at member
    split at member
    · rename_i c rest follows
      split at member
      · rw [List.mem_singleton.mp member]
        have further : rest <:+ s.after := follows ▸ List.suffix_cons c rest
        exact ⟨further.trans here.after, here.captures⟩
      · cases member
    · cases member
  | place p =>
    rw [Node.ends] at member
    split at member
    · rwa [List.mem_singleton.mp member]
    · cases member
  | capture index body ih =>
    obtain ⟨v, found, rfl⟩ := List.mem_map.mp member
    exact here.capture (ih here found) index
  | seq first second ihf ihs =>
    obtain ⟨v, before, last⟩ := List.mem_flatMap.mp (mem_of_mem_distinct member)
    exact ihs (ihf here before) last
  | alt first second ihf ihs =>
    rcases List.mem_append.mp (mem_of_mem_distinct member) with left | right
    · exact ihf here left
    · exact ihs here right
  | «repeat» body count greedy ih =>
    have path := byRounds_repeat member
    clear member
    induction path with
    | refl => exact here
    | tail before last further => exact ih further last

theorem within_searchFrom {n : Node} {before rest : List Char} (inside : rest <:+ text)
    (found : n.searchFrom before rest = some u) : Within text u := by
  induction rest generalizing before with
  | nil => exact within_ends ⟨inside, by simp⟩ (List.mem_of_head? found)
  | cons c rest ih =>
    rw [Node.searchFrom] at found
    split at found
    · rename_i v best
      cases found
      exact within_ends ⟨inside, by simp⟩ (List.mem_of_head? best)
    · exact ih ((List.suffix_cons c rest).trans inside) found

/-- What a group captured is a piece of the text. -/
theorem captured?_infix {r : Regex} {name value : List Char} (found : r.search? text = some u)
    (captured : r.captured? u name = some value) : value <:+: text := by
  obtain ⟨e, -, captured⟩ := Option.bind_eq_some_iff.mp captured
  obtain ⟨c, recorded, rfl⟩ := Option.map_eq_some_iff.mp captured
  have within : Within text u := within_searchFrom List.suffix_rfl found
  exact within.captures c (List.mem_of_find?_eq_some recorded)

end EndpointRouting.Regex
