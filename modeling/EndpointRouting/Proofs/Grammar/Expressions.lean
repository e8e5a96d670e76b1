import EndpointRouting.Grammar.Expression
import EndpointRouting.Proofs.Grammar.Types

/-!
# How patterns and expressions are printed

As for types, over nested readers that print what they take. Numbers of members are printed in
decimal digits; all else is printed as its parts are.
-/

namespace EndpointRouting.Grammar
open Token Tree

variable {g : Recognisers} {ts rest : List Tree} {c d e : Cursor}

theorem keeps_pattern (nested : g.Faithful) (bars : Bool) : Keeps (·.read (g.pattern bars)) :=
  fun _ _ => nested.onto_of_pattern

/-! ### Patterns -/

/-- A literal is printed in its normal form. -/
theorem onto_write_form (printed : List Tree) {l : Literal} (own : c.ahead = .literal l :: rest)
    (form : NormalForm [l.text] (leavesOf printed)) : Onto c ((c.drop rest).write printed) := by
  refine ⟨text_drop (own ▸ List.suffix_cons _ _), ?_⟩
  have left : leavesOf c.rest = l.text :: leavesOf rest := by
    rw [← c.leavesOf_ahead, own]
    rfl
  have shown := Prints.of_form (leavesOf c.printed) (leavesOf rest) form
  simpa [Cursor.shown, left, Cursor.write, Cursor.drop, leavesOf_append] using shown

/-- The number of a member is printed in decimal digits. -/
@[grind →] theorem onto_of_indexMember (h : indexMember c = some d) : Onto c d := by
  unfold indexMember at h
  split at h
  · rename_i text rest own
    obtain ⟨n, value, rfl⟩ := Option.map_eq_some_iff.mp h
    exact onto_write_form [indexToken n] own (.index value)
  · cases h

@[grind →] theorem onto_of_rangeEnd (nested : g.Faithful) (h : rangeEnd g c = some d) :
    Onto c d := by
  unfold rangeEnd at h
  grind [Option.map_eq_some_iff]

@[grind →] theorem onto_of_closedRangeEnd (nested : g.Faithful)
    (h : closedRangeEnd g c = some d) : Onto c d :=
  onto_of_rangeEnd nested (Option.filter_eq_some_iff.mp h).1

@[grind →] theorem onto_of_rangeAfter (nested : g.Faithful) (h : rangeAfter g c = some d) :
    Onto c d := by
  unfold rangeAfter at h
  split at h
  · rename_i marked
    rcases Option.or_eq_some_iff.mp marked with marked | ⟨-, marked⟩ <;> grind
  · grind
  · grind

@[grind →] theorem onto_of_markedPattern (nested : g.Faithful) {s : String} {bars : Bool}
    (h : afterMark s (·.read (g.pattern bars)) c = some d) : Onto c d :=
  keeps_afterMark (keeps_pattern nested bars) h

theorem keeps_fieldPattern (nested : g.Faithful) : Keeps (fieldPattern g) := by
  intro c d h
  obtain ⟨start, skipped, h⟩ := bind_some_iff.mp h
  refine (onto_of_skipAttributes nested skipped).trans ?_
  dsimp only at h
  split at h
  · grind
  split at h
  · grind [Option.map_eq_some_iff]
  split at h <;>
  · obtain ⟨after, first, h⟩ := bind_some_iff.mp h
    grind

@[grind →] theorem onto_of_pathPattern (nested : g.Faithful) (h : pathPattern g c = some d) :
    Onto c d := by
  have fields := reprints_commaSeparated (keeps_fieldPattern nested)
  have elements := reprints_commaSeparated (keeps_pattern nested true)
  obtain ⟨⟨p, after⟩, named, h⟩ := bind_some_iff.mp h
  grind [Option.map_eq_some_iff]

@[grind →] theorem onto_of_binding (h : binding c = some d) : Onto c d := by
  unfold binding at h
  grind [Option.map_eq_some_iff]

@[grind →] theorem onto_of_barePattern (nested : g.Faithful) (h : barePattern g c = some d) :
    Onto c d := by
  have elements := reprints_commaSeparated (keeps_pattern nested true)
  have block {d} (h : c.verbatim (fun c => g.block c.next) = some d) : Onto c d :=
    onto_of_verbatim (fun c d h => (onto_next c).trans (nested.onto_of_block h)) h
  unfold barePattern at h
  dsimp only at h
  repeat' first | split at h | (rw [bind_some_iff] at h; obtain ⟨_, _, h⟩ := h)
  all_goals grind [Option.or_eq_some_iff]

@[grind →] theorem onto_of_singlePatternFrom (nested : g.Faithful) {fuel : Nat}
    (h : singlePatternFrom g fuel c = some d) : Onto c d := by
  induction fuel generalizing c d with
  | zero => cases h
  | succ fuel ih =>
    have boxed {d} (h : c.verbatim (fun c => singlePatternFrom g fuel c.next) = some d) :
        Onto c d :=
      onto_of_verbatim (fun c d h => (onto_next c).trans (ih h)) h
    unfold singlePatternFrom at h
    repeat' split at h
    all_goals grind [Option.bind_eq_some_iff]

@[grind →] theorem onto_of_singlePattern (nested : g.Faithful) (h : singlePattern g c = some d) :
    Onto c d :=
  onto_of_singlePatternFrom nested h

@[grind →] theorem onto_of_morePatterns (nested : g.Faithful) {fuel : Nat}
    (h : morePatterns g fuel c = some d) : Onto c d := by
  induction fuel generalizing c with
  | zero => cases h
  | succ fuel ih =>
    unfold morePatterns at h
    split at h
    · obtain ⟨after, first, h⟩ := bind_some_iff.mp h
      grind
    · grind

theorem onto_of_patternOver (nested : g.Faithful) {bars : Bool} (h : pattern g bars c = some d) :
    Onto c d := by
  unfold pattern at h
  split at h
  · obtain ⟨after, first, h⟩ := bind_some_iff.mp h
    grind
  · grind

/-! ### Parts of expressions -/

theorem reprints_arguments (nested : g.Faithful) : Reprints (arguments g) :=
  reprints_commaSeparated (keeps_expr nested true)

@[grind →] theorem onto_of_member (h : member c = some d) : Onto c d := by
  rcases Option.or_eq_some_iff.mp h with h | ⟨-, h⟩
  · exact onto_of_indexMember h
  · obtain ⟨⟨i, e⟩, named, rfl⟩ := Option.map_eq_some_iff.mp h
    exact onto_of_name named

theorem keeps_fieldValue (nested : g.Faithful) : Keeps (fieldValue g) := by
  intro c d h
  obtain ⟨start, skipped, h⟩ := bind_some_iff.mp h
  refine (onto_of_skipAttributes nested skipped).trans ?_
  split at h
  · grind [Option.filter_eq_some_iff]
  · obtain ⟨after, first, h⟩ := bind_some_iff.mp h
    grind

theorem keeps_closureArgument (nested : g.Faithful) : Keeps (closureArgument g) := by
  intro c d h
  obtain ⟨start, skipped, h⟩ := bind_some_iff.mp h
  obtain ⟨after, first, h⟩ := bind_some_iff.mp h
  grind

@[grind →] theorem onto_of_closure (nested : g.Faithful) {structs : Bool}
    (h : closure g structs c = some d) : Onto c d := by
  have inputs {c d stop} (h : chain (closureArgument g) "," stop c = some d) : Onto c d :=
    keeps_chain (keeps_closureArgument nested) h
  unfold closure at h
  repeat' first | split at h | (rw [bind_some_iff] at h; obtain ⟨_, _, h⟩ := h)
  all_goals grind

@[grind →] theorem onto_of_conditional (nested : g.Faithful) (h : conditional g c = some d) :
    Onto c d := by
  unfold conditional at h
  repeat' first | split at h | (rw [bind_some_iff] at h; obtain ⟨_, _, h⟩ := h)
  all_goals grind

@[grind →] theorem onto_of_armCondition (nested : g.Faithful) (h : armCondition g c = some d) :
    Onto c d := by
  unfold armCondition at h
  grind

@[grind →] theorem onto_of_matchArms (nested : g.Faithful) {fuel : Nat}
    (h : matchArms g fuel c = some d) : Onto c d := by
  induction fuel generalizing c with
  | zero => cases h
  | succ fuel ih =>
    unfold matchArms at h
    split at h
    · grind
    obtain ⟨attributed, skipped, h⟩ := bind_some_iff.mp h
    obtain ⟨matched, patterned, h⟩ := bind_some_iff.mp h
    obtain ⟨checked, conditioned, h⟩ := bind_some_iff.mp h
    obtain ⟨marked, arrow, h⟩ := bind_some_iff.mp h
    obtain ⟨⟨closed, own⟩, standing, h⟩ := bind_some_iff.mp h
    have body := onto_follow (nested.standing standing)
    have before : Onto c marked := by grind
    refine (before.trans body).trans ?_
    grind

theorem reprints_matchContent (nested : g.Faithful) : Reprints (matchContent g) := by
  intro ts printed h
  obtain ⟨⟨as, start⟩, attributes, h⟩ := bind_some_iff.mp h
  obtain ⟨arms, listed, all⟩ := bind_some_iff.mp h
  exact prints_of_finish
    ((onto_of_innerAttributes nested attributes).1.trans (onto_of_matchArms nested listed)) all

@[grind →] theorem onto_of_iteration (nested : g.Faithful) (h : iteration g c = some d) :
    Onto c d := by
  unfold iteration at h
  repeat' (rw [bind_some_iff] at h; obtain ⟨_, _, h⟩ := h)
  grind

@[grind →] theorem onto_of_labelled (nested : g.Faithful) (h : labelled g c = some d) :
    Onto c d := by
  unfold labelled at h
  repeat' first | split at h | (rw [bind_some_iff] at h; obtain ⟨_, _, h⟩ := h)
  all_goals grind

@[grind →] theorem onto_of_blockLike (nested : g.Faithful) (h : blockLike g c = some d) :
    Onto c d := by
  have arms := reprints_matchContent nested
  unfold blockLike at h
  repeat' first | split at h | (rw [bind_some_iff] at h; obtain ⟨_, _, h⟩ := h)
  all_goals grind

/-! ### Expressions -/

@[grind →] theorem onto_of_rangeStop (nested : g.Faithful) {structs closed : Bool}
    (h : rangeStop g structs closed c = some d) : Onto c d := by
  unfold rangeStop at h
  grind

@[grind →] theorem onto_of_afterPath (nested : g.Faithful) {structs : Bool} {p : PathForm}
    (h : afterPath g structs p c = some d) : Onto c d := by
  have fields := reprints_commaSeparated (keeps_fieldValue nested)
  unfold afterPath at h
  grind [Option.map_eq_some_iff]

@[grind →] theorem onto_of_pathExpression (nested : g.Faithful) {structs : Bool}
    (h : pathExpression g structs c = some d) : Onto c d := by
  obtain ⟨⟨p, after⟩, named, h⟩ := bind_some_iff.mp h
  grind

/-- What stands between nothing is printed there, or without its group if it is a path. -/
theorem onto_of_unmarkedGroup (nested : g.Faithful) {structs : Bool} {content : List Tree}
    (opened : c.rest = .group .none content :: rest)
    (h : unmarkedGroup g structs content rest c = some d) : Onto c d := by
  unfold unmarkedGroup at h
  dsimp only at h
  split at h
  · rename_i p source printed read
    obtain ⟨⟨q, further⟩, more, h⟩ := bind_some_iff.mp h
    have own : Prints (leavesOf content) (leavesOf printed) := by
      simpa [leavesOf] using (onto_of_qualifiedPath nested read).prints
    have start := onto_unmarked opened (own.right (leavesOf rest))
    exact (start.trans (onto_of_moreSegments nested more)).trans (onto_of_afterPath nested h)
  · obtain ⟨inside, read, rfl⟩ := Option.map_eq_some_iff.mp h
    have own := reprints_whole (keeps_expr nested true) read
    refine onto_unmarked opened ?_
    simpa [leavesOf, leaves, Delimiter.opening?, Delimiter.closing?] using
      own.right (leavesOf rest)

@[grind →] theorem onto_of_operand? (nested : g.Faithful) {structs : Bool}
    (h : operand? g structs c = some d) : Onto c d := by
  unfold operand? at h
  grind

theorem reprints_arrayContent (nested : g.Faithful) : Reprints (arrayContent g) := by
  intro ts printed h
  rcases Option.or_eq_some_iff.mp h with h | ⟨-, h⟩
  · exact reprints_arguments nested h
  · refine reprints_whole (fun c d h => ?_) h
    repeat' (rw [bind_some_iff] at h; obtain ⟨_, _, h⟩ := h)
    grind

@[grind →] theorem onto_of_atom (nested : g.Faithful) {structs : Bool}
    (h : atom g structs c = some d) : Onto c d := by
  have tuple := reprints_arguments nested
  have array := reprints_arrayContent nested
  have becomes {d} (h : c.verbatim (fun c => c.next.read (g.expr structs)) = some d) : Onto c d :=
    onto_of_verbatim (fun c d h => (onto_next c).trans (nested.onto_of_expr h)) h
  unfold atom at h
  dsimp only at h
  repeat' first | (rw [ite_eq_iff] at h; rcases h with ⟨-, h⟩ | ⟨-, h⟩) |
    (rw [bind_some_iff] at h; obtain ⟨_, _, h⟩ := h)
  all_goals grind [Option.or_eq_some_iff]

@[grind →] theorem onto_of_namedAccess (nested : g.Faithful) (h : namedAccess g c = some d) :
    Onto c d := by
  have inputs := reprints_arguments nested
  unfold namedAccess at h
  dsimp only at h
  repeat' first | split at h | (rw [bind_some_iff] at h; obtain ⟨_, _, h⟩ := h)
  all_goals grind

theorem dropWhile_point {cs : List Char} {point : Char} {tail : List Char}
    (h : cs.dropWhile (· != '.') = point :: tail) : point = '.' := by
  have head := List.head?_dropWhile_not (· != '.') cs
  rw [h] at head
  simpa using head

/-- Two numbers with a point between them are printed one after the other. -/
@[grind →] theorem onto_of_access (nested : g.Faithful) (h : access g c = some d) : Onto c d := by
  unfold access at h
  split at h
  · rename_i text rest own
    obtain ⟨m, first, h⟩ := bind_some_iff.mp h
    have written := (List.takeWhile_append_dropWhile (p := (· != '.')) (l := text.toList)).symm
    dsimp only at h
    split at h
    · cases h
    · rename_i point behind
      obtain rfl := dropWhile_point behind
      rw [behind] at written
      have pointed := onto_write_form [indexToken m, .punct '.' false] own (.pointed written first)
      exact pointed.trans (onto_of_namedAccess nested h)
    · rename_i point others _ behind
      obtain rfl := dropWhile_point behind
      rw [behind] at written
      obtain ⟨n, second, rfl⟩ := Option.map_eq_some_iff.mp h
      have form := NormalForm.indexes written first second
      have pointed := onto_write_form [indexToken m, .punct '.' false, indexToken n] own form
      simpa [Cursor.write] using pointed
  · exact onto_of_namedAccess nested h

@[grind →] theorem onto_of_trailers (nested : g.Faithful) {fuel : Nat}
    (h : trailers g fuel c = some d) : Onto c d := by
  have inputs := reprints_arguments nested
  have index := reprints_whole (keeps_expr nested true)
  induction fuel generalizing c with
  | zero => cases h
  | succ fuel ih =>
    unfold trailers at h
    repeat' first | split at h | (rw [bind_some_iff] at h; obtain ⟨_, _, h⟩ := h)
    all_goals grind

@[grind →] theorem onto_of_prefixes (nested : g.Faithful) {fuel : Nat}
    (h : prefixes g fuel c = some d) : Onto c d := by
  induction fuel generalizing c with
  | zero => cases h
  | succ fuel ih =>
    unfold prefixes at h
    dsimp only at h
    repeat' split at h
    all_goals grind [Option.bind_eq_some_iff]

@[grind →] theorem onto_of_operator {mark : String} (h : operator c = some (mark, d)) :
    Onto c d := by
  unfold operator at h
  split at h
  · cases h
  · obtain ⟨s, -, taken⟩ := List.exists_of_findSome?_eq_some h
    obtain ⟨after, marked, same⟩ := Option.map_eq_some_iff.mp taken
    cases same
    exact onto_of_mark marked

@[grind →] theorem onto_of_primary (nested : g.Faithful) {structs : Bool}
    (h : primary g structs c = some d) : Onto c d := by
  unfold primary at h
  split at h
  · exact onto_of_unmarkedGroup nested ‹_› h
  · exact onto_of_atom nested h

@[grind →] theorem onto_of_operand (nested : g.Faithful) {structs : Bool}
    (h : operand g structs c = some d) : Onto c d := by
  unfold operand at h
  repeat' (rw [bind_some_iff] at h; obtain ⟨_, _, h⟩ := h)
  grind

@[grind →] theorem onto_of_operations (nested : g.Faithful) {structs ending compared : Bool}
    {fuel : Nat} (h : operations g structs ending fuel compared c = some d) : Onto c d := by
  induction fuel generalizing compared c with
  | zero => cases h
  | succ fuel ih =>
    unfold operations at h
    dsimp only at h
    repeat' first | split at h | (rw [bind_some_iff] at h; obtain ⟨_, _, h⟩ := h)
    all_goals grind

@[grind →] theorem onto_of_expression (nested : g.Faithful) {structs : Bool}
    (h : expression g structs c = some d) : Onto c d := by
  obtain ⟨after, first, h⟩ := bind_some_iff.mp h
  grind

@[grind →] theorem onto_of_rangeOperand (nested : g.Faithful) {structs : Bool}
    (h : rangeOperand g structs c = some d) : Onto c d := by
  obtain ⟨after, first, h⟩ := bind_some_iff.mp h
  exact (onto_of_operand nested first).trans (onto_of_operations nested h)

theorem onto_of_standingOver (nested : g.Faithful) {closed : Bool}
    (h : standing g c = some (closed, d)) : Onto c d := by
  obtain ⟨start, skipped, h⟩ := bind_some_iff.mp h
  have before := onto_of_skipAttributes nested skipped
  split at h
  · obtain ⟨block, ended, h⟩ := bind_some_iff.mp h
    refine (before.trans (onto_of_blockLike nested ended)).trans ?_
    split at h
    · obtain ⟨further, taken, h⟩ := bind_some_iff.mp h
      grind [Option.map_eq_some_iff]
    · grind
  · grind [Option.map_eq_some_iff]

end EndpointRouting.Grammar
