import EndpointRouting.Proofs.Regex.Segment
import EndpointRouting.Proofs.Template.Plain
import EndpointRouting.Regex.Match

/-!
# The expression of a variable

A variable of a template is what the expression `placeholder` matches: its name is the first group,
and its own pattern the third. `search?_placeholder` says that a search for the expression finds
what the reader of a variable reads.
-/

namespace EndpointRouting.Regex

variable {s : Cursor}

/-- The best way in which a pattern matches from a place. -/
def Node.best? (n : Node) (s : Cursor) : Option Cursor := (n.ends s).head?

theorem best?_seq (a b : Node) (s : Cursor) :
    (Node.seq a b).best? s = (a.ends s).findSome? b.best? := by
  rw [Node.best?, Node.ends, head?_distinct, List.head?_flatMap]
  rfl

theorem ends_char (c : Char) (s : Cursor) :
    (Node.one (.char c)).ends s =
      match s.after with
      | [] => []
      | d :: rest => if c = d then [s.next d rest] else [] := by
  rw [Node.ends]
  cases s.after with
  | nil => rfl
  | cons d rest => simp [Test.accepts]

theorem sweep_stopping (ss : List Cursor) (seen : Seen) :
    (sweep (fun u seen => ([u], seen)) ss seen).1 = ss := by
  induction ss generalizing seen with
  | nil => rfl
  | cons u ss ih => simp [sweep, ih seen]

/-- An optional part is first taken and then left out. -/
theorem ends_optional (body : Node) (s : Cursor) :
    (Node.repeat body ⟨0, some 1⟩ true).ends s = distinct (body.ends s ++ [s]) := by
  change distinct (sweep (visit body.ends true true 1) [s] []).1 = _
  simp [sweep, visit, sweep_stopping]

end EndpointRouting.Regex

namespace EndpointRouting.Template
open Regex Text

/-- The expression of a variable. -/
def placeholder : List Char := "\\\x7b(.*?)(:\\s(.*?))?\\\x7d".toList

/-- Anything on one line, as little as there can be. -/
def line (index : Nat) : Node := .capture index (.repeat (.one .notNewline) ⟨0, none⟩ false)

def closing : Node := .one (.char '\x7d')

/-- A pattern of its own, behind a colon and a blank. -/
def ownPattern : Node :=
  .capture 2 (.seq (.one (.char ':'))
    (.seq (.one (.set ⟨false, true⟩ (.shorthand .space false))) (line 3)))

/-- What may follow the name. -/
def remainder : Node := .seq (.repeat ownPattern ⟨0, some 1⟩ true) closing

def variableNode : Node := .seq (.one (.char '\x7b')) (.seq (line 1) remainder)

theorem compile_placeholder : Regex.compile placeholder = .ok ⟨variableNode, []⟩ := by
  decide +kernel

variable {s : Regex.Cursor} {c : Char} {text rest : List Char}

def goesOn (c : Char) : Bool := c != '\n'

theorem ends_line (index : Nat) (s : Regex.Cursor) :
    (line index).ends s = (strides goesOn s s.after).map (·.capture index s) := by
  rw [line, Node.ends, ends_lazy]
  rfl

/-! ### The end of a variable -/

theorem best?_closing (s : Regex.Cursor) :
    closing.best? s =
      match s.after with
      | [] => none
      | d :: rest => if '\x7d' = d then some (s.next d rest) else none := by
  rw [closing, Node.best?, ends_char]
  cases s.after with
  | nil => rfl
  | cons d rest =>
    dsimp only
    split <;> rfl

/-- Behind a colon and a blank. -/
def behindBlank? (s : Regex.Cursor) : Option Regex.Cursor :=
  match s.after with
  | d :: b :: rest =>
    if ':' = d ∧ isBlankChar b = true then some ((s.next d (b :: rest)).next b rest) else none
  | _ => none

/-- Where a pattern of its own may end. -/
def ownEnds (s : Regex.Cursor) : List Regex.Cursor :=
  match behindBlank? s with
  | some start => (strides goesOn start start.after).map fun u => (u.capture 3 start).capture 2 s
  | none => []

theorem lines_apart (index : Nat) (s : Regex.Cursor) :
    distinct ((line index).ends s) = (line index).ends s := by
  apply distinct_of_pairwise
  rw [ends_line]
  exact List.pairwise_map.mpr (strides_apart rfl)

theorem ends_blank (s : Regex.Cursor) :
    (Node.one (.set ⟨false, true⟩ (.shorthand .space false))).ends s =
      match s.after with
      | [] => []
      | b :: rest => if isBlankChar b then [s.next b rest] else [] := by
  have accepts (b : Char) :
      Test.accepts (.set ⟨false, true⟩ (.shorthand .space false)) b = isBlankChar b := by
    change (isBlankChar b != false) = isBlankChar b
    simp
  rw [Node.ends]
  cases s.after with
  | nil => rfl
  | cons b rest => simp only [accepts]

theorem ends_ownPattern (s : Regex.Cursor) : ownPattern.ends s = ownEnds s := by
  rw [ownPattern, Node.ends, Node.ends, ends_char, ownEnds, behindBlank?]
  cases here : s.after with
  | nil => rfl
  | cons d rest =>
    dsimp only
    by_cases colon : ':' = d
    · have next : (s.next d rest).after = rest := rfl
      rw [if_pos colon, List.flatMap_singleton, Node.ends, ends_blank, next]
      cases rest with
      | nil => rfl
      | cons b rest =>
        dsimp only
        by_cases blank : isBlankChar b = true
        · rw [if_pos blank, if_pos ⟨colon, blank⟩, List.flatMap_singleton, lines_apart,
            lines_apart, ends_line, List.map_map]
          rfl
        · rw [if_neg blank, if_neg fun both => blank both.2]
          rfl
    · rw [if_neg colon]
      cases rest with
      | nil => rfl
      | cons b rest =>
        dsimp only
        rw [if_neg fun both => colon both.1]
        rfl

theorem of_behindBlank {start : Regex.Cursor} (found : behindBlank? s = some start) :
    start.after.length < s.after.length ∧ start.captures = s.captures := by
  unfold behindBlank? at found
  split at found
  · rename_i here
    split at found
    · cases found
      rw [here]
      exact ⟨Nat.lt_of_succ_lt (Nat.lt_succ_self _), rfl⟩
    · cases found
  · cases found

/-- A pattern of its own comes before none, as places. -/
theorem ends_optionalPattern (s : Regex.Cursor) :
    (Node.repeat ownPattern ⟨0, some 1⟩ true).ends s = ownEnds s ++ [s] := by
  rw [ends_optional, ends_ownPattern, ownEnds]
  -- the ends leave less and less of the text, so none of them is dropped
  apply distinct_of_pairwise
  cases found : behindBlank? s with
  | none => exact List.pairwise_singleton _ _
  | some start =>
    have shorter := (of_behindBlank found).1
    refine List.pairwise_append.mpr ⟨List.pairwise_map.mpr (strides_apart rfl),
      List.pairwise_singleton _ _, ?_⟩
    intro u further w last
    obtain ⟨v, member, rfl⟩ := List.mem_map.mp further
    have inside : v ∈ stops goesOn start start.after :=
      stops_eq_reverse _ ▸ List.mem_reverse.mpr member
    have bounded := length_of_mem_stops rfl inside
    rw [List.mem_singleton.mp last]
    change v.after.length ≠ _
    omega

/-- Further on in the text, over some of its characters. -/
def shifted (s : Regex.Cursor) (taken rest : List Char) : Regex.Cursor :=
  { s with before := taken.reverse ++ s.before, after := rest }

/-- The nearest place in front of a closing brace is where the reader of a pattern stops. -/
theorem closes_pattern {g : Regex.Cursor → Regex.Cursor} (keeps : ∀ u, (g u).after = u.after)
    (here : s.after = text) :
    (strides goesOn s text).findSome? (fun u => closing.best? (g u)) =
      (readPattern text).map fun (p, left) =>
        (g (shifted s p ('\x7d' :: left))).next '\x7d' left := by
  induction text generalizing s with
  | nil => simp [strides, best?_closing, keeps, here, readPattern]
  | cons c rest ih =>
    rw [strides, List.findSome?_cons, best?_closing, keeps, here, readPattern]
    dsimp only
    by_cases closes : c = '\x7d'
    · subst closes
      have stays : shifted s [] ('\x7d' :: rest) = s := by
        rw [← here]
        rfl
      simp [stays]
    · have apart : ¬ '\x7d' = c := fun same => closes same.symm
      rw [if_neg apart, if_neg closes]
      by_cases broken : c = '\n'
      · simp [goesOn, broken]
      · have passes : goesOn c = true := by simpa [goesOn] using broken
        have further (p left : List Char) :
            shifted (s.next c rest) p left = shifted s (c :: p) left := by
          simp [shifted, Regex.Cursor.next]
        rw [if_neg broken, if_pos passes]
        dsimp only
        rw [ih (s := s.next c rest) rfl, Option.map_map]
        simp only [further]
        rfl

theorem readPattern_split {p left : List Char} (read : readPattern text = some (p, left)) :
    text = p ++ '\x7d' :: left := by
  induction text generalizing p with
  | nil => cases read
  | cons c rest ih =>
    rw [readPattern] at read
    split at read
    · rename_i closes
      cases read
      rw [closes]
      rfl
    · split at read
      · cases read
      · obtain ⟨⟨q, left⟩, later, same⟩ := Option.map_eq_some_iff.mp read
        cases same
        rw [ih later]
        rfl

theorem captures_capture {start : Regex.Cursor} {taken : List Char} (index : Nat)
    (begun : start.after = taken ++ s.after) :
    (s.capture index start).captures = (index, taken) :: s.captures := by
  simp [Regex.Cursor.capture, begun]

theorem readOwnPattern_eq (s : Regex.Cursor) :
    readOwnPattern s.after = (behindBlank? s).bind (readPattern ·.after) := by
  unfold behindBlank?
  split
  · rename_i d b rest here
    rw [here]
    by_cases colon : ':' = d
    · subst colon
      by_cases blank : isBlankChar b = true <;> simp [readOwnPattern, blank, Regex.Cursor.next]
    · rw [if_neg fun both => colon both.1]
      unfold readOwnPattern
      split
      · rename_i same
        cases same
        exact absurd rfl colon
      · rfl
  · rename_i short
    unfold readOwnPattern
    split
    · rename_i b rest here
      exact absurd here (short _ _ _)
    · rfl

/-- What follows the name is tried with a pattern of its own first. -/
theorem best?_remainder (s : Regex.Cursor) :
    match readOwnPattern s.after with
    | some (p, left) => ∃ f text, remainder.best? s = some f ∧ f.after = left ∧
        f.captures = (2, text) :: (3, p) :: s.captures
    | none => remainder.best? s = closing.best? s := by
  have tried : remainder.best? s = ((ownEnds s).findSome? closing.best?).or (closing.best? s) := by
    rw [remainder, best?_seq, ends_optionalPattern, List.findSome?_append, List.findSome?_singleton]
  rw [tried, readOwnPattern_eq, ownEnds]
  cases behind : behindBlank? s with
  | none => rfl
  | some start =>
    have closes := closes_pattern (g := fun u => (u.capture 3 start).capture 2 s) (fun _ => rfl)
      (s := start) rfl
    dsimp only [Option.bind_some]
    rw [List.findSome?_map]
    cases read : readPattern start.after with
    | none =>
      rw [read] at closes
      rw [Function.comp_def, closes]
      rfl
    | some found =>
      obtain ⟨p, left⟩ := found
      rw [read] at closes
      rw [Function.comp_def, closes]
      have recorded : ((shifted start p ('\x7d' :: left)).capture 3 start).captures =
          (3, p) :: s.captures := by
        rw [captures_capture 3 (readPattern_split read), ← (of_behindBlank behind).2]
        rfl
      exact ⟨_, _, rfl, rfl, congrArg (_ :: ·) recorded⟩

/-! ### Variables -/

/-- From each place in the name the expression goes on as the reader does. -/
theorem closes_name (start : Regex.Cursor) (taken : List Char)
    (begun : start.after = taken ++ text) (here : s.after = text) (fresh : s.captures = []) :
    match readVariable text with
    | some (v, left) => ∃ f,
        (strides goesOn s text).findSome? (fun u => remainder.best? (u.capture 1 start)) = some f ∧
          f.after = left ∧ f.captured? 1 = some (taken ++ v.name) ∧ f.captured? 3 = v.pattern
    | none =>
      (strides goesOn s text).findSome? (fun u => remainder.best? (u.capture 1 start)) = none := by
  induction text generalizing s taken with
  | nil =>
    have tried := best?_remainder (s.capture 1 start)
    have kept : (s.capture 1 start).after = [] := here
    have none_left : readOwnPattern [] = none := rfl
    rw [kept, none_left] at tried
    simp [strides, readVariable, tried, best?_closing, kept]
  | cons c rest ih =>
    have tried := best?_remainder (s.capture 1 start)
    have kept : (s.capture 1 start).after = c :: rest := here
    have named : (s.capture 1 start).captures = [(1, taken)] := by
      rw [captures_capture 1 (here ▸ begun), fresh]
    rw [kept, named] at tried
    -- the nearest place is tried first: a pattern of its own there, or else a closing brace
    rw [strides, List.findSome?_cons, readVariable]
    cases own : readOwnPattern (c :: rest) with
    | some found =>
      obtain ⟨p, left⟩ := found
      rw [own] at tried
      obtain ⟨f, behind, best, after, captures⟩ := tried
      rw [best]
      exact ⟨f, rfl, after, by simp [Regex.Cursor.captured?, captures],
        by simp [Regex.Cursor.captured?, captures]⟩
    | none =>
      rw [own] at tried
      rw [tried, best?_closing, kept]
      dsimp only
      by_cases closes : c = '\x7d'
      · subst closes
        have same : ((s.capture 1 start).next '\x7d' rest).captures = [(1, taken)] := named
        exact ⟨_, rfl, rfl, by simp [Regex.Cursor.captured?, same],
          by simp [Regex.Cursor.captured?, same]⟩
      · have apart : ¬ '\x7d' = c := fun same => closes same.symm
        rw [if_neg apart, if_neg closes]
        by_cases broken : c = '\n'
        · simp [goesOn, broken]
        · have passes : goesOn c = true := by simpa [goesOn] using broken
          have later := ih (s := s.next c rest) (taken ++ [c]) (by simp [begun]) rfl fresh
          rw [if_neg broken, if_pos passes]
          dsimp only
          cases read : readVariable rest with
          | none =>
            rw [read] at later
            exact later
          | some found =>
            obtain ⟨v, left⟩ := found
            rw [read] at later
            simpa using later

theorem best?_variableNode (before rest : List Char) :
    match readVariable rest with
    | some (v, left) => ∃ f, variableNode.best? ⟨before, '\x7b' :: rest, []⟩ = some f ∧
        f.after = left ∧ f.captured? 1 = some v.name ∧ f.captured? 3 = v.pattern
    | none => variableNode.best? ⟨before, '\x7b' :: rest, []⟩ = none := by
  let start : Regex.Cursor := ⟨'\x7b' :: before, rest, []⟩
  have tried : variableNode.best? ⟨before, '\x7b' :: rest, []⟩ =
      (strides goesOn start rest).findSome? (fun u => remainder.best? (u.capture 1 start)) := by
    rw [variableNode, best?_seq, ends_char]
    dsimp only
    rw [if_pos rfl, List.findSome?_singleton, best?_seq, ends_line, List.findSome?_map]
    rfl
  rw [tried]
  exact closes_name start [] rfl rfl rfl

theorem best?_variableNode_of_ne (plain : c ≠ '\x7b') (before rest : List Char) :
    variableNode.best? ⟨before, c :: rest, []⟩ = none := by
  rw [variableNode, best?_seq, ends_char]
  dsimp only
  rw [if_neg plain.symm, List.findSome?_nil]

theorem pieces_brace (read : readVariable rest = none) :
    pieces ('\x7b' :: rest) = .literal '\x7b' :: pieces rest := by
  rw [pieces, if_pos rfl]
  split
  · rename_i found
    rw [read] at found
    cases found
  · rfl

/-! ### Searches -/

/-- What a search finds in a template: the reader's first variable, with its name and its pattern in
the groups, and the rest of the text to go on with, or nothing if there is no variable. -/
def Finds (cs : List Char) : Option Regex.Cursor → Prop
  | some found => ∃ plain rest v, cs = plain ++ '\x7b' :: rest ∧
      readVariable rest = some (v, found.after) ∧ found.captured? 1 = some v.name ∧
      found.captured? 3 = v.pattern ∧
      pieces cs = plain.map .literal ++ .var v :: pieces found.after
  | none => pieces cs = cs.map .literal

theorem Finds.cons {found : Option Regex.Cursor} (finds : Finds rest found)
    (piece : pieces (c :: rest) = .literal c :: pieces rest) : Finds (c :: rest) found := by
  cases found with
  | none =>
    have literal : pieces rest = rest.map .literal := finds
    rw [Finds, piece, literal, List.map_cons]
  | some found =>
    obtain ⟨plain, inner, v, text, read, named, patterned, split⟩ := finds
    refine ⟨c :: plain, inner, v, ?_, read, named, patterned, ?_⟩
    · rw [text, List.cons_append]
    · rw [piece, split, List.map_cons, List.cons_append]

/-- The variable that starts at an opening brace is found there. -/
theorem finds_variable {v : Variable} {found : Option Regex.Cursor}
    (read : readVariable rest = some (v, left))
    (here : ∀ f, variableNode.best? ⟨before, '\x7b' :: rest, []⟩ = some f → found = some f) :
    Finds ('\x7b' :: rest) found := by
  have tried := best?_variableNode before rest
  rw [read] at tried
  obtain ⟨f, best, after, named, patterned⟩ := tried
  rw [here f best]
  refine ⟨[], rest, v, (List.nil_append _).symm, ?_, named, patterned, ?_⟩
  · rw [read, after]
  · rw [pieces_var read, after, List.map_nil, List.nil_append]

theorem finds_searchFrom (before cs : List Char) :
    Finds cs (variableNode.searchFrom before cs) := by
  induction cs generalizing before with
  | nil =>
    have missed : variableNode.best? ⟨before, [], []⟩ = none := by
      rw [variableNode, best?_seq, ends_char, List.findSome?_nil]
    rw [Node.best?] at missed
    rw [Node.searchFrom, missed, Finds, pieces, List.map_nil]
  | cons c rest ih =>
    have onward (missed : variableNode.best? ⟨before, c :: rest, []⟩ = none) :
        variableNode.searchFrom before (c :: rest) =
          variableNode.searchFrom (c :: before) rest := by
      rw [Node.best?] at missed
      rw [Node.searchFrom, missed]
    by_cases opens : c = '\x7b'
    · subst opens
      cases read : readVariable rest with
      | none =>
        have tried := best?_variableNode before rest
        rw [read] at tried
        rw [onward tried]
        exact (ih _).cons (pieces_brace read)
      | some found =>
        obtain ⟨v, left⟩ := found
        refine finds_variable read fun f (best : variableNode.best? ⟨before, _, []⟩ = some f) => ?_
        rw [Node.best?] at best
        rw [Node.searchFrom, best]
    · rw [onward (best?_variableNode_of_ne opens before rest)]
      exact (ih _).cons (pieces_literal opens rest)

/-- A search for the expression of a variable finds what the reader of a variable reads. -/
theorem search?_placeholder :
    ∃ regex, Regex.compile placeholder = .ok regex ∧ ∀ cs, Finds cs (regex.search? cs) :=
  ⟨_, compile_placeholder, finds_searchFrom []⟩

end EndpointRouting.Template
