import EndpointRouting.Proofs.Regex.Groups
import EndpointRouting.Proofs.Regex.Segment
import EndpointRouting.Proofs.Template.Plain
import Mathlib.Data.List.Forall2

/-!
# The expression of a plain template

The expression is read piece by piece: a literal character stands for itself, and a variable becomes
a group of its name that holds a run of characters other than a slash. So the expression is well
formed, by itself and anchored, and its tree is the row of `nodes`.
-/

namespace EndpointRouting
namespace Regex
open Template Text

/-- Everything but a slash. -/
def segmentTest : Test := .set ⟨false, true⟩ (.bracket true (.range '/' '/'))

theorem segmentTest_accepts : segmentTest.accepts = (· != '/') := by
  funext c
  change ((decide ('/' ≤ c) && decide (c ≤ '/')) != true) = (c != '/')
  by_cases slash : c = '/'
  · subst slash
    rfl
  · have apart : ¬ ('/' ≤ c ∧ c ≤ '/') := fun ⟨above, below⟩ => slash (Char.le_antisymm below above)
    rw [← Bool.decide_and, decide_eq_false apart]
    simpa using slash

/-- What the pieces of a plain template match; `k` groups are before them. -/
def nodes : Nat → List Piece → List Node
  | _, [] => []
  | k, .literal c :: ps => .one (.char c) :: nodes k ps
  | k, .var _ :: ps => .run (k + 1) segmentTest :: nodes (k + 1) ps

/-- The pattern resolves to the node and is not nested deeply. -/
def Becomes (q : Pattern) (n : Node) : Prop := q.resolve {} = .ok (n, {}) ∧ q.depth ≤ 3

/-- A run of characters other than a slash under an index, as it is read. -/
def runPattern (index : Nat) (span : Span) : Pattern :=
  .capture index (.repeat (.set (.bracket true (.range '/' '/')) span) ⟨1, none⟩ true)

theorem becomes_char (c : Char) : Becomes (.char c) (.one (.char c)) := ⟨rfl, Nat.zero_le 3⟩

theorem becomes_run (index : Nat) (span : Span) :
    Becomes (runPattern index span) (.run index segmentTest) := ⟨rfl, Nat.le_refl 3⟩

theorem depth_seq_le (first second : Pattern) :
    (Pattern.seq first second).depth ≤ max (first.depth + 1) (second.depth + 1) := by
  cases second with
  | seq a b =>
    change max (first.depth + 1) (Pattern.seq a b).depth ≤ _
    omega
  | _ => exact Nat.le_refl _

theorem depth_ofParts_le {qs : List Pattern} (shallow : ∀ q ∈ qs, q.depth ≤ 3) :
    (Pattern.ofParts qs).depth ≤ 4 := by
  fun_induction Pattern.ofParts qs with
  | case1 => exact Nat.zero_le 4
  | case2 q => exact Nat.le_succ_of_le (shallow q List.mem_cons_self)
  | case3 q rest more ih =>
    have first := shallow q List.mem_cons_self
    have later := ih fun q member => shallow q (List.mem_cons_of_mem _ member)
    cases rest with
    | nil => exact absurd rfl more
    | cons q' rest =>
      have second := shallow q' (List.mem_cons_of_mem _ List.mem_cons_self)
      cases rest with
      | nil =>
        have nested := depth_seq_le q q'
        rw [Pattern.ofParts]
        omega
      | cons q'' rest =>
        change max (q.depth + 1) (Pattern.ofParts (q' :: q'' :: rest)).depth ≤ 4
        omega

theorem resolve_ofParts {qs : List Pattern} {ns : List Node} (h : List.Forall₂ Becomes qs ns) :
    (Pattern.ofParts qs).resolve {} = .ok (Node.ofParts ns, {}) := by
  induction h with
  | nil => rfl
  | cons first rest ih =>
    cases rest with
    | nil => exact first.1
    | cons second rest =>
      rw [Pattern.ofParts, Pattern.resolve, first.1]
      · simp only [bind, Except.bind, ih]
        rfl
      · exact List.cons_ne_nil _ _

namespace Reader

/-- With fuel for the text the reader comes from one place to the other. -/
def Reaches (r : Reader) (cs : List Char) (r' : Reader) (rest : List Char) : Prop :=
  ∀ n, cs.length ≤ n → ∃ l, rest.length ≤ l ∧ run n r cs = run l r' rest

variable {r r₁ r₂ : Reader} {c : Char} {cs rest left : List Char}

theorem Reaches.refl (r : Reader) (cs : List Char) : Reaches r cs r cs :=
  fun n room => ⟨n, room, rfl⟩

theorem Reaches.trans (h : Reaches r cs r₁ rest) (h' : Reaches r₁ rest r₂ left) :
    Reaches r cs r₂ left := by
  intro n room
  obtain ⟨l, room, first⟩ := h n room
  obtain ⟨m, room, second⟩ := h' l room
  exact ⟨m, room, first.trans second⟩

theorem reaches_step (plain : r.verbose = false) (shorter : rest.length ≤ cs.length)
    (h : r.step c cs = .ok (r₁, rest)) : Reaches r (c :: cs) r₁ rest := by
  intro n room
  rw [List.length_cons] at room
  obtain ⟨l, rfl⟩ : ∃ l, n = l + 1 := ⟨n - 1, by omega⟩
  refine ⟨l, by omega, ?_⟩
  simp only [run, skip, plain, Bool.false_eq_true, if_false, h]
  rfl

theorem Reaches.run_eq (h : Reaches r cs r₁ []) : run cs.length r cs = .ok r₁ := by
  obtain ⟨l, -, reached⟩ := h cs.length (Nat.le_refl _)
  rw [reached, run_nil (skip_nil _)]

/-! ### Literal characters -/

theorem step_ordinary (ordinary : c ∉ special) (rest : List Char) :
    r.step c rest = .ok (r.push (.char c), rest) := by
  have read : readPrimitive r.verbose c rest = .ok (.char c, rest) := by
    unfold readPrimitive
    split
    case h_5 => rfl
    all_goals exact absurd (by decide) ordinary
  unfold step
  dsimp only
  split
  case h_9 =>
    rw [read]
    rfl
  all_goals exact absurd (by decide) ordinary

/-! ### Variables -/

theorem readName_valid {name : List Char} (valid : ValidName name) (rest : List Char) :
    readName true (name ++ '>' :: rest) = .ok (name, '>' :: rest) := by
  have later (ds : List Char) (continues : ∀ d ∈ ds, continuesName d = true) :
      readName false (ds ++ '>' :: rest) = .ok (ds, '>' :: rest) := by
    induction ds with
    | nil => rfl
    | cons d ds ih =>
      have here := continues d List.mem_cons_self
      have not_end : (d == '>') = false := by simpa using (ne_of_continuesName here).2.2.2
      have goes_on : (d == '_' || isAlphabetic d ||
          (!false && (d == '.' || d == '[' || d == ']' || isAlphanumeric d))) = true := by
        simpa [continuesName, startsName, Bool.or_assoc] using here
      rw [List.cons_append, readName, not_end, goes_on,
        ih fun e member => continues e (List.mem_cons_of_mem _ member)]
      rfl
  cases name with
  | nil => exact valid.elim
  | cons c ds =>
    have not_end : (c == '>') = false := by
      simpa using (ne_of_continuesName (continuesName_of_startsName valid.1)).2.2.2
    have starts : (c == '_' || isAlphabetic c ||
        (!true && (c == '.' || c == '[' || c == ']' || isAlphanumeric c))) = true := by
      simpa [startsName] using valid.1
    rw [List.cons_append, readName, not_end, starts, later ds valid.2]
    rfl

theorem ne_of_startsName (h : startsName c = true) : c ≠ '=' ∧ c ≠ '!' := by
  constructor <;> rintro rfl <;> revert h <;> decide +kernel

/-- A named group is opened by its name. -/
theorem step_named (plain : r.verbose = false) {name : List Char} (valid : ValidName name)
    (fresh : r.names.find? (·.name == name) = none) (rest : List Char) :
    ∃ span here, r.step '(' ('?' :: '<' :: (name ++ '>' :: rest)) =
      .ok (r.named name span here, rest) := by
  obtain ⟨c, ds, rfl⟩ : ∃ c ds, name = c :: ds := by
    cases name with
    | nil => exact valid.elim
    | cons c ds => exact ⟨c, ds, rfl⟩
  obtain ⟨not_equal, not_bang⟩ := ne_of_startsName valid.1
  have read := readName_valid valid rest
  refine ⟨.between ('(' :: '?' :: '<' :: (c :: ds ++ '>' :: rest))
      ('?' :: '<' :: (c :: ds ++ '>' :: rest)),
    .between (c :: ds ++ '>' :: rest) ('>' :: rest), ?_⟩
  change r.openParenthesis _ _ = _
  rw [List.cons_append, openParenthesis_mark plain not_equal not_bang]
  unfold openNamed
  simp only [List.cons_append] at read
  simp only [read, bind, Except.bind, List.isEmpty_cons, Bool.false_eq_true, if_false, fresh]
  rfl

/-- A group without a pattern of its own is read to its end. -/
theorem reaches_segment (plain : r.verbose = false) {outer : List Pattern} {index : Nat}
    {frames : List Frame} {span : Span} (empty : r.parts = [])
    (opened : r.frames = .group outer (.capture index) false span :: frames) (t : List Char) :
    ∃ here, Reaches r ('[' :: '^' :: '/' :: ']' :: '+' :: ')' :: t)
      { r with parts := runPattern index here :: outer, frames := frames, verbose := false } t := by
  let s : CharSet := .bracket true (.range '/' '/')
  have read : readSet r.verbose ('[' :: '^' :: '/' :: ']' :: '+' :: ')' :: t)
      ('^' :: '/' :: ']' :: '+' :: ')' :: t) = .ok (s, '+' :: ')' :: t) := by
    rw [plain]
    rfl
  let here : Span := .between ('[' :: '^' :: '/' :: ']' :: '+' :: ')' :: t) ('+' :: ')' :: t)
  have bracket : r.step '[' ('^' :: '/' :: ']' :: '+' :: ')' :: t) =
      .ok (r.push (.set s here), '+' :: ')' :: t) := by
    change (readSet r.verbose _ _ >>= _) = _
    rw [read]
    rfl
  have plus : (r.push (.set s here)).step '+' (')' :: t) =
      .ok ({ r with parts := .repeat (.set s here) ⟨1, none⟩ true :: r.parts }, ')' :: t) := rfl
  have close : ({ r with parts := .repeat (.set s here) ⟨1, none⟩ true :: r.parts } : Reader).step
      ')' t = .ok ({ r with
        parts := runPattern index here :: outer, frames := frames, verbose := false }, t) := by
    change (closeParenthesis _ _ t >>= _) = _
    simp only [closeParenthesis, opened, row, empty]
    rfl
  have plain₁ : (r.push (.set s here)).verbose = false := plain
  have plain₂ : ({ r with
      parts := .repeat (.set s here) ⟨1, none⟩ true :: r.parts } : Reader).verbose = false := plain
  have first := reaches_step plain (by simp only [List.length_cons]; omega) bracket
  have second := reaches_step plain₁ (Nat.le_refl _) plus
  have third := reaches_step plain₂ (Nat.le_refl _) close
  exact ⟨here, first.trans (second.trans third)⟩

theorem reaches_var (plain : r.verbose = false) {name : List Char} (valid : ValidName name)
    (fresh : name ∉ r.names.map (·.name)) (t : List Char) :
    ∃ r' span here, Reaches r (Variable.group ⟨name, none⟩ ++ t) r' t ∧
      r'.parts = runPattern (r.captures + 1) span :: r.parts ∧ r'.frames = r.frames ∧
      r'.names = ⟨name, r.captures + 1, here⟩ :: r.names ∧ r'.captures = r.captures + 1 ∧
      r'.verbose = false := by
  have unknown : r.names.find? (·.name == name) = none := by
    rw [List.find?_eq_none]
    intro n member same
    exact fresh (eq_of_beq same ▸ List.mem_map_of_mem member)
  have text : Variable.group ⟨name, none⟩ ++ t = '(' :: '?' :: '<' ::
      (name ++ '>' :: '[' :: '^' :: '/' :: ']' :: '+' :: ')' :: t) := by
    simp [Variable.group, Template.segment]
  obtain ⟨span, here, opens⟩ :=
    step_named plain valid unknown ('[' :: '^' :: '/' :: ']' :: '+' :: ')' :: t)
  have inside : (r.named name span here).frames =
      .group r.parts (.capture (r.captures + 1)) false span :: r.frames := by
    rw [← plain]
    rfl
  obtain ⟨inner, closes⟩ := reaches_segment (r := r.named name span here) plain rfl inside t
  have opened := reaches_step plain
    (by simp only [List.length_cons, List.length_append]; omega) opens
  rw [text]
  exact ⟨_, inner, here, opened.trans closes, rfl, rfl, rfl, rfl, rfl⟩

/-! ### Templates -/

/-- The reader after the pieces. -/
structure Reads (ps : List Piece) (r r' : Reader) : Prop where
  parts : ∃ qs, List.Forall₂ Becomes qs (nodes r.captures ps) ∧ r'.parts = qs.reverse ++ r.parts
  frames : r'.frames = r.frames
  names : r'.names.map (GroupName.entry 0) =
    ((Template.names ps).zipIdx (r.captures + 1)).reverse ++ r.names.map (GroupName.entry 0)
  verbose : r'.verbose = false

/-- A plain template is read piece by piece, wherever it stands. -/
theorem reads_plain {ps : List Piece} (plain : Plain ps) (distinct : (Template.names ps).Nodup)
    (quiet : r.verbose = false) (fresh : ∀ name ∈ Template.names ps, name ∉ r.names.map (·.name))
    (t : List Char) :
    ∃ r', Reaches r (ps.flatMap Piece.expression ++ t) r' t ∧ Reads ps r r' := by
  induction plain generalizing r with
  | nil => exact ⟨r, .refl r t, ⟨[], .nil, rfl⟩, rfl, rfl, quiet⟩
  | @literal c ps ordinary rest ih =>
    have step := step_ordinary (r := r) ordinary (ps.flatMap Piece.expression ++ t)
    obtain ⟨r', reaches, ⟨qs, become, parts⟩, frames, named, verbose⟩ :=
      ih (r := r.push (.char c)) distinct quiet fresh
    refine ⟨r', (reaches_step quiet (Nat.le_refl _) step).trans reaches, ?_, frames, named, verbose⟩
    refine ⟨.char c :: qs, .cons (becomes_char c) become, ?_⟩
    rw [parts]
    simp [Reader.push]
  | @var name ps valid bounded rest ih =>
    obtain ⟨other, distinct⟩ := List.nodup_cons.mp distinct
    obtain ⟨r₁, span, here, opened, parts₁, frames₁, names₁, captures₁, quiet₁⟩ :=
      reaches_var quiet valid (fresh name List.mem_cons_self) (ps.flatMap Piece.expression ++ t)
    have fresh₁ : ∀ n ∈ Template.names ps, n ∉ r₁.names.map (·.name) := by
      intro n member
      rw [names₁, List.map_cons, List.mem_cons, not_or]
      refine ⟨?_, fresh n (List.mem_cons_of_mem _ member)⟩
      rintro rfl
      exact other member
    obtain ⟨r', reaches, ⟨qs, become, parts⟩, frames, named, verbose⟩ := ih distinct quiet₁ fresh₁
    rw [captures₁] at become named
    refine ⟨r', ?_, ⟨runPattern (r.captures + 1) span :: qs, .cons (becomes_run _ span) become, ?_⟩,
      frames.trans frames₁, ?_, verbose⟩
    · rw [List.flatMap_cons, List.append_assoc]
      exact opened.trans reaches
    · rw [parts, parts₁]
      simp
    · rw [named, names₁]
      simp [GroupName.entry, List.zipIdx_cons]

end Reader

/-! ### Compiled expressions -/

/-- The groups of a plain template, each with its index. -/
def groups (ps : List Piece) : List (List Char × Nat) := (Template.names ps).zipIdx 1

theorem shallow_of_becomes {qs : List Pattern} {ns : List Node} (h : List.Forall₂ Becomes qs ns) :
    ∀ q ∈ qs, q.depth ≤ 3 := by
  induction h with
  | nil => simp
  | cons first _ ih =>
    intro q member
    rcases List.mem_cons.mp member with rfl | member
    · exact first.2
    · exact ih q member

theorem read_of_run {cs : List Char} {r : Reader} {p : Pattern} {ns : List (List Char × Nat)}
    (run : Reader.run cs.length {} cs = .ok r) (finish : r.finish = .ok p)
    (shallow : p.depth ≤ nestLimit) (named : r.names.map (GroupName.entry 0) = ns.reverse) :
    Pattern.read cs = .ok ⟨p, ns⟩ := by
  have listed : (r.names.map fun n => (n.name, n.index)).reverse = ns := by
    change (r.names.map (GroupName.entry 0)).reverse = ns
    rw [named, List.reverse_reverse]
  unfold Pattern.read
  simp only [run, finish, bind, Except.bind, if_pos shallow, listed]

variable {ps : List Piece}

/-- The expression of a plain template reads as the row of its pieces. -/
theorem read_plain (plain : Plain ps) (distinct : (Template.names ps).Nodup) :
    ∃ p, Pattern.read (ps.flatMap Piece.expression) = .ok ⟨p, groups ps⟩ ∧
      p.resolve {} = .ok (Node.ofParts (nodes 0 ps), {}) := by
  obtain ⟨r, reaches, ⟨qs, become, parts⟩, frames, named, -⟩ :=
    Reader.reads_plain (r := {}) plain distinct rfl (by simp) []
  rw [List.append_nil] at reaches
  have shallow := depth_ofParts_le (shallow_of_becomes become)
  have row : r.row = .ofParts qs := by
    rw [Reader.row, parts, List.append_nil, List.reverse_reverse]
  have finish : r.finish = .ok (.ofParts qs) := by
    rw [Reader.finish, frames, row]
  refine ⟨.ofParts qs, read_of_run reaches.run_eq finish ?_ ?_, resolve_ofParts become⟩
  · exact Nat.le_trans shallow (by decide)
  · rw [named, List.map_nil, List.append_nil]
    rfl

/-- Anchored, it stands between the two anchors. -/
theorem read_anchor_plain (plain : Plain ps) (distinct : (Template.names ps).Nodup) :
    ∃ p, Pattern.read (anchor (ps.flatMap Piece.expression)) = .ok ⟨p, groups ps⟩ ∧
      p.resolve {} = .ok (.seq (.place .textStart)
        (.seq (Node.ofParts (nodes 0 ps)) (.place .textEnd)), {}) := by
  let cs := ps.flatMap Piece.expression
  obtain ⟨span, wrapped⟩ := Reader.run_wrapped (cs.length + 4) (cs ++ [')', '$'])
  obtain ⟨r, reaches, ⟨qs, become, parts⟩, frames, named, quiet⟩ :=
    Reader.reads_plain (r := .wrapped span) plain distinct rfl (by simp [Reader.wrapped]) [')', '$']
  have shallow := depth_ofParts_le (shallow_of_becomes become)
  have row : r.row = .ofParts qs := by
    rw [Reader.row, parts]
    simp [Reader.wrapped]
  let closed : Reader :=
    { r with
      parts := [.group [] (.ofParts qs), .anchor .lineStart], frames := [], verbose := false }
  have close : r.step ')' ['$'] = .ok (closed, ['$']) := by
    change (r.closeParenthesis _ _ >>= _) = _
    unfold Reader.closeParenthesis
    rw [frames, row]
    rfl
  have dollar : closed.step '$' [] = .ok (closed.push (.anchor .lineEnd), []) := rfl
  have first := Reader.reaches_step quiet (Nat.le_refl _) close
  have second := Reader.reaches_step (r := closed) rfl (Nat.le_refl _) dollar
  have run : Reader.run (anchor cs).length {} (anchor cs) =
      .ok (closed.push (.anchor .lineEnd)) := by
    have length : (anchor cs).length = cs.length + 4 + 2 := by simp [anchor]
    obtain ⟨l, -, reached⟩ :=
      (reaches.trans (first.trans second)) (cs.length + 4) (by simp [cs])
    rw [length, anchor, wrapped, reached, Reader.run_nil (skip_nil _)]
  have finish : (closed.push (.anchor .lineEnd)).finish =
      .ok (.seq (.anchor .lineStart) (.seq (.group [] (.ofParts qs)) (.anchor .lineEnd))) := rfl
  refine ⟨_, read_of_run run finish ?_ ?_, ?_⟩
  · change max (0 + 1) (max ((Pattern.ofParts qs).depth + 1 + 1) (0 + 1)) ≤ nestLimit
    have limit : nestLimit = 250 := rfl
    omega
  · change r.names.map (GroupName.entry 0) = _
    rw [named]
    simp [Reader.wrapped, groups]
  · have inner := resolve_ofParts become
    simp only [Pattern.resolve, Flags.apply, List.foldl_nil, inner, bind, Except.bind]
    rfl

/-- The expression of a plain template is well formed: only its size can be refused. -/
theorem compile_plain (plain : Plain ps) (distinct : (Template.names ps).Nodup) :
    compile (anchor (ps.flatMap Piece.expression)) = .error .tooBig ∨
      ∃ re, compile (anchor (ps.flatMap Piece.expression)) = .ok re ∧
        compile (ps.flatMap Piece.expression) =
          .ok ⟨Node.ofParts (nodes 0 ps), groups ps⟩ := by
  obtain ⟨p, read, resolved⟩ := read_plain plain distinct
  obtain ⟨p', read', resolved'⟩ := read_anchor_plain plain distinct
  have alone : compile (ps.flatMap Piece.expression) =
      if (Node.ofParts (nodes 0 ps)).size ≤ sizeLimit then
        .ok ⟨Node.ofParts (nodes 0 ps), groups ps⟩ else .error .tooBig := by
    unfold compile
    rw [read]
    simp only [Except.mapError, bind, Except.bind, resolved]
  let whole : Node := .seq (.place .textStart) (.seq (.ofParts (nodes 0 ps)) (.place .textEnd))
  have anchored : compile (anchor (ps.flatMap Piece.expression)) =
      if whole.size ≤ sizeLimit then .ok ⟨whole, groups ps⟩ else .error .tooBig := by
    unfold compile
    rw [read']
    simp only [Except.mapError, bind, Except.bind, resolved', whole]
  by_cases fits : whole.size ≤ sizeLimit
  · rw [if_pos fits] at anchored
    have larger : whole.size = stateSize + ((Node.ofParts (nodes 0 ps)).size + stateSize) := rfl
    rw [if_pos (by omega)] at alone
    exact .inr ⟨_, anchored, alone⟩
  · rw [if_neg fits] at anchored
    exact .inl anchored

end Regex
end EndpointRouting
