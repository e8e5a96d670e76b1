import EndpointRouting.Proofs.Regex.Nested
import EndpointRouting.Regex.Match

/-!
# Anchored expressions

An expression is anchored by text: `^(?:` goes before it and `)$` after it. When the expression
reads by itself, its tree stands between the two anchors as a group of its own, so that a match
covers a text from its first character to its last. When it closes the group itself, as `a)|(?:b`
does, the anchors belong to different branches.
-/

namespace EndpointRouting
namespace Regex
open Text

namespace Reader

/-- The frame of the parenthesis that anchoring puts around an expression. -/
def wrapper (span : Span) : Frame := .group [.anchor .lineStart] (.plain []) false span

def wrapped (span : Span) : Reader := { frames := [wrapper span] }

theorem wrapper_closed (span : Span) (alternatives : List Pattern) :
    [wrapper span].head? ≠ some (.branches alternatives) := by
  intro h
  cases h

theorem wrapped_inside (span : Span) : Inside 0 [wrapper span] [] {} (wrapped span) where
  parts := rfl
  frames := ⟨[], rfl, rfl⟩
  names := ⟨[], rfl, rfl⟩
  captures := rfl
  verbose := rfl

theorem run_wrapped (n : Nat) (cs : List Char) :
    ∃ span, run (n + 2) {} ('^' :: '(' :: '?' :: ':' :: cs) = run n (wrapped span) cs :=
  ⟨_, rfl⟩

variable {k : Nat} {base : List Frame} {known : List GroupName} {r r' rf rf' : Reader}
variable {t cs : List Char} {p : Pattern}

/-- A text that reads by itself leaves at most a choice open. -/
theorem frames_of_finish (h : r.finish = .ok p) :
    (r.frames = [] ∧ p = r.row) ∨
      ∃ alternatives, r.frames = [.branches alternatives] ∧
        p = .ofBranches (r.row :: alternatives).reverse := by
  unfold finish at h
  split at h
  · rename_i hframes
    cases h
    exact .inl ⟨hframes, rfl⟩
  · rename_i alternatives hframes
    cases h
    exact .inr ⟨alternatives, hframes, rfl⟩
  · cases h
  · cases h
  · cases h

/-- Inside a longer text at most a choice is open on top of what was open before. -/
theorem Inside.frames_of_finish (inside : Inside k base known r r') (h : r.finish = .ok p) :
    (r'.frames = base ∧ r'.row.bare 0 = p.bare k) ∨
      ∃ alternatives, r'.frames = .branches alternatives :: base ∧
        (Pattern.ofBranches (r'.row :: alternatives).reverse).bare 0 = p.bare k := by
  obtain ⟨top, htop, hbare⟩ := inside.frames
  rcases Reader.frames_of_finish h with ⟨hframes, rfl⟩ | ⟨alternatives, hframes, rfl⟩
  · rw [hframes, List.map_nil, List.map_eq_nil_iff] at hbare
    rw [hbare, List.nil_append] at htop
    exact .inl ⟨htop, inside.row⟩
  · rw [hframes] at hbare
    obtain ⟨frame, top, rfl, hframe, hrest⟩ := List.map_eq_cons_iff.1 hbare
    rw [List.map_nil, List.map_eq_nil_iff] at hrest
    cases frame with
    | group => cases hframe
    | branches alternatives' =>
      simp only [Frame.bare, Frame.branches.injEq] at hframe
      refine .inr ⟨alternatives', by rw [htop, hrest]; rfl, ?_⟩
      rw [bare_ofBranches, bare_ofBranches, List.map_reverse, List.map_reverse, List.map_cons,
        List.map_cons, inside.row, hframe]

variable {outer : List Pattern} {kind : GroupKind} {verbose : Bool} {span : Span}
variable {below : List Frame}

/-- The parenthesis after a text that reads by itself closes the group around the text. -/
theorem Inside.closes (inside : Inside k (.group outer kind verbose span :: below) known r r')
    (h : r.finish = .ok p) (start rest : List Char) :
    ∃ body, body.bare 0 = p.bare k ∧
      r'.closeParenthesis start rest = .ok (r'.close kind outer below verbose body) := by
  rcases inside.frames_of_finish h with ⟨hframes, same⟩ | ⟨alternatives, hframes, same⟩
  · exact ⟨_, same, by simp only [closeParenthesis, hframes]⟩
  · exact ⟨_, same, by simp only [closeParenthesis, hframes]⟩

/-- Without that parenthesis the longer text does not read. -/
theorem Inside.unfinished (inside : Inside k (.group outer kind verbose span :: below) known r r')
    (h : r.finish = .ok p) (q : Pattern) : r'.finish ≠ .ok q := by
  intro h'
  rcases inside.frames_of_finish h with ⟨hframes, -⟩ | ⟨alternatives, hframes, -⟩
  · simp only [finish, hframes] at h'
    cases h'
  · simp only [finish, hframes] at h'
    cases h'

/-- A text that reads by itself, between a parenthesis that is open and one that follows. -/
theorem run_wrapped_text {n m : Nat} {cs t : List Char} (quiet : '\n' ∉ t)
    (h : run n {} cs = .ok rf) (enough : cs.length ≤ n) (hp : rf.finish = .ok p)
    (h' : run m (wrapped span) (cs ++ ')' :: t) = .ok rf')
    (enough' : (cs ++ ')' :: t).length ≤ m) {q : Pattern} (hq : rf'.finish = .ok q) :
    ∃ l r₁ body, t.length ≤ l ∧ run l r₁ t = .ok rf' ∧ body.bare 0 = p.bare 0 ∧
      r₁.parts = [.group [] body, .anchor .lineStart] ∧ r₁.frames = [] ∧ r₁.verbose = false ∧
      r₁.names.map (GroupName.entry 0) = rf.names.map (GroupName.entry 0) := by
  obtain ⟨r₁', inside, hrun⟩ := run_inside (wrapper_closed span) (fun _ _ _ => quiet) h enough h' enough'
    (.appended cs) (wrapped_inside span)
  rcases hrun with ⟨l, room, hrun⟩ | rfl
  · have hskip : skip r₁'.verbose (')' :: t) = ')' :: t := by cases r₁'.verbose <;> rfl
    obtain ⟨l, r₂, rest, rfl, hstep, hrun⟩ := run_cons hskip room hrun
    obtain ⟨body, same, hclose⟩ := inside.closes hp (')' :: t) t
    obtain ⟨r₃, hclose', hstep⟩ := bind_ok hstep
    rw [hclose] at hclose'
    cases hclose'
    cases hstep
    obtain ⟨added, hadded, hnames⟩ := inside.names
    rw [List.append_nil] at hadded
    exact ⟨l, _, body, Nat.le_of_succ_le_succ room, hrun, same, rfl, rfl, rfl, by rw [← hnames, ← hadded]; rfl⟩
  · exact absurd hq (inside.unfinished hp q)

theorem run_dollar {l : Nat} (room : 1 ≤ l) (h : run l r ['$'] = .ok rf) :
    rf = r.push (.anchor .lineEnd) := by
  have hskip : skip r.verbose ['$'] = ['$'] := by cases r.verbose <;> rfl
  obtain ⟨l, r₁, rest, rfl, hstep, h⟩ := run_cons hskip room h
  cases hstep
  rw [run_nil (skip_nil _)] at h
  exact (Except.ok.inj h).symm

end Reader

/-- The text of an expression, anchored. -/
def anchor (cs : List Char) : List Char := '^' :: '(' :: '?' :: ':' :: (cs ++ [')', '$'])

theorem read_ok {cs : List Char} {read : NamedPattern} (h : Pattern.read cs = .ok read) :
    ∃ r, Reader.run cs.length {} cs = .ok r ∧ r.finish = .ok read.pattern ∧
      read.names = (r.names.map (GroupName.entry 0)).reverse := by
  obtain ⟨r, hrun, h⟩ := bind_ok h
  obtain ⟨p, hp, h⟩ := bind_ok h
  split at h
  · cases h
    exact ⟨r, hrun, hp, rfl⟩
  · cases h

/-- Anchored, an expression is read from within the parenthesis around it. -/
theorem read_anchor_ok {cs : List Char} {read : NamedPattern} (h : Pattern.read (anchor cs) = .ok read) :
    ∃ n span r, (cs ++ [')', '$']).length ≤ n ∧
      Reader.run n (.wrapped span) (cs ++ [')', '$']) = .ok r ∧ r.finish = .ok read.pattern ∧
      read.names = (r.names.map (GroupName.entry 0)).reverse := by
  obtain ⟨r, hrun, hfinish, hnames⟩ := read_ok h
  obtain ⟨span, hwrapped⟩ := Reader.run_wrapped (cs.length + 4) (cs ++ [')', '$'])
  have length : (anchor cs).length = cs.length + 4 + 2 := by simp [anchor]
  rw [length, anchor, hwrapped] at hrun
  exact ⟨cs.length + 4, span, r, by simp, hrun, hfinish, hnames⟩

/-- An expression that reads by itself is a group between the two anchors. -/
theorem read_anchor {cs : List Char} {own read : NamedPattern} (alone : Pattern.read cs = .ok own)
    (h : Pattern.read (anchor cs) = .ok read) :
    ∃ body, read.pattern = .seq (.anchor .lineStart) (.seq (.group [] body) (.anchor .lineEnd)) ∧
      body.bare 0 = own.pattern.bare 0 ∧ read.names = own.names := by
  obtain ⟨r, hrun, hfinish, hnames⟩ := read_ok alone
  obtain ⟨n, span, r', room, hrun', hfinish', hnames'⟩ := read_anchor_ok h
  obtain ⟨l, r₁, body, room, hrun₁, same, hparts, hframes, hverbose, hnames₁⟩ :=
    Reader.run_wrapped_text (by simp) hrun (Nat.le_refl _) hfinish hrun' room hfinish'
  obtain rfl := Reader.run_dollar room hrun₁
  have hrow : read.pattern = (r₁.push (.anchor .lineEnd)).row := by
    unfold Reader.finish at hfinish'
    rw [show (r₁.push (.anchor .lineEnd)).frames = [] from hframes] at hfinish'
    exact (Except.ok.inj hfinish').symm
  refine ⟨body, ?_, same, ?_⟩
  · rw [hrow, Reader.row, Reader.push, hparts]
    rfl
  · rw [hnames', hnames, ← hnames₁]
    rfl

theorem compile_ok {cs : List Char} {re : Regex} (h : compile cs = .ok re) :
    ∃ read f, Pattern.read cs = .ok read ∧ read.pattern.resolve {} = .ok (re.node, f) ∧
      re.names = read.names := by
  obtain ⟨read, hread, h⟩ := bind_ok h
  obtain ⟨⟨node, f⟩, hnode, h⟩ := bind_ok h
  dsimp only at h
  split at h
  · cases h
    exact ⟨read, f, mapError_ok hread, mapError_ok hnode, rfl⟩
  · cases h

/-- Patterns that differ in positions only resolve to nodes that match alike. -/
theorem ends_of_bare {p q : Pattern} {f f₁ f₂ : Flags} {n m : Node}
    (same : p.bare 0 = q.bare 0) (hp : p.resolve f = .ok (n, f₁)) (hq : q.resolve f = .ok (m, f₂)) :
    n.ends = m.ends := by
  have hp' := bare_resolve 0 hp
  have hq' := bare_resolve 0 hq
  rw [same, hq'] at hp'
  simp only [Except.ok.injEq, Prod.mk.injEq] at hp'
  rw [← bare_ends n, ← bare_ends m, hp'.1]

/-- What matches an expression that compiles by itself stands between the two anchors. -/
theorem compile_anchor {cs : List Char} {own re : Regex} (alone : compile cs = .ok own)
    (h : compile (anchor cs) = .ok re) :
    ∃ node, re.node = .seq (.place .textStart) (.seq node (.place .textEnd)) ∧
      node.ends = own.node.ends ∧ re.names = own.names := by
  obtain ⟨read, f, hread, hnode, hnames⟩ := compile_ok alone
  obtain ⟨read', f', hread', hnode', hnames'⟩ := compile_ok h
  obtain ⟨body, hpattern, same, hsame⟩ := read_anchor hread hread'
  rw [hpattern] at hnode'
  obtain ⟨⟨start, f₁⟩, hstart, hnode'⟩ := bind_ok hnode'
  obtain ⟨⟨second, f₂⟩, hsecond, hnode'⟩ := bind_ok hnode'
  obtain ⟨⟨group, f₃⟩, hgroup, hsecond⟩ := bind_ok hsecond
  obtain ⟨⟨inner, f₄⟩, hbody, hgroup⟩ := bind_ok hgroup
  obtain ⟨⟨stop, f₅⟩, hstop, hsecond⟩ := bind_ok hsecond
  cases hstart
  cases hgroup
  cases hstop
  cases hsecond
  refine ⟨group, (Prod.mk.inj (Except.ok.inj hnode')).1.symm, ends_of_bare same hbody hnode, ?_⟩
  rw [hnames', hsame, hnames]

/-! ### Matching a whole text -/

/-- The best way in which a pattern matches a text from its first character to its last. -/
def whole? (r : Regex) (text : List Char) : Option Cursor :=
  (r.node.ends ⟨[], text, []⟩).find? (·.after.isEmpty)

/-- Once characters are behind it, a pattern that starts at the start of the text cannot match. -/
theorem searchFrom_textStart (n : Node) (c : Char) (before text : List Char) :
    (Node.seq (.place .textStart) n).searchFrom (c :: before) text = none := by
  induction text generalizing c before with
  | nil => rfl
  | cons d rest ih => exact ih d (c :: before)

theorem ends_textEnd (n : Node) (s : Cursor) :
    ((Node.seq n (.place .textEnd)).ends s).head? = (n.ends s).find? (·.after.isEmpty) := by
  rw [Node.ends, head?_distinct]
  induction n.ends s with
  | nil => rfl
  | cons found rest ih =>
    rw [List.flatMap_cons, List.find?_cons]
    simp only [Node.ends, Place.holds] at ih ⊢
    by_cases ended : found.after = []
    · simp only [ended, List.isEmpty_nil, if_true, List.singleton_append, List.head?_cons]
    · simp only [List.isEmpty_eq_false_iff.2 ended, Bool.false_eq_true, if_false, List.nil_append,
        ih]

section
variable {cs : List Char} {own re : Regex} (alone : compile cs = .ok own)
  (h : compile (anchor cs) = .ok re)
include alone h

theorem head?_ends_anchor (text : List Char) :
    (re.node.ends ⟨[], text, []⟩).head? = own.whole? text := by
  obtain ⟨inner, hnode, hends, -⟩ := compile_anchor alone h
  have start : (Node.place .textStart).ends ⟨[], text, []⟩ = [⟨[], text, []⟩] := rfl
  rw [hnode, Node.ends, head?_distinct, start, List.flatMap_singleton, ends_textEnd, hends]
  rfl

/-- An anchored expression finds what the expression matches as a whole, or nothing. -/
theorem search?_anchor (text : List Char) : re.search? text = own.whole? text := by
  have first := head?_ends_anchor alone h text
  unfold search?
  cases text with
  | nil => exact first
  | cons c rest =>
    rw [Node.searchFrom, first]
    cases own.whole? (c :: rest) with
    | some found => rfl
    | none =>
      obtain ⟨inner, hnode, -⟩ := compile_anchor alone h
      rw [hnode, searchFrom_textStart]

/-- What is found starts at the first character and ends after the last. -/
theorem search?_anchor_covers {text : List Char} {found : Cursor}
    (hit : re.search? text = some found) :
    found ∈ re.node.ends ⟨[], text, []⟩ ∧ found.after = [] := by
  rw [search?_anchor alone h] at hit
  have first := (head?_ends_anchor alone h text).trans hit
  have ended : found.after.isEmpty = true :=
    List.find?_some (p := fun s : Cursor => s.after.isEmpty) hit
  exact ⟨List.mem_of_mem_head? first, List.isEmpty_iff.1 ended⟩

theorem captured?_anchor (found : Cursor) (name : List Char) :
    re.captured? found name = own.captured? found name := by
  obtain ⟨-, -, -, hnames⟩ := compile_anchor alone h
  unfold captured?
  rw [hnames]

end

/-! ### Expressions that close the group around them -/

namespace Reader

variable {r r₁ : Reader} {c : Char} {cs rest : List Char}

theorem frames_of_repeatBy {start : List Char} {count : Count}
    (h : r.repeatBy start cs count = .ok (r₁, rest)) : r₁.frames = r.frames := by
  obtain ⟨r₂, hrepeat, h⟩ := bind_ok h
  cases h
  obtain ⟨parts, rfl⟩ := repeatLast_eq hrepeat
  rfl

theorem frames_of_openNamed {span : Span} (h : r.openNamed span cs = .ok (r₁, rest)) :
    ∃ kind, r₁.frames = .group r.parts kind r.verbose span :: r.frames := by
  unfold openNamed at h
  split at h
  · cases h
  · obtain ⟨⟨name, close⟩, -, h⟩ := bind_ok h
    dsimp only at h
    split at h
    · cases h
    · split at h
      · cases h
      · cases h
        exact ⟨_, rfl⟩

theorem frames_of_openFlags {start mark : List Char}
    (h : r.openFlags start mark cs = .ok (r₁, rest)) :
    r₁.frames = r.frames ∨
      ∃ kind span, r₁.frames = .group r.parts kind r.verbose span :: r.frames := by
  unfold openFlags at h
  split at h
  · cases h
  · obtain ⟨⟨items, close⟩, -, h⟩ := bind_ok h
    dsimp only at h
    split at h
    · split at h
      · cases h
      · cases h
        exact .inl rfl
    · cases h
      exact .inr ⟨_, _, rfl⟩

theorem frames_of_openParenthesis {start : List Char}
    (h : r.openParenthesis start cs = .ok (r₁, rest)) :
    r₁.frames = r.frames ∨
      ∃ kind span, r₁.frames = .group r.parts kind r.verbose span :: r.frames := by
  unfold openParenthesis at h
  dsimp only at h
  split at h
  case h_1 | h_2 | h_3 | h_4 => cases h
  case h_5 | h_6 =>
    obtain ⟨kind, opened⟩ := frames_of_openNamed h
    exact .inr ⟨kind, _, opened⟩
  case h_7 => exact frames_of_openFlags h
  case h_8 =>
    cases h
    exact .inr ⟨_, _, rfl⟩

/-- What a step does to the frames. -/
theorem step_frames (h : r.step c cs = .ok (r₁, rest)) :
    r₁.frames = r.frames ∨
      (∃ kind span, r₁.frames = .group r.parts kind r.verbose span :: r.frames) ∨
      r₁ = r.bar ∨ ∃ start, r.closeParenthesis start cs = .ok r₁ := by
  unfold step at h
  dsimp only at h
  split at h
  case h_1 =>
    rcases frames_of_openParenthesis h with same | opened
    · exact .inl same
    · exact .inr (.inl opened)
  case h_2 =>
    obtain ⟨r₂, hclose, h⟩ := bind_ok h
    cases h
    exact .inr (.inr (.inr ⟨_, hclose⟩))
  case h_3 =>
    cases h
    exact .inr (.inr (.inl rfl))
  case h_4 =>
    obtain ⟨⟨s, after⟩, -, h⟩ := bind_ok h
    cases h
    exact .inl rfl
  case h_5 | h_6 | h_7 => exact .inl (frames_of_repeatBy h)
  case h_8 =>
    obtain ⟨-, -, h⟩ := bind_ok h
    obtain ⟨⟨⟨count, greedy⟩, after⟩, -, h⟩ := bind_ok h
    obtain ⟨r₂, hrepeat, h⟩ := bind_ok h
    cases h
    obtain ⟨parts, rfl⟩ := repeatLast_eq hrepeat
    exact .inl rfl
  case h_9 =>
    obtain ⟨⟨p, after⟩, -, h⟩ := bind_ok h
    cases h
    exact .inl rfl

/-- The outermost choice of the pattern has `first` as its first branch. -/
def Chooses (first : Pattern) (r : Reader) : Prop :=
  ∃ above alternatives, r.frames = above ++ [.branches (alternatives ++ [first])]

variable {first : Pattern}

theorem chooses_bar (h : r.Chooses first) : r.bar.Chooses first := by
  obtain ⟨above, alternatives, hframes⟩ := h
  cases above with
  | nil =>
    rw [List.nil_append] at hframes
    rw [bar_of_branches hframes]
    exact ⟨[], r.row :: alternatives, rfl⟩
  | cons frame above =>
    cases frame with
    | branches others =>
      rw [List.cons_append] at hframes
      rw [bar_of_branches hframes]
      exact ⟨.branches (r.row :: others) :: above, alternatives, rfl⟩
    | group parts kind verbose span =>
      rw [bar_of_closed (by simp [hframes])]
      exact ⟨.branches [r.row] :: .group parts kind verbose span :: above, alternatives, by
        simp only [hframes, List.cons_append]⟩

theorem chooses_close {start : List Char} (closes : r.closeParenthesis start cs = .ok r₁)
    (h : r.Chooses first) : r₁.Chooses first := by
  obtain ⟨above, alternatives, hframes⟩ := h
  unfold closeParenthesis at closes
  split at closes
  · rename_i outer kind verbose span frames hopen
    rw [hframes] at hopen
    obtain _ | ⟨frame, above⟩ := above
    · cases hopen
    · cases hopen
      cases closes
      exact ⟨above, alternatives, rfl⟩
  · rename_i others outer kind verbose span frames hopen
    rw [hframes] at hopen
    obtain _ | ⟨frame, _ | ⟨next, above⟩⟩ := above
    · cases hopen
    · cases hopen
    · cases hopen
      cases closes
      exact ⟨above, alternatives, rfl⟩
  · cases closes

theorem chooses_step (h : r.step c cs = .ok (r₁, rest)) (chooses : r.Chooses first) :
    r₁.Chooses first := by
  rcases step_frames h with same | ⟨kind, span, opened⟩ | rfl | ⟨start, closes⟩
  · unfold Chooses
    rw [same]
    exact chooses
  · obtain ⟨above, alternatives, hframes⟩ := chooses
    exact ⟨.group r.parts kind r.verbose span :: above, alternatives,
      by rw [opened, hframes]; rfl⟩
  · exact chooses_bar chooses
  · exact chooses_close closes chooses

theorem chooses_run {n : Nat} (h : run n r cs = .ok r₁) (chooses : r.Chooses first) :
    r₁.Chooses first := by
  induction n generalizing r cs with
  | zero =>
    cases h
    exact chooses
  | succ n ih =>
    simp only [run] at h
    split at h
    · cases h
      exact chooses
    · obtain ⟨⟨r₂, rest⟩, hstep, h⟩ := bind_ok h
      exact ih h (chooses_step hstep chooses)

theorem finish_of_chooses {p : Pattern} (h : r.finish = .ok p) (chooses : r.Chooses first) :
    ∃ other, p = .alt first other := by
  obtain ⟨above, alternatives, hframes⟩ := chooses
  rcases frames_of_finish h with ⟨none', -⟩ | ⟨others, hopen, rfl⟩
  · simp [hframes] at none'
  · rw [hframes] at hopen
    obtain _ | ⟨frame, above⟩ := above
    · cases hopen
      have more : alternatives.reverse ++ [r.row] ≠ [] := by simp
      refine ⟨.ofBranches (alternatives.reverse ++ [r.row]), ?_⟩
      rw [List.reverse_cons, List.reverse_append, List.reverse_singleton, List.singleton_append,
        List.cons_append, Pattern.ofBranches]
      exact more
    · simp at hopen

end Reader

/-- The bar after an early parenthesis leaves the first anchor and what the expression began with in
a branch of their own. -/
theorem read_anchor_of_closed {a b : List Char} {own read : NamedPattern} (quiet : '\n' ∉ b)
    (alone : Pattern.read a = .ok own) (h : Pattern.read (anchor (a ++ ')' :: '|' :: b)) = .ok read) :
    ∃ body other, read.pattern = .alt (.seq (.anchor .lineStart) (.group [] body)) other ∧
      body.bare 0 = own.pattern.bare 0 := by
  obtain ⟨r, hrun, hfinish, hnames⟩ := read_ok alone
  obtain ⟨n, span, r', room, hrun', hfinish', -⟩ := read_anchor_ok h
  have text : a ++ ')' :: '|' :: b ++ [')', '$'] = a ++ ')' :: ('|' :: (b ++ [')', '$'])) := by simp
  rw [text] at hrun' room
  obtain ⟨l, r₁, body, room₁, hrun₁, same, hparts, hframes, hverbose, -⟩ :=
    Reader.run_wrapped_text (by simpa using quiet) hrun (Nat.le_refl _) hfinish hrun' room hfinish'
  have hskip : skip r₁.verbose ('|' :: (b ++ [')', '$'])) = '|' :: (b ++ [')', '$']) := by
    rw [hverbose]
    rfl
  obtain ⟨l, r₂, rest, rfl, hstep, hrun₂⟩ := Reader.run_cons hskip room₁ hrun₁
  cases hstep
  have chooses : r₁.bar.Chooses r₁.row := by
    rw [Reader.bar_of_closed (by simp [hframes])]
    exact ⟨[], [], by rw [hframes]; rfl⟩
  obtain ⟨other, hother⟩ :=
    Reader.finish_of_chooses hfinish' (Reader.chooses_run hrun₂ chooses)
  refine ⟨body, other, ?_, same⟩
  rw [hother, Reader.row, hparts]
  rfl

/-- An expression that closes the group early finds at the start of a text what its first part
matches there by itself, whatever follows the match. -/
theorem search?_anchor_of_closed {a b : List Char} {own re : Regex} (quiet : '\n' ∉ b)
    (alone : compile a = .ok own) (h : compile (anchor (a ++ ')' :: '|' :: b)) = .ok re)
    {text : List Char} {found : Cursor}
    (begins : (own.node.ends ⟨[], text, []⟩).head? = some found) :
    re.search? text = some found := by
  obtain ⟨read, f, hread, hnode, -⟩ := compile_ok alone
  obtain ⟨read', f', hread', hnode', -⟩ := compile_ok h
  obtain ⟨body, other, hpattern, same⟩ := read_anchor_of_closed quiet hread hread'
  rw [hpattern] at hnode'
  obtain ⟨⟨first, f₁⟩, hfirst, hsecond⟩ := bind_ok hnode'
  obtain ⟨⟨second, f₂⟩, -, hre⟩ := bind_ok hsecond
  obtain ⟨⟨start, f₃⟩, hstart, hgroup⟩ := bind_ok hfirst
  obtain ⟨⟨group, f₄⟩, hinner, hseq⟩ := bind_ok hgroup
  obtain ⟨⟨inner, f₅⟩, hbody, hinner⟩ := bind_ok hinner
  cases hstart
  cases hinner
  cases hseq
  have hre : re.node = .alt (.seq (.place .textStart) group) second :=
    (Prod.mk.inj (Except.ok.inj hre)).1.symm
  have start : (Node.place .textStart).ends ⟨[], text, []⟩ = [⟨[], text, []⟩] := rfl
  obtain ⟨others, hfound⟩ := List.head?_eq_some_iff.1 begins
  have here : (re.node.ends ⟨[], text, []⟩).head? = some found := by
    rw [hre, Node.ends, head?_distinct, Node.ends, start, List.flatMap_singleton,
      ends_of_bare same hbody hnode, hfound]
    rfl
  unfold search?
  cases text with
  | nil =>
    rw [Node.searchFrom, here]
  | cons c rest =>
    rw [Node.searchFrom, here]

end Regex

end EndpointRouting
