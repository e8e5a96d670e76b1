import EndpointRouting.Proofs.Lists
import EndpointRouting.Proofs.Regex.Anchoring

/-!
# The names of groups

A name comes in only where a named group is opened, and only if it is new. A text that reads by
itself brings its own names along when it stands in a named group, and the reader leaves the group
as it entered it.
-/

namespace EndpointRouting.Regex
open Text

namespace Reader

variable {r r₁ rf : Reader} {c : Char} {cs rest : List Char}

/-! ### Opening a named group -/

/-- The reader inside a named group. -/
def named (r : Reader) (name : List Char) (span here : Span) : Reader :=
  { r.openCapture span with names := ⟨name, r.captures + 1, here⟩ :: r.names }

theorem openParenthesis_mark (plain : r.verbose = false) (not_equal : c ≠ '=') (not_bang : c ≠ '!')
    (start rest : List Char) :
    r.openParenthesis start ('?' :: '<' :: c :: rest) =
      r.openNamed (.between start ('?' :: '<' :: c :: rest)) (c :: rest) := by
  unfold openParenthesis
  simp only [skip, plain, Bool.false_eq_true, if_false]
  split
  case h_3 heq =>
    cases heq
    exact absurd rfl not_equal
  case h_4 heq =>
    cases heq
    exact absurd rfl not_bang
  case h_6 heq =>
    cases heq
    rfl
  case h_7 not_named heq =>
    cases heq
    exact absurd rfl (not_named _)
  case h_8 marked => exact absurd rfl (marked _)
  all_goals
    rename_i heq
    cases heq

/-- A name that is read goes up to the closing angle bracket. -/
theorem readName_ok {first : Bool} {name close : List Char}
    (h : readName first cs = .ok (name, close)) :
    name = cs.takeWhile (· != '>') ∧ close = cs.dropWhile (· != '>') := by
  induction cs generalizing first name with
  | nil => cases h
  | cons c rest ih =>
    rw [readName] at h
    split at h
    · rename_i ends
      cases h
      have bracket : c = '>' := by simpa using ends
      simp [bracket]
    · rename_i goes_on
      split at h
      · obtain ⟨⟨more, left⟩, later, h⟩ := bind_ok h
        cases h
        have passes : (c != '>') = true := by simpa using goes_on
        obtain ⟨rfl, rfl⟩ := ih later
        rw [List.takeWhile_cons, List.dropWhile_cons, if_pos passes, if_pos passes]
        exact ⟨rfl, rfl⟩
      · cases h

/-- A named group that is opened has a name that is not known yet. -/
theorem openNamed_ok {span : Span} (h : r.openNamed span cs = .ok (r₁, rest)) :
    ∃ here, r₁ = r.named (cs.takeWhile (· != '>')) span here ∧
      rest = (cs.dropWhile (· != '>')).drop 1 ∧
      cs.takeWhile (· != '>') ∉ r.names.map (·.name) := by
  unfold openNamed at h
  split at h
  · cases h
  · obtain ⟨⟨name, close⟩, read, h⟩ := bind_ok h
    obtain ⟨rfl, rfl⟩ := readName_ok read
    dsimp only at h
    split at h
    · cases h
    · split at h
      · cases h
      · rename_i unknown
        cases h
        refine ⟨_, rfl, rfl, ?_⟩
        intro known
        obtain ⟨earlier, member, same⟩ := List.mem_map.mp known
        exact List.find?_eq_none.mp unknown earlier member (by simpa using same)

/-! ### Names and steps -/

theorem names_of_openParenthesis {start : List Char}
    (h : r.openParenthesis start cs = .ok (r₁, rest)) :
    r₁.names = r.names ∧ r.captures ≤ r₁.captures ∨
      ∃ name span here, r₁ = r.named name span here ∧ name ∉ r.names.map (·.name) := by
  unfold openParenthesis at h
  dsimp only at h
  split at h
  case h_1 | h_2 | h_3 | h_4 => cases h
  case h_5 | h_6 =>
    obtain ⟨here, opened, -, fresh⟩ := openNamed_ok h
    exact .inr ⟨_, _, here, opened, fresh⟩
  case h_7 =>
    unfold openFlags at h
    split at h
    · cases h
    · obtain ⟨⟨items, close⟩, -, h⟩ := bind_ok h
      dsimp only at h
      split at h
      · split at h
        · cases h
        · cases h
          exact .inl ⟨rfl, Nat.le_refl _⟩
      · cases h
        exact .inl ⟨rfl, Nat.le_refl _⟩
  case h_8 =>
    cases h
    exact .inl ⟨rfl, Nat.le_succ _⟩

theorem names_of_closeParenthesis {start : List Char} (h : r.closeParenthesis start cs = .ok r₁) :
    r₁.names = r.names ∧ r₁.captures = r.captures := by
  unfold closeParenthesis at h
  split at h
  · cases h
    exact ⟨rfl, rfl⟩
  · cases h
    exact ⟨rfl, rfl⟩
  · cases h

theorem bar_eq (r : Reader) : ∃ parts frames, r.bar = { r with parts, frames } := by
  unfold bar
  split <;> exact ⟨_, _, rfl⟩

theorem repeatBy_eq {start : List Char} {count : Count}
    (h : r.repeatBy start cs count = .ok (r₁, rest)) :
    (∃ parts, r₁ = { r with parts }) ∧ (rest = cs ∨ cs = '?' :: rest) := by
  obtain ⟨r₂, repeated, h⟩ := bind_ok h
  cases h
  refine ⟨repeatLast_eq repeated, ?_⟩
  split
  · exact .inr rfl
  · exact .inl rfl

/-- A step adds at most one name, a new one, with the index of the group it opens. -/
theorem step_names (h : r.step c cs = .ok (r₁, rest)) :
    r₁.names = r.names ∧ r.captures ≤ r₁.captures ∨
      ∃ name span here, r₁ = r.named name span here ∧ name ∉ r.names.map (·.name) := by
  unfold step at h
  dsimp only at h
  split at h
  case h_1 => exact names_of_openParenthesis h
  case h_2 =>
    obtain ⟨r₂, closed, h⟩ := bind_ok h
    cases h
    obtain ⟨names, captures⟩ := names_of_closeParenthesis closed
    exact .inl ⟨names, Nat.le_of_eq captures.symm⟩
  case h_3 =>
    cases h
    obtain ⟨parts, frames, barred⟩ := bar_eq r
    rw [barred]
    exact .inl ⟨rfl, Nat.le_refl _⟩
  case h_4 =>
    obtain ⟨⟨s, after⟩, -, h⟩ := bind_ok h
    cases h
    exact .inl ⟨rfl, Nat.le_refl _⟩
  case h_5 | h_6 | h_7 =>
    obtain ⟨⟨parts, rfl⟩, -⟩ := repeatBy_eq h
    exact .inl ⟨rfl, Nat.le_refl _⟩
  case h_8 =>
    obtain ⟨-, -, h⟩ := bind_ok h
    obtain ⟨⟨⟨count, greedy⟩, after⟩, -, h⟩ := bind_ok h
    obtain ⟨r₂, repeated, h⟩ := bind_ok h
    cases h
    obtain ⟨parts, rfl⟩ := repeatLast_eq repeated
    exact .inl ⟨rfl, Nat.le_refl _⟩
  case h_9 =>
    obtain ⟨⟨p, after⟩, -, h⟩ := bind_ok h
    cases h
    exact .inl ⟨rfl, Nat.le_refl _⟩

/-- Names that have been read stay known. -/
theorem names_run {n : Nat} (h : run n r cs = .ok rf) : ∃ added, rf.names = added ++ r.names := by
  induction n generalizing r cs with
  | zero =>
    cases h
    exact ⟨[], rfl⟩
  | succ n ih =>
    simp only [run] at h
    split at h
    · cases h
      exact ⟨[], rfl⟩
    · obtain ⟨⟨r₂, rest⟩, step, h⟩ := bind_ok h
      obtain ⟨added, later⟩ := ih h
      rcases step_names step with ⟨same, -⟩ | ⟨name, span, here, rfl, -⟩
      · exact ⟨added, by rw [later, same]⟩
      · refine ⟨added ++ [⟨name, r.captures + 1, here⟩], ?_⟩
        rw [later, List.append_assoc]
        rfl

/-- No name is there twice, and names stand in the order of their groups, newest first. -/
structure Ordered (r : Reader) : Prop where
  distinct : (r.names.map (·.name)).Nodup
  descending : (r.names.map (·.index)).Pairwise (· > ·)
  bounded : ∀ n ∈ r.names, n.index ≤ r.captures

theorem ordered_step (h : r.step c cs = .ok (r₁, rest)) (ordered : r.Ordered) : r₁.Ordered := by
  rcases step_names h with ⟨names, captures⟩ | ⟨name, span, here, rfl, fresh⟩
  · constructor
    · rw [names]
      exact ordered.distinct
    · rw [names]
      exact ordered.descending
    · intro n member
      rw [names] at member
      exact Nat.le_trans (ordered.bounded n member) captures
  · have added : (r.named name span here).names = ⟨name, r.captures + 1, here⟩ :: r.names := rfl
    constructor
    · rw [added, List.map_cons]
      exact List.nodup_cons.mpr ⟨fresh, ordered.distinct⟩
    · rw [added, List.map_cons]
      refine List.pairwise_cons.mpr ⟨?_, ordered.descending⟩
      intro index member
      obtain ⟨n, known, rfl⟩ := List.mem_map.mp member
      exact Nat.lt_succ_of_le (ordered.bounded n known)
    · intro n member
      rw [added] at member
      change n.index ≤ r.captures + 1
      rcases List.mem_cons.mp member with rfl | known
      · exact Nat.le_refl _
      · exact Nat.le_succ_of_le (ordered.bounded n known)

theorem ordered_run {n : Nat} (h : run n r cs = .ok rf) (ordered : r.Ordered) : rf.Ordered := by
  induction n generalizing r cs with
  | zero =>
    cases h
    exact ordered
  | succ n ih =>
    simp only [run] at h
    split at h
    · cases h
      exact ordered
    · obtain ⟨⟨r₂, rest⟩, step, h⟩ := bind_ok h
      exact ih h (ordered_step step ordered)

/-! ### Text that no setting makes verbose -/

def Frame.Calm : Frame → Prop
  | .group _ _ verbose _ => verbose = false
  | .branches _ => True

/-- Neither here nor behind an open group blanks or comments are dropped. -/
structure Calm (r : Reader) : Prop where
  verbose : r.verbose = false
  frames : ∀ f ∈ r.frames, Frame.Calm f

theorem calm_wrapped (span : Span) : (wrapped span).Calm where
  verbose := rfl
  frames f member := by
    rw [List.mem_singleton.mp member]
    rfl

/-- The characters that open sets, escapes, counts or groups. -/
def opening : List Char := ['[', '\\', '\x7b', '(']

theorem calm_close {start : List Char} (calm : r.Calm) (h : r.closeParenthesis start cs = .ok r₁) :
    r₁.Calm := by
  obtain ⟨-, frames⟩ := calm
  unfold closeParenthesis at h
  split at h
  · rename_i outer kind verbose span below opened
    cases h
    rw [opened] at frames
    obtain ⟨calm_group, below_calm⟩ := List.forall_mem_cons.mp frames
    exact ⟨calm_group, below_calm⟩
  · rename_i alternatives outer kind verbose span below opened
    cases h
    rw [opened] at frames
    obtain ⟨-, frames⟩ := List.forall_mem_cons.mp frames
    obtain ⟨calm_group, below_calm⟩ := List.forall_mem_cons.mp frames
    exact ⟨calm_group, below_calm⟩
  · cases h

theorem calm_bar (calm : r.Calm) : r.bar.Calm ∧ r.bar.names = r.names := by
  obtain ⟨verbose, frames⟩ := calm
  unfold bar
  split
  · rename_i alternatives below opened
    rw [opened] at frames
    obtain ⟨-, below_calm⟩ := List.forall_mem_cons.mp frames
    exact ⟨⟨verbose, List.forall_mem_cons.mpr ⟨trivial, below_calm⟩⟩, rfl⟩
  · exact ⟨⟨verbose, List.forall_mem_cons.mpr ⟨trivial, frames⟩⟩, rfl⟩

/-- A character that opens nothing is read by itself, or with the question mark that makes it
lazy. -/
theorem calm_step (calm : r.Calm) (closed : c ∉ opening) (h : r.step c cs = .ok (r₁, rest)) :
    r₁.Calm ∧ r₁.names = r.names ∧ (rest = cs ∨ cs = '?' :: rest) := by
  unfold step at h
  dsimp only at h
  split at h
  case h_2 =>
    obtain ⟨r₂, close, h⟩ := bind_ok h
    cases h
    exact ⟨calm_close calm close, (names_of_closeParenthesis close).1, .inl rfl⟩
  case h_3 =>
    cases h
    exact ⟨(calm_bar calm).1, (calm_bar calm).2, .inl rfl⟩
  case h_5 | h_6 | h_7 =>
    obtain ⟨⟨parts, rfl⟩, left⟩ := repeatBy_eq h
    exact ⟨⟨calm.verbose, calm.frames⟩, rfl, left⟩
  case h_9 =>
    obtain ⟨⟨p, after⟩, read, h⟩ := bind_ok h
    cases h
    have plain : after = cs := by
      unfold readPrimitive at read
      split at read
      case h_1 => exact absurd (by decide) closed
      all_goals
        cases read
        rfl
    exact ⟨⟨calm.verbose, calm.frames⟩, rfl, .inl plain⟩
  all_goals exact absurd (by decide) closed

theorem frames_openGroup (calm : r.Calm) (kind : GroupKind) (verbose : Bool) (span : Span) :
    ∀ f ∈ (r.openGroup kind verbose span).frames, Frame.Calm f := by
  intro f member
  rcases List.mem_cons.mp member with rfl | old
  · exact calm.verbose
  · exact calm.frames f old

/-- A parenthesis without a question mark behind it opens a group without a name. -/
theorem calm_open (calm : r.Calm) (unmarked : cs.head? ≠ some '?')
    (h : r.step '(' cs = .ok (r₁, rest)) : r₁.Calm ∧ r₁.names = r.names ∧ rest = cs := by
  have opened : r.openParenthesis ('(' :: cs) cs =
      .ok (r.openCapture (.between ('(' :: cs) cs), cs) := by
    unfold openParenthesis
    simp only [skip, calm.verbose, Bool.false_eq_true, if_false]
    split
    case h_8 => rfl
    all_goals exact absurd rfl unmarked
  change r.openParenthesis ('(' :: cs) cs = _ at h
  rw [opened] at h
  cases h
  exact ⟨⟨calm.verbose, frames_openGroup calm _ r.verbose _⟩, rfl, rfl⟩

/-- A group without settings of its own. -/
theorem calm_colon (calm : r.Calm) (h : r.step '(' ('?' :: ':' :: cs) = .ok (r₁, rest)) :
    r₁.Calm ∧ r₁.names = r.names ∧ rest = cs := by
  have opened : r.openParenthesis ('(' :: '?' :: ':' :: cs) ('?' :: ':' :: cs) =
      .ok (r.openGroup (.plain []) false (.between ('(' :: '?' :: ':' :: cs) ('?' :: ':' :: cs)),
        cs) := by
    unfold openParenthesis
    simp only [skip, calm.verbose, Bool.false_eq_true, if_false]
    unfold openFlags
    simp only [calm.verbose]
    rfl
  change r.openParenthesis ('(' :: '?' :: ':' :: cs) ('?' :: ':' :: cs) = _ at h
  rw [opened] at h
  cases h
  exact ⟨⟨rfl, frames_openGroup calm _ false _⟩, rfl, rfl⟩

/-- An escape that leaves its character as it is. -/
theorem calm_escape (calm : r.Calm) (escapable : isEscapable c = true)
    (h : r.step '\\' (c :: cs) = .ok (r₁, rest)) : r₁.Calm ∧ r₁.names = r.names ∧ rest = cs := by
  change (readPrimitive r.verbose '\\' (c :: cs) >>= _) = _ at h
  obtain ⟨⟨p, after⟩, read, h⟩ := bind_ok h
  cases h
  simp only [readPrimitive, readEscape, escapable, if_true] at read
  split at read
  · cases read
  · cases read
    exact ⟨⟨calm.verbose, calm.frames⟩, rfl, rfl⟩

/-! ### Passing a named group -/

theorem step_group {name : List Char} (calm : r.Calm) (unended : '>' ∉ name)
    (h : r.step '(' ('?' :: '<' :: (name ++ '>' :: cs)) = .ok (r₁, rest)) :
    ∃ span here, r₁ = r.named name span here ∧ rest = cs := by
  obtain ⟨taken, left⟩ := upTo_append unended (.inr ⟨cs, rfl⟩)
  obtain ⟨c, after, text⟩ : ∃ c after, name ++ '>' :: cs = c :: after := by
    cases name with
    | nil => exact ⟨_, _, rfl⟩
    | cons c name => exact ⟨_, _, rfl⟩
  rw [text] at h taken left
  change r.openParenthesis _ _ = _ at h
  by_cases not_look : c ≠ '=' ∧ c ≠ '!'
  · rw [openParenthesis_mark calm.verbose not_look.1 not_look.2] at h
    obtain ⟨here, opened, rfl, -⟩ := openNamed_ok h
    rw [taken] at opened
    exact ⟨_, here, opened, by rw [left]; rfl⟩
  · have look : c = '=' ∨ c = '!' := by
      by_cases equal : c = '='
      · exact .inl equal
      · exact .inr (by_contra fun bang => not_look ⟨equal, bang⟩)
    unfold openParenthesis at h
    simp only [skip, calm.verbose, Bool.false_eq_true, if_false] at h
    rcases look with rfl | rfl <;> cases h

/-- `r'` is the reader behind a named group in which `own` is read: the group is one more part, and
its name and those in it are known. -/
structure Passes (name : List Char) (own : NamedPattern) (r r' : Reader) : Prop where
  calm : r'.Calm
  parts : ∃ body, r'.parts = .capture (r.captures + 1) body :: r.parts ∧
    body.bare 0 = own.pattern.bare (r.captures + 1)
  frames : r'.frames = r.frames
  names : r'.names.map (GroupName.entry 0) =
    (own.names.map fun n => (n.1, n.2 + (r.captures + 1))).reverse ++
      (name, r.captures + 1) :: r.names.map (GroupName.entry 0)
  captures : r.captures < r'.captures

theorem Passes.listed {name : List Char} {own : NamedPattern} {r' : Reader}
    (passes : Passes name own r r') :
    r'.names.map (·.name) = (own.names.map (·.1)).reverse ++ name :: r.names.map (·.name) := by
  have firsts := congrArg (List.map (·.1)) passes.names
  rw [List.map_append, List.map_reverse, List.map_map, List.map_map, List.map_cons,
    List.map_map] at firsts
  exact firsts

/-- The reader passes a named group whose text reads by itself. -/
theorem run_group {name body t : List Char} {own : NamedPattern} {n : Nat} {p : Pattern}
    (alone : Pattern.read body = .ok own)
    (quiet : ∀ s, Visits body.length {} body s → s.verbose = true → '\n' ∉ t) (calm : r.Calm)
    (unended : '>' ∉ name)
    (h : run n r ('(' :: '?' :: '<' :: (name ++ '>' :: (body ++ ')' :: t))) = .ok rf)
    (room : ('(' :: '?' :: '<' :: (name ++ '>' :: (body ++ ')' :: t))).length ≤ n)
    (finished : rf.finish = .ok p) :
    ∃ l r', t.length ≤ l ∧ run l r' t = .ok rf ∧ Passes name own r r' := by
  have here (cs : List Char) : skip r.verbose cs = cs := by
    rw [calm.verbose]
    rfl
  obtain ⟨l, r₁, rest, rfl, step, h⟩ := run_cons (here _) room h
  obtain ⟨span, place, rfl, rfl⟩ := step_group calm unended step
  have inside : Inside (r.captures + 1)
      (.group r.parts (.capture (r.captures + 1)) r.verbose span :: r.frames)
      (⟨name, r.captures + 1, place⟩ :: r.names) {} (r.named name span place) := {
    parts := rfl
    frames := ⟨[], rfl, rfl⟩
    names := ⟨[], rfl, rfl⟩
    captures := (Nat.zero_add _).symm
    verbose := calm.verbose }
  have closed (alternatives : List Pattern) :
      (Frame.group r.parts (.capture (r.captures + 1)) r.verbose span :: r.frames).head? ≠
        some (.branches alternatives) := by
    intro same
    cases same
  obtain ⟨rb, read, finish, names⟩ := read_ok alone
  have room' : (body ++ ')' :: t).length ≤ l := by
    simp only [List.length_cons, List.length_append] at room ⊢
    omega
  obtain ⟨r₁', inside', goes_on⟩ := run_inside closed quiet read (Nat.le_refl _) h room'
    (.appended body) inside
  rcases goes_on with ⟨l', room', h⟩ | rfl
  · have unskipped : skip r₁'.verbose (')' :: t) = ')' :: t := by cases r₁'.verbose <;> rfl
    obtain ⟨l', r₂, rest', rfl, step', h⟩ := run_cons unskipped room' h
    obtain ⟨inner, same, close⟩ := inside'.closes finish (')' :: t) t
    obtain ⟨r₃, close', step'⟩ := bind_ok step'
    rw [close] at close'
    cases close'
    cases step'
    obtain ⟨added, known, entries⟩ := inside'.names
    refine ⟨l', _, Nat.le_of_succ_le_succ room', h, ?_⟩
    exact {
      calm := ⟨calm.verbose, calm.frames⟩
      parts := ⟨inner, rfl, same⟩
      frames := rfl
      names := by
        change r₁'.names.map (GroupName.entry 0) = _
        rw [known, List.map_append, entries, names, List.map_reverse, List.reverse_reverse,
          List.map_map]
        rfl
      captures := by
        change r.captures < r₁'.captures
        have := inside'.captures
        omega }
  · exact absurd finished (inside'.unfinished finish p)

end Reader

/-- The names of a pattern are all different, and stand in the order of their groups. -/
theorem read_names_ordered {cs : List Char} {read : NamedPattern} (h : Pattern.read cs = .ok read) :
    (read.names.map (·.1)).Nodup ∧ (read.names.map (·.2)).Pairwise (· < ·) := by
  obtain ⟨r, run, -, names⟩ := read_ok h
  have start : Reader.Ordered {} := ⟨List.nodup_nil, .nil, by simp⟩
  obtain ⟨distinct, descending, -⟩ := Reader.ordered_run run start
  rw [names, List.map_reverse, List.map_reverse, List.map_map, List.map_map]
  exact ⟨List.nodup_reverse.mpr distinct, List.pairwise_reverse.mpr descending⟩

end EndpointRouting.Regex
