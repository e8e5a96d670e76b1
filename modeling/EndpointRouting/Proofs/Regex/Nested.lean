import EndpointRouting.Proofs.Regex.Parts

/-!
# Reading a pattern inside a longer one

The reader of a text keeps what is open in it on a stack. Inside a longer text the same stack stands
on top of what was open before, and nothing that the text does by itself reaches below it: a text
that reads by itself leaves the stack as it found it, and with it the parenthesis around the text.
-/

namespace EndpointRouting.Regex
open Text

def GroupKind.moved (k : Nat) : GroupKind → GroupKind
  | .capture index => .capture (index + k)
  | .plain settings => .plain settings

def Frame.bare (k : Nat) : Frame → Frame
  | .group parts kind verbose _ => .group (parts.map (.bare k)) (kind.moved k) verbose ⟨0, 0⟩
  | .branches alternatives => .branches (alternatives.map (.bare k))

def GroupName.entry (k : Nat) (n : GroupName) : List Char × Nat := (n.name, n.index + k)

namespace Reader

/-- `r'` reads inside a longer text what `r` reads alone: `base` is open around it, `known` holds
the names read before it, and `k` groups have captured before it. -/
structure Inside (k : Nat) (base : List Frame) (known : List GroupName) (r r' : Reader) : Prop where
  parts : r'.parts.map (Pattern.bare 0) = r.parts.map (Pattern.bare k)
  frames : ∃ top, r'.frames = top ++ base ∧ top.map (Frame.bare 0) = r.frames.map (Frame.bare k)
  names : ∃ added, r'.names = added ++ known ∧
    added.map (GroupName.entry 0) = r.names.map (GroupName.entry k)
  captures : r'.captures = r.captures + k
  verbose : r'.verbose = r.verbose

variable {k : Nat} {base : List Frame} {known : List GroupName} {r r' r₁ r₁' : Reader}
variable {v : Bool} {t cs cs' rest rest' : List Char}

theorem bare_row (k : Nat) (r : Reader) :
    r.row.bare k = .ofParts (r.parts.map (Pattern.bare k)).reverse := by
  unfold row
  rw [bare_ofParts, List.map_reverse]

theorem Inside.row (inside : Inside k base known r r') : r'.row.bare 0 = r.row.bare k := by
  rw [bare_row, bare_row, inside.parts]

theorem Inside.push (inside : Inside k base known r r') {p p' : Pattern}
    (same : p'.bare 0 = p.bare k) : Inside k base known (r.push p) (r'.push p') where
  parts := by simp only [Reader.push, List.map_cons, same, inside.parts]
  frames := inside.frames
  names := inside.names
  captures := inside.captures
  verbose := inside.verbose

theorem Inside.openGroup (inside : Inside k base known r r') {kind kind' : GroupKind}
    (same : kind'.moved 0 = kind.moved k) (verbose : Bool) (span span' : Span) :
    Inside k base known (r.openGroup kind verbose span) (r'.openGroup kind' verbose span') where
  parts := rfl
  frames := by
    obtain ⟨top, htop, hbare⟩ := inside.frames
    refine ⟨.group r'.parts kind' r'.verbose span' :: top, ?_, ?_⟩
    · simp only [Reader.openGroup, htop, List.cons_append]
    · simp only [Reader.openGroup, List.map_cons, Frame.bare, inside.parts, same, inside.verbose,
        hbare]
  names := inside.names
  captures := inside.captures
  verbose := rfl

theorem Inside.openCapture (inside : Inside k base known r r') (span span' : Span) :
    Inside k base known (r.openCapture span) (r'.openCapture span') := by
  have kinds : (GroupKind.capture (r'.captures + 1)).moved 0 =
      (GroupKind.capture (r.captures + 1)).moved k := by
    simp only [GroupKind.moved, inside.captures]
    congr 1
    omega
  have opened := inside.openGroup kinds r.verbose span span'
  unfold Reader.openCapture
  rw [inside.verbose]
  exact {
    parts := opened.parts
    frames := opened.frames
    names := opened.names
    captures := by
      have := inside.captures
      dsimp only
      omega
    verbose := opened.verbose }

theorem openNamed_inside {span span' : Span} (h : r.openNamed span cs = .ok (r₁, rest))
    (h' : r'.openNamed span' (cs ++ ')' :: t) = .ok (r₁', rest'))
    (inside : Inside k base known r r') :
    rest.length ≤ cs.length ∧ Inside k base known r₁ r₁' ∧ rest' = rest ++ ')' :: t := by
  unfold openNamed at h h'
  cases cs with
  | nil => cases h
  | cons c after =>
    obtain ⟨⟨name, close⟩, hname, h⟩ := bind_ok h
    obtain ⟨shorter, ⟨left, rfl⟩, hname'⟩ := readName_append t hname
    simp only [List.cons_append] at hname' h'
    rw [hname'] at h'
    dsimp only [bind, Except.bind] at h h'
    split at h
    · cases h
    · rename_i named
      rw [if_neg named] at h'
      split at h
      · cases h
      · split at h'
        · cases h'
        · cases h
          cases h'
          obtain ⟨added, hadded, hnames⟩ := inside.names
          have opened := inside.openCapture span span'
          have captured := opened.captures
          refine ⟨Nat.le_of_succ_le shorter, ?_, rfl⟩
          exact {
            parts := opened.parts
            frames := opened.frames
            names := by
              refine ⟨_ :: added, congrArg (_ :: ·) hadded, ?_⟩
              simp only [List.map_cons, GroupName.entry, captured, hnames, Nat.add_zero]
              rfl
            captures := opened.captures
            verbose := opened.verbose }

theorem openFlags_inside {start start' mark mark' : List Char}
    (h : r.openFlags start mark cs = .ok (r₁, rest))
    (h' : r'.openFlags start' mark' (cs ++ ')' :: t) = .ok (r₁', rest'))
    (inside : Inside k base known r r') :
    rest.length ≤ cs.length ∧ Inside k base known r₁ r₁' ∧ rest' = rest ++ ')' :: t := by
  unfold openFlags at h h'
  cases cs with
  | nil => cases h
  | cons c after =>
    obtain ⟨⟨items, close⟩, hflags, h⟩ := bind_ok h
    have unread : ([] : List FlagItem).map (·.1) = ([] : List FlagItem).map (·.1) := rfl
    obtain ⟨shorter, close_ne, items', hflags', same⟩ := readFlags_append t hflags unread
    obtain ⟨d, left, rfl⟩ := List.exists_cons_of_ne_nil close_ne
    simp only [List.cons_append] at hflags' h'
    rw [hflags'] at h'
    have settings : settingsOf true items'.reverse = settingsOf true items.reverse :=
      settingsOf_congr true (by rw [List.map_reverse, List.map_reverse, same])
    have empty : items'.isEmpty = items.isEmpty := by
      have := congrArg List.isEmpty same
      simpa only [List.isEmpty_map] using this
    simp only [List.length_cons] at shorter
    simp only [bind, Except.bind, settings, empty, List.head?_cons, List.drop_succ_cons,
      List.drop_zero, inside.verbose] at h h'
    split at h
    · rename_i ends
      rw [if_pos ends] at h'
      split at h
      · cases h
      · rename_i some'
        rw [if_neg some'] at h'
        cases h
        cases h'
        refine ⟨by simp only [List.length_cons]; omega, ?_, rfl⟩
        have pushed : Inside k base known (r.push (.settings (settingsOf true items.reverse)))
            (r'.push (.settings (settingsOf true items.reverse))) := inside.push rfl
        exact {
          parts := pushed.parts
          frames := pushed.frames
          names := pushed.names
          captures := pushed.captures
          verbose := rfl }
    · rename_i opens
      rw [if_neg opens] at h'
      cases h
      cases h'
      exact ⟨by simp only [List.length_cons]; omega, inside.openGroup rfl _ _ _, rfl⟩

theorem openParenthesis_inside (quiet : r.verbose = true → '\n' ∉ t) {start start' : List Char}
    (h : r.openParenthesis start cs = .ok (r₁, rest))
    (h' : r'.openParenthesis start' (cs ++ ')' :: t) = .ok (r₁', rest'))
    (inside : Inside k base known r r') :
    rest.length ≤ cs.length ∧ Inside k base known r₁ r₁' ∧ Followed r₁.verbose t rest rest' := by
  have shorter := length_skip_le r.verbose cs
  have f := skip_append quiet cs
  unfold openParenthesis at h h'
  rw [inside.verbose] at h'
  dsimp only at h h'
  generalize skip r.verbose cs = inner at h shorter f
  generalize skip r.verbose (cs ++ ')' :: t) = inner' at h' f
  split at h
  case h_1 | h_2 | h_3 | h_4 => cases h
  case h_5 after =>
    rw [f.eq_cons] at h'
    obtain ⟨shorter', opened, rfl⟩ := openNamed_inside h h' inside
    simp only [List.length_cons] at shorter
    exact ⟨by omega, opened, .appended rest⟩
  case h_6 after not_equal not_bang =>
    cases after with
    | nil => cases h
    | cons d after =>
      rw [f.eq_cons] at h'
      simp only [List.cons_append] at h'
      have named : r'.openNamed (.between start' (cs ++ ')' :: t)) (d :: after ++ ')' :: t) =
          .ok (r₁', rest') := by
        split at h'
        case h_1 | h_2 | h_3 | h_4 => cases h'
        case h_5 heq => cases heq
        case h_6 heq =>
          cases heq
          exact h'
        case h_7 not_named heq =>
          cases heq
          exact absurd rfl (not_named _)
        case h_8 marked => exact absurd rfl (marked _)
      obtain ⟨shorter', opened, rfl⟩ := openNamed_inside h named inside
      simp only [List.length_cons] at shorter shorter'
      exact ⟨by omega, opened, .appended rest⟩
  case h_7 after _ _ _ _ not_p not_named =>
    cases after with
    | nil => cases h
    | cons d after =>
      rw [f.eq_cons] at h'
      simp only [List.cons_append] at h'
      have flags : r'.openFlags start' ('?' :: d :: (after ++ ')' :: t)) (d :: after ++ ')' :: t) =
          .ok (r₁', rest') := by
        split at h'
        case h_1 | h_2 | h_3 | h_4 => cases h'
        case h_5 heq =>
          cases after with
          | nil => cases heq
          | cons e after =>
            cases heq
            exact absurd rfl (not_p after)
        case h_6 heq =>
          cases heq
          exact absurd rfl (not_named after)
        case h_7 heq =>
          cases heq
          exact h'
        case h_8 marked => exact absurd rfl (marked _)
      obtain ⟨shorter', opened, rfl⟩ := openFlags_inside h flags inside
      simp only [List.length_cons] at shorter shorter'
      exact ⟨by omega, opened, .appended rest⟩
  case h_8 unmarked =>
    cases h
    refine ⟨shorter, ?_⟩
    split at h'
    case h_1 | h_2 | h_3 | h_4 => cases h'
    case h_5 | h_6 | h_7 =>
      cases rest with
      | nil => cases f
      | cons c after =>
        obtain ⟨rfl, -⟩ := List.cons.inj f.eq_cons
        exact absurd rfl (unmarked after)
    case h_8 =>
      cases h'
      exact ⟨inside.openCapture _ _, f⟩

theorem Inside.close (inside : Inside k base known r r') {kind kind' : GroupKind}
    {outer outer' : List Pattern} {frames top : List Frame} (verbose : Bool)
    {body body' : Pattern} (hkind : kind'.moved 0 = kind.moved k)
    (houter : outer'.map (Pattern.bare 0) = outer.map (Pattern.bare k))
    (hframes : top.map (Frame.bare 0) = frames.map (Frame.bare k))
    (hbody : body'.bare 0 = body.bare k) :
    Inside k base known (r.close kind outer frames verbose body)
      (r'.close kind' outer' (top ++ base) verbose body') where
  parts := by
    cases kind with
    | capture index =>
      cases kind' with
      | capture index' =>
        simp only [GroupKind.moved, GroupKind.capture.injEq] at hkind
        simp only [Reader.close, List.map_cons, Pattern.bare, houter, hbody, hkind]
      | plain => cases hkind
    | plain settings =>
      cases kind' with
      | capture => cases hkind
      | plain settings' =>
        cases hkind
        simp only [Reader.close, List.map_cons, Pattern.bare, houter, hbody]
  frames := ⟨top, rfl, hframes⟩
  names := inside.names
  captures := inside.captures
  verbose := rfl

theorem closeParenthesis_inside {start start' : List Char}
    (h : r.closeParenthesis start cs = .ok r₁) (h' : r'.closeParenthesis start' cs' = .ok r₁')
    (inside : Inside k base known r r') : Inside k base known r₁ r₁' := by
  obtain ⟨top, htop, hbare⟩ := inside.frames
  unfold closeParenthesis at h h'
  rw [htop] at h'
  split at h
  · rename_i outer kind verbose span frames hframes
    rw [hframes] at hbare
    obtain ⟨frame, top, rfl, hframe, hrest⟩ := List.map_eq_cons_iff.1 hbare
    cases frame with
    | branches => cases hframe
    | group outer' kind' verbose' span' =>
      simp only [Frame.bare, Frame.group.injEq] at hframe
      obtain ⟨houter, hkind, rfl, -⟩ := hframe
      cases h
      cases h'
      exact inside.close _ hkind houter hrest inside.row
  · rename_i alternatives outer kind verbose span frames hframes
    rw [hframes] at hbare
    obtain ⟨first, top, rfl, hfirst, hnext⟩ := List.map_eq_cons_iff.1 hbare
    obtain ⟨frame, top, rfl, hframe, hrest⟩ := List.map_eq_cons_iff.1 hnext
    cases first with
    | group => cases hfirst
    | branches alternatives' =>
      cases frame with
      | branches => cases hframe
      | group outer' kind' verbose' span' =>
        simp only [Frame.bare, Frame.branches.injEq, Frame.group.injEq] at hfirst hframe
        obtain ⟨houter, hkind, rfl, -⟩ := hframe
        cases h
        cases h'
        refine inside.close _ hkind houter hrest ?_
        rw [bare_ofBranches, bare_ofBranches, List.map_reverse, List.map_reverse, List.map_cons,
          List.map_cons, inside.row, hfirst]
  · cases h

theorem bar_of_branches {alternatives : List Pattern} {frames : List Frame}
    (h : r.frames = .branches alternatives :: frames) :
    r.bar = { r with parts := [], frames := .branches (r.row :: alternatives) :: frames } := by
  simp only [bar, h]

theorem bar_of_closed (h : ∀ alternatives, r.frames.head? ≠ some (.branches alternatives)) :
    r.bar = { r with parts := [], frames := .branches [r.row] :: r.frames } := by
  unfold bar
  split
  · rename_i alternatives frames hframes
    exact absurd (by rw [hframes]; rfl) (h alternatives)
  · rfl

theorem bar_inside (closed : ∀ alternatives, base.head? ≠ some (.branches alternatives))
    (inside : Inside k base known r r') : Inside k base known r.bar r'.bar := by
  obtain ⟨top, htop, hbare⟩ := inside.frames
  by_cases opened : ∃ alternatives, r.frames.head? = some (.branches alternatives)
  · obtain ⟨alternatives, hhead⟩ := opened
    obtain ⟨frames, hframes⟩ := List.head?_eq_some_iff.1 hhead
    rw [hframes] at hbare
    obtain ⟨frame, top, rfl, hframe, hrest⟩ := List.map_eq_cons_iff.1 hbare
    cases frame with
    | group => cases hframe
    | branches alternatives' =>
      simp only [Frame.bare, Frame.branches.injEq] at hframe
      rw [bar_of_branches hframes, bar_of_branches htop]
      exact {
        parts := rfl
        frames := by
          refine ⟨.branches (r'.row :: alternatives') :: top, rfl, ?_⟩
          simp only [List.map_cons, Frame.bare, inside.row, hframe, hrest]
        names := inside.names
        captures := inside.captures
        verbose := inside.verbose }
  · have ends (alternatives : List Pattern) :
        r.frames.head? ≠ some (.branches alternatives) := fun h => opened ⟨alternatives, h⟩
    have ends' (alternatives : List Pattern) :
        r'.frames.head? ≠ some (.branches alternatives) := by
      intro h
      rw [htop] at h
      cases top with
      | nil => exact closed alternatives h
      | cons frame top =>
        obtain ⟨frame', frames, hframes, hframe, -⟩ := List.map_eq_cons_iff.1 hbare.symm
        cases h
        cases frame' with
        | group => cases hframe
        | branches alternatives' => exact ends alternatives' (by rw [hframes]; rfl)
    rw [bar_of_closed ends, bar_of_closed ends']
    exact {
      parts := rfl
      frames := by
        refine ⟨.branches [r'.row] :: top, by rw [htop]; rfl, ?_⟩
        simp only [List.map_cons, List.map_nil, Frame.bare, inside.row, hbare]
      names := inside.names
      captures := inside.captures
      verbose := inside.verbose }

theorem repeatLast_inside {start start' : List Char} {count : Count} {greedy : Bool}
    (h : r.repeatLast start count greedy = .ok r₁)
    (h' : r'.repeatLast start' count greedy = .ok r₁') (inside : Inside k base known r r') :
    Inside k base known r₁ r₁' := by
  have same := inside.parts
  unfold repeatLast at h h'
  split at h
  · rename_i p parts hparts
    split at h'
    · rename_i p' parts' hparts'
      rw [hparts, hparts'] at same
      simp only [List.map_cons, List.cons.injEq] at same
      split at h
      · split at h'
        · cases h
          cases h'
          exact {
            parts := by simp only [List.map_cons, Pattern.bare, same.1, same.2]
            frames := inside.frames
            names := inside.names
            captures := inside.captures
            verbose := inside.verbose }
        · cases h'
      · cases h
    · cases h'
  · cases h

/-- A repetition changes nothing but the last part. -/
theorem repeatLast_eq {start : List Char} {count : Count} {greedy : Bool}
    (h : r.repeatLast start count greedy = .ok r₁) : ∃ parts, r₁ = { r with parts } := by
  unfold repeatLast at h
  split at h
  · split at h
    · cases h
      exact ⟨_, rfl⟩
    · cases h
  · cases h

theorem repeatBy_inside {start start' : List Char} {count : Count}
    (h : r.repeatBy start cs count = .ok (r₁, rest))
    (h' : r'.repeatBy start' (cs ++ ')' :: t) count = .ok (r₁', rest'))
    (inside : Inside k base known r r') :
    rest.length ≤ cs.length ∧ Inside k base known r₁ r₁' ∧ Followed r₁.verbose t rest rest' := by
  obtain ⟨shorter, greedy, f⟩ := readLazy_followed (.appended (v := r.verbose) (t := t) cs)
  unfold repeatBy at h h'
  dsimp only at h h'
  obtain ⟨r₂, hrepeat, h⟩ := bind_ok h
  obtain ⟨r₂', hrepeat', h'⟩ := bind_ok h'
  cases h
  cases h'
  rw [greedy] at hrepeat'
  have repeated := repeatLast_inside hrepeat hrepeat' inside
  obtain ⟨parts, rfl⟩ := repeatLast_eq hrepeat
  exact ⟨shorter, repeated, f⟩

theorem toPattern_bare (k : Nat) (span span' : Span) (p : Primitive) :
    (p.toPattern span').bare 0 = (p.toPattern span).bare k := by
  cases p <;> rfl

/-- One step inside a longer text does what it does alone. -/
theorem step_inside {c : Char} (closed : ∀ alternatives, base.head? ≠ some (.branches alternatives))
    (quiet : r.verbose = true → '\n' ∉ t) (h : r.step c cs = .ok (r₁, rest))
    (h' : r'.step c (cs ++ ')' :: t) = .ok (r₁', rest')) (inside : Inside k base known r r') :
    rest.length ≤ cs.length ∧ Inside k base known r₁ r₁' ∧ Followed r₁.verbose t rest rest' := by
  unfold step at h h'
  dsimp only at h h'
  split at h
  case h_1 => exact openParenthesis_inside quiet h h' inside
  case h_2 =>
    obtain ⟨r₂, hclose, h⟩ := bind_ok h
    obtain ⟨r₂', hclose', h'⟩ := bind_ok h'
    cases h
    cases h'
    exact ⟨Nat.le_refl _, closeParenthesis_inside hclose hclose' inside, .appended _⟩
  case h_3 =>
    cases h
    cases h'
    exact ⟨Nat.le_refl _, bar_inside closed inside, .appended _⟩
  case h_4 =>
    obtain ⟨⟨s, after⟩, hset, h⟩ := bind_ok h
    obtain ⟨shorter, s', hset', same⟩ := readSet_append quiet ('[' :: (cs ++ ')' :: t)) hset
    rw [inside.verbose, hset'] at h'
    cases h
    cases h'
    exact ⟨shorter, inside.push (by simp only [Pattern.bare, same]), .appended _⟩
  case h_5 | h_6 | h_7 =>
    exact repeatBy_inside h h' inside
  case h_8 =>
    obtain ⟨-, -, h⟩ := bind_ok h
    obtain ⟨⟨⟨count, greedy⟩, after⟩, hcount, h⟩ := bind_ok h
    obtain ⟨r₂, hrepeat, h⟩ := bind_ok h
    obtain ⟨shorter, after', hcount', f⟩ :=
      readCount_followed quiet ('\x7b' :: (cs ++ ')' :: t)) hcount
    obtain ⟨-, -, h'⟩ := bind_ok h'
    rw [inside.verbose, hcount'] at h'
    obtain ⟨_, hsame, h'⟩ := bind_ok h'
    cases hsame
    obtain ⟨r₂', hrepeat', h'⟩ := bind_ok h'
    cases h
    cases h'
    have repeated := repeatLast_inside hrepeat hrepeat' inside
    obtain ⟨parts, rfl⟩ := repeatLast_eq hrepeat
    exact ⟨shorter, repeated, f⟩
  case h_9 not_open not_close not_bar not_bracket not_mark not_star not_plus not_brace =>
    obtain ⟨⟨p, after⟩, hprimitive, h⟩ := bind_ok h
    obtain ⟨shorter, after', hprimitive', f⟩ := readPrimitive_followed quiet hprimitive
    simp only [inside.verbose, hprimitive', bind, Except.bind] at h'
    cases h
    cases h'
    exact ⟨shorter, inside.push (toPattern_bare k _ _ p), f⟩

variable {n m : Nat} {rf rf' : Reader}

/-- Blanks and comments before a text do not matter to the reader. -/
theorem run_skip (n : Nat) (r : Reader) (cs : List Char) :
    run n r (skip r.verbose cs) = run n r cs := by
  cases n with
  | zero => rfl
  | succ n => simp only [run, skip_skip]

theorem run_cons {c : Char} (h : skip r.verbose cs = c :: rest) (room : cs.length ≤ n)
    (read : run n r cs = .ok rf) :
    ∃ l r₁ rest₁, n = l + 1 ∧ r.step c rest = .ok (r₁, rest₁) ∧ run l r₁ rest₁ = .ok rf := by
  have shorter := length_skip_le r.verbose cs
  rw [h, List.length_cons] at shorter
  obtain ⟨l, rfl⟩ : ∃ l, n = l + 1 := ⟨n - 1, by omega⟩
  simp only [run, h] at read
  obtain ⟨⟨r₁, rest₁⟩, hstep, read⟩ := bind_ok read
  exact ⟨l, r₁, rest₁, rfl, hstep, read⟩

theorem run_nil (h : skip r.verbose cs = []) : run n r cs = .ok r := by
  cases n with
  | zero => rfl
  | succ n => simp only [run, h]

/-- On its way through a text the reader comes to the last of the readers. -/
inductive Visits : Nat → Reader → List Char → Reader → Prop
  | here (n : Nat) (r : Reader) (cs : List Char) : Visits n r cs r
  | next {n : Nat} {r r₁ s : Reader} {c : Char} {cs rest rest₁ : List Char}
      (begins : skip r.verbose cs = c :: rest) (step : r.step c rest = .ok (r₁, rest₁))
      (later : Visits n r₁ rest₁ s) : Visits (n + 1) r cs s

/-- A text that reads by itself is read alike inside a longer one, up to the parenthesis that
follows it or, when its last comment swallows that, to the end. Line breaks may come after it only
if it is never read as verbose. -/
theorem run_inside (closed : ∀ alternatives, base.head? ≠ some (.branches alternatives))
    (quiet : ∀ s, Visits n r cs s → s.verbose = true → '\n' ∉ t) (h : run n r cs = .ok rf) (enough : cs.length ≤ n)
    (h' : run m r' cs' = .ok rf') (enough' : cs'.length ≤ m) (f : Followed r.verbose t cs cs')
    (inside : Inside k base known r r') :
    ∃ r₁', Inside k base known rf r₁' ∧
      ((∃ l, (')' :: t).length ≤ l ∧ run l r₁' (')' :: t) = .ok rf') ∨ r₁' = rf') := by
  induction n using Nat.strongRecOn generalizing m r r' cs cs' with
  | _ n ih =>
    have f' := f.skip (quiet r (.here n r cs))
    have shorter := length_skip_le r'.verbose cs
    have shorter' := length_skip_le r'.verbose cs'
    have verbose := inside.verbose
    rw [← verbose] at f'
    cases hskip : skip r'.verbose cs with
    | nil =>
      rw [run_nil (by rwa [← verbose])] at h
      cases h
      refine ⟨r', inside, ?_⟩
      rw [hskip] at f'
      generalize hleft : skip r'.verbose cs' = left at f' shorter'
      cases f' with
      | appended =>
        refine .inl ⟨m, Nat.le_trans shorter' enough', ?_⟩
        rw [List.nil_append] at hleft
        rw [← hleft, run_skip, h']
      | swallowed =>
        rw [run_nil hleft] at h'
        exact .inr (Except.ok.inj h')
    | cons c rest =>
      rw [hskip] at f' shorter
      have hskip' := f'.eq_cons
      rw [hskip', List.length_cons, List.length_append] at shorter'
      rw [verbose] at hskip
      rw [List.length_cons] at shorter
      obtain ⟨l, r₁, rest₁, rfl, hstep, h⟩ := run_cons hskip enough h
      obtain ⟨l', r₁', rest₁', rfl, hstep', h'⟩ := run_cons hskip' enough' h'
      obtain ⟨fewer, inside₁, f₁⟩ :=
        step_inside closed (quiet r (.here _ r cs)) hstep hstep' inside
      have quiet₁ (s : Reader) (visited : Visits l r₁ rest₁ s) : s.verbose = true → '\n' ∉ t :=
        quiet s (.next hskip hstep visited)
      have fewer' : rest₁'.length ≤ rest₁.length + (')' :: t).length := by
        cases f₁ with
        | appended => exact Nat.le_of_eq List.length_append
        | swallowed => exact Nat.zero_le _
      exact ih l (Nat.lt_succ_self l) quiet₁ h (by omega) h' (by omega) f₁ inside₁

end Reader

end EndpointRouting.Regex
