import EndpointRouting.Proofs.Regex.Groups

/-!
# Patterns that are never verbose

Blanks and comments count for nothing only where a setting in the tree says so. A setting that has
been read stays in the tree, so a pattern without one was never read as verbose, and the reader may
pass it inside a longer text whatever follows.
-/

namespace EndpointRouting.Regex
open Text

def Settings.turnsVerbose (s : Settings) : Bool := s.value? .verbose == some true

/-- Verbose reading is switched on somewhere in the pattern. -/
def Pattern.turnsVerbose : Pattern → Bool
  | .settings s => s.turnsVerbose
  | .group s body => s.turnsVerbose || body.turnsVerbose
  | .capture _ body | .repeat body _ _ => body.turnsVerbose
  | .seq first second | .alt first second => first.turnsVerbose || second.turnsVerbose
  | _ => false

def GroupKind.turnsVerbose : GroupKind → Bool
  | .capture _ => false
  | .plain s => s.turnsVerbose

def Frame.turnsVerbose : Frame → Bool
  | .group parts kind _ _ => parts.any Pattern.turnsVerbose || kind.turnsVerbose
  | .branches alternatives => alternatives.any Pattern.turnsVerbose

theorem turnsVerbose_ofParts (ps : List Pattern) :
    (Pattern.ofParts ps).turnsVerbose = ps.any Pattern.turnsVerbose := by
  fun_induction Pattern.ofParts ps with
  | case1 => rfl
  | case2 p => simp
  | case3 p rest _ ih => rw [Pattern.turnsVerbose, ih, List.any_cons]

theorem turnsVerbose_ofBranches (ps : List Pattern) :
    (Pattern.ofBranches ps).turnsVerbose = ps.any Pattern.turnsVerbose := by
  fun_induction Pattern.ofBranches ps with
  | case1 => rfl
  | case2 p => simp
  | case3 p rest _ ih => rw [Pattern.turnsVerbose, ih, List.any_cons]

namespace Reader

def turnsVerbose (r : Reader) : Bool :=
  r.parts.any Pattern.turnsVerbose || r.frames.any Frame.turnsVerbose

variable {r r₁ rf s : Reader} {c : Char} {cs rest : List Char}

theorem turnsVerbose_row (r : Reader) : r.row.turnsVerbose = r.parts.any Pattern.turnsVerbose := by
  rw [row, turnsVerbose_ofParts, List.any_reverse]

/-- From `r` to `r₁` no setting is lost, and the reader becomes verbose only by a setting. -/
structure Latches (r r₁ : Reader) : Prop where
  stays : r.turnsVerbose = true → r₁.turnsVerbose = true
  calm : r.Calm → r₁.Calm ∨ r₁.turnsVerbose = true

/-! ### Steps -/

theorem latches_push (r : Reader) (p : Pattern) : Latches r (r.push p) where
  stays on := by
    simp only [turnsVerbose, push, List.any_cons, Bool.or_eq_true] at on ⊢
    tauto
  calm calm := .inl ⟨calm.verbose, calm.frames⟩

theorem latches_openGroup (r : Reader) (kind : GroupKind) (verbose : Bool) (span : Span)
    (switched : verbose = true → r.verbose = true ∨ kind.turnsVerbose = true) :
    Latches r (r.openGroup kind verbose span) where
  stays on := by
    simp only [turnsVerbose, openGroup, List.any_cons, List.any_nil, Frame.turnsVerbose,
      Bool.or_eq_true] at on ⊢
    tauto
  calm calm := by
    cases mode : verbose with
    | false => exact .inl ⟨rfl, frames_openGroup calm kind false span⟩
    | true =>
      rcases switched mode with before | here
      · exact absurd (calm.verbose.symm.trans before) (by decide)
      · right
        simp [turnsVerbose, openGroup, Frame.turnsVerbose, here]

theorem Latches.recounted (l : Latches r r₁) (captures : Nat) (names : List GroupName) :
    Latches r { r₁ with captures, names } where
  stays := l.stays
  calm before := (l.calm before).imp_left fun ⟨verbose, frames⟩ => ⟨verbose, frames⟩

theorem latches_openCapture (r : Reader) (span : Span) : Latches r (r.openCapture span) :=
  (latches_openGroup r (.capture (r.captures + 1)) r.verbose span .inl).recounted _ r.names

theorem latches_openNamed {span : Span} (h : r.openNamed span cs = .ok (r₁, rest)) :
    Latches r r₁ := by
  obtain ⟨here, rfl, -⟩ := openNamed_ok h
  exact (latches_openCapture r span).recounted _ _

theorem switched_of_value {s : Settings} (on : (s.value? .verbose).getD r.verbose = true) :
    r.verbose = true ∨ s.turnsVerbose = true := by
  unfold Settings.turnsVerbose
  cases value : s.value? .verbose with
  | none =>
    rw [value, Option.getD_none] at on
    exact .inl on
  | some b =>
    rw [value, Option.getD_some] at on
    exact .inr (by rw [on]; rfl)

theorem latches_openFlags {start mark : List Char}
    (h : r.openFlags start mark cs = .ok (r₁, rest)) : Latches r r₁ := by
  unfold openFlags at h
  split at h
  · cases h
  · obtain ⟨⟨items, close⟩, -, h⟩ := bind_ok h
    dsimp only at h
    split at h
    · split at h
      · cases h
      · cases h
        constructor
        · intro on
          exact (latches_push r _).stays on
        · intro calm
          cases mode : ((settingsOf true items.reverse).value? .verbose).getD r.verbose with
          | false => exact .inl ⟨rfl, calm.frames⟩
          | true =>
            rcases switched_of_value mode with before | here
            · exact absurd (calm.verbose.symm.trans before) (by decide)
            · right
              simp [turnsVerbose, push, Pattern.turnsVerbose, here]
    · cases h
      exact latches_openGroup r _ _ _ switched_of_value

theorem latches_openParenthesis {start : List Char}
    (h : r.openParenthesis start cs = .ok (r₁, rest)) : Latches r r₁ := by
  unfold openParenthesis at h
  dsimp only at h
  split at h
  case h_1 | h_2 | h_3 | h_4 => cases h
  case h_5 | h_6 => exact latches_openNamed h
  case h_7 => exact latches_openFlags h
  case h_8 =>
    cases h
    exact latches_openCapture r _

theorem latches_closeParenthesis {start : List Char}
    (h : r.closeParenthesis start cs = .ok r₁) : Latches r r₁ := by
  refine ⟨fun on => ?_, fun calm => .inl (calm_close calm h)⟩
  unfold closeParenthesis at h
  split at h
  · -- the settings of the group and of what stands in it are now in one part
    rename_i outer kind verbose span below opened
    cases h
    cases kind <;>
      simp only [turnsVerbose, close, opened, List.any_cons, Frame.turnsVerbose,
        GroupKind.turnsVerbose, Pattern.turnsVerbose, turnsVerbose_row, Bool.or_eq_true] at on ⊢ <;>
      tauto
  · rename_i alternatives outer kind verbose span below opened
    cases h
    cases kind <;>
      simp only [turnsVerbose, close, opened, List.any_cons, Frame.turnsVerbose,
        GroupKind.turnsVerbose, Pattern.turnsVerbose, turnsVerbose_ofBranches, List.any_reverse,
        turnsVerbose_row, Bool.or_eq_true] at on ⊢ <;>
      tauto
  · cases h

theorem latches_bar (r : Reader) : Latches r r.bar := by
  refine ⟨fun on => ?_, fun calm => .inl (calm_bar calm).1⟩
  unfold bar
  split
  · rename_i alternatives below opened
    simp only [turnsVerbose, opened, List.any_cons, List.any_nil, Frame.turnsVerbose,
      turnsVerbose_row, Bool.or_eq_true] at on ⊢
    tauto
  · simp only [turnsVerbose, List.any_cons, List.any_nil, Frame.turnsVerbose, turnsVerbose_row,
      Bool.or_eq_true] at on ⊢
    tauto

theorem latches_repeatLast {start : List Char} {count : Count} {greedy : Bool}
    (h : r.repeatLast start count greedy = .ok r₁) : Latches r r₁ := by
  unfold repeatLast at h
  split at h
  · rename_i p parts listed
    split at h
    · cases h
      refine ⟨fun on => ?_, fun calm => .inl ⟨calm.verbose, calm.frames⟩⟩
      simp only [turnsVerbose, listed, List.any_cons, Pattern.turnsVerbose] at on ⊢
      exact on
    · cases h
  · cases h

theorem latches_repeatBy {start : List Char} {count : Count}
    (h : r.repeatBy start cs count = .ok (r₁, rest)) : Latches r r₁ := by
  obtain ⟨r₂, repeated, h⟩ := bind_ok h
  cases h
  exact latches_repeatLast repeated

theorem latches_step (h : r.step c cs = .ok (r₁, rest)) : Latches r r₁ := by
  unfold step at h
  dsimp only at h
  split at h
  case h_1 => exact latches_openParenthesis h
  case h_2 =>
    obtain ⟨r₂, closed, h⟩ := bind_ok h
    cases h
    exact latches_closeParenthesis closed
  case h_3 =>
    cases h
    exact latches_bar r
  case h_4 =>
    obtain ⟨⟨s, after⟩, -, h⟩ := bind_ok h
    cases h
    exact latches_push r _
  case h_5 | h_6 | h_7 => exact latches_repeatBy h
  case h_8 =>
    obtain ⟨-, -, h⟩ := bind_ok h
    obtain ⟨⟨⟨count, greedy⟩, after⟩, -, h⟩ := bind_ok h
    obtain ⟨r₂, repeated, h⟩ := bind_ok h
    cases h
    exact latches_repeatLast repeated
  case h_9 =>
    obtain ⟨⟨p, after⟩, -, h⟩ := bind_ok h
    cases h
    exact latches_push r _

/-! ### Runs -/

theorem turnsVerbose_run {n : Nat} (h : run n r cs = .ok rf) (on : r.turnsVerbose = true) :
    rf.turnsVerbose = true := by
  induction n generalizing r cs with
  | zero =>
    cases h
    exact on
  | succ n ih =>
    simp only [run] at h
    split at h
    · cases h
      exact on
    · obtain ⟨⟨r₂, rest⟩, step, h⟩ := bind_ok h
      exact ih h ((latches_step step).stays on)

theorem turnsVerbose_finish {p : Pattern} (h : r.finish = .ok p) :
    p.turnsVerbose = r.turnsVerbose := by
  rcases frames_of_finish h with ⟨closed, rfl⟩ | ⟨alternatives, opened, rfl⟩
  · simp [turnsVerbose, closed, turnsVerbose_row]
  · simp [turnsVerbose, opened, turnsVerbose_ofBranches, turnsVerbose_row, Frame.turnsVerbose,
      Bool.or_comm]

theorem calm_of_visits {n : Nat} (visited : Visits n r cs s) (h : run n r cs = .ok rf)
    (off : rf.turnsVerbose = false) (calm : r.Calm) : s.Calm := by
  induction visited with
  | here => exact calm
  | @next n r r₁ s c cs rest rest₁ begins step later ih =>
    simp only [run, begins] at h
    obtain ⟨⟨r₂, rest₂⟩, step', h⟩ := bind_ok h
    cases step.symm.trans step'
    rcases (latches_step step).calm calm with calm₁ | on
    · exact ih h calm₁
    · -- the setting would still be there at the end
      exact absurd (off.symm.trans (turnsVerbose_run h on)) (by decide)

end Reader

/-- A pattern without a setting for it is read in plain mode from its start to its end. -/
theorem plain_of_read {cs : List Char} {own : NamedPattern} (alone : Pattern.read cs = .ok own)
    (off : own.pattern.turnsVerbose = false) (s : Reader) (visited : Reader.Visits cs.length {} cs s) :
    s.verbose = false := by
  obtain ⟨r, run, finish, -⟩ := read_ok alone
  rw [Reader.turnsVerbose_finish finish] at off
  have start : Reader.Calm {} := ⟨rfl, by simp⟩
  exact (Reader.calm_of_visits visited run off start).verbose

end EndpointRouting.Regex
