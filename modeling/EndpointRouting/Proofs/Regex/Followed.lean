import EndpointRouting.Proofs.Regex.Bare

/-!
# Reading a text inside a longer one

A reader that succeeds on a text does the same when a closing parenthesis and more come after it:
no escape, set, count or name reaches over a parenthesis that it has not seen. Only a comment of a
verbose text can, so what follows must hold no line break then, and is swallowed as a whole.
-/

namespace EndpointRouting.Regex
open Text

/-- What is left of a text, by itself and with a closing parenthesis and `t` after it. -/
inductive Followed (v : Bool) (t : List Char) : List Char → List Char → Prop
  | appended (cs : List Char) : Followed v t cs (cs ++ ')' :: t)
  | swallowed : v = true → Followed v t [] []

variable {v : Bool} {t cs cs' rest : List Char}

theorem Followed.eq_append (h : Followed v t cs cs') (ne : cs ≠ []) : cs' = cs ++ ')' :: t := by
  cases h with
  | appended => rfl
  | swallowed => exact absurd rfl ne

theorem Followed.eq_cons {c : Char} (h : Followed v t (c :: cs) cs') :
    cs' = c :: (cs ++ ')' :: t) :=
  h.eq_append (List.cons_ne_nil c cs)

/-! ### Blanks and comments -/

theorem length_dropComments_le (b : Bool) (cs : List Char) :
    (dropComments b cs).length ≤ cs.length := by
  fun_induction dropComments b cs with
  | case1 => simp
  | case2 c rest ih => simp only [List.length_cons]; omega
  | case3 c rest _ ih => simp only [List.length_cons]; omega
  | case4 c rest _ _ ih => simp only [List.length_cons]; omega
  | case5 => simp

@[simp]
theorem skip_nil (v : Bool) : skip v [] = [] := by
  cases v <;> rfl

theorem length_skip_le (v : Bool) (cs : List Char) : (skip v cs).length ≤ cs.length := by
  unfold skip
  split
  · exact length_dropComments_le false cs
  · exact Nat.le_refl _

theorem skip_skip (v : Bool) (cs : List Char) : skip v (skip v cs) = skip v cs := by
  have dropped (b : Bool) : dropComments false (dropComments b cs) = dropComments b cs := by
    fun_induction dropComments b cs with
    | case1 => rfl
    | case2 c rest ih => exact ih
    | case3 c rest blank ih => exact ih
    | case4 c rest blank hash ih => exact ih
    | case5 c rest blank hash => rw [dropComments, if_neg blank, if_neg hash]
  unfold skip
  split
  · exact dropped false
  · rfl

theorem dropComments_of_no_break (h : '\n' ∉ cs) : dropComments true cs = [] := by
  induction cs with
  | nil => rfl
  | cons c rest ih =>
    simp only [List.mem_cons, not_or] at h
    have differs : (c != '\n') = true := by simpa using Ne.symm h.1
    rw [dropComments, differs]
    exact ih h.2

/-- A comment that is still open at the end of a text swallows what follows it. -/
theorem dropComments_append (quiet : '\n' ∉ t) (b : Bool) (cs : List Char) :
    Followed true t (dropComments b cs) (dropComments b (cs ++ ')' :: t)) := by
  fun_induction dropComments b cs with
  | case1 b =>
    cases b with
    | true =>
      rw [List.nil_append, dropComments_of_no_break (by simpa using quiet)]
      exact .swallowed rfl
    | false => exact .appended []
  | case2 c rest ih => exact ih
  | case3 c rest blank ih =>
    rw [List.cons_append, dropComments, if_pos blank]
    exact ih
  | case4 c rest blank hash ih =>
    rw [List.cons_append, dropComments, if_neg blank, if_pos hash]
    exact ih
  | case5 c rest blank hash =>
    rw [List.cons_append, dropComments, if_neg blank, if_neg hash]
    exact .appended (c :: rest)

theorem length_append_le (cs t : List Char) : cs.length ≤ (cs ++ ')' :: t).length := by
  rw [List.length_append]
  exact Nat.le_add_right _ _

variable (quiet : v = true → '\n' ∉ t)
include quiet

theorem skip_append (cs : List Char) : Followed v t (skip v cs) (skip v (cs ++ ')' :: t)) := by
  cases v with
  | true => exact dropComments_append (quiet rfl) false cs
  | false => exact .appended cs

theorem Followed.skip (h : Followed v t cs cs') : Followed v t (skip v cs) (skip v cs') := by
  cases h with
  | appended => exact skip_append quiet cs
  | swallowed on =>
    subst on
    exact .swallowed rfl

theorem skip_append_cons {c : Char} (h : skip v cs = c :: rest) :
    skip v (cs ++ ')' :: t) = c :: (rest ++ ')' :: t) := by
  have followed := skip_append quiet cs
  rw [h] at followed
  exact followed.eq_cons

theorem takeLike_append {p : Char → Bool} {n m : Nat} {taken stop : List Char}
    (h : takeLike p v n cs = (taken, stop)) (ne : stop ≠ []) (enough : cs.length ≤ n)
    (more : n ≤ m) :
    stop.length ≤ cs.length ∧ takeLike p v m (cs ++ ')' :: t) = (taken, stop ++ ')' :: t) := by
  induction n generalizing m cs taken with
  | zero =>
    cases h
    exact absurd (List.length_eq_zero_iff.1 (Nat.le_zero.1 enough)) ne
  | succ n ih =>
    obtain ⟨m, rfl⟩ : ∃ l, m = l + 1 := ⟨m - 1, by omega⟩
    cases cs with
    | nil =>
      cases h
      exact absurd rfl ne
    | cons c after =>
      simp only [takeLike, List.cons_append] at h ⊢
      split at h
      · rename_i member
        have shorter := length_skip_le v after
        simp only [List.length_cons] at enough
        cases hrec : takeLike p v n (skip v after) with
        | mk name rest =>
          rw [hrec] at h
          simp only [Prod.mk.injEq] at h
          obtain ⟨rfl, rfl⟩ := h
          have reached : skip v after ≠ [] := by
            intro gone
            rw [gone] at hrec
            cases n <;> cases hrec <;> exact ne rfl
          have f := (skip_append quiet after).eq_append reached
          obtain ⟨shorter', hm⟩ := ih hrec (by omega) (Nat.le_of_succ_le_succ more)
          refine ⟨by simp only [List.length_cons]; omega, ?_⟩
          rw [if_pos member, f, hm]
      · rename_i other
        cases h
        rw [if_neg other]
        exact ⟨Nat.le_refl _, rfl⟩

/-! ### Escapes -/

theorem readHexDigits_followed {n : Nat} {ds : List Char}
    (h : readHexDigits v n cs = .ok (ds, rest)) (f : Followed v t cs cs') :
    rest.length ≤ cs.length ∧
      ∃ rest', readHexDigits v n cs' = .ok (ds, rest') ∧ Followed v t rest rest' := by
  induction n generalizing cs cs' ds with
  | zero =>
    cases h
    exact ⟨Nat.le_refl _, cs', rfl, f⟩
  | succ n ih =>
    cases cs with
    | nil => cases h
    | cons d after =>
      obtain rfl := f.eq_cons
      simp only [readHexDigits] at h ⊢
      split at h
      · rename_i digit
        obtain ⟨⟨more, rest₁⟩, hmore, h⟩ := bind_ok h
        dsimp only at h
        cases h
        obtain ⟨shorter, rest', hrest, f'⟩ := ih hmore (skip_append quiet after)
        have := length_skip_le v after
        refine ⟨by simp only [List.length_cons]; omega, rest', ?_, f'⟩
        rw [if_pos digit, hrest]
        rfl
      · cases h

theorem takeBraced_followed {n m : Nat} {taken close : List Char}
    (h : takeBraced v n cs = some (taken, close)) (enough : n ≤ m) :
    close.length ≤ cs.length ∧ (∃ after, close = '\x7d' :: after) ∧
      takeBraced v m (cs ++ ')' :: t) = some (taken, close ++ ')' :: t) := by
  induction n generalizing m cs taken with
  | zero => cases h
  | succ n ih =>
    obtain ⟨m, rfl⟩ : ∃ l, m = l + 1 := ⟨m - 1, by omega⟩
    have shorter := length_skip_le v cs
    simp only [takeBraced] at h ⊢
    split at h
    · cases h
    · rename_i after hskip
      cases h
      rw [hskip] at shorter
      rw [skip_append_cons quiet hskip]
      exact ⟨shorter, ⟨after, rfl⟩, rfl⟩
    · rename_i c after differs hskip
      obtain ⟨⟨more, rest⟩, hmore, h⟩ := Option.map_eq_some_iff.1 h
      dsimp only at h
      cases h
      obtain ⟨shorter', starts, hm⟩ := ih hmore (Nat.le_of_succ_le_succ enough)
      rw [hskip, List.length_cons] at shorter
      refine ⟨by omega, starts, ?_⟩
      rw [skip_append_cons quiet hskip]
      split
      · contradiction
      · rename_i heq
        exact absurd (List.cons.inj heq).1 differs
      · rename_i heq
        cases heq
        rw [hm]
        rfl

/-- Digits up to a brace that closes: what follows cannot spoil them. -/
theorem badHexDigit_append {n m : Nat} {taken close : List Char}
    (closed : takeBraced v n cs = some (taken, close)) (h : badHexDigit v n cs = none)
    (enough : n ≤ m) : badHexDigit v m (cs ++ ')' :: t) = none := by
  induction n generalizing m cs taken close with
  | zero => cases closed
  | succ n ih =>
    obtain ⟨m, rfl⟩ : ∃ l, m = l + 1 := ⟨m - 1, by omega⟩
    simp only [takeBraced] at closed
    simp only [badHexDigit] at h ⊢
    split at closed
    · cases closed
    · rename_i after hskip
      rw [skip_append_cons quiet hskip]
      rfl
    · rename_i c after differs hskip
      obtain ⟨⟨more, rest⟩, hmore, -⟩ := Option.map_eq_some_iff.1 closed
      rw [hskip] at h
      rw [skip_append_cons quiet hskip]
      dsimp only at h ⊢
      rw [if_neg (by simpa using differs)] at h ⊢
      split at h
      · rename_i digit
        rw [if_pos digit]
        exact ih hmore h (Nat.le_of_succ_le_succ enough)
      · cases h

omit quiet in
theorem readScalar_ok {start stop start' stop' digits : List Char} {c : Char}
    (h : readScalar start stop digits = .ok c) : readScalar start' stop' digits = .ok c := by
  unfold readScalar at h ⊢
  split at h
  · rename_i valid
    rw [if_pos valid]
    exact h
  · cases h

theorem readHex_followed {kind : Char} {p : Primitive}
    (h : readHex v kind cs = .ok (p, rest)) :
    rest.length ≤ cs.length ∧
      ∃ rest', readHex v kind (cs ++ ')' :: t) = .ok (p, rest') ∧ Followed v t rest rest' := by
  have shorter := length_skip_le v cs
  unfold readHex at h ⊢
  split at h
  · cases h
  · rename_i inner hskip
    split at h
    · cases h
    · rename_i hbad
      split at h
      · cases h
      · rename_i digits close hbraced
        obtain ⟨shorter', ⟨after, rfl⟩, hm⟩ :=
          takeBraced_followed quiet hbraced (Nat.add_le_add_right (length_append_le inner t) 1)
        have none' := badHexDigit_append quiet hbraced hbad
          (Nat.add_le_add_right (length_append_le inner t) 1)
        dsimp only [List.drop_succ_cons, List.drop_zero] at h
        split at h
        · cases h
        · rename_i some'
          obtain ⟨c, hc, h⟩ := bind_ok h
          cases h
          have : (skip v (('\x7d' :: after).drop 1)).length ≤ after.length := length_skip_le v after
          rw [hskip] at shorter
          simp only [List.length_cons] at shorter shorter'
          refine ⟨by omega, _, ?_, skip_append quiet after⟩
          simp only [skip_append_cons quiet hskip, none', hm, List.cons_append,
            List.drop_succ_cons, List.drop_zero, if_neg some', readScalar_ok hc]
          rfl
  · rename_i ne differs
    obtain ⟨⟨digits, stop⟩, hdigits, h⟩ := bind_ok h
    obtain ⟨c, hc, h⟩ := bind_ok h
    cases h
    obtain ⟨d, after, hskip⟩ := List.exists_cons_of_ne_nil ne
    have f := skip_append quiet cs
    obtain ⟨shorter', rest', hrest, f'⟩ := readHexDigits_followed quiet hdigits f
    refine ⟨Nat.le_trans shorter' shorter, rest', ?_, f'⟩
    have hstart := skip_append_cons quiet hskip
    rw [hstart] at hrest ⊢
    split
    · contradiction
    · rename_i heq
      cases heq
      exact absurd hskip (differs _)
    · simp only [hrest, bind, Except.bind, readScalar_ok hc]

theorem readProperty_followed {negated : Bool} {p : Primitive}
    (h : readProperty v negated cs = .ok (p, rest)) :
    rest.length ≤ cs.length ∧
      ∃ rest', readProperty v negated (cs ++ ')' :: t) = .ok (p, rest') ∧
        Followed v t rest rest' := by
  have shorter := length_skip_le v cs
  unfold readProperty at h ⊢
  split at h
  · cases h
  · rename_i inner hskip
    split at h
    · cases h
    · rename_i name close hbraced
      obtain ⟨shorter', ⟨after, rfl⟩, hm⟩ :=
        takeBraced_followed quiet hbraced (Nat.add_le_add_right (length_append_le inner t) 1)
      rw [hskip] at shorter
      simp only [List.length_cons] at shorter shorter'
      cases h
      refine ⟨?_, after ++ ')' :: t, ?_, .appended after⟩
      · simp only [List.drop_succ_cons, List.drop_zero]
        omega
      · simp only [skip_append_cons quiet hskip, hm, List.cons_append, List.drop_succ_cons,
          List.drop_zero]
  · rename_i c after differs hskip
    have := length_skip_le v after
    rw [hskip] at shorter
    simp only [List.length_cons] at shorter
    split at h
    · cases h
    · rename_i plain
      cases h
      refine ⟨by omega, _, ?_, skip_append quiet after⟩
      rw [skip_append_cons quiet hskip]
      split
      · contradiction
      · rename_i heq
        exact absurd (List.cons.inj heq).1 differs
      · rename_i heq
        cases heq
        rw [if_neg plain]

theorem readBoundary_append {escape : List Char} (escape' : List Char) {a : Anchor}
    (h : readBoundary v escape cs = .ok (a, rest)) :
    rest.length ≤ cs.length ∧
      readBoundary v escape' (cs ++ ')' :: t) = .ok (a, rest ++ ')' :: t) := by
  unfold readBoundary at h ⊢
  split at h
  · rename_i inner
    have shorter := length_skip_le v inner
    split at h
    · cases h
    · rename_i c name hskip
      have hskip' := skip_append_cons quiet hskip
      rw [hskip] at shorter
      simp only [List.length_cons] at shorter
      simp only [List.cons_append, hskip']
      split at h
      · rename_i letter
        rw [if_pos letter]
        split at h
        · rename_i taken after htaken
          obtain ⟨shorter', hm⟩ := takeLike_append quiet htaken (List.cons_ne_nil _ _)
            (Nat.le_refl _) (length_append_le (c :: name) t)
          simp only [List.cons_append] at hm
          rw [hm]
          split at h
          · rename_i b named
            cases h
            simp only [List.length_cons] at shorter' ⊢
            exact ⟨by omega, by simp only [named]⟩
          · cases h
        · cases h
      · rename_i other
        rw [if_neg other]
        cases h
        exact ⟨Nat.le_refl _, rfl⟩
  · rename_i differs
    cases h
    refine ⟨Nat.le_refl _, ?_⟩
    split
    · rename_i inner heq
      cases cs with
      | nil => cases heq
      | cons c after =>
        cases heq
        exact absurd rfl (differs after)
    · rfl

theorem readEscape_followed {escape : List Char} (escape' : List Char) {p : Primitive}
    (h : readEscape v escape cs = .ok (p, rest)) :
    rest.length ≤ cs.length ∧
      ∃ rest', readEscape v escape' (cs ++ ')' :: t) = .ok (p, rest') ∧
        Followed v t rest rest' := by
  cases cs with
  | nil => cases h
  | cons c after =>
    simp only [readEscape, List.cons_append] at h ⊢
    split at h
    · cases h
    · rename_i letter
      rw [if_neg letter]
      split at h
      · rename_i escapable
        cases h
        rw [if_pos escapable]
        exact ⟨by simp, _, rfl, .appended _⟩
      · rename_i kept
        rw [if_neg kept]
        split at h
        case h_1 | h_2 | h_3 =>
          obtain ⟨shorter, hread⟩ := readHex_followed quiet h
          exact ⟨Nat.le_succ_of_le shorter, hread⟩
        case h_4 | h_5 =>
          obtain ⟨shorter, hread⟩ := readProperty_followed quiet h
          exact ⟨Nat.le_succ_of_le shorter, hread⟩
        case h_23 =>
          obtain ⟨⟨a, stop⟩, hstop, h⟩ := map_ok h
          obtain ⟨shorter, hread⟩ := readBoundary_append quiet escape' hstop
          cases h
          refine ⟨Nat.le_succ_of_le shorter, _, ?_, .appended stop⟩
          rw [hread]
          rfl
        case h_24 => cases h
        all_goals
          cases h
          exact ⟨by simp, _, rfl, .appended _⟩

theorem readPrimitive_followed {c : Char} {p : Primitive}
    (h : readPrimitive v c cs = .ok (p, rest)) :
    rest.length ≤ cs.length ∧
      ∃ rest', readPrimitive v c (cs ++ ')' :: t) = .ok (p, rest') ∧ Followed v t rest rest' := by
  unfold readPrimitive at h ⊢
  split at h
  case h_1 => exact readEscape_followed quiet _ h
  all_goals
    cases h
    exact ⟨Nat.le_refl _, _, rfl, .appended _⟩

end EndpointRouting.Regex
