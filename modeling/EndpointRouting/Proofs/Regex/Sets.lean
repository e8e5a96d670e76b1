import EndpointRouting.Proofs.Regex.Followed

/-!
# Reading a bracketed set inside a longer text

A set is read to the bracket that closes it, so that what comes after a text cannot change a set
that was read from the text alone.
-/

namespace EndpointRouting.Regex
open Text

variable {v : Bool} {t cs cs' rest : List Char}

/-! ### Bracketed sets -/

def SetFrame.bare : SetFrame → SetFrame
  | .bracket outer negated _ => .bracket outer.bare negated ⟨0, 0⟩
  | .operand op left => .operand op left.bare

theorem bare_add (items item : CharSet) : (items.add item).bare = items.bare.add item.bare := by
  cases items <;> rfl

theorem bare_apply (op : SetOp) (left right : CharSet) :
    (op.apply left right).bare = op.apply left.bare right.bare := by
  cases op <;> rfl

/-- Sets that differ in positions only stay so when a waiting operator is applied. -/
theorem bare_applyPending (frames : List SetFrame) (right : CharSet) :
    applyPending (frames.map SetFrame.bare) right.bare =
      ((applyPending frames right).1.bare, (applyPending frames right).2.map SetFrame.bare) := by
  cases frames with
  | nil => rfl
  | cons frame frames =>
    cases frame with
    | bracket => rfl
    | operand op left => simp only [List.map_cons, SetFrame.bare, applyPending, bare_apply]

section
variable {items items' : CharSet} {frames frames' : List SetFrame}
variable (hitems : items'.bare = items.bare)
  (hframes : frames'.map SetFrame.bare = frames.map SetFrame.bare)
include hitems hframes

theorem applyPending_congr :
    (applyPending frames' items').1.bare = (applyPending frames items).1.bare ∧
      (applyPending frames' items').2.map SetFrame.bare =
        (applyPending frames items).2.map SetFrame.bare := by
  have h := bare_applyPending frames' items'
  rw [hframes, hitems, bare_applyPending] at h
  exact Prod.mk.inj h.symm

theorem operand_congr (op : SetOp) :
    (SetFrame.operand op (applyPending frames' items').1 ::
      (applyPending frames' items').2).map SetFrame.bare =
    (SetFrame.operand op (applyPending frames items).1 ::
      (applyPending frames items).2).map SetFrame.bare := by
  obtain ⟨hset, hrest⟩ := applyPending_congr hitems hframes
  simp only [List.map_cons, SetFrame.bare, hset, hrest]

/-- The bracket that closes a set closes it in both readings. -/
theorem applyPending_bracket {body outer : CharSet} {negated : Bool} {span : Span}
    {left : List SetFrame}
    (h : applyPending frames items = (body, .bracket outer negated span :: left)) :
    ∃ body' outer' span' left',
      applyPending frames' items' = (body', .bracket outer' negated span' :: left') ∧
      body'.bare = body.bare ∧ outer'.bare = outer.bare ∧
      left'.map SetFrame.bare = left.map SetFrame.bare := by
  obtain ⟨hbody, hrest⟩ := applyPending_congr hitems hframes
  rw [h] at hbody hrest
  obtain ⟨frame, left', hremaining, hframe, hleft⟩ := List.map_eq_cons_iff.1 hrest
  cases frame with
  | operand => cases hframe
  | bracket outer' negated' span' =>
    simp only [SetFrame.bare, SetFrame.bracket.injEq] at hframe
    obtain ⟨houter, rfl, -⟩ := hframe
    exact ⟨_, outer', span', left', Prod.ext rfl hremaining, hbody, houter, hleft⟩

end

theorem readSetLoop_nil {n : Nat} {items : CharSet} {frames : List SetFrame} {s : CharSet} :
    readSetLoop v n items frames [] ≠ .ok (s, rest) := by
  intro h
  cases n with
  | zero => cases h
  | succ n => cases v <;> cases h

/-! ### Named classes -/

/-- No class has a parenthesis in its name. -/
theorem ofName?_parenthesis {name : List Char} (h : ')' ∈ name) :
    AsciiClass.ofName? name = none := by
  have differs (known : List Char) (clean : ')' ∉ known) : String.ofList name ≠ .ofList known := by
    intro heq
    rw [String.ofList_inj.1 heq] at h
    exact clean h
  unfold AsciiClass.ofName?
  split
  case h_15 => rfl
  all_goals
    rename_i heq
    exact absurd heq (differs _ (by decide))

theorem readClassName_append (negated : Bool) (t cs : List Char) :
    readClassName negated (cs ++ ')' :: t) =
      (readClassName negated cs).map fun (named, rest) => (named, rest ++ ')' :: t) := by
  have parts := List.takeWhile_append_dropWhile (p := (· != ':')) (l := cs)
  unfold readClassName
  rw [List.dropWhile_append, List.takeWhile_append]
  cases hdrop : cs.dropWhile (· != ':') with
  | nil =>
    rw [hdrop, List.append_nil] at parts
    rw [parts, if_pos rfl, if_pos List.isEmpty_nil, ofName?_parenthesis (by simp)]
    split <;> rfl
  | cons colon after =>
    have stops : (cs.takeWhile (· != ':')).length ≠ cs.length := by
      have := congrArg List.length parts
      rw [hdrop, List.length_append, List.length_cons] at this
      omega
    rw [if_neg stops, if_neg (by simp)]
    split
    · rename_i left heq
      obtain _ | ⟨bracket, after⟩ := after
      · cases heq
      · cases heq
        simp only [Option.map_map, Function.comp_def]
        rfl
    · rename_i differs
      split
      · rename_i left heq
        cases heq
        exact absurd rfl (differs _)
      · rfl

theorem readAsciiClass?_append (t cs : List Char) :
    readAsciiClass? (cs ++ ')' :: t) =
      (readAsciiClass? cs).map fun (named, rest) => (named, rest ++ ')' :: t) := by
  fun_cases readAsciiClass? cs with
  | case1 rest => exact readClassName_append true t rest
  | case2 rest plain =>
    rw [← readClassName_append]
    cases rest with
    | nil => rfl
    | cons d rest =>
      simp only [List.cons_append]
      unfold readAsciiClass?
      split
      · rename_i heq
        cases heq
        exact absurd rfl (plain _)
      · rename_i heq
        cases heq
        rfl
      · rename_i named
        exact absurd rfl (named _)
  | case3 _ _ colon =>
    cases cs with
    | nil => rfl
    | cons c rest =>
      have differs : c ≠ ':' := by
        rintro rfl
        exact colon rest rfl
      simp only [List.cons_append]
      unfold readAsciiClass?
      split
      · rename_i heq
        exact absurd (List.cons.inj heq).1 differs
      · rename_i heq
        exact absurd (List.cons.inj heq).1 differs
      · rfl

theorem length_readAsciiClass? {named : CharSet} (h : readAsciiClass? cs = some (named, rest)) :
    rest.length ≤ cs.length := by
  have shorter {negated : Bool} {cs : List Char} (h : readClassName negated cs = some (named, rest)) :
      rest.length ≤ cs.length := by
    unfold readClassName at h
    split at h
    · rename_i after hdrop
      obtain ⟨kind, -, h⟩ := Option.map_eq_some_iff.1 h
      cases h
      have ends := (List.dropWhile_suffix (· != ':') (l := cs)).length_le
      rw [hdrop] at ends
      simp only [List.length_cons] at ends
      omega
    · cases h
  unfold readAsciiClass? at h
  split at h
  · have := shorter h
    simp only [List.length_cons]
    omega
  · have := shorter h
    simp only [List.length_cons]
    omega
  · cases h

/-! ### Bracketed sets, read -/

variable (quiet : v = true → '\n' ∉ t)
include quiet

theorem readHyphens_append {n m : Nat} {items found : CharSet}
    (h : readHyphens v n items cs = (found, rest)) (ne : rest ≠ []) (enough : cs.length ≤ n)
    (more : n ≤ m) :
    rest.length ≤ cs.length ∧
      readHyphens v m items (cs ++ ')' :: t) = (found, rest ++ ')' :: t) := by
  induction n generalizing m cs items with
  | zero =>
    cases h
    exact absurd (List.length_eq_zero_iff.1 (Nat.le_zero.1 enough)) ne
  | succ n ih =>
    obtain ⟨m, rfl⟩ : ∃ l, m = l + 1 := ⟨m - 1, by omega⟩
    cases cs with
    | nil =>
      cases h
      exact absurd rfl ne
    | cons c after =>
      simp only [readHyphens, List.cons_append] at h ⊢
      split at h
      · rename_i after heq
        cases heq
        have shorter := length_skip_le v after
        have reached : skip v after ≠ [] := by
          intro gone
          rw [gone] at h
          cases n <;> cases h <;> exact ne rfl
        simp only [List.length_cons] at enough
        obtain ⟨shorter', hm⟩ := ih h (by omega) (Nat.le_of_succ_le_succ more)
        refine ⟨by simp only [List.length_cons]; omega, ?_⟩
        rw [← hm, ← (skip_append quiet after).eq_append reached]
        rfl
      · rename_i differs
        cases h
        refine ⟨Nat.le_refl _, ?_⟩
        split
        · rename_i heq
          cases heq
          exact absurd rfl (differs after)
        · rfl

theorem readNegation_append {negated : Bool} {inner : List Char}
    (h : readNegation v cs = (negated, inner)) (ne : inner ≠ []) :
    inner.length ≤ cs.length ∧
      readNegation v (cs ++ ')' :: t) = (negated, inner ++ ')' :: t) := by
  unfold readNegation at h
  split at h
  · rename_i after
    cases h
    refine ⟨Nat.le_succ_of_le (length_skip_le v after), ?_⟩
    rw [← (skip_append quiet after).eq_append ne]
    rfl
  · rename_i plain
    cases h
    obtain ⟨c, after, rfl⟩ := List.exists_cons_of_ne_nil ne
    refine ⟨Nat.le_refl _, ?_⟩
    unfold readNegation
    split
    · rename_i heq
      cases heq
      exact absurd rfl (plain after)
    · rfl

theorem openItems_append {start : List Char} (start' : List Char) {items : CharSet}
    (h : openItems v start cs = .ok (items, rest)) :
    rest ≠ [] ∧ rest.length ≤ cs.length ∧
      openItems v start' (cs ++ ')' :: t) = .ok (items, rest ++ ')' :: t) := by
  unfold openItems at h ⊢
  cases hhyphens : readHyphens v cs.length .nothing cs with
  | mk found left =>
    rw [hhyphens] at h
    have left_ne : left ≠ [] := by
      rintro rfl
      cases h
    obtain ⟨shorter, hm⟩ := readHyphens_append quiet hhyphens left_ne (Nat.le_refl _)
      (length_append_le cs t)
    rw [hm]
    split at h
    · cases h
    · rename_i after heq
      cases heq
      have shorter₁ := length_skip_le v after
      simp only [List.length_cons] at shorter
      split at h
      · cases h
      · rename_i open'
        cases h
        have ne : skip v after ≠ [] := fun gone => open' gone
        obtain ⟨c, inner, hskip⟩ := List.exists_cons_of_ne_nil ne
        refine ⟨ne, by omega, ?_⟩
        simp only [List.cons_append, skip_append_cons quiet hskip, hskip]
    · rename_i _ differs heq
      cases heq
      cases h
      obtain ⟨c, left, rfl⟩ := List.exists_cons_of_ne_nil left_ne
      refine ⟨left_ne, shorter, ?_⟩
      split
      · rename_i heq
        cases heq
      · rename_i heq
        cases heq
        exact absurd rfl (differs left rfl)
      · rename_i heq
        cases heq
        rfl

theorem openSet_append {start : List Char} (start' : List Char) {negated : Bool}
    {items : CharSet} {span : Span} (h : openSet v start cs = .ok ((negated, items, span), rest)) :
    rest ≠ [] ∧ rest.length ≤ cs.length ∧
      ∃ span', openSet v start' (cs ++ ')' :: t) =
        .ok ((negated, items, span'), rest ++ ')' :: t) := by
  have shorter := length_skip_le v cs
  unfold openSet at h ⊢
  cases hnegation : readNegation v (skip v cs) with
  | mk negated' inner =>
    rw [hnegation] at h
    dsimp only at h
    split at h
    · cases h
    · rename_i some'
      have ne : inner ≠ [] := by
        rintro rfl
        exact some' rfl
      obtain ⟨⟨items', left⟩, hitems, h⟩ := bind_ok h
      dsimp only at h
      cases h
      have reached : skip v cs ≠ [] := by
        intro gone
        rw [gone] at hnegation
        cases hnegation
        exact ne rfl
      obtain ⟨shorter₁, hnegation'⟩ := readNegation_append quiet hnegation ne
      obtain ⟨rest_ne, shorter₂, hitems'⟩ := openItems_append quiet start' hitems
      refine ⟨rest_ne, by omega, .between start' (rest ++ ')' :: t), ?_⟩
      rw [(skip_append quiet cs).eq_append reached, hnegation']
      dsimp only
      rw [if_neg (by simp), hitems']
      rfl

theorem readSetItem_followed {c : Char} {p : Primitive}
    (h : readSetItem v c cs = .ok (p, rest)) :
    rest.length ≤ cs.length ∧
      ∃ rest', readSetItem v c (cs ++ ')' :: t) = .ok (p, rest') ∧ Followed v t rest rest' := by
  unfold readSetItem at h ⊢
  split at h
  · rename_i escape
    rw [if_pos escape]
    exact readEscape_followed quiet _ h
  · rename_i plain
    cases h
    rw [if_neg plain]
    exact ⟨Nat.le_refl _, _, rfl, .appended _⟩

omit quiet in
theorem toSet_ok {start stop : List Char} (start' stop' : List Char) {p : Primitive} {s : CharSet}
    (h : p.toSet start stop = .ok s) : ∃ s', p.toSet start' stop' = .ok s' ∧ s'.bare = s.bare := by
  cases p with
  | char | byte | shorthand | property =>
    cases h
    exact ⟨_, rfl, rfl⟩
  | dot | anchor => cases h

omit quiet in
theorem toBound_ok {start stop : List Char} (start' stop' : List Char) {p : Primitive} {c : Char}
    (h : p.toBound start stop = .ok c) : p.toBound start' stop' = .ok c := by
  cases p with
  | char | byte => exact h
  | _ => cases h

theorem readSetRange_followed {frames : List SetFrame} (frames' : List SetFrame) {c : Char}
    {s : CharSet} (h : readSetRange v frames c cs = .ok (s, rest)) :
    rest.length ≤ cs.length ∧
      ∃ s' rest', readSetRange v frames' c (cs ++ ')' :: t) = .ok (s', rest') ∧
        s'.bare = s.bare ∧ Followed v t rest rest' := by
  unfold readSetRange at h ⊢
  obtain ⟨⟨first, stop⟩, hfirst, h⟩ := bind_ok h
  obtain ⟨shorter, stop', hfirst', f⟩ := readSetItem_followed quiet hfirst
  have shorter₁ := length_skip_le v stop
  have f₁ := f.skip quiet
  simp only [hfirst', bind, Except.bind]
  dsimp only at h
  split at h
  · cases h
  · rename_i after hstop
    have shorter₂ := length_skip_le v after
    rw [hstop] at f₁ shorter₁
    simp only [List.length_cons] at shorter₁
    simp only [f₁.eq_cons]
    split at h
    case h_1 | h_2 =>
      rename_i x hafter
      obtain ⟨s₀, hset, h⟩ := bind_ok h
      cases h
      obtain ⟨s', hset', same⟩ := toSet_ok (c :: (cs ++ ')' :: t)) stop' hset
      rw [hstop]
      refine ⟨by simp only [List.length_cons]; omega, s', _, ?_, same, .appended _⟩
      simp only [skip_append_cons quiet hafter, hset']
      rfl
    case h_3 => cases h
    case h_4 =>
      rename_i d after₂ not_close not_hyphen hafter
      obtain ⟨⟨last, stop₂⟩, hlast, h⟩ := bind_ok h
      obtain ⟨shorter₃, stop₂', hlast', f₂⟩ := readSetItem_followed quiet hlast
      obtain ⟨lo, hlo, h⟩ := bind_ok h
      obtain ⟨hi, hhi, h⟩ := bind_ok h
      dsimp only at h
      split at h
      · rename_i ordered
        cases h
        rw [hafter] at shorter₂
        simp only [List.length_cons] at shorter₂
        refine ⟨by omega, .range lo hi, stop₂', ?_, rfl, f₂⟩
        simp only [skip_append_cons quiet hafter, hlast', toBound_ok _ _ hlo, toBound_ok _ _ hhi,
          if_pos ordered]
      · cases h
  · rename_i ne differs
    obtain ⟨s₀, hset, h⟩ := bind_ok h
    cases h
    obtain ⟨s', hset', same⟩ := toSet_ok (c :: (cs ++ ')' :: t)) stop' hset
    obtain ⟨d, left, hstop⟩ := List.exists_cons_of_ne_nil ne
    rw [hstop] at f₁
    refine ⟨by omega, s', skip v stop', ?_, same, by rw [hstop]; exact f₁⟩
    rw [f₁.eq_cons]
    split
    · contradiction
    · rename_i heq
      cases heq
      exact absurd hstop (differs _)
    · simp only [hset']

/-- A set is read to its end, however much follows; both readings differ in positions only. -/
theorem readSetLoop_append {n m : Nat} {items items' : CharSet} {frames frames' : List SetFrame}
    {s : CharSet} (h : readSetLoop v n items frames cs = .ok (s, rest)) (more : n ≤ m)
    (hitems : items'.bare = items.bare)
    (hframes : frames'.map SetFrame.bare = frames.map SetFrame.bare) :
    rest.length ≤ cs.length ∧
      ∃ s', readSetLoop v m items' frames' (cs ++ ')' :: t) = .ok (s', rest ++ ')' :: t) ∧
        s'.bare = s.bare := by
  induction n generalizing m items items' frames frames' cs with
  | zero => cases h
  | succ n ih =>
    obtain ⟨m, rfl⟩ : ∃ l, m = l + 1 := ⟨m - 1, by omega⟩
    have fewer := Nat.le_of_succ_le_succ more
    have shorter := length_skip_le v cs
    simp only [readSetLoop] at h ⊢
    split at h
    · cases h
    · rename_i after hskip
      rw [hskip] at shorter
      simp only [List.length_cons] at shorter
      simp only [skip_append_cons quiet hskip, readAsciiClass?_append]
      split at h
      · rename_i named left hclass
        simp only [hclass, Option.map_some]
        have := length_readAsciiClass? hclass
        have hadd : (items'.add named).bare = (items.add named).bare := by
          rw [bare_add, bare_add, hitems]
        obtain ⟨shorter₁, hloop⟩ := ih h fewer hadd hframes
        exact ⟨by omega, hloop⟩
      · rename_i hclass
        simp only [hclass, Option.map_none]
        obtain ⟨⟨⟨negated, inner, span⟩, left⟩, hopen, h⟩ := bind_ok h
        dsimp only at h
        obtain ⟨-, shorter₁, span', hopen'⟩ := openSet_append quiet ('[' :: (after ++ ')' :: t)) hopen
        have hopened : (SetFrame.bracket items' negated span' :: frames').map SetFrame.bare =
            (SetFrame.bracket items negated span :: frames).map SetFrame.bare := by
          simp only [List.map_cons, SetFrame.bare, hitems, hframes]
        obtain ⟨shorter₂, s', hloop, same⟩ := ih h fewer rfl hopened
        refine ⟨by omega, s', ?_, same⟩
        rw [hopen']
        exact hloop
    · rename_i after hskip
      rw [hskip] at shorter
      simp only [List.length_cons] at shorter
      simp only [skip_append_cons quiet hskip]
      split at h
      · rename_i body outer negated span left happlied
        obtain ⟨body', outer', span', left', happlied', hbody, houter, hleft⟩ :=
          applyPending_bracket hitems hframes happlied
        have hclosed : (CharSet.bracket negated body').bare = (CharSet.bracket negated body).bare := by
          simp only [CharSet.bare, hbody]
        have hempty : left'.isEmpty = left.isEmpty := by
          have := congrArg List.isEmpty hleft
          simpa only [List.isEmpty_map] using this
        simp only [happlied', hempty]
        split at h
        · rename_i last
          cases h
          rw [if_pos last]
          exact ⟨by omega, _, rfl, hclosed⟩
        · rename_i not_last
          have hadd : (outer'.add (.bracket negated body')).bare =
              (outer.add (.bracket negated body)).bare := by
            rw [bare_add, bare_add, houter, hclosed]
          rw [if_neg not_last]
          obtain ⟨shorter₁, hloop⟩ := ih h fewer hadd hleft
          exact ⟨by omega, hloop⟩
      · cases h
    case h_4 | h_5 | h_6 =>
      rename_i after hskip
      rw [hskip] at shorter
      simp only [List.length_cons] at shorter
      simp only [skip_append_cons quiet hskip]
      obtain ⟨shorter₁, hloop⟩ := ih h fewer rfl (operand_congr hitems hframes _)
      exact ⟨by omega, hloop⟩
    · rename_i c after not_open not_close not_inter not_diff not_symm hskip
      rw [hskip] at shorter
      simp only [List.length_cons] at shorter
      obtain ⟨⟨item, left⟩, hrange, h⟩ := bind_ok h
      dsimp only at h
      obtain ⟨shorter₁, item', left', hrange', same, f⟩ :=
        readSetRange_followed quiet frames' hrange
      have left_ne : left ≠ [] := by
        rintro rfl
        exact readSetLoop_nil h
      have hadd : (items'.add item').bare = (items.add item).bare := by
        rw [bare_add, bare_add, hitems, same]
      obtain ⟨shorter₂, s', hloop, same'⟩ := ih h fewer hadd hframes
      refine ⟨by omega, s', ?_, same'⟩
      rw [f.eq_append left_ne] at hrange'
      simp only [skip_append_cons quiet hskip]
      split
      · contradiction
      · rename_i heq
        exact absurd (List.cons.inj heq).1 not_open
      · rename_i heq
        exact absurd (List.cons.inj heq).1 not_close
      -- an operator is two characters, so a parenthesis cannot complete one
      case h_4 | h_5 | h_6 =>
        rename_i heq
        cases after with
        | nil => cases heq
        | cons d after =>
          cases heq
          first
          | exact absurd rfl (not_inter after rfl)
          | exact absurd rfl (not_diff after rfl)
          | exact absurd rfl (not_symm after rfl)
      · rename_i heq
        cases heq
        simp only [hrange', bind, Except.bind]
        exact hloop

theorem readSet_append {start : List Char} (start' : List Char) {s : CharSet}
    (h : readSet v start cs = .ok (s, rest)) :
    rest.length ≤ cs.length ∧
      ∃ s', readSet v start' (cs ++ ')' :: t) = .ok (s', rest ++ ')' :: t) ∧ s'.bare = s.bare := by
  obtain ⟨⟨⟨negated, items, span⟩, left⟩, hopen, h⟩ := bind_ok h
  dsimp only at h
  obtain ⟨-, shorter, span', hopen'⟩ := openSet_append quiet start' hopen
  have more := Nat.add_le_add_right (length_append_le left t) 1
  have hframes : [SetFrame.bracket .nothing negated span'].map SetFrame.bare =
      [SetFrame.bracket .nothing negated span].map SetFrame.bare := rfl
  obtain ⟨shorter', s', hloop, same⟩ := readSetLoop_append quiet h more rfl hframes
  refine ⟨by omega, s', ?_, same⟩
  simp only [readSet, hopen', bind, Except.bind]
  exact hloop

end EndpointRouting.Regex
