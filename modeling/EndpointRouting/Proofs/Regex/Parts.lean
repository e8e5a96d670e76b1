import EndpointRouting.Proofs.Regex.Sets

/-!
# Reading counts, names and flags inside a longer text

Each of them is read to a character that ends it, as a set is.
-/

namespace EndpointRouting.Regex
open Text

variable {v : Bool} {t cs cs' rest : List Char}
variable (quiet : v = true → '\n' ∉ t)
include quiet

/-! ### Counts -/

theorem dropBlanks_append {n m : Nat} (ne : dropBlanks v n cs ≠ []) (enough : cs.length ≤ n)
    (more : n ≤ m) :
    (dropBlanks v n cs).length ≤ cs.length ∧
      dropBlanks v m (cs ++ ')' :: t) = dropBlanks v n cs ++ ')' :: t := by
  induction n generalizing m cs with
  | zero => exact absurd (List.length_eq_zero_iff.1 (Nat.le_zero.1 enough)) ne
  | succ n ih =>
    obtain ⟨m, rfl⟩ : ∃ l, m = l + 1 := ⟨m - 1, by omega⟩
    cases cs with
    | nil => exact absurd rfl ne
    | cons c after =>
      simp only [dropBlanks, List.cons_append] at ne ⊢
      split at ne
      · rename_i blank
        have shorter := length_skip_le v after
        simp only [List.length_cons] at enough
        have reached : skip v after ≠ [] := by
          intro gone
          rw [gone] at ne
          cases n <;> exact ne rfl
        have f := (skip_append quiet after).eq_append reached
        obtain ⟨shorter', hm⟩ := ih ne (by omega) (Nat.le_of_succ_le_succ more)
        rw [if_pos blank, if_pos blank, f, hm]
        exact ⟨by simp only [List.length_cons]; omega, rfl⟩
      · rename_i other
        rw [if_neg other, if_neg other]
        exact ⟨Nat.le_refl _, rfl⟩

theorem readDecimal_append {n : Nat} (h : readDecimal v cs = (.ok n, rest)) (ne : rest ≠ []) :
    rest.length ≤ cs.length ∧
      readDecimal v (cs ++ ')' :: t) = (.ok n, rest ++ ')' :: t) := by
  have shorter := (List.dropWhile_suffix isBlankChar (l := cs)).length_le
  unfold readDecimal at h ⊢
  cases htake : takeLike Char.isDigit v (cs.dropWhile isBlankChar).length (cs.dropWhile isBlankChar) with
  | mk ds stop =>
    have start_ne : cs.dropWhile isBlankChar ≠ [] := by
      intro gone
      rw [gone] at htake
      cases htake
      rw [gone] at h
      cases h
    have hdrop : (cs ++ ')' :: t).dropWhile isBlankChar =
        cs.dropWhile isBlankChar ++ ')' :: t := by
      rw [List.dropWhile_append, if_neg (by rwa [List.isEmpty_iff])]
    simp only [htake] at h
    have hrest : dropBlanks v stop.length stop = rest := by
      split at h
      · cases h
      · split at h
        · exact (Prod.mk.inj h).2
        · cases h
    have stop_ne : stop ≠ [] := by
      rintro rfl
      exact ne hrest.symm
    obtain ⟨shorter₁, htake'⟩ := takeLike_append quiet htake stop_ne (Nat.le_refl _)
      (length_append_le _ t)
    obtain ⟨shorter₂, hblanks⟩ := dropBlanks_append quiet (by rwa [hrest]) (Nat.le_refl _)
      (length_append_le stop t)
    rw [hrest] at shorter₂ hblanks
    refine ⟨by omega, ?_⟩
    simp only [hdrop, htake', hblanks]
    split at h
    · cases h
    · rename_i some'
      rw [if_neg some']
      split at h
      · rename_i small
        cases h
        rw [if_pos small]
      · cases h

omit quiet in
theorem readLazy_followed (f : Followed v t cs cs') :
    (readLazy cs).2.length ≤ cs.length ∧ (readLazy cs').1 = (readLazy cs).1 ∧
      Followed v t (readLazy cs).2 (readLazy cs').2 := by
  cases f with
  | swallowed on => exact ⟨Nat.le_refl _, rfl, .swallowed on⟩
  | appended =>
    cases cs with
    | nil => exact ⟨Nat.le_refl _, rfl, .appended []⟩
    | cons c after =>
      by_cases mark : c = '?'
      · subst mark
        exact ⟨by simp [readLazy], rfl, .appended after⟩
      · have kept (ds : List Char) : readLazy (c :: ds) = (true, c :: ds) := by
          simp [readLazy, mark]
        rw [List.cons_append, kept, kept]
        exact ⟨Nat.le_refl _, rfl, .appended (c :: after)⟩

theorem readBounds_append {start : List Char} (start' : List Char) {count : Count}
    (h : readBounds v start cs = .ok (count, rest)) (ne : rest ≠ []) :
    rest.length ≤ cs.length ∧
      readBounds v start' (cs ++ ')' :: t) = .ok (count, rest ++ ')' :: t) := by
  have shorter := length_skip_le v cs
  unfold readBounds at h ⊢
  dsimp only at h ⊢
  cases hskip : skip v cs with
  | nil =>
    rw [hskip] at h
    cases h
  | cons c inner =>
    rw [hskip] at h shorter
    rw [skip_append_cons quiet hskip]
    dsimp only at h ⊢
    cases hdecimal : readDecimal v (c :: inner) with
    | mk least left =>
      rw [hdecimal] at h
      dsimp only at h
      split at h
      · cases h
      · rename_i after
        have shorter₁ := length_skip_le v after
        split at h
        · cases h
        · rename_i close hclose
          obtain ⟨n, rfl, h⟩ := bind_ok h
          cases h
          obtain ⟨shorter₂, hdecimal'⟩ := readDecimal_append quiet hdecimal (List.cons_ne_nil _ _)
          rw [List.cons_append] at hdecimal'
          rw [hclose] at shorter₁
          simp only [List.length_cons] at shorter shorter₁ shorter₂ ⊢
          refine ⟨by omega, ?_⟩
          simp only [hdecimal', List.cons_append, skip_append_cons quiet hclose]
          rfl
        · rename_i after_ne differs
          obtain ⟨n, rfl, h₁⟩ := bind_ok h
          obtain ⟨shorter₂, hdecimal'⟩ := readDecimal_append quiet hdecimal (List.cons_ne_nil _ _)
          obtain ⟨d, after', hafter⟩ := List.exists_cons_of_ne_nil fun gone => after_ne gone
          have not_close : d ≠ '\x7d' := by
            rintro rfl
            exact differs after' hafter
          rw [hafter] at h₁ shorter₁
          cases hdecimal₁ : readDecimal v (d :: after') with
          | mk most left =>
            rw [hdecimal₁] at h₁
            obtain ⟨k, rfl, h₂⟩ := bind_ok h₁
            simp only [Except.ok.injEq, Prod.mk.injEq] at h₂
            obtain ⟨rfl, rfl⟩ := h₂
            obtain ⟨shorter₃, hdecimal₁'⟩ := readDecimal_append quiet hdecimal₁ ne
            rw [List.cons_append] at hdecimal' hdecimal₁'
            simp only [List.length_cons] at shorter shorter₁ shorter₂ shorter₃
            refine ⟨by omega, ?_⟩
            simp only [hdecimal', List.cons_append, skip_append_cons quiet hafter]
            split
            · contradiction
            · rename_i heq
              exact absurd (List.cons.inj heq).1 not_close
            · rw [hdecimal₁']
              rfl
      · rename_i left_ne differs
        obtain ⟨n, rfl, h⟩ := bind_ok h
        cases h
        obtain ⟨shorter₁, hdecimal'⟩ := readDecimal_append quiet hdecimal ne
        rw [List.cons_append] at hdecimal'
        refine ⟨by omega, ?_⟩
        obtain ⟨d, after, rfl⟩ := List.exists_cons_of_ne_nil ne
        have not_comma : d ≠ ',' := by
          rintro rfl
          exact differs after rfl
        simp only [hdecimal', List.cons_append]
        split
        · contradiction
        · rename_i heq
          exact absurd (List.cons.inj heq).1 not_comma
        · rfl

theorem readCount_followed {start : List Char} (start' : List Char) {count : Count}
    {greedy : Bool} (h : readCount v start cs = .ok ((count, greedy), rest)) :
    rest.length ≤ cs.length ∧
      ∃ rest', readCount v start' (cs ++ ')' :: t) = .ok ((count, greedy), rest') ∧
        Followed v t rest rest' := by
  obtain ⟨⟨count₁, stop⟩, hbounds, h⟩ := bind_ok h
  dsimp only at h
  split at h
  · rename_i after
    obtain ⟨shorter, hbounds'⟩ := readBounds_append quiet start' hbounds (List.cons_ne_nil _ _)
    have shorter₁ := length_skip_le v after
    obtain ⟨shorter₂, hgreedy, f⟩ := readLazy_followed (skip_append quiet after)
    split at h
    · cases h
    · rename_i ordered
      cases h
      simp only [List.length_cons] at shorter
      refine ⟨by omega, _, ?_, f⟩
      simp only [readCount, hbounds', bind, Except.bind, List.cons_append, if_neg ordered, hgreedy]
  · cases h

/-! ### Names and flags -/

omit quiet in
theorem readName_append {first : Bool} {name : List Char} (t : List Char)
    (h : readName first cs = .ok (name, rest)) :
    rest.length ≤ cs.length ∧ (∃ after, rest = '>' :: after) ∧
      readName first (cs ++ ')' :: t) = .ok (name, rest ++ ')' :: t) := by
  induction cs generalizing first name with
  | nil => cases h
  | cons c after ih =>
    simp only [readName, List.cons_append] at h ⊢
    split at h
    · rename_i ends
      cases h
      rw [if_pos ends]
      exact ⟨Nat.le_refl _, ⟨after, by rw [eq_of_beq ends]⟩, rfl⟩
    · rename_i goes_on
      rw [if_neg goes_on]
      split at h
      · rename_i allowed
        obtain ⟨⟨more, left⟩, hmore, h⟩ := bind_ok h
        cases h
        obtain ⟨shorter, ends, hread⟩ := ih hmore
        rw [if_pos allowed, hread]
        exact ⟨Nat.le_succ_of_le shorter, ends, rfl⟩
      · cases h

omit quiet in
theorem find_flag_none {items items' : List FlagItem} {flag : Option Flag}
    (same : items'.map (·.1) = items.map (·.1)) (h : items.find? (·.1 == flag) = none) :
    items'.find? (·.1 == flag) = none := by
  rw [List.find?_eq_none] at h ⊢
  intro item mem
  have known : item.1 ∈ items.map (·.1) := same ▸ List.mem_map_of_mem mem
  obtain ⟨earlier, hmem, heq⟩ := List.mem_map.1 known
  rw [← heq]
  exact h earlier hmem

omit quiet in
/-- Flags are read alike, but for where they stand. -/
theorem readFlags_append {items items' found : List FlagItem} (t : List Char)
    (h : readFlags items cs = .ok (found, rest)) (same : items'.map (·.1) = items.map (·.1)) :
    rest.length ≤ cs.length ∧ rest ≠ [] ∧
      ∃ found', readFlags items' (cs ++ ')' :: t) = .ok (found', rest ++ ')' :: t) ∧
        found'.map (·.1) = found.map (·.1) := by
  induction cs generalizing items items' with
  | nil => cases h
  | cons c after ih =>
    have grows (flag : Option Flag) (span span' : Span) :
        ((flag, span') :: items').map (·.1) = ((flag, span) :: items).map (·.1) := by
      simp only [List.map_cons, same]
    simp only [readFlags, List.cons_append] at h ⊢
    split at h
    · rename_i ends
      rw [if_pos ends]
      split at h
      · cases h
      · rename_i dangles
        cases h
        refine ⟨Nat.le_refl _, List.cons_ne_nil c after, items', ?_, same⟩
        split
        · rename_i span more
          obtain ⟨⟨flag, span'⟩, items₁, rfl, hitem, -⟩ := List.map_eq_cons_iff.1 same.symm
          cases hitem
          exact (dangles span' items₁ rfl).elim
        · rfl
    · rename_i goes_on
      rw [if_neg goes_on]
      split at h
      · rename_i negation
        rw [if_pos negation]
        split at h
        · cases h
        · rename_i fresh
          rw [find_flag_none same fresh]
          obtain ⟨shorter, ends, hread⟩ := ih h (grows none _ _)
          exact ⟨Nat.le_succ_of_le shorter, ends, hread⟩
      · rename_i positive
        rw [if_neg positive]
        split at h
        · cases h
        · rename_i f known
          split at h
          · cases h
          · rename_i fresh
            simp only [find_flag_none same fresh]
            obtain ⟨shorter, ends, hread⟩ := ih h (grows (some f) _ _)
            exact ⟨Nat.le_succ_of_le shorter, ends, hread⟩

omit quiet in
theorem settingsOf_congr {items items' : List FlagItem} (value : Bool)
    (same : items'.map (·.1) = items.map (·.1)) :
    settingsOf value items' = settingsOf value items := by
  induction items generalizing items' value with
  | nil =>
    rw [List.map_eq_nil_iff.1 same]
  | cons item items ih =>
    obtain ⟨item', items', rfl, hitem, hitems⟩ := List.map_eq_cons_iff.1 same
    obtain ⟨flag, span⟩ := item
    obtain ⟨flag', span'⟩ := item'
    cases hitem
    cases flag with
    | none => exact ih false hitems
    | some f => exact congrArg ((f, value) :: ·) (ih value hitems)

end EndpointRouting.Regex
