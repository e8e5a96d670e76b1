import EndpointRouting.Text.Words

/-!
# The flat case of raw names

The mark of a raw name starts no word of its own, so it stays in front of the flat case of the
name.
-/

namespace EndpointRouting.Text

/-! ### Lower case behind the mark -/

/-- `#` ends the search for a cased character. -/
theorem meetsCased_mark (before more : List Char) :
    meetsCased (before ++ '#' :: more) = meetsCased before := by
  have ignorable : isCaseIgnorable '#' = false := by decide +kernel
  have uncased : isCased '#' = false := by decide +kernel
  induction before with
  | nil => simp [meetsCased, ignorable, uncased]
  | cons c rest ih => rw [List.cons_append, meetsCased, meetsCased, ih]

theorem lowerAfter_mark (before more cs : List Char) :
    lowerAfter (before ++ '#' :: more) cs = lowerAfter before cs := by
  induction cs generalizing before with
  | nil => rfl
  | cons c rest ih => rw [lowerAfter, lowerAfter, meetsCased_mark, ← List.cons_append, ih]

theorem lowerChars_mark (cs : List Char) :
    lowerChars ('#' :: cs) = '#' :: lowerChars cs ∧
      lowerChars ('r' :: '#' :: cs) = 'r' :: '#' :: lowerChars cs := by
  have behind : lowerAfter ['#'] cs = lowerChars cs := lowerAfter_mark [] [] cs
  have farther : lowerAfter ['#', 'r'] cs = lowerChars cs := lowerAfter_mark [] ['r'] cs
  exact ⟨congrArg ('#' :: ·) behind, congrArg ('r' :: '#' :: ·) farther⟩

/-! ### Clusters and words behind the mark -/

theorem clusters_cons (c : Char) (rest : List Char) :
    ∃ more others, clusters (c :: rest) = (c :: more) :: others := by
  unfold clusters
  split
  · split <;> exact ⟨_, _, rfl⟩
  · exact ⟨_, _, rfl⟩

/-- A character is a cluster by itself, or it takes on the extending characters behind it. -/
theorem clusters_cases (a : Char) (cs : List Char) :
    clusters (a :: cs) = [a] :: clusters cs ∨
      ∃ c more others, isExtending c = true ∧ clusters cs = (c :: more) :: others ∧
        clusters (a :: cs) = (a :: c :: more) :: others := by
  cases cs with
  | nil => exact .inl rfl
  | cons c rest =>
    obtain ⟨more, others, cluster⟩ := clusters_cons c rest
    rw [clusters, cluster]
    cases extending : isExtending c with
    | true => exact .inr ⟨c, more, others, extending, rfl, by simp [extending]⟩
    | false => exact .inl (by simp [extending])

theorem splitWords_ne_nil (gs : List Cluster) : splitWords gs ≠ [] := by
  cases gs with
  | nil => simp [splitWords]
  | cons g rest =>
    unfold splitWords
    split
    · split
      · simp
      · split <;> simp
    · simp

theorem not_isDigit_of_isExtending {c : Char} (extending : isExtending c = true) :
    c.isDigit = false := by
  have first : Text.extending = (0x300, 0x36f) :: Text.extending.tail := rfl
  cases digit : c.isDigit with
  | false => rfl
  | true =>
    have nine : '9'.toNat = 57 := rfl
    rw [Char.isDigit_iff_toNat] at digit
    rw [isExtending, first, Ranges.contains, if_pos (by omega)] at extending
    cases extending

/-- `#` has no case, so an extending character gives the cluster its shape. -/
theorem shape_mark {c : Char} (extending : isExtending c = true) (more : List Char) :
    Shape.of ('#' :: c :: more) = Shape.of (c :: more) ∧ Shape.of (c :: more) ≠ .delimiter := by
  have lower : hasLower '#' = false := by decide +kernel
  have upper : hasUpper '#' = false := by decide +kernel
  have digit := not_isDigit_of_isExtending extending
  have different : ∀ d, isExtending d = false → c ≠ d := by
    rintro d plain rfl
    rw [extending] at plain
    cases plain
  have underscore := different '_' (by decide +kernel)
  have hyphen := different '-' (by decide +kernel)
  have space := different ' ' (by decide +kernel)
  constructor
  · simp [Shape.of, lower, upper, digit, underscore, hyphen, space]
  · simp only [Shape.of]
    split
    · rename_i delimiter
      simp [underscore, hyphen, space] at delimiter
    · split
      · simp
      · split
        · simp
        · split <;> simp

/-- `#` joins the first word of what follows. -/
theorem splitWords_mark (cs : List Char) : ∃ word words,
    splitWords (clusters cs) = word :: words ∧
      splitWords (clusters ('#' :: cs)) = ('#' :: word) :: words := by
  rcases clusters_cases '#' cs with alone | ⟨c, more, others, extending, cluster, joined⟩
  · obtain ⟨word, words, split⟩ := List.exists_cons_of_ne_nil (splitWords_ne_nil (clusters cs))
    have other : Shape.of ['#'] = .other := by decide +kernel
    refine ⟨word, words, split, ?_⟩
    rw [alone, splitWords, split]
    simp [other, endsWord]
  · obtain ⟨shape, word⟩ := shape_mark extending more
    obtain ⟨first, later, split⟩ := List.exists_cons_of_ne_nil (splitWords_ne_nil others)
    rw [cluster, joined, splitWords, splitWords, split, shape]
    simp only [if_neg word]
    split
    · exact ⟨_, _, rfl, rfl⟩
    · exact ⟨_, _, rfl, rfl⟩

/-- `r` joins what follows or is a word by itself. -/
theorem splitWords_raw (cs : List Char) : ∃ word words,
    splitWords (clusters cs) = word :: words ∧
      (splitWords (clusters ('r' :: '#' :: cs)) = ('r' :: '#' :: word) :: words ∨
        splitWords (clusters ('r' :: '#' :: cs)) = ['r'] :: ('#' :: word) :: words) := by
  obtain ⟨word, words, split, marked⟩ := splitWords_mark cs
  refine ⟨word, words, split, ?_⟩
  have notDelimiter : Shape.of ['r'] ≠ .delimiter := by decide +kernel
  have alone : clusters ('r' :: '#' :: cs) = ['r'] :: clusters ('#' :: cs) := by
    rcases clusters_cases 'r' ('#' :: cs) with alone | ⟨c, more, others, extending, cluster, -⟩
    · exact alone
    · obtain ⟨more', others', first⟩ := clusters_cons '#' cs
      rw [first] at cluster
      obtain ⟨same, -⟩ := List.cons.inj (List.cons.inj cluster).1
      have plain : isExtending '#' = false := by decide +kernel
      rw [← same, plain] at extending
      cases extending
  rw [alone, splitWords, marked]
  simp only [if_neg notDelimiter]
  split
  · exact .inr rfl
  · exact .inl rfl

theorem flatCase_raw (name : String) : flatCase ("r#" ++ name) = "r#" ++ flatCase name := by
  have text : ("r#" ++ name).toList = 'r' :: '#' :: name.toList := by
    rw [String.toList_append]
    rfl
  obtain ⟨word, words, split, marked⟩ := splitWords_raw name.toList
  obtain ⟨behind, farther⟩ := lowerChars_mark word
  have letter : lowerChars ['r'] = ['r'] := rfl
  rw [← String.toList_inj, String.toList_append, flatCase, flatCase, text, split]
  rcases marked with joined | apart
  · rw [joined]
    simp [farther]
  · rw [apart]
    simp [behind, letter]

end EndpointRouting.Text
