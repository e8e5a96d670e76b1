import EndpointRouting.Proofs.Lists
import EndpointRouting.Value.Interpreter
import Mathlib.Data.List.DropRight

/-!
# Lists in raw text

A text is read as what stands between its commas, without the empty items at its end. So the lists
that can be read are those without a comma in an item and with an item at the end that is not empty.
Each of them is read from its items with commas between them, and otherwise only from that text with
more commas behind it.
-/

namespace EndpointRouting.Value

/-- Text of commas. -/
def commas (n : Nat) : String := String.ofList (List.replicate n ',')

/-- No item has a comma, and the last one is not empty. -/
structure IsListing (items : List String) : Prop where
  bare : ∀ item ∈ items, ',' ∉ item.toList
  closed : items.getLast? ≠ some ""

/-! ### The pieces between commas -/

theorem pieces_eq_splitOn (cs : List Char) : pieces cs = cs.splitOn ',' := by
  induction cs with
  | nil => rfl
  | cons c rest ih =>
    rw [pieces, List.splitOn_cons_eq_if_modifyHead, ih]
    by_cases comma : c = ','
    · rw [if_pos comma, if_pos (by simp [comma])]
    · rw [if_neg comma, if_neg (by simp [comma])]
      obtain ⟨p, ps, split⟩ := List.exists_cons_of_ne_nil (List.splitOn_ne_nil ',' rest)
      rw [split]
      rfl

theorem comma_not_mem_of_mem_pieces {cs p : List Char} (member : p ∈ pieces cs) : ',' ∉ p := by
  induction cs generalizing p with
  | nil =>
    rw [List.mem_singleton.mp member]
    exact List.not_mem_nil
  | cons c rest ih =>
    rw [pieces] at member
    split at member
    · rcases List.mem_cons.mp member with rfl | later
      · exact List.not_mem_nil
      · exact ih later
    · rename_i other
      split at member
      · rename_i first others split
        rw [split] at ih
        rcases List.mem_cons.mp member with rfl | later
        · rw [List.mem_cons, not_or]
          exact ⟨Ne.symm other, ih List.mem_cons_self⟩
        · exact ih (List.mem_cons_of_mem _ later)
      · rw [List.mem_singleton.mp member, List.mem_singleton]
        exact Ne.symm other

/-! ### Empty items at the end -/

/-- An empty item at the end is dropped, and any other ends the dropping. -/
theorem dropEmptyEnd_concat (ps : List (List Char)) (p : List Char) :
    dropEmptyEnd (ps ++ [p]) = if p.isEmpty then dropEmptyEnd ps else ps ++ [p] := by
  induction ps with
  | nil => rfl
  | cons q ps ih =>
    rw [List.cons_append, dropEmptyEnd, ih]
    by_cases empty : p.isEmpty
    · rw [if_pos empty, if_pos empty]
      rfl
    · rw [if_neg empty, if_neg empty]
      obtain ⟨first, others, same⟩ := List.exists_cons_of_ne_nil (List.concat_ne_nil p ps)
      rw [same]

theorem dropEmptyEnd_eq_rdropWhile (ps : List (List Char)) :
    dropEmptyEnd ps = ps.rdropWhile List.isEmpty := by
  induction ps using List.reverseRecOn with
  | nil => rfl
  | append_singleton ps p ih => rw [dropEmptyEnd_concat, List.rdropWhile_concat, ih]

theorem getLast?_dropEmptyEnd (ps : List (List Char)) : (dropEmptyEnd ps).getLast? ≠ some [] := by
  rw [dropEmptyEnd_eq_rdropWhile]
  intro ends
  obtain ⟨filled, last⟩ := List.mem_getLast?_eq_getLast ends
  have kept := List.rdropWhile_last_not List.isEmpty ps filled
  rw [← last] at kept
  exact kept rfl

theorem dropEmptyEnd_of_closed {ps : List (List Char)} (closed : ps.getLast? ≠ some []) :
    dropEmptyEnd ps = ps := by
  rw [dropEmptyEnd_eq_rdropWhile, List.rdropWhile_eq_self_iff]
  intro filled last
  rw [List.getLast?_eq_some_getLast filled, List.isEmpty_iff.mp last] at closed
  exact closed rfl

/-- What is dropped is written as commas. -/
theorem intercalate_dropEmptyEnd (ps : List (List Char)) :
    ∃ n, [','].intercalate ps =
      [','].intercalate (dropEmptyEnd ps) ++ List.replicate n ',' := by
  induction ps using List.reverseRecOn with
  | nil => exact ⟨0, rfl⟩
  | append_singleton ps p ih =>
    rw [dropEmptyEnd_concat]
    by_cases empty : p.isEmpty
    · rw [if_pos empty, List.isEmpty_iff.mp empty]
      by_cases alone : ps = []
      · rw [alone]
        exact ⟨0, rfl⟩
      · obtain ⟨n, ih⟩ := ih
        refine ⟨n + 1, ?_⟩
        rw [intercalate_concat ',' [] alone, ih, List.append_assoc, List.replicate_succ']
    · rw [if_neg empty]
      exact ⟨0, (List.append_nil _).symm⟩

/-- A comma at the end adds an empty item, which is dropped. -/
theorem dropEmptyEnd_pieces_comma (cs : List Char) :
    dropEmptyEnd (pieces (cs ++ [','])) = dropEmptyEnd (pieces cs) := by
  rw [pieces_eq_splitOn, List.splitOn_append_cons_self, List.splitOn_nil, dropEmptyEnd_concat,
    if_pos List.isEmpty_nil, pieces_eq_splitOn]

/-! ### Items of a text -/

theorem isListing_listItems (raw : String) : IsListing (listItems raw) where
  bare := by
    intro item member
    obtain ⟨p, kept, rfl⟩ := List.mem_map.mp member
    rw [dropEmptyEnd_eq_rdropWhile] at kept
    rw [String.toList_ofList]
    exact comma_not_mem_of_mem_pieces ((List.rdropWhile_prefix _ _).mem kept)
  closed := by
    rw [listItems, List.getLast?_map]
    intro ends
    obtain ⟨p, last, empty⟩ := Option.map_eq_some_iff.mp ends
    rw [String.ofList_eq_empty_iff.mp empty] at last
    exact getLast?_dropEmptyEnd _ last

theorem toList_joined (items : List String) :
    (",".intercalate items).toList = [','].intercalate (items.map String.toList) :=
  String.toList_intercalate

theorem eq_joined_listItems (raw : String) :
    ∃ n, raw = ",".intercalate (listItems raw) ++ commas n := by
  obtain ⟨n, split⟩ := intercalate_dropEmptyEnd (pieces raw.toList)
  rw [pieces_eq_splitOn, List.intercalate_splitOn, ← pieces_eq_splitOn] at split
  refine ⟨n, String.toList_injective ?_⟩
  rw [String.toList_append, toList_joined, listItems, List.map_map, commas, String.toList_ofList]
  simpa [Function.comp_def] using split

theorem listItems_commas (raw : String) (n : Nat) : listItems (raw ++ commas n) = listItems raw := by
  have dropped : dropEmptyEnd (pieces (raw.toList ++ List.replicate n ',')) =
      dropEmptyEnd (pieces raw.toList) := by
    induction n with
    | zero => rw [List.replicate_zero, List.append_nil]
    | succ n ih =>
      rw [List.replicate_succ', ← List.append_assoc, dropEmptyEnd_pieces_comma, ih]
  rw [listItems, String.toList_append, commas, String.toList_ofList, dropped, listItems]

theorem listItems_joined {items : List String} (listing : IsListing items) :
    listItems (",".intercalate items) = items := by
  have bare : ∀ p ∈ items.map String.toList, ',' ∉ p := by
    intro p member
    obtain ⟨item, present, rfl⟩ := List.mem_map.mp member
    exact listing.bare item present
  have closed : (items.map String.toList).getLast? ≠ some [] := by
    rw [List.getLast?_map]
    intro ends
    obtain ⟨item, last, empty⟩ := Option.map_eq_some_iff.mp ends
    rw [String.toList_eq_nil_iff.mp empty] at last
    exact listing.closed last
  have texts : (items.map String.toList).map String.ofList = items := by
    simp [Function.comp_def]
  rw [listItems, toList_joined, pieces_eq_splitOn]
  by_cases none_listed : items = []
  · -- the empty text has one piece, which is empty
    rw [none_listed]
    rfl
  · rw [List.splitOn_intercalate ',' bare (by simpa using none_listed),
      dropEmptyEnd_of_closed closed, texts]

theorem listItems_eq_iff {raw : String} {items : List String} :
    listItems raw = items ↔ IsListing items ∧ ∃ n, raw = ",".intercalate items ++ commas n := by
  constructor
  · rintro rfl
    exact ⟨isListing_listItems raw, eq_joined_listItems raw⟩
  · rintro ⟨listing, n, rfl⟩
    rw [listItems_commas, listItems_joined listing]

/-- Every text is read as a list. It is read as a list of items if and only if no item has a comma,
the last one is not empty, and the text is the items with commas between them and then any number of
commas; so it is read as the empty list if and only if it consists of commas. Two texts are read as
the same list if and only if they agree up to commas at the end. -/
theorem lists_read_up_to_commas (raw other : String) :
    (∃ items, Interpreter.list.read raw = .ok (.list items)) ∧
    (∀ items, Interpreter.list.read raw = .ok (.list items) ↔
      IsListing items ∧ ∃ n, raw = ",".intercalate items ++ commas n) ∧
    (Interpreter.list.read raw = .ok (.list []) ↔ ∃ n, raw = commas n) ∧
    (Interpreter.list.read raw = Interpreter.list.read other ↔
      ∃ stem m n, raw = stem ++ commas m ∧ other = stem ++ commas n) := by
  have read (text : String) : Interpreter.list.read text = .ok (.list (listItems text)) := rfl
  have read_iff (items : List String) : Interpreter.list.read raw = .ok (.list items) ↔
      IsListing items ∧ ∃ n, raw = ",".intercalate items ++ commas n := by
    rw [read, Except.ok.injEq, Value.list.injEq, listItems_eq_iff]
  refine ⟨⟨listItems raw, read raw⟩, read_iff, ?_, ?_⟩
  · rw [read_iff]
    have none_listed : IsListing [] := ⟨by simp, by simp⟩
    simp [none_listed]
  · rw [read, read, Except.ok.injEq, Value.list.injEq]
    constructor
    · intro same
      obtain ⟨m, first⟩ := eq_joined_listItems raw
      obtain ⟨n, second⟩ := eq_joined_listItems other
      exact ⟨_, m, n, first, by rw [same]; exact second⟩
    · rintro ⟨stem, m, n, rfl, rfl⟩
      rw [listItems_commas, listItems_commas]

/-- Empty items are kept, but for those at the end. -/
example : listItems "a,,b,," = ["a", "", "b"] := by decide +kernel

end EndpointRouting.Value
