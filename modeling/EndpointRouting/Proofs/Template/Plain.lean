import EndpointRouting.Proofs.Lists
import EndpointRouting.Template
import EndpointRouting.Text.Alphanumeric

/-!
# Plain templates

A plain template has literal characters that mean nothing to an expression, and variables without
patterns of their own, each up to the end of a segment. Its text is scanned back into its pieces,
and a text that is the template with values put in gives the values away.
-/

namespace EndpointRouting.Template
open Text

/-- The characters that mean something in an expression or in a template. -/
def special : List Char :=
  ['\\', '.', '+', '*', '?', '(', ')', '|', '[', ']', '\x7b', '\x7d', '^', '$']

/-- The first character of the name of a group. -/
def startsName (c : Char) : Bool := c == '_' || isAlphabetic c

/-- A later character of the name of a group. -/
def continuesName (c : Char) : Bool :=
  startsName c || c == '.' || c == '[' || c == ']' || isAlphanumeric c

/-- The name of a group. -/
def ValidName : List Char → Prop
  | [] => False
  | c :: rest => startsName c = true ∧ ∀ d ∈ rest, continuesName d = true

/-- The pieces are literal characters and variables `{name}`, each variable up to the end of the
template or to a slash. -/
inductive Plain : List Piece → Prop
  | nil : Plain []
  | literal {c : Char} {ps : List Piece} (ordinary : c ∉ special) (rest : Plain ps) :
      Plain (.literal c :: ps)
  | var {name : List Char} {ps : List Piece} (valid : ValidName name)
      (bounded : ps = [] ∨ ∃ later, ps = .literal '/' :: later) (rest : Plain ps) :
      Plain (.var ⟨name, none⟩ :: ps)

/-- The names of the variables, in order. -/
def names (ps : List Piece) : List (List Char) := (ps.filterMap Piece.var?).map Variable.name

/-- How a piece is written; a variable without a pattern of its own. -/
def Piece.written : Piece → List Char
  | literal c => [c]
  | var v => '\x7b' :: (v.name ++ ['\x7d'])

/-- The text of a template. -/
def written (ps : List Piece) : List Char := ps.flatMap Piece.written

/-- The piece with a value in place of a variable. -/
def Piece.filled (values : String → String) : Piece → List Char
  | literal c => [c]
  | var v => (values (.ofList v.name)).toList

/-- The template with a value in place of each variable. -/
def filled (values : String → String) (ps : List Piece) : List Char :=
  ps.flatMap (Piece.filled values)

/-- The value is a segment of a path. -/
def IsSegment (value : List Char) : Prop := value ≠ [] ∧ '/' ∉ value

/-- Each variable has a segment for its value. -/
def Fits (values : String → String) (ps : List Piece) : Prop :=
  ∀ name ∈ names ps, IsSegment (values (.ofList name)).toList

@[simp] theorem names_nil : names [] = [] := rfl

@[simp] theorem names_literal (c : Char) (ps : List Piece) :
    names (.literal c :: ps) = names ps := rfl

@[simp] theorem names_var (v : Variable) (ps : List Piece) :
    names (.var v :: ps) = v.name :: names ps := rfl

/-! ### Scanning -/

theorem continuesName_of_startsName {c : Char} (h : startsName c = true) :
    continuesName c = true := by
  simp [continuesName, h]

theorem ValidName.continues {name : List Char} (valid : ValidName name) :
    ∀ c ∈ name, continuesName c = true := by
  cases name with
  | nil => exact valid.elim
  | cons c rest =>
    intro d member
    rcases List.mem_cons.mp member with rfl | later
    · exact continuesName_of_startsName valid.1
    · exact valid.2 d later

/-- A character of a name ends neither the name nor the line. -/
theorem ne_of_continuesName {c : Char} (h : continuesName c = true) :
    c ≠ ':' ∧ c ≠ '\x7d' ∧ c ≠ '\n' ∧ c ≠ '>' := by
  refine ⟨?_, ?_, ?_, ?_⟩ <;> rintro rfl <;> revert h <;> decide +kernel

theorem readOwnPattern_of_ne {c : Char} {rest : List Char} (plain : c ≠ ':') :
    readOwnPattern (c :: rest) = none := by
  unfold readOwnPattern
  split
  · rename_i heq
    exact absurd (List.cons.inj heq).1 plain
  · rfl

theorem readVariable_append {name : List Char} (continues : ∀ c ∈ name, continuesName c = true)
    (rest : List Char) :
    readVariable (name ++ '\x7d' :: rest) = some (⟨name, none⟩, rest) := by
  induction name with
  | nil => simp [readVariable, readOwnPattern_of_ne (show '\x7d' ≠ ':' by decide)]
  | cons c name ih =>
    obtain ⟨no_colon, no_brace, no_break, -⟩ := ne_of_continuesName (continues c List.mem_cons_self)
    have later := ih fun d member => continues d (List.mem_cons_of_mem _ member)
    rw [List.cons_append, readVariable, readOwnPattern_of_ne no_colon]
    simp [no_brace, no_break, later]

theorem pieces_literal {c : Char} (plain : c ≠ '\x7b') (rest : List Char) :
    pieces (c :: rest) = .literal c :: pieces rest := by
  rw [pieces, if_neg plain]

theorem pieces_var {v : Variable} {cs rest : List Char} (read : readVariable cs = some (v, rest)) :
    pieces ('\x7b' :: cs) = .var v :: pieces rest := by
  rw [pieces, if_pos rfl]
  split
  · rename_i w left found
    rw [read] at found
    cases found
    rfl
  · rename_i missed
    rw [read] at missed
    cases missed

/-- A plain template is scanned back into its pieces. -/
theorem pieces_written {ps : List Piece} (plain : Plain ps) : pieces (written ps) = ps := by
  induction plain with
  | nil => rw [written, List.flatMap_nil, pieces]
  | @literal c ps ordinary _ ih =>
    have no_brace : c ≠ '\x7b' := by
      rintro rfl
      exact ordinary (by decide)
    change pieces (c :: written ps) = _
    rw [pieces_literal no_brace, ih]
  | @var name ps valid _ _ ih =>
    have read := readVariable_append valid.continues (written ps)
    have text : written (.var ⟨name, none⟩ :: ps) = '\x7b' :: (name ++ '\x7d' :: written ps) := by
      simp [written, Piece.written]
    rw [text, pieces_var read, ih]

/-! ### Values -/

/-- The values that a text has for the variables of a plain template, each with its name. -/
def values? : List Piece → List Char → Option (List (String × String))
  | [], [] => some []
  | [], _ :: _ => none
  | .literal _ :: _, [] => none
  | .literal c :: ps, d :: rest => if c = d then values? ps rest else none
  | .var v :: ps, cs =>
    if cs.takeWhile (· != '/') = [] then none
    else (values? ps (cs.dropWhile (· != '/'))).map
      ((.ofList v.name, .ofList (cs.takeWhile (· != '/'))) :: ·)

/-- After the variable the template is at its end or at a slash, and so is the text. -/
theorem filled_bounded (values : String → String) {ps : List Piece}
    (bounded : ps = [] ∨ ∃ later, ps = .literal '/' :: later) :
    filled values ps = [] ∨ ∃ rest, filled values ps = '/' :: rest := by
  rcases bounded with rfl | ⟨later, rfl⟩
  · exact .inl rfl
  · exact .inr ⟨filled values later, rfl⟩

/-- A plain template with segments put in gives them back. -/
theorem values?_filled {values : String → String} {ps : List Piece} (plain : Plain ps)
    (fits : Fits values ps) :
    values? ps (filled values ps) =
      some ((names ps).map fun name => (.ofList name, values (.ofList name))) := by
  induction plain with
  | nil => rfl
  | @literal c ps _ _ ih =>
    change (if c = c then values? ps (filled values ps) else none) = _
    rw [if_pos rfl, ih fits]
    rfl
  | @var name ps _ bounded _ ih =>
    have text : filled values (.var ⟨name, none⟩ :: ps) =
        (values (.ofList name)).toList ++ filled values ps := rfl
    obtain ⟨some_value, clean⟩ := fits name List.mem_cons_self
    obtain ⟨first, rest⟩ := upTo_append clean (filled_bounded values bounded)
    rw [text, values?, first, rest, if_neg some_value,
      ih fun other member => fits other (List.mem_cons_of_mem _ member)]
    simp

/-- A text that has values for the variables is the template with the values put in. -/
theorem filled_of_values? {ps : List Piece} {cs : List Char} {bs : List (String × String)}
    (read : values? ps cs = some bs) :
    bs.map (·.1) = (names ps).map String.ofList ∧ (∀ b ∈ bs, IsSegment b.2.toList) ∧
      ∀ values : String → String, (∀ b ∈ bs, values b.1 = b.2) → filled values ps = cs := by
  induction ps generalizing cs bs with
  | nil =>
    cases cs with
    | nil =>
      cases read
      exact ⟨rfl, by simp, fun _ _ => rfl⟩
    | cons _ _ => cases read
  | cons p ps ih =>
    cases p with
    | literal c =>
      cases cs with
      | nil => cases read
      | cons d rest =>
        rw [values?] at read
        split at read
        · rename_i same
          obtain ⟨listed, segments, refill⟩ := ih read
          refine ⟨listed, segments, fun values agree => ?_⟩
          change c :: filled values ps = _
          rw [refill values agree, same]
        · cases read
    | var v =>
      rw [values?] at read
      split at read
      · cases read
      · rename_i some_value
        obtain ⟨more, later, rfl⟩ := Option.map_eq_some_iff.mp read
        obtain ⟨listed, segments, refill⟩ := ih later
        refine ⟨by simp [listed], ?_, fun values agree => ?_⟩
        · intro b member
          rcases List.mem_cons.mp member with rfl | member
          · refine ⟨by simpa using some_value, ?_⟩
            rw [String.toList_ofList]
            intro slash
            simpa using List.mem_takeWhile_imp slash
          · exact segments b member
        · have first := agree _ List.mem_cons_self
          change (values (.ofList v.name)).toList ++ filled values ps = cs
          rw [first, refill values fun b member => agree b (List.mem_cons_of_mem _ member)]
          simp [List.takeWhile_append_dropWhile]

/-- The values of a template can be told from the text they make. -/
theorem eq_of_filled_eq {values others : String → String} {ps : List Piece} (plain : Plain ps)
    (fits : Fits values ps) (fits' : Fits others ps) (same : filled values ps = filled others ps) :
    ∀ name ∈ names ps, values (.ofList name) = others (.ofList name) := by
  have read := values?_filled plain fits
  rw [same, values?_filled plain fits'] at read
  intro name member
  have pairs := List.map_inj_left.mp (Option.some.inj read) name member
  exact (Prod.mk.inj pairs).2.symm

end EndpointRouting.Template
