import EndpointRouting.Proofs.Lists
import EndpointRouting.Template

/-!
# Scanning templates

The reader of a variable tries a pattern of its own at each character and falls back where that
fails. `Variable.ofInner?` decides by the whole text up to the closing brace instead: by its line
breaks, and by the first colon that stands directly before a blank. `scan` is the scanner made from
it, which never goes back; `compile_scanned` says that it finds the same variables.
-/

namespace EndpointRouting.Template
open Text

/-! ### The text between the braces -/

/-- What stands before the first colon with a blank directly after it, and what after the two. -/
def splitBlank : List Char → Option (List Char × List Char)
  | c :: b :: rest =>
    if c = ':' ∧ isBlankChar b = true then some ([], rest)
    else (splitBlank (b :: rest)).map fun (name, pattern) => (c :: name, pattern)
  | _ => none

/-- The variable with the given text between its braces. A line break can only be the blank
between the name and the pattern. -/
def Variable.ofInner? (inner : List Char) : Option Variable :=
  match inner.count '\n' with
  | 0 =>
    match splitBlank inner with
    | some (name, pattern) => some ⟨name, some pattern⟩
    | none => some ⟨inner, none⟩
  | 1 =>
    let line := inner.takeWhile (· != '\n')
    if line.getLast? = some ':' then
      some ⟨line.dropLast, some ((inner.dropWhile (· != '\n')).drop 1)⟩
    else none
  | _ => none

/-- The pieces of a template: at an opening brace, the text up to the first closing brace decides
whether it is a variable. -/
def scan (cs : List Char) : List Piece :=
  match cs with
  | [] => []
  | c :: rest =>
    if c = '\x7b' ∧ '\x7d' ∈ rest then
      match Variable.ofInner? (rest.takeWhile (· != '\x7d')) with
      | some v => .var v :: scan ((rest.dropWhile (· != '\x7d')).drop 1)
      | none => .literal c :: scan rest
    else .literal c :: scan rest
  termination_by cs.length
  decreasing_by
    · have shorter := (List.dropWhile_suffix (l := rest) (· != '\x7d')).length_le
      simp only [List.length_drop, List.length_cons]
      omega
    · simp
    · simp

variable {c b : Char} {inner rest : List Char}

/-! ### Patterns -/

/-- A pattern goes up to the first brace, unless a line break comes before it. -/
theorem readPattern_eq (closed : '\x7d' ∉ inner) (rest : List Char) :
    readPattern (inner ++ '\x7d' :: rest) = if '\n' ∈ inner then none else some (inner, rest) := by
  induction inner with
  | nil => rfl
  | cons c inner ih =>
    have not_brace : c ≠ '\x7d' := (List.ne_of_not_mem_cons closed).symm
    have later := List.not_mem_of_not_mem_cons closed
    rw [List.cons_append, readPattern, if_neg not_brace, ih later]
    by_cases broken : c = '\n'
    · simp [broken]
    · have passes : ¬ '\n' = c := fun same => broken same.symm
      by_cases further : '\n' ∈ inner
      · simp [broken, further]
      · simp [broken, passes, further]

theorem readPattern_open (unclosed : '\x7d' ∉ rest) : readPattern rest = none := by
  induction rest with
  | nil => rfl
  | cons c rest ih =>
    have not_brace : c ≠ '\x7d' := (List.ne_of_not_mem_cons unclosed).symm
    have later := List.not_mem_of_not_mem_cons unclosed
    rw [readPattern, if_neg not_brace, ih later]
    simp

/-- A pair that may end the name: the text between the braces begins with it, and what follows it
is on one line. -/
def Splits (inner : List Char) : Prop :=
  ∃ b pattern, inner = ':' :: b :: pattern ∧ isBlankChar b = true ∧ '\n' ∉ pattern

theorem readOwnPattern_splits {pattern : List Char} (blank : isBlankChar b = true)
    (closed : '\x7d' ∉ pattern) (unbroken : '\n' ∉ pattern) (rest : List Char) :
    readOwnPattern (':' :: b :: pattern ++ '\x7d' :: rest) = some (pattern, rest) := by
  rw [List.cons_append, List.cons_append, readOwnPattern, if_pos blank, readPattern_eq closed,
    if_neg unbroken]

theorem readOwnPattern_none (closed : '\x7d' ∉ inner) (whole : ¬ Splits inner) (rest : List Char) :
    readOwnPattern (inner ++ '\x7d' :: rest) = none := by
  unfold readOwnPattern
  split
  · rename_i b later text
    split
    · rename_i blank
      cases inner with
      | nil => cases text
      | cons c inner =>
        cases inner with
        | nil =>
          -- the closing brace itself is no blank
          cases text
          exact absurd blank (by decide)
        | cons d pattern =>
          cases text
          have no_brace : '\x7d' ∉ pattern := fun member => closed (by simp [member])
          have broken : '\n' ∈ pattern := by
            by_contra unbroken
            exact whole ⟨b, pattern, rfl, blank, unbroken⟩
          change readPattern (pattern ++ '\x7d' :: rest) = none
          rw [readPattern_eq no_brace, if_pos broken]
    · rfl
  · rfl

/-! ### Variables -/

theorem ofInner?_splits {pattern : List Char} (blank : isBlankChar b = true)
    (unbroken : '\n' ∉ pattern) :
    Variable.ofInner? (':' :: b :: pattern) = some ⟨[], some pattern⟩ := by
  have none_later : pattern.count '\n' = 0 := List.count_eq_zero.mpr unbroken
  by_cases broken : b = '\n'
  · subst broken
    have once : (':' :: '\n' :: pattern).count '\n' = 1 := by simp [none_later]
    rw [Variable.ofInner?, once]
    simp
  · have never : (':' :: b :: pattern).count '\n' = 0 := by simp [none_later, broken]
    rw [Variable.ofInner?, never]
    simp [splitBlank, blank]

/-- Where no pair begins, the first character belongs to the name. -/
theorem ofInner?_cons (unbroken : c ≠ '\n') (whole : ¬ Splits (c :: inner)) :
    Variable.ofInner? (c :: inner) =
      (Variable.ofInner? inner).map fun v => { v with name := c :: v.name } := by
  have same : (c :: inner).count '\n' = inner.count '\n' := by
    rw [List.count_cons]
    simp [unbroken]
  have goes_on : (c != '\n') = true := by simpa using unbroken
  rw [Variable.ofInner?, Variable.ofInner?, same]
  split
  · rename_i never
    have quiet : '\n' ∉ inner := List.count_eq_zero.mp never
    cases inner with
    | nil => rfl
    | cons b pattern =>
      have not_here : ¬ (c = ':' ∧ isBlankChar b = true) := by
        rintro ⟨rfl, blank⟩
        exact whole ⟨b, pattern, rfl, blank, fun member => quiet (List.mem_cons_of_mem _ member)⟩
      rw [splitBlank, if_neg not_here]
      cases splitBlank (b :: pattern) <;> rfl
  · rename_i once
    rw [List.takeWhile_cons, List.dropWhile_cons, if_pos goes_on, if_pos goes_on]
    cases line : inner.takeWhile (· != '\n') with
    | nil =>
      -- the line break follows at once, so the character is no colon
      have not_colon : c ≠ ':' := by
        rintro rfl
        cases inner with
        | nil => cases once
        | cons b pattern =>
          have breaks : b = '\n' := by
            by_contra goes_on
            simp [goes_on] at line
          subst breaks
          have quiet : pattern.count '\n' = 0 := by simpa using once
          exact whole ⟨'\n', pattern, rfl, by decide, List.count_eq_zero.mp quiet⟩
      simp [not_colon]
    | cons d line =>
      dsimp only
      rw [List.getLast?_cons_cons]
      split
      · simp
      · rfl
  · rfl

theorem ofInner?_break : Variable.ofInner? ('\n' :: inner) = none := by
  rw [Variable.ofInner?]
  split
  · rename_i never
    simp at never
  · simp
  · rfl

/-- Trying the pattern at each character comes to the same as looking at the whole text. -/
theorem readVariable_eq (closed : '\x7d' ∉ inner) (rest : List Char) :
    readVariable (inner ++ '\x7d' :: rest) = (Variable.ofInner? inner).map fun v => (v, rest) := by
  induction inner with
  | nil => rfl
  | cons c inner ih =>
    have not_brace : c ≠ '\x7d' := (List.ne_of_not_mem_cons closed).symm
    have later := List.not_mem_of_not_mem_cons closed
    by_cases splits : Splits (c :: inner)
    · obtain ⟨b, pattern, text, blank, unbroken⟩ := splits
      rw [text] at closed ⊢
      have no_brace : '\x7d' ∉ pattern := fun member => closed (by simp [member])
      have own := readOwnPattern_splits blank no_brace unbroken rest
      rw [ofInner?_splits blank unbroken]
      rw [List.cons_append] at own ⊢
      rw [readVariable, own]
      rfl
    · have none_here := readOwnPattern_none closed splits rest
      rw [List.cons_append] at none_here ⊢
      rw [readVariable, none_here]
      dsimp only
      rw [if_neg not_brace]
      by_cases broken : c = '\n'
      · subst broken
        rw [if_pos rfl, ofInner?_break]
        rfl
      · rw [if_neg broken, ih later, ofInner?_cons broken splits, Option.map_map, Option.map_map]
        rfl

theorem readVariable_open (unclosed : '\x7d' ∉ rest) : readVariable rest = none := by
  induction rest with
  | nil => rfl
  | cons c rest ih =>
    have not_brace : c ≠ '\x7d' := (List.ne_of_not_mem_cons unclosed).symm
    have later := List.not_mem_of_not_mem_cons unclosed
    have no_pattern : readOwnPattern (c :: rest) = none := by
      unfold readOwnPattern
      split
      · rename_i b pattern text
        cases text
        have unclosed' : '\x7d' ∉ pattern := fun member => later (List.mem_cons_of_mem _ member)
        rw [readPattern_open unclosed', ite_self]
      · rfl
    rw [readVariable, no_pattern]
    dsimp only
    rw [if_neg not_brace, ih later]
    simp

/-! ### Templates -/

theorem split_brace (closes : '\x7d' ∈ rest) :
    rest = rest.takeWhile (· != '\x7d') ++ '\x7d' :: (rest.dropWhile (· != '\x7d')).drop 1 ∧
      '\x7d' ∉ rest.takeWhile (· != '\x7d') := by
  constructor
  · induction rest with
    | nil => cases closes
    | cons c rest ih =>
      by_cases ends : c = '\x7d'
      · simp [ends]
      · have later : '\x7d' ∈ rest := by
          rcases List.mem_cons.mp closes with same | later
          · exact absurd same.symm ends
          · exact later
        have passes : (c != '\x7d') = true := by simpa using ends
        rw [List.takeWhile_cons, List.dropWhile_cons, if_pos passes, if_pos passes,
          List.cons_append, ← ih later]
  · intro member
    simpa using List.mem_takeWhile_imp member

/-- What the reader of a variable finds after an opening brace. -/
theorem readVariable_scan (rest : List Char) :
    readVariable rest =
      if '\x7d' ∈ rest then
        (Variable.ofInner? (rest.takeWhile (· != '\x7d'))).map fun v =>
          (v, (rest.dropWhile (· != '\x7d')).drop 1)
      else none := by
  by_cases closes : '\x7d' ∈ rest
  · obtain ⟨text, closed⟩ := split_brace closes
    rw [if_pos closes]
    conv_lhs => rw [text]
    exact readVariable_eq closed _
  · rw [if_neg closes, readVariable_open closes]

theorem pieces_eq_scan (cs : List Char) : pieces cs = scan cs := by
  fun_induction scan cs with
  | case1 => rw [pieces]
  | case2 c rest opens v found ih =>
    obtain ⟨rfl, closes⟩ := opens
    have read := readVariable_scan rest
    rw [if_pos closes, found, Option.map_some] at read
    rw [pieces, if_pos rfl]
    split
    · rename_i w left here
      cases here.symm.trans read
      rw [ih]
    · rename_i missed
      cases missed.symm.trans read
  | case3 c rest opens missed ih =>
    obtain ⟨rfl, closes⟩ := opens
    have read := readVariable_scan rest
    rw [if_pos closes, missed, Option.map_none] at read
    rw [pieces, if_pos rfl]
    split
    · rename_i w left here
      cases here.symm.trans read
    · rw [ih]
  | case4 c rest plain ih =>
    rw [pieces]
    split
    · rename_i opens
      have unclosed : '\x7d' ∉ rest := fun closes => plain ⟨opens, closes⟩
      have read := readVariable_scan rest
      rw [if_neg unclosed] at read
      split
      · rename_i w left here
        cases here.symm.trans read
      · rw [ih]
    · rw [ih]

theorem mem_vars {v : Variable} {cs : List Char} : v ∈ vars cs ↔ .var v ∈ pieces cs := by
  unfold vars
  rw [List.mem_filterMap]
  constructor
  · rintro ⟨p, member, found⟩
    cases p with
    | literal c => cases found
    | var w =>
      cases found
      exact member
  · intro member
    exact ⟨.var v, member, rfl⟩

theorem expression_of_compile {path text e : String}
    (h : (Template.compile path text).expression = some e) :
    e.toList = (pieces text.toList).flatMap Piece.expression := by
  unfold Template.compile at h
  dsimp only at h
  split at h
  · cases h
  · rw [← Option.some.inj h, String.toList_ofList]

theorem expression_eq_none (path text : String) :
    (Template.compile path text).expression = none ↔ vars text.toList = [] := by
  unfold Template.compile
  simp

/-- A template is the text that `scan` finds between its variables, and the variables. Its
parameters are their names in order, however often one occurs. It has an expression just if there
is a variable; there each variable is a named group of its own pattern, with the names of classes
replaced, or of `[^/]+`, and every other character is copied. -/
theorem compile_scanned (path text : String) :
    (Template.compile path text).path = path ∧ (Template.compile path text).text = text ∧
    (Template.compile path text).parameters = (scan text.toList).filterMap (fun
      | .literal _ => none
      | .var v => some (String.ofList v.name)) ∧
    ((Template.compile path text).expression = none ↔ ∀ v, .var v ∉ scan text.toList) ∧
    ∀ e, (Template.compile path text).expression = some e →
      e.toList = (scan text.toList).flatMap (fun
        | .literal c => [c]
        | .var ⟨name, none⟩ => "(?<".toList ++ name ++ ">[^/]+)".toList
        | .var ⟨name, some pattern⟩ =>
          "(?<".toList ++ name ++ ['>'] ++ expandClasses pattern ++ [')']) := by
  have none_iff : vars text.toList = [] ↔ ∀ v, .var v ∉ pieces text.toList := by
    simp only [List.eq_nil_iff_forall_not_mem, mem_vars]
  have named : (vars text.toList).map (fun v => String.ofList v.name) =
      (pieces text.toList).filterMap (fun
        | .literal _ => none
        | .var v => some (String.ofList v.name)) := by
    rw [vars, List.map_filterMap]
    congr 1
    funext p
    cases p <;> rfl
  have expressed : (pieces text.toList).flatMap Piece.expression =
      (pieces text.toList).flatMap (fun
        | .literal c => [c]
        | .var ⟨name, none⟩ => "(?<".toList ++ name ++ ">[^/]+)".toList
        | .var ⟨name, some pattern⟩ =>
          "(?<".toList ++ name ++ ['>'] ++ expandClasses pattern ++ [')']) := by
    congr 1
    funext p
    obtain c | ⟨name, _ | pattern⟩ := p
    · rfl
    · simp [Piece.expression, Variable.group, segment]
    · simp [Piece.expression, Variable.group]
  rw [← pieces_eq_scan, ← expressed, ← named, ← none_iff, expression_eq_none]
  exact ⟨rfl, rfl, rfl, Iff.rfl, fun e here => expression_of_compile here⟩

/-- A colon without a blank belongs to the name, a brace that closes nothing is text, the first of two
colons with blanks splits, and a line break anywhere else leaves the opening brace as text. -/
example : scan "/\x7ba:b\x7d\x7d\x7bd: e: f\x7d\x7bg\n\x7d".toList =
    [.literal '/', .var ⟨"a:b".toList, none⟩, .literal '\x7d', .var ⟨['d'], some "e: f".toList⟩,
      .literal '\x7b', .literal 'g', .literal '\n', .literal '\x7d'] := by
  simp [scan, Variable.ofInner?, splitBlank, isBlankChar]

end EndpointRouting.Template
