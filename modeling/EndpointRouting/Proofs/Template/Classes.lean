import EndpointRouting.Proofs.Lists
import EndpointRouting.Template
import Mathlib.Data.List.Infix

/-!
# Names of classes in patterns

The classes are replaced one after the other, each in what the ones before it left. A set begins and
ends with characters that no name of a class has, and there is no name in it, so what stands around
it makes no name together with it: replacing goes on before the set and behind it, each by itself.
-/

namespace EndpointRouting.Template

/-! ### One replacement -/

theorem drop_of_append {old rest later : List Char} {c : Char} (named : old ≠ [])
    (front : old ++ later = c :: rest) : rest.drop (old.length - 1) = later := by
  obtain ⟨o, os, rfl⟩ := List.exists_cons_of_ne_nil named
  obtain ⟨-, rfl⟩ := List.cons.inj front
  exact List.drop_left

/-- A text ends, or begins with `old`, or begins with a character at which there is no `old`. -/
@[elab_as_elim]
theorem replaceAll_induction {old : List Char} (named : old ≠ []) {motive : List Char → Prop}
    (nil : motive []) (found : ∀ rest, motive rest → motive (old ++ rest))
    (kept : ∀ c rest, ¬ old <+: c :: rest → motive rest → motive (c :: rest)) (cs : List Char) :
    motive cs := by
  induction cs using replaceAll.induct old with
  | case1 => exact nil
  | case2 c rest front ih =>
    obtain ⟨later, same⟩ := List.isPrefixOf_iff_prefix.mp front
    rw [drop_of_append named same] at ih
    rw [← same]
    exact found later ih
  | case3 c rest elsewhere ih =>
    rw [List.isPrefixOf_iff_prefix] at elsewhere
    exact kept c rest elsewhere ih

theorem replaceAll_nil (old new : List Char) : replaceAll old new [] = [] := by
  rw [replaceAll]

theorem replaceAll_found {old : List Char} (named : old ≠ []) (new rest : List Char) :
    replaceAll old new (old ++ rest) = new ++ replaceAll old new rest := by
  obtain ⟨c, after, same⟩ :=
    List.exists_cons_of_ne_nil (List.append_ne_nil_of_left_ne_nil named rest)
  have front : old.isPrefixOf (c :: after) = true := by
    rw [List.isPrefixOf_iff_prefix, ← same]
    exact List.prefix_append old rest
  rw [same, replaceAll, if_pos front, drop_of_append named same]

theorem replaceAll_kept {old rest : List Char} {c : Char} (elsewhere : ¬ old <+: c :: rest)
    (new : List Char) : replaceAll old new (c :: rest) = c :: replaceAll old new rest := by
  rw [← List.isPrefixOf_iff_prefix] at elsewhere
  rw [replaceAll, if_neg elsewhere]

theorem replaceAll_of_not_infix {old cs : List Char} (absent : ¬ old <:+: cs) (new : List Char) :
    replaceAll old new cs = cs := by
  have named : old ≠ [] := by
    rintro rfl
    exact absent List.nil_infix
  induction cs using replaceAll_induction named with
  | nil => exact replaceAll_nil old new
  | found rest _ => exact absurd (List.prefix_append old rest).isInfix absent
  | kept c rest elsewhere ih =>
    rw [replaceAll_kept elsewhere, ih fun present => absent (List.infix_cons present)]

/-- A character that `old` does not have divides the text. -/
theorem replaceAll_append_cons {old : List Char} {c : Char} (named : old ≠ []) (apart : c ∉ old)
    (new a b : List Char) :
    replaceAll old new (a ++ c :: b) = replaceAll old new a ++ c :: replaceAll old new b := by
  induction a using replaceAll_induction named with
  | nil =>
    have elsewhere : ¬ old <+: c :: b := fun front =>
      named (List.prefix_nil.mp (prefix_of_append_cons (a := []) apart front))
    rw [List.nil_append, replaceAll_kept elsewhere, replaceAll_nil, List.nil_append]
  | found rest ih =>
    rw [List.append_assoc, replaceAll_found named, ih, replaceAll_found named, List.append_assoc]
  | kept d rest elsewhere ih =>
    have still : ¬ old <+: d :: (rest ++ c :: b) := fun front =>
      elsewhere (prefix_of_append_cons apart front)
    rw [List.cons_append, replaceAll_kept still, ih, replaceAll_kept elsewhere, List.cons_append]

/-! ### Texts that no name reaches into -/

/-- Text that begins and ends with characters that the name does not have, and has no name in
between. -/
inductive Walled (name : List Char) : List Char → Prop where
  | between {l r : Char} {inner : List Char} (left : l ∉ name) (right : r ∉ name)
      (free : ¬ name <:+: inner) : Walled name (l :: (inner ++ [r]))

variable {name text old new : List Char}

/-- Wherever a name stands, it stands before the text or behind it. -/
theorem Walled.beside {a b before after : List Char} (walled : Walled name text)
    (split : a ++ text ++ b = before ++ name ++ after) :
    (∃ mid, a = before ++ name ++ mid) ∨ ∃ mid, b = mid ++ name ++ after := by
  cases walled with
  | @between l r inner left right free =>
    have parts : a ++ l :: (inner ++ r :: b) = before ++ name ++ after := by
      rw [← split]
      simp
    rcases split_apart left parts with ⟨mid, first, -⟩ | ⟨mid, -, parts⟩
    · exact .inl ⟨mid, first⟩
    · rcases split_apart right parts with ⟨rest, within, -⟩ | ⟨rest, -, second⟩
      · exact absurd ⟨mid, rest, within.symm⟩ free
      · exact .inr ⟨rest, second⟩

theorem replaceAll_walled (named : old ≠ []) (walled : Walled old text) (new a b : List Char) :
    replaceAll old new (a ++ text ++ b) = replaceAll old new a ++ text ++ replaceAll old new b := by
  cases walled with
  | @between l r inner left right free =>
    have parts : a ++ l :: (inner ++ [r]) ++ b = a ++ l :: (inner ++ r :: b) := by simp
    rw [parts, replaceAll_append_cons named left, replaceAll_append_cons named right,
      replaceAll_of_not_infix free]
    simp

/-- What a replaced text begins with, the text began with. -/
theorem prefix_of_prefix_replaceAll {cs : List Char} (named : old ≠ []) (walled : Walled name new)
    (front : name <+: replaceAll old new cs) : name <+: cs := by
  obtain @⟨l, r, inner, left, -, -⟩ := walled
  -- the name does not have the first character of `new`, so it ends before the first replacement
  induction cs using replaceAll_induction named generalizing name with
  | nil => rwa [replaceAll_nil] at front
  | found rest _ =>
    rw [replaceAll_found named] at front
    cases name with
    | nil => exact List.nil_prefix
    | cons n ns =>
      obtain ⟨rfl, -⟩ := List.cons_prefix_cons.mp front
      exact absurd List.mem_cons_self left
  | kept c rest elsewhere ih =>
    rw [replaceAll_kept elsewhere] at front
    cases name with
    | nil => exact List.nil_prefix
    | cons n ns =>
      obtain ⟨rfl, further⟩ := List.cons_prefix_cons.mp front
      rw [List.mem_cons, not_or] at left
      exact List.cons_prefix_cons.mpr ⟨rfl, ih left.2 further⟩

/-- A replacement makes no name, and leaves none of those that it replaces. -/
theorem infix_of_infix_replaceAll {cs : List Char} (named : old ≠ []) (walled : Walled name new)
    (present : name <:+: replaceAll old new cs) : name ≠ old ∧ name <:+: cs := by
  induction cs using replaceAll_induction named with
  | nil =>
    rw [replaceAll_nil] at present
    rw [List.infix_nil.mp present]
    exact ⟨named.symm, List.nil_infix⟩
  | found rest ih =>
    rw [replaceAll_found named] at present
    obtain ⟨before, after, split⟩ := present
    rcases walled.beside (a := []) split.symm with ⟨mid, first⟩ | ⟨mid, second⟩
    · have empty : name = [] := by
        rw [List.nil_eq, List.append_eq_nil_iff, List.append_eq_nil_iff] at first
        exact first.1.2
      rw [empty]
      exact ⟨named.symm, List.nil_infix⟩
    · obtain ⟨other, earlier⟩ := ih ⟨mid, after, second.symm⟩
      exact ⟨other, List.infix_append_of_infix_right earlier⟩
  | kept c rest elsewhere ih =>
    have whole := replaceAll_kept elsewhere new
    rw [whole, List.infix_cons_iff] at present
    rcases present with front | later
    · rw [← whole] at front
      have before := prefix_of_prefix_replaceAll named walled front
      refine ⟨?_, before.isInfix⟩
      rintro rfl
      exact elsewhere before
    · obtain ⟨other, earlier⟩ := ih later
      exact ⟨other, List.infix_cons earlier⟩

/-! ### Classes one after the other -/

/-- The names of the classes replaced, one class after the other. -/
def expandBy (es : List (List Char × List Char)) (cs : List Char) : List Char :=
  es.foldl (fun p e => replaceAll e.1 e.2 p) cs

theorem expandClasses_eq (p : List Char) : expandClasses p = expandBy classes p := rfl

section
variable {e : List Char × List Char} {es : List (List Char × List Char)} {cs : List Char}

theorem expandBy_cons : expandBy (e :: es) cs = expandBy es (replaceAll e.1 e.2 cs) := rfl

theorem expandBy_of_absent (absent : ∀ e ∈ es, ¬ e.1 <:+: cs) : expandBy es cs = cs := by
  induction es with
  | nil => rfl
  | cons e es ih =>
    rw [List.forall_mem_cons] at absent
    rw [expandBy_cons, replaceAll_of_not_infix absent.1, ih absent.2]

theorem expandBy_append_cons {c : Char} (named : ∀ e ∈ es, e.1 ≠ []) (apart : ∀ e ∈ es, c ∉ e.1)
    (a b : List Char) : expandBy es (a ++ c :: b) = expandBy es a ++ c :: expandBy es b := by
  induction es generalizing a b with
  | nil => rfl
  | cons e es ih =>
    rw [List.forall_mem_cons] at named apart
    rw [expandBy_cons, replaceAll_append_cons named.1 apart.1, ih named.2 apart.2]
    rfl

theorem expandBy_walled (named : ∀ e ∈ es, e.1 ≠ []) (walled : ∀ e ∈ es, Walled e.1 text)
    (a b : List Char) :
    expandBy es (a ++ text ++ b) = expandBy es a ++ text ++ expandBy es b := by
  induction es generalizing a b with
  | nil => rfl
  | cons e es ih =>
    rw [List.forall_mem_cons] at named walled
    rw [expandBy_cons, replaceAll_walled named.1 walled.1, ih named.2 walled.2]
    rfl

theorem infix_of_infix_expandBy (named : ∀ e ∈ es, e.1 ≠ []) (walled : ∀ e ∈ es, Walled name e.2)
    (present : name <:+: expandBy es cs) : (∀ e ∈ es, name ≠ e.1) ∧ name <:+: cs := by
  induction es generalizing cs with
  | nil => exact ⟨fun e member => absurd member List.not_mem_nil, present⟩
  | cons e es ih =>
    rw [List.forall_mem_cons] at named walled
    rw [expandBy_cons] at present
    obtain ⟨others, left⟩ := ih named.2 walled.2 present
    obtain ⟨other, earlier⟩ := infix_of_infix_replaceAll named.1 walled.1 left
    exact ⟨List.forall_mem_cons.mpr ⟨other, others⟩, earlier⟩

end

theorem classes_named : ∀ e ∈ classes, e.1 ≠ [] := by decide +kernel

theorem classes_walled : ∀ e ∈ classes, ∀ other ∈ classes, Walled other.1 e.2 := by
  have colon : ∀ other ∈ classes, ':' ∈ other.1 := by decide +kernel
  have parts : ∀ e ∈ classes, ∃ l inner r, e.2 = l :: (inner ++ [r]) ∧ ':' ∉ inner ∧
      ∀ other ∈ classes, l ∉ other.1 ∧ r ∉ other.1 := by
    simp only [classes, List.forall_mem_cons]
    exact ⟨⟨'[', "0-9A-Za-z".toList, ']', by decide +kernel⟩,
      ⟨'\\', "p\x7bL".toList, '\x7d', by decide +kernel⟩,
      ⟨'[', "\\x00-\\x7F".toList, ']', by decide +kernel⟩,
      ⟨'[', "0-9".toList, ']', by decide +kernel⟩,
      ⟨'[', "0-9A-Fa-f".toList, ']', by decide +kernel⟩,
      fun e member => absurd member List.not_mem_nil⟩
  intro e member other named
  obtain ⟨l, inner, r, same, no_colon, apart⟩ := parts e member
  obtain ⟨left, right⟩ := apart other named
  rw [same]
  exact .between left right fun present => no_colon (present.subset (colon other named))

/-- In an expanded pattern there is no name of a class, so expanding it again changes nothing, and a
pattern is as it was just if there is no name in it. A character that no name has divides a pattern:
what stands before it and behind it is expanded by itself. So does each of the sets, whichever of the
classes are still to be replaced, and whatever stands around it every name stands wholly before it
or wholly behind it. -/
theorem expandClasses_separates (p : List Char) :
    (∀ e ∈ classes, ¬ e.1 <:+: expandClasses p) ∧
    expandClasses (expandClasses p) = expandClasses p ∧
    (expandClasses p = p ↔ ∀ e ∈ classes, ¬ e.1 <:+: p) ∧
    (∀ c a b, (∀ e ∈ classes, c ∉ e.1) →
      expandClasses (a ++ c :: b) = expandClasses a ++ c :: expandClasses b) ∧
    ∀ e ∈ classes, ∀ a b,
      (∀ later, later <:+ classes →
        expandBy later (a ++ e.2 ++ b) = expandBy later a ++ e.2 ++ expandBy later b) ∧
      ∀ other ∈ classes, ∀ before after, a ++ e.2 ++ b = before ++ other.1 ++ after →
        (∃ mid, a = before ++ other.1 ++ mid) ∨ ∃ mid, b = mid ++ other.1 ++ after := by
  have gone (q : List Char) : ∀ e ∈ classes, ¬ e.1 <:+: expandClasses q := by
    intro e member present
    have walled : ∀ other ∈ classes, Walled e.1 other.2 :=
      fun other named => classes_walled other named e member
    rw [expandClasses_eq] at present
    exact (infix_of_infix_expandBy classes_named walled present).1 e member rfl
  have kept (q : List Char) : (∀ e ∈ classes, ¬ e.1 <:+: q) → expandClasses q = q :=
    expandBy_of_absent
  refine ⟨gone p, kept _ (gone p), ⟨fun same => ?_, kept p⟩, fun c a b apart => ?_, ?_⟩
  · rw [← same]
    exact gone p
  · rw [expandClasses_eq, expandBy_append_cons classes_named apart]
    rfl
  · intro e member a b
    refine ⟨fun later ending => ?_, fun other named before after split => ?_⟩
    · have named : ∀ other ∈ later, other.1 ≠ [] :=
        fun other present => classes_named other (ending.mem present)
      have walled : ∀ other ∈ later, Walled other.1 e.2 :=
        fun other present => classes_walled e member other (ending.mem present)
      exact expandBy_walled named walled a b
    · exact (classes_walled e member other named).beside split

/-- A hyphen divides a pattern. The colon that two names share before it goes to the class that is
replaced first, though its name begins later. -/
theorem expandClasses_separates_hyphen :
    (∀ e ∈ classes, '-' ∉ e.1) ∧
      expandClasses (":digit:alpha:".toList ++ '-' :: ":xdigit:".toList) =
        ":digit\\p\x7bL\x7d".toList ++ '-' :: "[0-9A-Fa-f]".toList := by
  have apart : ∀ e ∈ classes, '-' ∉ e.1 := by decide +kernel
  have first : expandClasses ":digit:alpha:".toList = ":digit\\p\x7bL\x7d".toList := by
    decide +kernel
  have second : expandClasses ":xdigit:".toList = "[0-9A-Fa-f]".toList := by decide +kernel
  obtain ⟨-, -, -, divided, -⟩ := expandClasses_separates []
  rw [divided '-' _ _ apart, first, second]
  exact ⟨apart, rfl⟩

end EndpointRouting.Template
