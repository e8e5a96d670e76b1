import EndpointRouting.Grammar.Item
import Mathlib.Logic.Relation

/-!
# How tokens are printed

Constructs that were read are printed as they are written, but for a few that have a form in which
they are always printed. `Prints` says that of two texts. A reader takes tokens from the front:
what it took and what it leaves are the tokens that it was given, and what it printed and what it
leaves is how these are printed. That is `Onto`, shown here for single tokens, for groups and for
repeated parts, over readers of which it is known.
-/

namespace EndpointRouting.Grammar
open Token Tree

/-! ### Texts -/

/-- What may come after a colon without bounds. -/
def boundsEnds : List String := [",", ">", "=", ";", "where", "\x7b"]

/-- What may come after a where clause. -/
def clauseEnds : List String := ["\x7b", ";", "="]

/-- A construct as it is written, and as it is printed. -/
inductive NormalForm : List String → List String → Prop
  /-- A where clause without predicates. -/
  | clause {next : String} (ends : next ∈ clauseEnds) : NormalForm ["where", next] [next]
  /-- A colon without bounds. -/
  | colon {next : String} (ends : next ∈ boundsEnds) : NormalForm [":", next] [next]
  /-- Angles without parameters. -/
  | angles : NormalForm ["<", ">"] []
  /-- Between angles lifetimes come first. -/
  | lifetimes (items : List Angled)
      (quoted : ∀ a ∈ items, a.lifetime → "'" ∈ leavesOf a.printed) :
      NormalForm ("<" :: leavesOf (items.flatMap (·.written)) ++ [">"])
        ("<" :: leavesOf (lifetimesFirst items) ++ [">"])
  /-- The mark of a relaxed bound comes before bound lifetimes. -/
  | relaxed (bound : List String) :
      NormalForm ("for" :: "<" :: bound ++ [">", "?"]) ("?" :: "for" :: "<" :: bound ++ [">"])
  /-- Colons before arguments in parentheses. -/
  | called : NormalForm [":", ":", "("] ["("]
  /-- A number of a member, which is printed in decimal digits. -/
  | index {text : String} {n : Nat} (value : index? text.toList = some n) :
      NormalForm [text] [toString n]
  /-- A number of a member with the point after it. -/
  | pointed {text : String} {digits : List Char} {n : Nat} (written : text.toList = digits ++ ['.'])
      (value : index? digits = some n) : NormalForm [text] [toString n, "."]
  /-- Two numbers of members with a point between them. -/
  | indexes {text : String} {left right : List Char} {m n : Nat}
      (written : text.toList = left ++ '.' :: right)
      (first : index? left = some m) (second : index? right = some n) :
      NormalForm [text] [toString m, ".", toString n]
  /-- An argument without a name. -/
  | blank {i : Identifier} (named : isName i) :
      NormalForm [i.spelling, "<"] ["_", ":", i.spelling, "<"]
  /-- A type between nothing with a member after it. -/
  | qualified (type : List String) :
      NormalForm (type ++ [":", ":"]) ("<" :: type ++ [">", ":", ":"])
  /-- The visibility of a variant. -/
  | visibility {i : Identifier} (named : isName i) : NormalForm ["pub", i.spelling] [i.spelling]
  /-- The visibility of a variant, where it is limited. -/
  | limited {i : Identifier} (named : isName i) (place : List String) :
      NormalForm ("pub" :: "(" :: place ++ [")", i.spelling]) [i.spelling]

/-- One construct in a text gets the form in which it is printed. -/
inductive PrintStep : List String → List String → Prop
  | mk {a b : List String} (before after : List String) (form : NormalForm a b) :
      PrintStep (before ++ a ++ after) (before ++ b ++ after)

/-- How a text is printed: only constructs with a normal form are written differently. -/
def Prints : List String → List String → Prop := Relation.ReflTransGen PrintStep

namespace Prints

variable {a b c d : List String}

theorem refl (a : List String) : Prints a a := Relation.ReflTransGen.refl

theorem trans (first : Prints a b) (second : Prints b c) : Prints a c :=
  Relation.ReflTransGen.trans first second

theorem of_eq (same : a = b) : Prints a b := same ▸ refl a

theorem inside (before after : List String) (h : Prints a b) :
    Prints (before ++ a ++ after) (before ++ b ++ after) := by
  induction h with
  | refl => exact refl _
  | tail _ step ih =>
    obtain ⟨left, right, form⟩ := step
    refine ih.tail ?_
    have wider := PrintStep.mk (before ++ left) (right ++ after) form
    simpa only [List.append_assoc] using wider

theorem left (before : List String) (h : Prints a b) : Prints (before ++ a) (before ++ b) := by
  simpa using h.inside before []

theorem right (after : List String) (h : Prints a b) : Prints (a ++ after) (b ++ after) :=
  h.inside [] after

theorem append (first : Prints a b) (second : Prints c d) : Prints (a ++ c) (b ++ d) :=
  (first.right c).trans (second.left b)

theorem of_form (before after : List String) (form : NormalForm a b) :
    Prints (before ++ a ++ after) (before ++ b ++ after) :=
  .single (.mk before after form)

end Prints

variable {ts rest : List Tree} {c d e : Cursor}

/-- A step and what follows it, where both give something. -/
theorem bind_some_iff {α β : Type} {x : Option α} {f : α → Option β} {b : β} :
    x >>= f = some b ↔ ∃ a, x = some a ∧ f a = some b :=
  Option.bind_eq_some_iff

/-! ### Tokens of a list -/

theorem eq_of_word {w : String} (h : word w ts = some rest) : ts = .ident ⟨w, false⟩ :: rest := by
  unfold word at h
  split at h
  · rename_i i others
    split at h
    · rename_i plain
      cases h
      obtain ⟨raw, rfl⟩ : i.raw = false ∧ i.text = w := by simpa using plain
      rw [← raw]
    · cases h
  · cases h

theorem eq_of_name {i : Identifier} (h : name ts = some (i, rest)) :
    ts = .ident i :: rest ∧ isName i := by
  unfold name at h
  grind

theorem suffix_of_anyWord {i : Identifier} (h : anyWord ts = some (i, rest)) : rest <:+ ts := by
  unfold anyWord at h
  grind

theorem split_of_punctChars {cs : List Char} (h : punctChars cs ts = some rest) :
    rest <:+ ts ∧ leavesOf ts = cs.map String.singleton ++ leavesOf rest := by
  have cons (t : Tree) (ts : List Tree) : ts <:+ t :: ts := List.suffix_cons t ts
  fun_induction punctChars cs ts <;> grind [List.IsSuffix.trans, leavesOf, leaves]

theorem suffix_of_mark {s : String} (h : mark s ts = some rest) : rest <:+ ts :=
  (split_of_punctChars h).1

theorem leavesOf_of_mark {s : String} (h : mark s ts = some rest) :
    leavesOf ts = s.toList.map String.singleton ++ leavesOf rest :=
  (split_of_punctChars h).2

theorem suffix_of_lifetime (h : lifetime ts = some rest) : rest <:+ ts := by
  unfold lifetime at h
  split at h
  · cases h
    exact ⟨[_, _], rfl⟩
  · cases h

theorem eq_of_group {d : Delimiter} {content : List Tree}
    (h : group d ts = some (content, rest)) : ts = .group d content :: rest := by
  unfold group at h
  grind

theorem suffix_of_anyGroup {d : Delimiter} (h : anyGroup ts = some (d, rest)) : rest <:+ ts := by
  unfold anyGroup at h
  grind

theorem suffix_of_literal (h : literal ts = some rest) : rest <:+ ts := by
  have word_suffix {w} (h : word w ts = some rest) : rest <:+ ts :=
    eq_of_word h ▸ List.suffix_cons _ _
  unfold literal at h
  split at h
  · cases h
    exact List.suffix_cons _ _
  · cases h
    exact ⟨[_, _], rfl⟩
  · cases h
    exact ⟨[_, _], rfl⟩
  · rcases Option.or_eq_some_iff.mp h with h | ⟨-, h⟩ <;> exact word_suffix h

theorem next_suffix (ts : List Tree) : next ts <:+ ts := by
  unfold next
  cases h : lifetime ts with
  | none => exact List.tail_suffix ts
  | some rest => exact suffix_of_lifetime h

theorem taken_append (h : rest <:+ ts) : taken ts rest ++ rest = ts := by
  obtain ⟨front, rfl⟩ := h
  simp [taken]

theorem leavesOf_taken (h : rest <:+ ts) :
    leavesOf (taken ts rest) ++ leavesOf rest = leavesOf ts := by
  rw [← leavesOf_append, taken_append h]

theorem leavesOf_group (d : Delimiter) (content rest : List Tree) :
    leavesOf (.group d content :: rest) = (d.opening?.map String.singleton).toList ++
      leavesOf content ++ ((d.closing?.map String.singleton).toList ++ leavesOf rest) := by
  simp [leavesOf, leaves]

/-! ### Cursors -/

namespace Cursor

/-- The tokens that were taken and those that are left. -/
def text (c : Cursor) : List String := leavesOf c.source ++ leavesOf c.rest

/-- How the tokens are printed that were taken, and those that are left. -/
def shown (c : Cursor) : List String := leavesOf c.printed ++ leavesOf c.rest

theorem leavesOf_ahead (c : Cursor) : leavesOf c.ahead = leavesOf c.rest := leavesOf_front c.rest

end Cursor

/-- A reader that stood at `c` stands at `d`. -/
structure Onto (c d : Cursor) : Prop where
  text : d.text = c.text
  shown : Prints c.shown d.shown

namespace Onto

theorem refl (c : Cursor) : Onto c c := ⟨rfl, .refl _⟩

theorem trans (first : Onto c d) (second : Onto d e) : Onto c e :=
  ⟨second.text.trans first.text, first.shown.trans second.shown⟩

grind_pattern refl => Onto c c
grind_pattern trans => Onto c d, Onto d e

/-- What was taken from the front of a list is how its tokens are printed. -/
theorem prints (h : Onto (.start ts) d) :
    Prints (leavesOf ts) (leavesOf d.printed ++ leavesOf d.rest) :=
  h.shown

theorem split (h : Onto (.start ts) d) : leavesOf ts = leavesOf d.source ++ leavesOf d.rest :=
  h.text.symm

end Onto

/-- Whatever is taken is printed as it can be. -/
def Keeps (f : Cursor → Option Cursor) : Prop := ∀ ⦃c d⦄, f c = some d → Onto c d

/-- What a reader makes of all tokens is how they are printed. -/
def Reprints (f : List Tree → Option (List Tree)) : Prop :=
  ∀ ⦃ts printed⦄, f ts = some printed → Prints (leavesOf ts) (leavesOf printed)

theorem text_resume (text : leavesOf c.rest = leavesOf d.source ++ leavesOf d.rest)
    (printed : List Tree) : (c.resume d printed).text = c.text := by
  simp only [Cursor.resume, Cursor.text, leavesOf_append, List.append_assoc, text]

theorem text_follow (text : d.text = leavesOf c.rest) : (c.follow d).text = c.text :=
  text_resume text.symm _

theorem onto_resume {printed : List Tree}
    (text : leavesOf c.rest = leavesOf d.source ++ leavesOf d.rest)
    (prints : Prints (leavesOf c.rest) (leavesOf printed ++ leavesOf d.rest)) :
    Onto c (c.resume d printed) := by
  refine ⟨text_resume text printed, ?_⟩
  have later := prints.left (leavesOf c.printed)
  simpa only [Cursor.resume, Cursor.shown, leavesOf_append, List.append_assoc] using later

theorem onto_follow (h : Onto (.start c.rest) d) : Onto c (c.follow d) :=
  onto_resume h.split h.prints

/-- What was read is printed as it is written. -/
theorem onto_resume_source (h : Onto (.start c.rest) d) : Onto c (c.resume d d.source) :=
  onto_resume h.split (.of_eq h.split)

theorem text_drop (h : rest <:+ c.ahead) : (c.drop rest).text = c.text := by
  have whole := leavesOf_taken h
  rw [c.leavesOf_ahead] at whole
  simp only [Cursor.drop, Cursor.text, leavesOf_append, List.append_assoc, whole]

theorem onto_upTo (h : rest <:+ c.ahead) : Onto c (c.upTo rest) := by
  refine ⟨text_drop h, .of_eq ?_⟩
  have whole := leavesOf_taken h
  rw [c.leavesOf_ahead] at whole
  simp only [Cursor.upTo, Cursor.drop, Cursor.write, Cursor.shown, leavesOf_append,
    List.append_assoc, whole]

@[grind →] theorem onto_of_word {w : String} (h : c.word w = some d) : Onto c d := by
  obtain ⟨rest, found, rfl⟩ := Option.map_eq_some_iff.mp h
  exact onto_upTo (eq_of_word found ▸ List.suffix_cons _ _)

@[grind →] theorem onto_of_mark {s : String} (h : c.mark s = some d) : Onto c d := by
  obtain ⟨rest, found, rfl⟩ := Option.map_eq_some_iff.mp h
  exact onto_upTo (suffix_of_mark found)

@[grind →] theorem onto_of_lifetime (h : c.lifetime = some d) : Onto c d := by
  obtain ⟨rest, found, rfl⟩ := Option.map_eq_some_iff.mp h
  exact onto_upTo (suffix_of_lifetime found)

@[grind →] theorem onto_of_literal (h : c.literal = some d) : Onto c d := by
  obtain ⟨rest, found, rfl⟩ := Option.map_eq_some_iff.mp h
  exact onto_upTo (suffix_of_literal found)

@[grind →] theorem onto_of_name {i : Identifier} (h : c.name = some (i, d)) : Onto c d := by
  obtain ⟨⟨j, rest⟩, found, same⟩ := Option.map_eq_some_iff.mp h
  cases same
  exact onto_upTo ((eq_of_name found).1 ▸ List.suffix_cons _ _)

@[grind →] theorem onto_of_anyWord {i : Identifier} (h : c.anyWord = some (i, d)) : Onto c d := by
  obtain ⟨⟨j, rest⟩, found, same⟩ := Option.map_eq_some_iff.mp h
  cases same
  exact onto_upTo (suffix_of_anyWord found)

@[grind →] theorem onto_of_anyGroup {m : Delimiter} (h : c.anyGroup = some (m, d)) : Onto c d := by
  obtain ⟨⟨m, rest⟩, found, same⟩ := Option.map_eq_some_iff.mp h
  cases same
  exact onto_upTo (suffix_of_anyGroup found)

theorem onto_next (c : Cursor) : Onto c c.next := onto_upTo (next_suffix c.ahead)

theorem onto_getD {x : Option Cursor} (h : ∀ d, x = some d → Onto c d) : Onto c (x.getD c) := by
  cases x with
  | none => exact .refl c
  | some d => exact h d rfl

theorem onto_skipWord (w : String) (c : Cursor) : Onto c (c.skipWord w) :=
  onto_getD fun _ => onto_of_word

theorem onto_skipMark (s : String) (c : Cursor) : Onto c (c.skipMark s) :=
  onto_getD fun _ => onto_of_mark

theorem onto_skipLifetime (c : Cursor) : Onto c c.skipLifetime :=
  onto_getD fun _ => onto_of_lifetime

grind_pattern onto_next => c.next
grind_pattern onto_skipWord => c.skipWord w
grind_pattern onto_skipMark => c.skipMark s
grind_pattern onto_skipLifetime => c.skipLifetime

/-! ### Groups -/

/-- The content of a group is printed by `inside`, which is asked about that content only. -/
theorem onto_of_group {m : Delimiter} {inside : List Tree → Option (List Tree)}
    (prints : ∀ {content rest printed}, group m c.ahead = some (content, rest) →
      inside content = some printed → Prints (leavesOf content) (leavesOf printed))
    (h : c.within m inside = some d) : Onto c d := by
  obtain ⟨⟨content, rest⟩, found, h⟩ := bind_some_iff.mp h
  obtain ⟨printed, shown, h⟩ := bind_some_iff.mp h
  cases h
  have left : leavesOf c.rest = leavesOf (.group m content :: rest) := by
    rw [← eq_of_group found, c.leavesOf_ahead]
  constructor
  · simp [Cursor.text, leavesOf_append, left, leavesOf]
  · have own := (prints found shown).inside
      (leavesOf c.printed ++ (m.opening?.map String.singleton).toList)
      ((m.closing?.map String.singleton).toList ++ leavesOf rest)
    simpa [Cursor.shown, leavesOf_append, left, leavesOf, leaves] using own

@[grind →] theorem onto_of_within {m : Delimiter} {inside : List Tree → Option (List Tree)}
    (prints : Reprints inside) (h : c.within m inside = some d) : Onto c d :=
  onto_of_group (fun _ shown => prints shown) h

theorem onto_of_read {f : List Tree → Option Cursor}
    (takes : ∀ {d}, f c.rest = some d → Onto (.start c.rest) d) (h : c.read f = some d) :
    Onto c d := by
  obtain ⟨e, found, rfl⟩ := Option.map_eq_some_iff.mp h
  exact onto_follow (takes found)

theorem onto_of_verbatim {f : Cursor → Option Cursor} (keeps : Keeps f)
    (h : c.verbatim f = some d) : Onto c d := by
  obtain ⟨e, found, rfl⟩ := Option.map_eq_some_iff.mp h
  exact onto_resume_source (keeps found)

/-! ### Repeated parts -/

theorem prints_of_finish {printed : List Tree} (h : Onto (.start ts) d)
    (all : d.finish = some printed) : Prints (leavesOf ts) (leavesOf printed) := by
  unfold Cursor.finish at all
  split at all
  · rename_i done
    cases all
    simpa [List.isEmpty_iff.mp done, leavesOf] using h.prints
  · cases all

theorem reprints_whole {f : Cursor → Option Cursor} (keeps : Keeps f) : Reprints (whole f) := by
  intro ts printed h
  obtain ⟨d, read, all⟩ := Option.bind_eq_some_iff.mp h
  exact prints_of_finish (keeps read) all

/-- Repeated items are printed one after the other. -/
theorem keeps_chain {item : Cursor → Option Cursor} {sep : String} {stop : List Tree → Bool}
    (keeps : Keeps item) : Keeps (chain item sep stop) := by
  intro c d h
  unfold chain at h
  generalize c.size + 1 = fuel at h
  induction fuel generalizing c with
  | zero => cases h
  | succ fuel ih =>
    unfold chainFrom at h
    split at h
    · cases h
      exact .refl _
    · obtain ⟨after, read, h⟩ := bind_some_iff.mp h
      have := keeps read
      grind

theorem reprints_commaSeparated {item : Cursor → Option Cursor} (keeps : Keeps item) :
    Reprints (commaSeparated item) :=
  reprints_whole (keeps_chain keeps)

theorem leavesOf_of_cursorWord {w : String} (h : c.word w = some d) :
    leavesOf c.rest = w :: leavesOf d.rest ∧ leavesOf d.printed = leavesOf c.printed ++ [w] := by
  obtain ⟨rest, found, rfl⟩ := Option.map_eq_some_iff.mp h
  have own := eq_of_word found
  have one : taken c.ahead rest = [.ident ⟨w, false⟩] := by
    rw [own]
    simp [taken]
  constructor
  · rw [← c.leavesOf_ahead, own]
    rfl
  · change leavesOf (c.printed ++ taken c.ahead rest) = _
    rw [one, leavesOf_append]
    rfl

theorem leavesOf_of_cursorName {i : Identifier} (h : c.name = some (i, d)) : isName i ∧
    leavesOf c.rest = i.spelling :: leavesOf d.rest ∧
      leavesOf d.printed = leavesOf c.printed ++ [i.spelling] := by
  obtain ⟨⟨j, rest⟩, found, same⟩ := Option.map_eq_some_iff.mp h
  cases same
  obtain ⟨own, named⟩ := eq_of_name found
  have one : taken c.ahead rest = [.ident i] := by
    rw [own]
    simp [taken]
  refine ⟨named, ?_, ?_⟩
  · rw [← c.leavesOf_ahead, own]
    rfl
  · change leavesOf (c.printed ++ taken c.ahead rest) = _
    rw [one, leavesOf_append]
    rfl

theorem leavesOf_of_cursorMark {s : String} (h : c.mark s = some d) :
    leavesOf c.rest = s.toList.map String.singleton ++ leavesOf d.rest ∧
      leavesOf d.printed = leavesOf c.printed ++ s.toList.map String.singleton := by
  obtain ⟨rest, found, rfl⟩ := Option.map_eq_some_iff.mp h
  have left := leavesOf_of_mark found
  have own : leavesOf (taken c.ahead rest) = s.toList.map String.singleton :=
    List.append_cancel_right ((leavesOf_taken (suffix_of_mark found)).trans left)
  refine ⟨c.leavesOf_ahead ▸ left, ?_⟩
  rw [← own, ← leavesOf_append]
  rfl

/-- Items up to a closing angle, each of which becomes what is written with its comma. -/
theorem prints_of_angledFrom {α : Type} {item : List Tree → Option ((Bool → α) × Cursor)}
    (written : α → List Tree) (good : α → Prop)
    (takes : ∀ {ts make d}, item ts = some (make, d) → Onto (.start ts) d ∧
      ∀ comma, good (make comma) ∧
        leavesOf (written (make comma)) = leavesOf d.printed ++ if comma then [","] else [])
    {fuel : Nat} {items : List α} (h : angledFrom item fuel c = some (items, d)) :
    d.text = c.text ∧ (∀ a ∈ items, good a) ∧
      Prints (leavesOf c.rest) (leavesOf (items.flatMap written) ++ ">" :: leavesOf d.rest) := by
  induction fuel generalizing c items with
  | zero => cases h
  | succ fuel ih =>
    unfold angledFrom at h
    split at h
    · rename_i closed
      cases h
      exact ⟨(onto_of_mark closed).text, by simp, .of_eq (leavesOf_of_cursorMark closed).1⟩
    · obtain ⟨⟨make, own⟩, read, h⟩ := bind_some_iff.mp h
      obtain ⟨onto, becomes⟩ := takes read
      have followed := (onto_follow onto).text
      have first := onto.prints
      have kept : (c.follow own).rest = own.rest := rfl
      dsimp only at h
      split at h
      · rename_i marked
        obtain ⟨⟨others, last⟩, more, h⟩ := bind_some_iff.mp h
        cases h
        obtain ⟨text, all, remaining⟩ := ih more
        obtain ⟨fine, spelled⟩ := becomes true
        refine ⟨text.trans ((onto_of_mark marked).text.trans followed),
          List.forall_mem_cons.mpr ⟨fine, all⟩, first.trans ?_⟩
        have later := remaining.left (leavesOf own.printed ++ [","])
        rw [← kept, (leavesOf_of_cursorMark marked).1]
        simpa [leavesOf_append, spelled] using later
      · obtain ⟨last, closed, h⟩ := bind_some_iff.mp h
        cases h
        obtain ⟨fine, spelled⟩ := becomes false
        refine ⟨(onto_of_mark closed).text.trans followed, by simpa using fine,
          first.trans (.of_eq ?_)⟩
        rw [← kept, (leavesOf_of_cursorMark closed).1]
        simp [spelled]

/-! ### Nested constructs -/

/-- Readers of nested constructs print what they take. -/
structure Recognisers.Faithful (g : Recognisers) : Prop where
  type : ∀ {plus ts form d}, g.type plus ts = some (form, d) → Onto (.start ts) d
  bound : ∀ {ts d}, g.bound ts = some d → Onto (.start ts) d
  predicate : ∀ {ts d}, g.predicate ts = some d → Onto (.start ts) d
  expr : ∀ {structs ts d}, g.expr structs ts = some d → Onto (.start ts) d
  rangeOperand : ∀ {structs ts d}, g.rangeOperand structs ts = some d → Onto (.start ts) d
  standing : ∀ {ts closed d}, g.standing ts = some (closed, d) → Onto (.start ts) d
  pattern : ∀ {bars ts d}, g.pattern bars ts = some d → Onto (.start ts) d
  item : ∀ {ts d}, g.item ts = some d → Onto (.start ts) d
  statements : Reprints g.statements

namespace Recognisers.Faithful

variable {g : Recognisers}

@[grind →] theorem onto_of_typeForm (nested : g.Faithful) {plus : Bool} {form : TypeForm}
    (h : g.typeForm plus c = some (form, d)) : Onto c d := by
  obtain ⟨⟨own, e⟩, read, same⟩ := Option.map_eq_some_iff.mp h
  cases same
  exact onto_follow (nested.type read)

@[grind →] theorem onto_of_plainType (nested : g.Faithful) {plus : Bool}
    (h : g.plainType plus c = some d) : Onto c d := by
  obtain ⟨⟨form, e⟩, read, rfl⟩ := Option.map_eq_some_iff.mp h
  exact nested.onto_of_typeForm read

@[grind →] theorem onto_of_bound (nested : g.Faithful) (h : c.read g.bound = some d) : Onto c d :=
  onto_of_read nested.bound h

@[grind →] theorem onto_of_predicate (nested : g.Faithful) (h : c.read g.predicate = some d) :
    Onto c d :=
  onto_of_read nested.predicate h

@[grind →] theorem onto_of_expr (nested : g.Faithful) {structs : Bool}
    (h : c.read (g.expr structs) = some d) : Onto c d :=
  onto_of_read nested.expr h

@[grind →] theorem onto_of_readRangeOperand (nested : g.Faithful) {structs : Bool}
    (h : c.read (g.rangeOperand structs) = some d) : Onto c d :=
  onto_of_read nested.rangeOperand h

@[grind →] theorem onto_of_pattern (nested : g.Faithful) {bars : Bool}
    (h : c.read (g.pattern bars) = some d) : Onto c d :=
  onto_of_read nested.pattern h

@[grind →] theorem onto_of_item (nested : g.Faithful) (h : c.read g.item = some d) : Onto c d :=
  onto_of_read nested.item h

@[grind →] theorem onto_of_block (nested : g.Faithful) (h : g.block c = some d) : Onto c d :=
  onto_of_within nested.statements h

@[grind →] theorem onto_of_bounds (nested : g.Faithful) {sep : String} {stop : List Tree → Bool}
    (h : chain (·.read g.bound) sep stop c = some d) : Onto c d :=
  keeps_chain (fun _ _ => nested.onto_of_bound) h

end Recognisers.Faithful

end EndpointRouting.Grammar
