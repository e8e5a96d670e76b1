import EndpointRouting.Proofs.Grammar.Printing
import Mathlib.Logic.Basic

/-!
# How attributes and paths are printed

Attributes, arguments between angles and paths, over nested readers that print what they take. Each
lemma opens the branches of one definition. Where a branch takes one part after the other, `grind`
puts the parts together; where it prints another form, the form is named.
-/

namespace EndpointRouting.Grammar
open Token Tree

variable {g : Recognisers} {ts rest : List Tree} {c d e : Cursor}

theorem keeps_plainType (nested : g.Faithful) (plus : Bool) : Keeps (g.plainType plus) :=
  fun _ _ => nested.onto_of_plainType

theorem keeps_lifetime : Keeps (·.lifetime) := fun _ _ => onto_of_lifetime

theorem keeps_bound (nested : g.Faithful) : Keeps (·.read g.bound) :=
  fun _ _ => nested.onto_of_bound

theorem keeps_expr (nested : g.Faithful) (structs : Bool) : Keeps (·.read (g.expr structs)) :=
  fun _ _ => nested.onto_of_expr

/-! ### Attributes -/

@[grind →] theorem onto_of_plainSegments {fuel : Nat} (h : plainSegments fuel c = some d) :
    Onto c d := by
  induction fuel generalizing c with
  | zero => cases h
  | succ fuel ih =>
    unfold plainSegments at h
    obtain ⟨⟨i, after⟩, read, h⟩ := bind_some_iff.mp h
    grind

@[grind →] theorem onto_of_plainPath (h : plainPath c = some d) : Onto c d := by
  unfold plainPath at h
  grind

theorem onto_of_attributeValue (nested : g.Faithful) (h : attributeValue g c = some d) :
    Onto c d := by
  unfold attributeValue at h
  split at h
  · rename_i read
    cases h
    exact onto_of_literal read
  · split at h
    · cases h
    · exact nested.onto_of_expr h

theorem prints_of_attributeForm (nested : g.Faithful) {form : AttributeForm}
    (h : attributeForm g c = some (form, d)) : Prints (leavesOf c.rest)
      (leavesOf (Attribute.formTrees form) ++ leavesOf d.rest) := by
  unfold attributeForm at h
  split at h
  · rename_i m content rest opened
    cases h
    refine .of_eq ?_
    rw [← c.leavesOf_ahead, opened]
    simp [Attribute.formTrees, leavesOf, leaves, leavesOf_flat, Cursor.upTo, Cursor.drop,
      Cursor.write]
  · split at h
    · rename_i after marked
      obtain ⟨value, read, same⟩ := Option.map_eq_some_iff.mp h
      cases same
      have given := (onto_of_attributeValue nested read).prints.left ["="]
      rw [(leavesOf_of_cursorMark marked).1]
      simpa [Attribute.formTrees, leavesOf, leaves, Cursor.follow, Cursor.resume] using given
    · cases h
      exact .refl _

theorem prints_of_attributeContent (nested : g.Faithful) {inner : Bool} {a : Attribute}
    (h : attributeContent g inner ts = some a) : a.inner = inner ∧
      Prints (leavesOf ts) (leavesOf (a.path ++ Attribute.formTrees a.form)) := by
  unfold attributeContent at h
  dsimp only at h
  split at h <;>
  · obtain ⟨path, named, h⟩ := bind_some_iff.mp h
    have onto : Onto (.start ts) path := by grind
    obtain ⟨⟨form, left⟩, formed, h⟩ := bind_some_iff.mp h
    split at h
    · rename_i whole
      cases whole
      cases h
      have later := (prints_of_attributeForm nested formed).left (leavesOf path.printed)
      refine ⟨rfl, onto.prints.trans ?_⟩
      simpa [leavesOf_append, leavesOf] using later
    · cases h

/-- An attribute is printed with its marks and its brackets. -/
theorem onto_write_attribute (nested : g.Faithful) {a : Attribute} {inner : Bool}
    {content : List Tree} (read : attributeContent g inner content = some a)
    (left : leavesOf c.rest =
      ["#"] ++ (if inner then ["!"] else []) ++ ["["] ++ leavesOf content ++ "]" :: leavesOf d.rest)
    (text : d.text = c.text) (printed : d.printed = c.printed) : Onto c (d.write a.trees) := by
  refine ⟨text, ?_⟩
  obtain ⟨rfl, prints⟩ := prints_of_attributeContent nested read
  have inside := prints.inside
    (leavesOf c.printed ++ ["#"] ++ (if a.inner then ["!"] else []) ++ ["["])
    ("]" :: leavesOf d.rest)
  rw [Cursor.shown, Cursor.shown, left]
  cases inner : a.inner <;>
    simpa [Cursor.write, Attribute.trees, printed, inner, leavesOf_append, leavesOf, leaves,
      Delimiter.opening?, Delimiter.closing?] using inside

theorem leavesOf_of_bracket {content : List Tree}
    (h : group .bracket c.ahead = some (content, rest)) :
    leavesOf c.rest = "[" :: leavesOf content ++ "]" :: leavesOf rest := by
  rw [← c.leavesOf_ahead, eq_of_group h, leavesOf_group]
  rfl

theorem suffix_of_group {m : Delimiter} {content : List Tree}
    (h : group m ts = some (content, rest)) : rest <:+ ts :=
  eq_of_group h ▸ List.suffix_cons _ _

/-- Attributes in front of something are outer ones, printed as they are kept. -/
theorem onto_of_outerAttributes (nested : g.Faithful) {as : List Attribute}
    (h : outerAttributes g c = some (as, d)) :
    Onto c d ∧ (∀ a ∈ as, a.inner = false) ∧ d.printed = c.printed ++ as.flatMap (·.trees) := by
  unfold outerAttributes at h
  generalize c.size + 1 = fuel at h
  induction fuel generalizing c as with
  | zero => cases h
  | succ fuel ih =>
    unfold outerFrom at h
    split at h
    · cases h
      exact ⟨.refl _, by simp, by simp⟩
    · rename_i after marked
      obtain ⟨⟨content, rest⟩, opened, h⟩ := bind_some_iff.mp h
      obtain ⟨a, read, h⟩ := bind_some_iff.mp h
      obtain ⟨⟨others, last⟩, more, h⟩ := bind_some_iff.mp h
      cases h
      obtain ⟨onto, outer, printed⟩ := ih more
      have text : ((c.drop after).drop rest).text = c.text :=
        (text_drop (suffix_of_group opened)).trans (text_drop (suffix_of_mark marked))
      have own : Onto c (((c.drop after).drop rest).write a.trees) := by
        refine onto_write_attribute nested read ?_ text rfl
        rw [← c.leavesOf_ahead, leavesOf_of_mark marked]
        exact congrArg ("#" :: ·) (leavesOf_of_bracket opened)
      have inner := (prints_of_attributeContent nested read).1
      refine ⟨own.trans onto, List.forall_mem_cons.mpr ⟨inner, outer⟩, ?_⟩
      rw [printed, List.flatMap_cons, ← List.append_assoc]
      rfl

@[grind →] theorem onto_of_skipAttributes (nested : g.Faithful) (h : skipAttributes g c = some d) :
    Onto c d := by
  obtain ⟨⟨as, after⟩, read, rfl⟩ := Option.map_eq_some_iff.mp h
  exact (onto_of_outerAttributes nested read).1

/-- Attributes at the start of a block are inner ones, printed as they are kept. -/
theorem onto_of_innerAttributes (nested : g.Faithful) {as : List Attribute}
    (h : innerAttributes g c = some (as, d)) :
    Onto c d ∧ (∀ a ∈ as, a.inner = true) ∧ d.printed = c.printed ++ as.flatMap (·.trees) := by
  unfold innerAttributes at h
  generalize c.size + 1 = fuel at h
  induction fuel generalizing c as with
  | zero => cases h
  | succ fuel ih =>
    unfold innerFrom at h
    dsimp only at h
    split at h
    · cases h
      exact ⟨.refl _, by simp, by simp⟩
    split at h
    · cases h
      exact ⟨.refl _, by simp, by simp⟩
    · rename_i after marked _ inside exclaimed
      obtain ⟨⟨content, rest⟩, opened, h⟩ := bind_some_iff.mp h
      obtain ⟨a, read, h⟩ := bind_some_iff.mp h
      obtain ⟨⟨others, last⟩, more, h⟩ := bind_some_iff.mp h
      cases h
      obtain ⟨onto, all, printed⟩ := ih more
      have text : (((c.drop after).drop inside).drop rest).text = c.text :=
        (text_drop (suffix_of_group opened)).trans
          ((text_drop (suffix_of_mark exclaimed)).trans (text_drop (suffix_of_mark marked)))
      have own : Onto c ((((c.drop after).drop inside).drop rest).write a.trees) := by
        refine onto_write_attribute nested read ?_ text rfl
        have exclamation := leavesOf_of_mark exclaimed
        rw [Cursor.leavesOf_ahead] at exclamation
        rw [← c.leavesOf_ahead, leavesOf_of_mark marked]
        refine congrArg ("#" :: ·) (exclamation.trans ?_)
        exact congrArg ("!" :: ·) (leavesOf_of_bracket opened)
      have inner := (prints_of_attributeContent nested read).1
      refine ⟨own.trans onto, List.forall_mem_cons.mpr ⟨inner, all⟩, ?_⟩
      rw [printed, List.flatMap_cons, ← List.append_assoc]
      rfl

theorem reprints_blockContent (nested : g.Faithful) : Reprints (blockContent g) := by
  intro ts printed h
  obtain ⟨⟨as, after⟩, started, h⟩ := bind_some_iff.mp h
  obtain ⟨inside, read, rfl⟩ := Option.map_eq_some_iff.mp h
  have later := (nested.statements read).left (leavesOf after.printed)
  rw [leavesOf_append]
  exact (onto_of_innerAttributes nested started).1.prints.trans later

@[grind →] theorem onto_of_attributedBlock (nested : g.Faithful)
    (h : attributedBlock g c = some d) : Onto c d :=
  onto_of_within (reprints_blockContent nested) h

/-! ### Between angles -/

/-- What stands between angles is printed with lifetimes first. -/
theorem prints_lifetimesFirst {items : List Angled}
    (quoted : ∀ a ∈ items, a.lifetime → "'" ∈ leavesOf a.printed) (after : List String) :
    Prints ("<" :: leavesOf (items.flatMap (·.written)) ++ ">" :: after)
      ("<" :: leavesOf (lifetimesFirst items) ++ ">" :: after) := by
  simpa using Prints.of_form [] after (.lifetimes items quoted)

theorem onto_of_angled {item : List Tree → Option (Bool × Cursor)}
    (takes : ∀ {ts lifetime d}, item ts = some (lifetime, d) →
      Onto (.start ts) d ∧ (lifetime → "'" ∈ leavesOf d.printed))
    (h : angled item c = some d) : Onto c d := by
  unfold angled at h
  obtain ⟨inside, opened, h⟩ := bind_some_iff.mp h
  obtain ⟨⟨items, last⟩, listed, h⟩ := bind_some_iff.mp h
  cases h
  obtain ⟨text, quoted, prints⟩ := prints_of_angledFrom Angled.written
    (fun a => a.lifetime → "'" ∈ leavesOf a.printed) (fun {ts make d} own => by
      obtain ⟨⟨lifetime, e⟩, read, same⟩ := Option.map_eq_some_iff.mp own
      cases same
      obtain ⟨onto, quoted⟩ := takes read
      refine ⟨onto, fun comma => ⟨quoted, ?_⟩⟩
      cases comma <;> simp [Angled.written, leavesOf_append, leavesOf, leaves, separator]) listed
  obtain ⟨left, printed⟩ := leavesOf_of_cursorMark opened
  change Prints (leavesOf inside.rest) _ at prints
  refine ⟨(text_resume (c := inside) text.symm _).trans (onto_of_mark opened).text, ?_⟩
  have ordered := ((prints.left ["<"]).trans (prints_lifetimesFirst quoted _)).left
    (leavesOf c.printed)
  rw [Cursor.shown, left]
  simpa [Cursor.resume, Cursor.shown, printed, leavesOf_append, leavesOf, leaves] using ordered

/-! ### Paths -/

@[grind →] theorem onto_of_constArgument (nested : g.Faithful) (h : constArgument g c = some d) :
    Onto c d := by
  rcases Option.or_eq_some_iff.mp h with h | ⟨-, h⟩
  · exact onto_of_literal h
  · exact onto_of_attributedBlock nested h

@[grind →] theorem onto_of_argument (nested : g.Faithful) (h : argument g c = some d) :
    Onto c d := by
  unfold argument at h
  repeat' first | split at h | (rw [bind_some_iff] at h; obtain ⟨_, _, h⟩ := h)
  all_goals grind

theorem quoted_of_lifetime (h : c.lifetime = some d) : "'" ∈ leavesOf d.printed := by
  obtain ⟨rest, found, rfl⟩ := Option.map_eq_some_iff.mp h
  unfold lifetime at found
  split at found
  · rename_i own
    cases found
    have two : rest.length + 1 + 1 - rest.length = 2 := by omega
    change "'" ∈ leavesOf (c.printed ++ taken c.ahead rest)
    rw [own]
    simp [taken, two, leavesOf, leaves, leavesOf_append]
  · cases found

@[grind →] theorem onto_of_angleArguments (nested : g.Faithful)
    (h : angleArguments g c = some d) : Onto c d := by
  unfold angleArguments at h
  refine (onto_skipMark "::" c).trans (onto_of_angled ?_ h)
  intro ts lifetime d h
  dsimp only at h
  split at h
  · obtain ⟨e, read, same⟩ := Option.map_eq_some_iff.mp h
    cases same
    exact ⟨onto_of_lifetime read, fun _ => quoted_of_lifetime read⟩
  · obtain ⟨e, read, same⟩ := Option.map_eq_some_iff.mp h
    cases same
    exact ⟨onto_of_argument nested read, nofun⟩

section
variable {inExpr : Bool}

@[grind →] theorem onto_of_segment (nested : g.Faithful) {i : Identifier} {has : Bool}
    (h : segment g inExpr c = some (i, has, d)) : Onto c d := by
  unfold segment at h
  dsimp only at h
  repeat' first | split at h | (rw [bind_some_iff] at h; obtain ⟨_, _, h⟩ := h)
  all_goals grind [Option.map_eq_some_iff]

@[grind →] theorem onto_of_moreSegments (nested : g.Faithful) {fuel : Nat} {p q : PathForm}
    (h : moreSegments g inExpr fuel p c = some (q, d)) : Onto c d := by
  induction fuel generalizing c p q with
  | zero => cases h
  | succ fuel ih =>
    unfold moreSegments at h
    repeat' first | split at h | (rw [bind_some_iff] at h; obtain ⟨_, _, h⟩ := h)
    all_goals grind

@[grind →] theorem onto_of_path (nested : g.Faithful) {p : PathForm}
    (h : path g inExpr c = some (p, d)) : Onto c d := by
  unfold path at h
  obtain ⟨⟨i, has, after⟩, first, h⟩ := bind_some_iff.mp h
  grind

@[grind →] theorem onto_of_qualifier (nested : g.Faithful) (h : qualifier g c = some d) :
    Onto c d := by
  unfold qualifier at h
  repeat' first | split at h | (rw [bind_some_iff] at h; obtain ⟨_, _, h⟩ := h)
  all_goals grind [Option.map_eq_some_iff]

@[grind →] theorem onto_of_qualifiedPath (nested : g.Faithful) {p : PathForm}
    (h : qualifiedPath g inExpr c = some (p, d)) : Onto c d := by
  unfold qualifiedPath at h
  repeat' first | split at h | (rw [bind_some_iff] at h; obtain ⟨_, _, h⟩ := h)
  all_goals grind

@[grind →] theorem onto_of_parenthesizedArguments (nested : g.Faithful) {flag : Bool}
    (h : parenthesizedArguments g c = some (flag, d)) : Onto c d := by
  have inside := reprints_commaSeparated (keeps_plainType nested true)
  unfold parenthesizedArguments at h
  repeat' first | split at h | (rw [bind_some_iff] at h; obtain ⟨_, _, h⟩ := h)
  all_goals grind

theorem eq_of_startsGroup {m : Delimiter} (h : startsGroup m ts) :
    ∃ content rest, ts = .group m content :: rest := by
  obtain ⟨⟨content, rest⟩, found⟩ := Option.isSome_iff_exists.mp h
  exact ⟨content, rest, eq_of_group found⟩

/-- What is left out before `rest` changes what is printed by a normal form. -/
theorem onto_drop {before after : List String} {tail : List String} (shorter : rest <:+ c.ahead)
    (form : NormalForm before after) (whole : leavesOf c.ahead = before ++ tail)
    (left : leavesOf rest = after ++ tail) : Onto c (c.drop rest) := by
  refine ⟨text_drop shorter, ?_⟩
  have shown := Prints.of_form (leavesOf c.printed) tail form
  rw [Cursor.shown, ← c.leavesOf_ahead, whole]
  simpa [Cursor.shown, Cursor.drop, left] using shown

/-- Colons before arguments in parentheses are not printed. -/
@[grind →] theorem onto_dropMark (called : startsParenthesized c) : Onto c (c.dropMark "::") := by
  unfold startsParenthesized at called
  unfold Cursor.dropMark at called ⊢
  cases marked : mark "::" c.ahead with
  | none => exact .refl c
  | some rest =>
    have colons := leavesOf_of_mark marked
    obtain bare | called := Bool.or_eq_true_iff.mp called
    · obtain ⟨content, others, own⟩ := eq_of_startsGroup bare
      rw [own] at marked
      cases marked
    · rw [marked] at called
      obtain ⟨content, others, own⟩ := eq_of_startsGroup called
      have left : leavesOf rest = _ := (Cursor.leavesOf_ahead (c.drop rest)).symm.trans
        ((congrArg leavesOf own).trans (leavesOf_group _ _ _))
      refine onto_drop (suffix_of_mark marked) .called ?_ left
      rw [colons, left]
      rfl

@[grind →] theorem onto_of_callSegments (nested : g.Faithful) {fuel : Nat} {p q : PathForm}
    (h : callSegments g fuel p c = some (q, d)) : Onto c d := by
  induction fuel generalizing c p q with
  | zero => cases h
  | succ fuel ih =>
    unfold callSegments at h
    repeat' first | split at h | (rw [bind_some_iff] at h; obtain ⟨_, _, h⟩ := h)
    all_goals grind

@[grind →] theorem onto_of_typePath (nested : g.Faithful) {p : PathForm}
    (h : typePath g c = some (p, d)) : Onto c d := by
  unfold typePath at h
  obtain ⟨⟨q, after⟩, first, h⟩ := bind_some_iff.mp h
  grind

end

end EndpointRouting.Grammar
