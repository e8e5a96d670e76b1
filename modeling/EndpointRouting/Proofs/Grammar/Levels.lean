import EndpointRouting.Grammar.Statement
import EndpointRouting.Proofs.Block.Source
import EndpointRouting.Proofs.Grammar.Expressions

/-!
# How items and statements are printed

Items, statements and the readers up to a depth. Those of a level print what they take if those of
the level below do, and so they do on every level.
-/

namespace EndpointRouting.Grammar
open Token Tree

variable {g : Recognisers} {ts rest : List Tree} {c d e : Cursor}

/-! ### Items -/

/-- Whatever is taken is printed as it can be, or as it is written where the flag says so. -/
theorem keeps_formed {f : Cursor → Option (Bool × Cursor)}
    (keeps : ∀ {c raw d}, f c = some (raw, d) → Onto c d) : Keeps (formed f) := by
  intro c d h
  obtain ⟨⟨raw, e⟩, read, rfl⟩ := Option.map_eq_some_iff.mp h
  have own := keeps read
  cases raw with
  | true => exact onto_resume_source own
  | false => exact onto_follow own

theorem keeps_namedField (nested : g.Faithful) : Keeps (namedField g) := by
  intro c d h
  unfold namedField at h
  repeat' (rw [bind_some_iff] at h; obtain ⟨_, _, h⟩ := h)
  grind

theorem keeps_plainField (nested : g.Faithful) : Keeps (plainField g) := by
  intro c d h
  unfold plainField at h
  repeat' (rw [bind_some_iff] at h; obtain ⟨_, _, h⟩ := h)
  grind

@[grind →] theorem onto_of_namedFields (nested : g.Faithful) (h : namedFields g c = some d) :
    Onto c d :=
  onto_of_within (reprints_commaSeparated (keeps_namedField nested)) h

@[grind →] theorem onto_of_plainFields (nested : g.Faithful) (h : plainFields g c = some d) :
    Onto c d :=
  onto_of_within (reprints_commaSeparated (keeps_plainField nested)) h

@[grind →] theorem onto_of_structItem (nested : g.Faithful) (h : structItem g c = some d) :
    Onto c d := by
  unfold structItem at h
  repeat' first | split at h | (rw [bind_some_iff] at h; obtain ⟨_, _, h⟩ := h)
  all_goals grind

theorem leavesOf_of_within {inside : List Tree → Option (List Tree)}
    (h : c.within .parenthesis inside = some d) :
    ∃ content, leavesOf c.rest = "(" :: content ++ ")" :: leavesOf d.rest := by
  obtain ⟨⟨content, rest⟩, found, h⟩ := bind_some_iff.mp h
  obtain ⟨printed, -, h⟩ := bind_some_iff.mp h
  cases h
  exact ⟨leavesOf content, by rw [← c.leavesOf_ahead, eq_of_group found, leavesOf_group]; rfl⟩

/-- A visibility is absent, a word, or a word with a place in parentheses. -/
theorem leavesOf_of_visibility (h : visibility c = some d) :
    leavesOf c.rest = leavesOf d.rest ∨ leavesOf c.rest = "pub" :: leavesOf d.rest ∨
      ∃ place, leavesOf c.rest = "pub" :: "(" :: place ++ ")" :: leavesOf d.rest := by
  unfold visibility at h
  split at h
  · cases h
    exact .inl rfl
  · rename_i shown named
    obtain ⟨left, -⟩ := leavesOf_of_cursorWord named
    split at h
    · cases h
      exact .inr (.inl left)
    · rename_i content rest opened
      dsimp only at h
      split at h
      · obtain ⟨place, own⟩ := leavesOf_of_within h
        exact .inr (.inr ⟨place, by rw [left, own]; rfl⟩)
      split at h
      · cases h
        refine .inr (.inr ⟨leavesOf content, ?_⟩)
        have own := eq_of_group opened
        have behind : shown.next.rest = rest := by
          change next shown.ahead = rest
          rw [own]
          rfl
        rw [left, behind, ← shown.leavesOf_ahead, own, leavesOf_group]
        rfl
      · cases h
        exact .inr (.inl left)

/-- The visibility before the name of a variant is not printed. -/
@[grind →] theorem onto_of_variantName (h : variantName c = some d) : Onto c d := by
  obtain ⟨seen, visible, h⟩ := bind_some_iff.mp h
  obtain ⟨⟨i, e⟩, named, rfl⟩ := Option.map_eq_some_iff.mp h
  obtain ⟨isName, left, printed⟩ := leavesOf_of_cursorName named
  refine ⟨(onto_of_name named).text.trans (text_resume (onto_of_visibility visible).split []), ?_⟩
  change leavesOf seen.rest = _ at left
  change _ = leavesOf (c.printed ++ []) ++ _ at printed
  have shorter (before : List String) (form : NormalForm (before ++ [i.spelling]) [i.spelling])
      (own : leavesOf c.rest = before ++ leavesOf seen.rest) : Prints c.shown e.shown := by
    have shown := Prints.of_form (leavesOf c.printed) (leavesOf e.rest) form
    simpa [Cursor.shown, own, left, printed] using shown
  obtain own | own | ⟨place, own⟩ := leavesOf_of_visibility visible <;>
    change leavesOf c.rest = _ at own
  · exact .of_eq (by simp [Cursor.shown, own, left, printed])
  · exact shorter ["pub"] (.visibility isName) own
  · refine shorter ("pub" :: "(" :: place ++ [")"]) ?_ (by simpa using own)
    simpa using NormalForm.limited isName place

@[grind →] theorem onto_of_variantFields (nested : g.Faithful) (h : variantFields g c = some d) :
    Onto c d := by
  unfold variantFields at h
  grind

theorem keeps_variant (nested : g.Faithful) : Keeps (variant g) := by
  intro c d h
  unfold variant at h
  repeat' (rw [bind_some_iff] at h; obtain ⟨_, _, h⟩ := h)
  grind

@[grind →] theorem onto_of_enumItem (nested : g.Faithful) (h : enumItem g c = some d) :
    Onto c d := by
  have variants := reprints_commaSeparated (keeps_variant nested)
  unfold enumItem at h
  repeat' (rw [bind_some_iff] at h; obtain ⟨_, _, h⟩ := h)
  grind

@[grind →] theorem onto_of_unionItem (nested : g.Faithful) (h : unionItem g c = some d) :
    Onto c d := by
  unfold unionItem at h
  repeat' (rw [bind_some_iff] at h; obtain ⟨_, _, h⟩ := h)
  grind

@[grind →] theorem onto_of_functionEnd (nested : g.Faithful) {block : Bool}
    (h : functionEnd g c = some (block, d)) : Onto c d := by
  unfold functionEnd at h
  grind [Option.map_eq_some_iff]

@[grind →] theorem onto_of_functionItem (nested : g.Faithful) {raw : Bool}
    (h : functionItem g c = some (raw, d)) : Onto c d := by
  obtain ⟨⟨s, signed⟩, read, h⟩ := bind_some_iff.mp h
  grind [Option.map_eq_some_iff]

theorem onto_of_traitMember (nested : g.Faithful) {raw : Bool}
    (h : traitMember g c = some (raw, d)) : Onto c d := by
  obtain ⟨start, skipped, h⟩ := bind_some_iff.mp h
  obtain ⟨shown, visible, h⟩ := bind_some_iff.mp h
  have before : Onto c shown := by grind
  refine before.trans ?_
  dsimp only at h
  repeat' first | split at h | (rw [bind_some_iff] at h; obtain ⟨_, _, h⟩ := h)
  all_goals grind [Option.map_eq_some_iff]

theorem keeps_itemsFrom {item : Cursor → Option Cursor} (keeps : Keeps item) {fuel : Nat} :
    Keeps (itemsFrom item fuel) := by
  intro c d h
  induction fuel generalizing c with
  | zero => cases h
  | succ fuel ih =>
    unfold itemsFrom at h
    split at h
    · cases h
      exact .refl _
    · obtain ⟨after, read, h⟩ := bind_some_iff.mp h
      exact (keeps read).trans (ih h)

theorem reprints_itemsContent (nested : g.Faithful) {item : Cursor → Option Cursor}
    (keeps : Keeps item) : Reprints (itemsContent g item) := by
  intro ts printed h
  obtain ⟨⟨as, start⟩, attributes, h⟩ := bind_some_iff.mp h
  obtain ⟨items, listed, all⟩ := bind_some_iff.mp h
  exact prints_of_finish
    ((onto_of_innerAttributes nested attributes).1.trans (keeps_itemsFrom keeps listed)) all

@[grind →] theorem onto_of_traitItem (nested : g.Faithful) {aliases : Bool}
    (h : traitItem g aliases c = some d) : Onto c d := by
  have members := reprints_itemsContent nested (keeps_formed (onto_of_traitMember nested))
  have bounds {c d} (h : colonBounds (·.read g.bound)
      (fun ts => startsWord "where" ts || startsGroup .brace ts) c = some d) : Onto c d :=
    keeps_colonBounds (keeps_bound nested) endsBounds_brace.orWhere h
  unfold traitItem at h
  dsimp only at h
  repeat' first | split at h | (rw [bind_some_iff] at h; obtain ⟨_, _, h⟩ := h)
  all_goals grind

@[grind →] theorem onto_of_moduleItem (nested : g.Faithful) (h : moduleItem g c = some d) :
    Onto c d := by
  have items := reprints_itemsContent nested fun c d h => nested.onto_of_item (c := c) (d := d) h
  unfold moduleItem at h
  dsimp only at h
  repeat' first | split at h | (rw [bind_some_iff] at h; obtain ⟨_, _, h⟩ := h)
  all_goals grind [Option.or_eq_some_iff, Option.map_eq_some_iff]

theorem onto_of_foreignMember (nested : g.Faithful) {raw : Bool}
    (h : foreignMember g c = some (raw, d)) : Onto c d := by
  obtain ⟨start, skipped, h⟩ := bind_some_iff.mp h
  obtain ⟨shown, visible, h⟩ := bind_some_iff.mp h
  have before : Onto c shown := by grind
  refine before.trans ?_
  dsimp only at h
  generalize (startsWord "safe" shown.ahead &&
    startsAnyWord ["extern", "fn", "static"] shown.beyond) = safe at h
  have first : Onto shown (if safe then shown.next else shown) := by grind
  generalize (if safe then shown.next else shown) = e at h first
  refine first.trans ?_
  generalize (startsWord "unsafe" e.ahead && startsWord "static" e.beyond) = dangerous at h
  have second : Onto e (if dangerous then e.next else e) := by grind
  generalize (if dangerous then e.next else e) = e at h second
  refine second.trans ?_
  repeat' first | split at h | (rw [bind_some_iff] at h; obtain ⟨_, _, h⟩ := h)
  all_goals grind [Option.map_eq_some_iff]

@[grind →] theorem onto_of_foreignItem (nested : g.Faithful) (h : foreignItem g c = some d) :
    Onto c d := by
  have members := reprints_itemsContent nested (keeps_formed (onto_of_foreignMember nested))
  unfold foreignItem at h
  grind

@[grind →] theorem onto_of_renamed (h : renamed c = some d) : Onto c d := by
  unfold renamed at h
  grind

@[grind →] theorem onto_of_crateItem (h : crateItem c = some d) : Onto c d := by
  unfold crateItem at h
  dsimp only at h
  repeat' first | split at h | (rw [bind_some_iff] at h; obtain ⟨_, _, h⟩ := h)
  all_goals grind [Option.map_eq_some_iff]

@[grind →] theorem onto_of_useTree {fuel : Nat} (h : useTree fuel c = some d) : Onto c d := by
  induction fuel generalizing c d with
  | zero => cases h
  | succ fuel ih =>
    have trees : Reprints (commaSeparated fun c => useTree fuel (c.skipMark "::")) :=
      reprints_commaSeparated fun c _ h => (onto_skipMark "::" c).trans (ih h)
    unfold useTree at h
    dsimp only at h
    repeat' first | split at h | (rw [bind_some_iff] at h; obtain ⟨_, _, h⟩ := h)
    all_goals grind [Option.map_eq_some_iff]

@[grind →] theorem onto_of_useItem (h : useItem c = some d) : Onto c d := by
  obtain ⟨after, named, h⟩ := bind_some_iff.mp h
  grind

@[grind →] theorem onto_of_staticItem (nested : g.Faithful) {raw : Bool}
    (h : staticItem g c = some (raw, d)) : Onto c d := by
  unfold staticItem at h
  repeat' (rw [bind_some_iff] at h; obtain ⟨_, _, h⟩ := h)
  grind

@[grind →] theorem onto_of_macroItem (h : macroItem c = some d) : Onto c d := by
  obtain ⟨⟨i, after⟩, named, h⟩ := bind_some_iff.mp h
  grind

@[grind →] theorem onto_of_unsafeItem (nested : g.Faithful) {shown : Bool}
    (h : unsafeItem g shown c = some d) : Onto c d := by
  have block {c d} (h : c.read (fun ts => (Block.Impl.take g ts).map (·.2)) = some d) :
      Onto c d := by
    refine onto_of_read (fun h => ?_) h
    obtain ⟨⟨b, e⟩, taken, rfl⟩ := Option.map_eq_some_iff.mp h
    exact (Block.onto_of_take nested taken).1
  unfold unsafeItem at h
  dsimp only at h
  repeat' split at h
  all_goals grind

theorem onto_of_anyItem (nested : g.Faithful) {raw : Bool} (h : anyItem g c = some (raw, d)) :
    Onto c d := by
  obtain ⟨start, skipped, h⟩ := bind_some_iff.mp h
  obtain ⟨shown, visible, h⟩ := bind_some_iff.mp h
  have before : Onto c shown := by grind
  refine before.trans ?_
  dsimp only at h
  repeat' (rw [ite_eq_iff] at h; rcases h with ⟨-, h⟩ | ⟨-, h⟩)
  all_goals grind [Option.map_eq_some_iff]

@[grind →] theorem onto_of_itemOver (nested : g.Faithful) (h : item g c = some d) : Onto c d :=
  keeps_formed (onto_of_anyItem nested) h

/-! ### Statements -/

@[grind →] theorem onto_of_macroStatement (h : macroStatement c = some d) : Onto c d := by
  unfold macroStatement at h
  dsimp only at h
  repeat' first | split at h | (rw [bind_some_iff] at h; obtain ⟨_, _, h⟩ := h)
  all_goals grind

@[grind →] theorem onto_of_declaration (nested : g.Faithful) (h : declaration g c = some d) :
    Onto c d := by
  have value : Keeps (declaredValue g) := by
    intro c d h
    obtain ⟨after, read, h⟩ := bind_some_iff.mp h
    grind
  unfold declaration at h
  repeat' (rw [bind_some_iff] at h; obtain ⟨_, _, h⟩ := h)
  have := keeps_afterMark value ‹_›
  grind

theorem onto_of_statement (nested : g.Faithful) {open? : Bool}
    (h : statement g c = some (open?, d)) : Onto c d := by
  obtain ⟨start, skipped, h⟩ := bind_some_iff.mp h
  have before := onto_of_skipAttributes nested skipped
  split at h
  · grind
  split at h
  · grind [Option.map_eq_some_iff]
  split at h
  · grind [Option.map_eq_some_iff]
  · obtain ⟨⟨closed, after⟩, read, h⟩ := bind_some_iff.mp h
    have := onto_of_standingOver nested read
    grind

theorem keeps_statementsFrom (nested : g.Faithful) {fuel : Nat} :
    Keeps (statementsFrom g fuel) := by
  intro c d h
  induction fuel generalizing c with
  | zero => cases h
  | succ fuel ih =>
    unfold statementsFrom at h
    split at h
    · cases h
      exact .refl _
    split at h
    · exact (onto_of_mark ‹_›).trans (ih h)
    · obtain ⟨⟨open?, after⟩, read, h⟩ := bind_some_iff.mp h
      dsimp only at h
      split at h
      · cases h
      · exact (onto_of_statement nested read).trans (ih h)

theorem reprints_statements (nested : g.Faithful) : Reprints (statements g) := by
  intro ts printed h
  obtain ⟨d, listed, all⟩ := bind_some_iff.mp h
  exact prints_of_finish (keeps_statementsFrom nested listed) all

/-! ### All constructs -/

theorem none_faithful : Recognisers.none.Faithful where
  type := nofun
  bound := nofun
  predicate := nofun
  expr := nofun
  rangeOperand := nofun
  standing := nofun
  pattern := nofun
  item := nofun
  statements := nofun

/-- Readers of every depth print what they take. -/
theorem level_faithful (depth : Nat) : (level depth).Faithful := by
  induction depth with
  | zero => exact none_faithful
  | succ depth ih => exact {
      type := onto_of_typeOver ih
      bound := onto_of_boundOver ih
      predicate := onto_of_predicateOver ih
      expr := onto_of_expression ih
      rangeOperand := onto_of_rangeOperand ih
      standing := onto_of_standingOver ih
      pattern := onto_of_patternOver ih
      item := onto_of_itemOver ih
      statements := reprints_statements ih }

theorem recognisersFor_faithful (ts : List Tree) : (recognisersFor ts).Faithful := level_faithful _

end EndpointRouting.Grammar
