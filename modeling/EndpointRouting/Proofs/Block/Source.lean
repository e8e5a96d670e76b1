import EndpointRouting.Block.Impl
import EndpointRouting.Proofs.Grammar.Types

/-!
# How blocks are printed

Signatures, the members of a block and the block itself, over nested readers that print what they
take. A block that was read is written like its source, but for what has a normal form.
-/

namespace EndpointRouting.Grammar
open Token Tree

variable {g : Recognisers} {ts rest : List Tree} {c d e : Cursor}

/-! ### Signatures -/

@[grind →] theorem onto_of_visibility (h : visibility c = some d) : Onto c d := by
  have inside : Reprints (whole fun c => plainPath c.next) :=
    reprints_whole fun c _ h => (onto_next c).trans (onto_of_plainPath h)
  unfold visibility at h
  repeat' split at h
  all_goals grind

@[grind →] theorem onto_of_nameOrBlank (h : nameOrBlank c = some d) : Onto c d := by
  unfold nameOrBlank at h
  grind [Option.map_eq_some_iff]

@[grind →] theorem onto_of_receiver (nested : g.Faithful) (h : receiver g c = some d) :
    Onto c d := by
  unfold receiver at h
  split at h
  · grind
  · obtain ⟨after, named, h⟩ := Option.bind_eq_some_iff.mp h
    grind

@[grind →] theorem onto_of_variadic (h : variadic c = some d) : Onto c d :=
  onto_of_mark (Option.filter_eq_some_iff.mp h).1

/-- An argument without a name gets a blank one. -/
theorem onto_write_blank (named : startsName c.ahead) (angle : startsMark "<" c.beyond) :
    Onto c (c.write [.ident ⟨"_", false⟩, .punct ':' false]) := by
  obtain ⟨⟨i, after⟩, found⟩ := Option.isSome_iff_exists.mp named
  obtain ⟨own, isName⟩ := eq_of_name found
  obtain ⟨inside, opened⟩ := Option.isSome_iff_exists.mp angle
  have behind : leavesOf after = "<" :: leavesOf inside := by
    have beyond : c.beyond = front after := by
      rw [Cursor.beyond, own]
      rfl
    rw [← leavesOf_front, ← beyond, leavesOf_of_mark opened]
    rfl
  have left : leavesOf c.rest = i.spelling :: "<" :: leavesOf inside := by
    rw [← c.leavesOf_ahead, own, leavesOf, behind]
    rfl
  have form := Prints.of_form (leavesOf c.printed) (leavesOf inside) (.blank isName)
  refine ⟨rfl, ?_⟩
  simpa [Cursor.shown, Cursor.write, leavesOf_append, left, leavesOf, leaves, Identifier.spelling]
    using form

@[grind →] theorem onto_of_typedArgument (nested : g.Faithful) (h : typedArgument g c = some d) :
    Onto c d := by
  unfold typedArgument at h
  split at h
  · rename_i nameless
    obtain ⟨named, angle⟩ := Bool.and_eq_true_iff.mp nameless
    exact (onto_write_blank named angle).trans (nested.onto_of_plainType h)
  · obtain ⟨after, first, h⟩ := bind_some_iff.mp h
    obtain ⟨typed, marked, h⟩ := bind_some_iff.mp h
    grind

theorem keeps_laterArgument (nested : g.Faithful) : Keeps (laterArgument g) := by
  intro c d h
  obtain ⟨start, skipped, h⟩ := bind_some_iff.mp h
  grind

theorem prints_of_signatureArguments (nested : g.Faithful) {receives : Bool} {printed : List Tree}
    (h : signatureArguments g ts = some (receives, printed)) :
    Prints (leavesOf ts) (leavesOf printed) := by
  have arguments {stop} : Keeps (chain (laterArgument g) "," stop) :=
    keeps_chain (keeps_laterArgument nested)
  obtain ⟨start, skipped, h⟩ := bind_some_iff.mp h
  split at h
  · rename_i after received
    obtain ⟨all, listed, h⟩ := bind_some_iff.mp h
    obtain ⟨own, finished, same⟩ := Option.map_eq_some_iff.mp h
    cases same
    have before : Onto (.start ts) after := by grind
    exact prints_of_finish (before.trans (keeps_afterMark arguments listed)) finished
  · obtain ⟨own, listed, same⟩ := Option.map_eq_some_iff.mp h
    cases same
    exact reprints_commaSeparated (keeps_laterArgument nested) listed

theorem onto_functionModifiers (c : Cursor) : Onto c (functionModifiers c) := by
  unfold functionModifiers
  grind

grind_pattern onto_functionModifiers => functionModifiers c

@[grind →] theorem onto_of_signature (nested : g.Faithful) {s : Signature}
    (h : signature g c = some (s, d)) : Onto c d := by
  have arguments : Reprints fun ts => (signatureArguments g ts).map (·.2) := by
    intro ts printed h
    obtain ⟨⟨receives, own⟩, read, rfl⟩ := Option.map_eq_some_iff.mp h
    exact prints_of_signatureArguments nested read
  unfold signature at h
  repeat' (rw [bind_some_iff] at h; obtain ⟨_, _, h⟩ := h)
  grind

@[grind →] theorem onto_of_constant (nested : g.Faithful) {valued raw : Bool}
    (h : constant g valued c = some (raw, d)) : Onto c d := by
  unfold constant at h
  repeat' (rw [bind_some_iff] at h; obtain ⟨_, _, h⟩ := h)
  grind

@[grind →] theorem onto_of_clauseWhere (nested : g.Faithful) {allowed : Bool}
    (h : clauseWhere g allowed c = some d) : Onto c d := by
  unfold clauseWhere at h
  grind

@[grind →] theorem onto_of_typeDefinition (nested : g.Faithful) {place : ClausePlace}
    {t : TypeDefinition} (h : typeDefinition g place c = some (t, d)) : Onto c d := by
  have ends : EndsBounds (startsAnyMark ["=", ";"]) := endsBounds_marks (by decide)
  obtain ⟨⟨i, named⟩, read, h⟩ := bind_some_iff.mp h
  obtain ⟨head, declared, h⟩ := bind_some_iff.mp h
  obtain ⟨bounded, listed, h⟩ := bind_some_iff.mp h
  have bounds := keeps_colonBounds (keeps_bound nested) ends.orWhere listed
  repeat' (rw [bind_some_iff] at h; obtain ⟨_, _, h⟩ := h)
  grind

@[grind →] theorem onto_of_itemMacro {named : Bool} (h : itemMacro named c = some d) :
    Onto c d := by
  unfold itemMacro at h
  repeat' (rw [bind_some_iff] at h; obtain ⟨_, _, h⟩ := h)
  grind

end EndpointRouting.Grammar

namespace EndpointRouting.Block
open Grammar Token Tree

variable {g : Recognisers} {ts rest : List Tree} {c d : Cursor}

/-! ### Attributes -/

theorem outerTrees_append {outer inner : List Attribute} (outside : ∀ a ∈ outer, a.inner = false)
    (inside : ∀ a ∈ inner, a.inner = true) :
    outerTrees (outer ++ inner) = outer.flatMap (·.trees) := by
  have kept : outer.filter (!·.inner) = outer :=
    List.filter_eq_self.mpr fun a member => by simp [outside a member]
  have dropped : inner.filter (!·.inner) = [] :=
    List.filter_eq_nil_iff.mpr fun a member => by simp [inside a member]
  rw [outerTrees, List.filter_append, kept, dropped, List.append_nil]

theorem innerTrees_append {outer inner : List Attribute} (outside : ∀ a ∈ outer, a.inner = false)
    (inside : ∀ a ∈ inner, a.inner = true) :
    innerTrees (outer ++ inner) = inner.flatMap (·.trees) := by
  have dropped : outer.filter (·.inner) = [] :=
    List.filter_eq_nil_iff.mpr fun a member => by simp [outside a member]
  have kept : inner.filter (·.inner) = inner :=
    List.filter_eq_self.mpr fun a member => by simp [inside a member]
  rw [innerTrees, List.filter_append, dropped, kept, List.nil_append]

/-! ### Members -/

/-- What stands between braces, after the attributes that it starts with. -/
theorem prints_of_content (nested : g.Faithful) {content printed : List Tree}
    {inner : List Attribute} {inside : Cursor}
    (opened : Grammar.group .brace c.ahead = some (content, rest)) (started : innerAttributes g (.start content) = some (inner, inside))
    (prints : Prints (leavesOf inside.rest) (leavesOf printed)) :
    (c.drop rest).text = c.text ∧ Prints (leavesOf c.rest)
      (leavesOf [.group .brace (inner.flatMap (·.trees) ++ printed)] ++ leavesOf rest) := by
  obtain ⟨onto, -, trees⟩ := onto_of_innerAttributes nested started
  have own := onto.prints.trans (prints.left (leavesOf inside.printed))
  have whole := own.inside ["\x7b"] ("\x7d" :: leavesOf rest)
  refine ⟨text_drop (suffix_of_group opened), ?_⟩
  rw [← c.leavesOf_ahead, eq_of_group opened, leavesOf_group]
  simpa [trees, Cursor.start, leavesOf_append, leavesOf, leaves, Delimiter.opening?,
    Delimiter.closing?] using whole

/-- A method is printed after the attributes in front of it. -/
theorem prints_of_method (nested : g.Faithful) {outer : List Attribute} {m : Option Method}
    (outside : ∀ a ∈ outer, a.inner = false) (h : method g outer c = some (m, d)) :
    match m with
    | none => Onto c d
    | some m => d.text = c.text ∧
        Prints (leavesOf (outer.flatMap (·.trees)) ++ c.shown)
          (leavesOf m.trees ++ leavesOf d.rest) := by
  obtain ⟨⟨s, signed⟩, read, h⟩ := bind_some_iff.mp h
  have before := onto_of_signature nested read
  dsimp only at h
  split at h
  · rename_i marked
    cases h
    exact before.trans (onto_of_mark marked)
  · obtain ⟨⟨content, rest⟩, opened, h⟩ := bind_some_iff.mp h
    obtain ⟨⟨inner, inside⟩, started, h⟩ := bind_some_iff.mp h
    obtain ⟨body, listed, h⟩ := bind_some_iff.mp h
    cases h
    obtain ⟨text, block⟩ := prints_of_content nested opened started (nested.statements listed)
    have within := (onto_of_innerAttributes nested started).2.1
    have whole := (before.shown.trans (block.left (leavesOf signed.printed))).left
      (leavesOf (outer.flatMap (·.trees)))
    refine ⟨text.trans before.text, ?_⟩
    simpa [Method.trees, outerTrees_append outside within, innerTrees_append outside within,
      leavesOf_append, Cursor.drop] using whole

/-- A member is printed as it is kept. -/
theorem prints_of_member (nested : g.Faithful) {m : Member} (h : member g ts = some (m, d)) :
    d.text = leavesOf ts ∧ Prints (leavesOf ts) (leavesOf m.trees ++ leavesOf d.rest) := by
  obtain ⟨⟨outer, attributed⟩, attributes, h⟩ := bind_some_iff.mp h
  obtain ⟨onto, outside, printed⟩ := onto_of_outerAttributes nested attributes
  obtain ⟨shown, visible, h⟩ := bind_some_iff.mp h
  dsimp only at h
  generalize (startsWord "default" shown.ahead && !startsMark "!" shown.beyond) = isDefault at h
  have modified : Onto (.start attributed.rest) (if isDefault then shown.next else shown) := by
    have := onto_of_visibility visible
    split <;> grind
  generalize (if isDefault then shown.next else shown) = start at h modified
  -- What is no method is printed as it is kept or as it is written.
  have other (raw : Bool) {e : Cursor} (own : Onto start e)
      (same : (Member.other (if raw then (attributed.follow e).source else
        (attributed.follow e).printed), attributed.follow e) = (m, d)) :
      d.text = leavesOf ts ∧ Prints (leavesOf ts) (leavesOf m.trees ++ leavesOf d.rest) := by
    cases same
    have whole := onto.trans (onto_follow (modified.trans own))
    refine ⟨whole.text, ?_⟩
    cases raw with
    | true => exact .of_eq whole.split
    | false => exact whole.prints
  split at h
  · obtain ⟨⟨m, e⟩, read, h⟩ := bind_some_iff.mp h
    have own := prints_of_method nested outside read
    cases m with
    | none => exact other true own (Option.some.inj h)
    | some m =>
      cases h
      obtain ⟨text, prints⟩ := own
      have whole := onto.prints.trans (modified.shown.left (leavesOf attributed.printed))
      rw [printed] at whole
      exact ⟨(text_follow (c := attributed) (text.trans modified.text)).trans onto.text,
        whole.trans prints⟩
  split at h
  · obtain ⟨⟨raw, e⟩, read, h⟩ := Option.map_eq_some_iff.mp h
    exact other raw ((onto_next start).trans (onto_of_constant nested read)) h
  split at h
  · obtain ⟨⟨t, e⟩, read, h⟩ := Option.map_eq_some_iff.mp h
    exact other _ ((onto_next start).trans (onto_of_typeDefinition nested read)) h
  split at h
  · obtain ⟨e, read, h⟩ := Option.map_eq_some_iff.mp h
    exact other false (onto_of_itemMacro read) h
  · cases h

theorem prints_of_membersFrom (nested : g.Faithful) {fuel : Nat} {ms : List Member}
    (h : membersFrom g fuel ts = some ms) :
    Prints (leavesOf ts) (leavesOf (ms.flatMap (·.trees))) := by
  induction fuel generalizing ts ms with
  | zero => cases h
  | succ fuel ih =>
    cases ts with
    | nil =>
      cases h
      exact .refl _
    | cons t tail =>
      obtain ⟨⟨m, after⟩, read, h⟩ := bind_some_iff.mp h
      obtain ⟨others, more, h⟩ := bind_some_iff.mp h
      cases h
      have later := (ih more).left (leavesOf m.trees)
      rw [List.flatMap_cons, leavesOf_append]
      exact (prints_of_member nested read).2.trans later

/-! ### Blocks -/

/-- The type of a block is printed after the trait that is implemented. -/
theorem prints_of_target (nested : g.Faithful) {t : Target} (h : target g ts = some (t, d)) :
    d.text = leavesOf ts ∧
      Prints (leavesOf ts) (leavesOf (t.implements.getD [] ++ t.type) ++ leavesOf d.rest) := by
  unfold target at h
  dsimp only at h
  generalize (startsMark "!" (Cursor.start ts).ahead &&
    !startsGroup .brace (Cursor.start ts).beyond) = negative at h
  obtain ⟨⟨form, aimed⟩, read, h⟩ := bind_some_iff.mp h
  have own : Onto (.start ts) aimed := by
    have := nested.onto_of_typeForm read
    cases negative <;> grind
  dsimp only at h
  split at h
  · split at h <;> cases h
    · exact ⟨own.text, .of_eq own.split⟩
    · exact ⟨own.text, own.prints⟩
  · rename_i after named
    split at h
    · cases h
    · obtain ⟨⟨form, type⟩, typed, h⟩ := bind_some_iff.mp h
      cases h
      have inside := onto_follow (nested.onto_of_typeForm typed)
      have whole := (own.trans (onto_of_word named)).trans inside
      exact ⟨whole.text, whole.prints⟩

theorem prints_of_blockParameters (nested : g.Faithful) {ps : List Parameter}
    (h : blockParameters g c = some (ps, d)) : d.text = c.text ∧
      Prints (leavesOf c.rest) (leavesOf (declareParameters ps) ++ leavesOf d.rest) := by
  unfold blockParameters at h
  split at h
  · exact prints_of_parameters nested h
  · cases h
    exact ⟨rfl, .refl _⟩

/-- A block that was taken is printed as it is written again. -/
theorem onto_of_take (nested : g.Faithful) {b : Impl} (h : Impl.take g ts = some (b, d)) :
    Onto (.start ts) d ∧ d.printed = b.trees := by
  unfold Impl.take at h
  obtain ⟨⟨outer, attributed⟩, attributes, h⟩ := bind_some_iff.mp h
  dsimp only at h
  obtain ⟨opened, marked, h⟩ := bind_some_iff.mp h
  obtain ⟨⟨ps, declared⟩, parametrized, h⟩ := bind_some_iff.mp h
  obtain ⟨⟨t, aimed⟩, targeted, h⟩ := bind_some_iff.mp h
  obtain ⟨bounds, conditioned, h⟩ := bind_some_iff.mp h
  obtain ⟨⟨content, rest⟩, braced, h⟩ := bind_some_iff.mp h
  obtain ⟨⟨inner, inside⟩, started, h⟩ := bind_some_iff.mp h
  obtain ⟨members, listed, h⟩ := bind_some_iff.mp h
  cases h
  obtain ⟨onto, outside, outer_printed⟩ := onto_of_outerAttributes nested attributes
  have within := (onto_of_innerAttributes nested started).2.1
  have head : Onto (.start attributed.rest) opened := by grind
  obtain ⟨declaredText, declares⟩ := prints_of_blockParameters nested parametrized
  obtain ⟨aimedText, aims⟩ := prints_of_target nested targeted
  have clause := onto_of_whereClause nested conditioned
  obtain ⟨text, block⟩ :=
    prints_of_content nested braced started (prints_of_membersFrom nested listed)
  have aimedAll := (text_follow (c := aimed) (text.trans clause.text)).trans aimedText
  have declaredAll := (text_follow (c := declared) aimedAll).trans declaredText
  have headAll := (text_follow (c := opened) declaredAll).trans head.text
  refine ⟨⟨(text_follow (c := attributed) headAll).trans onto.text, ?_⟩, rfl⟩
  have last := clause.prints.trans (block.left (leavesOf bounds.printed))
  have aimedPrints := aims.trans (last.left _)
  have declaredPrints := declares.trans (aimedPrints.left _)
  have headPrints := head.prints.trans (declaredPrints.left (leavesOf opened.printed))
  have whole := onto.prints.trans (headPrints.left (leavesOf attributed.printed))
  rw [outer_printed, (leavesOf_of_cursorWord marked).2] at whole
  simpa [Cursor.shown, Cursor.start, Impl.trees, outerTrees_append outside within,
    innerTrees_append outside within, leavesOf_append, leavesOf, leaves, Cursor.follow,
    Cursor.resume, Cursor.drop, Identifier.spelling] using whole

/-- The block that the tokens are is printed as it is written again. -/
theorem prints_of_readOver (nested : g.Faithful) {b : Impl} (h : Impl.readOver g ts = some b) :
    Prints (leavesOf ts) (leavesOf b.trees) := by
  unfold Impl.readOver at h
  split at h
  · rename_i source printed taken
    cases h
    obtain ⟨onto, rfl⟩ := onto_of_take nested taken
    simpa [leavesOf] using onto.prints
  · cases h

end EndpointRouting.Block
