import EndpointRouting.Proofs.Grammar.Paths

/-!
# How types are printed

Bounds, generic parameters, where clauses and types, over nested readers that print what they take.
-/

namespace EndpointRouting.Grammar
open Token Tree

variable {g : Recognisers} {ts rest : List Tree} {c d e : Cursor}

/-! ### Bounds -/

/-- Bounds stop only before what may come after them. -/
def EndsBounds (stop : List Tree → Bool) : Prop :=
  ∀ ⦃ts⦄, stop ts → ∃ next ∈ boundsEnds, ∃ tail, leavesOf ts = next :: tail

theorem keeps_colonBounds {item : Cursor → Option Cursor} {stop : List Tree → Bool}
    (keeps : Keeps item) (ends : EndsBounds stop) : Keeps (colonBounds item stop) := by
  intro c d h
  unfold colonBounds at h
  split at h
  · cases h
    exact .refl _
  · rename_i rest marked
    have shorter := suffix_of_mark marked
    split at h
    · rename_i stopped
      cases h
      obtain ⟨next, known, tail, left⟩ := ends stopped
      rw [leavesOf_front] at left
      refine onto_drop shorter (.colon known) ?_ left
      rw [leavesOf_of_mark marked, left]
      rfl
    · exact (onto_upTo shorter).trans (keeps_chain keeps h)

theorem endsBounds_marks {ss : List String}
    (known : ∀ s ∈ ss, s.toList.map String.singleton = [s] ∧ s ∈ boundsEnds) :
    EndsBounds (startsAnyMark ss) := by
  intro ts h
  obtain ⟨s, listed, starts⟩ := List.any_eq_true.mp h
  obtain ⟨single, ends⟩ := known s listed
  obtain ⟨rest, found⟩ := Option.isSome_iff_exists.mp starts
  exact ⟨s, ends, leavesOf rest, by rw [leavesOf_of_mark found, single]; rfl⟩

theorem endsBounds_brace : EndsBounds (startsGroup .brace) := by
  intro ts h
  obtain ⟨content, rest, rfl⟩ := eq_of_startsGroup h
  exact ⟨_, by decide, _, leavesOf_group _ _ _⟩

theorem EndsBounds.orWhere {stop : List Tree → Bool} (ends : EndsBounds stop) :
    EndsBounds fun ts => startsWord "where" ts || stop ts := by
  intro ts h
  obtain named | h := Bool.or_eq_true_iff.mp h
  · obtain ⟨rest, found⟩ := Option.isSome_iff_exists.mp named
    exact ⟨"where", by decide, leavesOf rest, by rw [eq_of_word found]; rfl⟩
  · exact ends h

@[grind →] theorem onto_of_boundedLifetime (h : boundedLifetime c = some d) : Onto c d := by
  obtain ⟨e, first, h⟩ := bind_some_iff.mp h
  exact (onto_of_lifetime first).trans
    (keeps_colonBounds keeps_lifetime (endsBounds_marks (by decide)) h)

@[grind →] theorem onto_of_boundLifetimes (nested : g.Faithful)
    (h : boundLifetimes g c = some d) : Onto c d := by
  unfold boundLifetimes at h
  split at h
  · cases h
    exact .refl _
  · obtain ⟨opened, angle, h⟩ := bind_some_iff.mp h
    obtain ⟨inside, listed, h⟩ := bind_some_iff.mp h
    have own : Onto (.start opened.rest) inside := by
      refine keeps_chain (fun c d h => ?_) listed
      obtain ⟨u, skipped, h⟩ := bind_some_iff.mp h
      exact (onto_of_skipAttributes nested skipped).trans (onto_of_boundedLifetime h)
    have := onto_follow own
    grind

/-- Bound lifetimes stand between angles, if there are any. -/
theorem printed_of_boundLifetimes (h : boundLifetimes g c = some d) : d = c ∨
    ∃ bound, leavesOf d.printed = leavesOf c.printed ++ ("for" :: "<" :: bound ++ [">"]) := by
  unfold boundLifetimes at h
  split at h
  · cases h
    exact .inl rfl
  · rename_i after named
    obtain ⟨opened, angle, h⟩ := bind_some_iff.mp h
    obtain ⟨inside, listed, h⟩ := bind_some_iff.mp h
    refine .inr ⟨leavesOf inside.printed, ?_⟩
    rw [(leavesOf_of_cursorMark h).2]
    change leavesOf (opened.printed ++ inside.printed) ++ _ = _
    rw [leavesOf_append, (leavesOf_of_cursorMark angle).2, (leavesOf_of_cursorWord named).2]
    simp

/-- The mark of a relaxed bound is printed before the lifetimes that are bound. -/
theorem onto_relaxed {lifetimes : Cursor}
    (bound : boundLifetimes g (.start c.rest) = some lifetimes)
    (onto : Onto (.start c.rest) lifetimes) (marked : mark "?" lifetimes.ahead = some rest) :
    Onto c ((c.write [.punct '?' false]).follow (lifetimes.drop rest)) := by
  have left : leavesOf lifetimes.rest = "?" :: leavesOf rest :=
    lifetimes.leavesOf_ahead ▸ leavesOf_of_mark marked
  have text : (lifetimes.drop rest).text = leavesOf c.rest :=
    (text_drop (suffix_of_mark marked)).trans onto.text
  have moved : Prints (leavesOf lifetimes.printed ++ "?" :: leavesOf rest)
      ("?" :: leavesOf lifetimes.printed ++ leavesOf rest) := by
    obtain rfl | ⟨lifetimes, between⟩ := printed_of_boundLifetimes bound
    · exact .refl _
    · have form := Prints.of_form [] (leavesOf rest) (.relaxed lifetimes)
      rw [between]
      simpa [Cursor.start, leavesOf] using form
  have whole := onto.prints
  rw [left] at whole
  have shown := (whole.trans moved).left (leavesOf c.printed)
  refine ⟨text_resume (c := c) (d := lifetimes.drop rest) text.symm [], ?_⟩
  simpa [Cursor.shown, Cursor.follow, Cursor.resume, Cursor.write, Cursor.drop, leavesOf_append,
    leavesOf, leaves] using shown

theorem onto_of_traitPath (nested : g.Faithful) (h : traitPath g c = some d) : Onto c d := by
  obtain ⟨⟨p, after⟩, read, h⟩ := bind_some_iff.mp h
  dsimp only at h
  split at h <;> grind [Option.map_eq_some_iff]

@[grind →] theorem onto_of_traitBound (nested : g.Faithful) (h : traitBound g c = some d) :
    Onto c d := by
  obtain ⟨lifetimes, bound, h⟩ := bind_some_iff.mp h
  have inside := onto_of_boundLifetimes nested bound
  split at h
  · exact (onto_follow inside).trans (onto_of_traitPath nested h)
  · rename_i rest marked
    have moved := onto_relaxed bound inside marked
    dsimp only at h
    split at h
    · obtain ⟨named, bounded, h⟩ := Option.bind_eq_some_iff.mp h
      exact (moved.trans (onto_of_boundLifetimes nested bounded)).trans (onto_of_traitPath nested h)
    · exact moved.trans (onto_of_traitPath nested h)

@[grind →] theorem onto_of_boundOver (nested : g.Faithful) (h : bound g c = some d) :
    Onto c d := by
  have inside := reprints_whole fun _ _ => onto_of_traitBound nested
  unfold bound at h
  grind

theorem onto_of_captures (h : captures c = some d) : Onto c d := by
  unfold captures at h
  obtain ⟨after, used, h⟩ := bind_some_iff.mp h
  refine (onto_of_word used).trans (onto_of_angled ?_ h)
  intro ts lifetime d h
  dsimp only at h
  split at h
  · rename_i read
    cases h
    exact ⟨onto_of_lifetime read, fun _ => quoted_of_lifetime read⟩
  · obtain ⟨e, read, same⟩ := Option.map_eq_some_iff.mp h
    cases same
    refine ⟨?_, nofun⟩
    rcases Option.or_eq_some_iff.mp read with read | ⟨-, read⟩
    · exact onto_of_word read
    · obtain ⟨⟨i, u⟩, named, rfl⟩ := Option.map_eq_some_iff.mp read
      exact onto_of_name named

@[grind →] theorem onto_of_boundsFrom (nested : g.Faithful) {plus opaque? : Bool} {fuel : Nat}
    {trait : Bool} (h : boundsFrom g plus opaque? fuel c = some (trait, d)) : Onto c d := by
  induction fuel generalizing c trait with
  | zero => cases h
  | succ fuel ih =>
    unfold boundsFrom at h
    dsimp only at h
    split at h <;>
    · obtain ⟨after, first, h⟩ := bind_some_iff.mp h
      have own : Onto c after := by grind [onto_of_captures]
      split at h
      · cases h
        exact own
      · rename_i further added
        have marked : Onto after further := by grind
        refine (own.trans marked).trans ?_
        split at h
        · obtain ⟨⟨others, last⟩, more, same⟩ := Option.map_eq_some_iff.mp h
          cases same
          exact ih more
        · cases h
          exact .refl _

@[grind →] theorem onto_of_boundsOver (nested : g.Faithful) {plus opaque? : Bool}
    (h : bounds g plus opaque? c = some d) : Onto c d := by
  obtain ⟨⟨trait, after⟩, read, h⟩ := bind_some_iff.mp h
  grind

/-! ### Generic parameters and where clauses -/

theorem keeps_afterMark {s : String} {item : Cursor → Option Cursor} (keeps : Keeps item) :
    Keeps (afterMark s item) := by
  intro c d h
  unfold afterMark at h
  split at h
  · cases h
    exact .refl _
  · exact (onto_of_mark ‹_›).trans (keeps h)

@[grind →] theorem onto_of_markedType (nested : g.Faithful) {s : String} {plus : Bool}
    (h : afterMark s (g.plainType plus) c = some d) : Onto c d :=
  keeps_afterMark (keeps_plainType nested plus) h

@[grind →] theorem onto_of_markedExpr (nested : g.Faithful) {s : String} {structs : Bool}
    (h : afterMark s (·.read (g.expr structs)) c = some d) : Onto c d :=
  keeps_afterMark (keeps_expr nested structs) h

/-- What was printed stays. -/
def Grows (f : Cursor → Option Cursor) : Prop :=
  ∀ ⦃c d⦄, f c = some d → leavesOf c.printed <+: leavesOf d.printed

theorem grows_to (c : Cursor) (rest : List Tree) :
    leavesOf c.printed <+: leavesOf (c.upTo rest).printed := by
  change _ <+: leavesOf (c.printed ++ taken c.ahead rest)
  rw [leavesOf_append]
  exact List.prefix_append _ _

theorem grows_lifetime : Grows (·.lifetime) := by
  intro c d h
  obtain ⟨rest, found, rfl⟩ := Option.map_eq_some_iff.mp h
  exact grows_to c rest

theorem grows_chain {item : Cursor → Option Cursor} {sep : String} {stop : List Tree → Bool}
    (grows : Grows item) : Grows (chain item sep stop) := by
  intro c d h
  unfold chain at h
  generalize c.size + 1 = fuel at h
  induction fuel generalizing c with
  | zero => cases h
  | succ fuel ih =>
    unfold chainFrom at h
    split at h
    · cases h
      exact List.prefix_rfl
    · obtain ⟨after, read, h⟩ := bind_some_iff.mp h
      split at h
      · rename_i marked
        have printed := (leavesOf_of_cursorMark marked).2
        have own : leavesOf after.printed <+: _ := printed ▸ List.prefix_append _ _
        exact (grows read).trans (own.trans (ih h))
      · cases h
        exact grows read

theorem quoted_of_boundedLifetime (h : boundedLifetime c = some d) :
    "'" ∈ leavesOf d.printed := by
  obtain ⟨e, first, h⟩ := bind_some_iff.mp h
  have own : "'" ∈ leavesOf e.printed := quoted_of_lifetime first
  unfold colonBounds at h
  split at h
  · cases h
    exact own
  split at h
  · cases h
    exact own
  · exact (grows_chain grows_lifetime h).subset ((grows_to _ _).subset own)

/-- A parameter is printed as its declaration and its default, and a lifetime has a quote mark. -/
structure Parameter.Of (d : Cursor) (comma : Bool) (p : Parameter) : Prop where
  comma : p.comma = comma
  printed : d.printed = p.declaration ++ p.fallback
  quoted : p.kind = .lifetime → "'" ∈ leavesOf p.declaration

theorem onto_of_parameter (nested : g.Faithful) {make : Bool → Parameter}
    (h : parameter g ts = some (make, d)) :
    Onto (.start ts) d ∧ ∀ comma, (make comma).Of d comma := by
  unfold parameter at h
  obtain ⟨start, skipped, h⟩ := bind_some_iff.mp h
  have before := onto_of_skipAttributes nested skipped
  split at h
  · obtain ⟨after, bounded, h⟩ := bind_some_iff.mp h
    cases h
    exact ⟨before.trans (onto_of_boundedLifetime bounded), fun comma =>
      ⟨rfl, (List.append_nil _).symm, fun _ => quoted_of_boundedLifetime bounded⟩⟩
  split at h
  · obtain ⟨after, bounded, h⟩ := bind_some_iff.mp h
    obtain ⟨value, given, h⟩ := bind_some_iff.mp h
    cases h
    have ends : EndsBounds (startsAnyMark [",", ">", "="]) := endsBounds_marks (by decide)
    have own := (onto_next start).trans (keeps_colonBounds (keeps_bound nested) ends bounded)
    exact ⟨(before.trans own).trans (onto_follow (onto_of_markedType nested given)), fun comma =>
      ⟨rfl, rfl, nofun⟩⟩
  split at h
  · obtain ⟨⟨i, named⟩, read, h⟩ := bind_some_iff.mp h
    obtain ⟨marked, colon, h⟩ := bind_some_iff.mp h
    obtain ⟨after, typed, h⟩ := bind_some_iff.mp h
    obtain ⟨value, given, h⟩ := bind_some_iff.mp h
    cases h
    have inside : Onto (.start after.rest) value := by
      refine keeps_afterMark (fun u v h => ?_) given
      rcases Option.or_eq_some_iff.mp h with h | ⟨-, h⟩
      · obtain ⟨⟨j, w⟩, named, rfl⟩ := Option.map_eq_some_iff.mp h
        exact onto_of_name named
      · exact onto_of_constArgument nested h
    have own : Onto start after := by grind
    exact ⟨(before.trans own).trans (onto_follow inside), fun comma => ⟨rfl, rfl, nofun⟩⟩
  split at h
  · cases h
    exact ⟨before.trans (onto_next start), fun comma => ⟨rfl, (List.append_nil _).symm, nofun⟩⟩
  · cases h

/-- Generic parameters are printed as they are declared. -/
theorem prints_of_parameters (nested : g.Faithful) {ps : List Parameter}
    (h : parameters g c = some (ps, d)) : d.text = c.text ∧
      Prints (leavesOf c.rest) (leavesOf (declareParameters ps) ++ leavesOf d.rest) := by
  unfold parameters at h
  split at h
  · cases h
    exact ⟨rfl, .refl _⟩
  · rename_i inside opened
    let written (p : Parameter) : List Tree :=
      Angled.written ⟨p.kind == .lifetime, p.declaration ++ p.fallback, p.comma⟩
    obtain ⟨text, quoted, prints⟩ := prints_of_angledFrom written
      (fun p => p.kind = .lifetime → "'" ∈ leavesOf p.declaration) (fun {ts make d} own => by
        obtain ⟨onto, becomes⟩ := onto_of_parameter nested own
        refine ⟨onto, fun comma => ⟨(becomes comma).quoted, ?_⟩⟩
        have same := (becomes comma).comma
        rw [(becomes comma).printed]
        cases comma <;>
          simp [written, Angled.written, same, leavesOf_append, leavesOf, leaves, separator]) h
    refine ⟨text.trans (onto_of_mark opened).text, ?_⟩
    rw [(leavesOf_of_cursorMark opened).1]
    refine (prints.left ["<"]).trans ?_
    by_cases empty : ps = []
    · subst empty
      exact Prints.of_form [] (leavesOf d.rest) .angles
    · let items := ps.map fun p =>
        Angled.mk (p.kind == .lifetime) (p.declaration ++ p.fallback) p.comma
      have marked : ∀ a ∈ items, a.lifetime → "'" ∈ leavesOf a.printed := by
        simp only [items, List.forall_mem_map, beq_iff_eq]
        intro p member lifetime
        rw [leavesOf_append]
        exact List.mem_append_left _ (quoted p member lifetime)
      have same : ps.flatMap written = items.flatMap (·.written) := by
        simp [items, written, List.flatMap_map]
      have ordered := prints_lifetimesFirst marked (leavesOf d.rest)
      rw [same]
      simpa [declareParameters, writeParameters, empty, items, leavesOf_append, leavesOf, leaves]
        using ordered

@[grind →] theorem onto_of_generics (nested : g.Faithful) (h : generics g c = some d) :
    Onto c d := by
  obtain ⟨⟨ps, after⟩, read, rfl⟩ := Option.map_eq_some_iff.mp h
  obtain ⟨text, prints⟩ := prints_of_parameters nested read
  exact onto_resume text.symm prints

@[grind →] theorem onto_of_predicateOver (nested : g.Faithful) (h : predicate g c = some d) :
    Onto c d := by
  have lifetimes {sep stop c d} (h : chain (·.lifetime) sep stop c = some d) : Onto c d :=
    keeps_chain keeps_lifetime h
  unfold predicate at h
  repeat' first | split at h | (rw [bind_some_iff] at h; obtain ⟨_, _, h⟩ := h)
  all_goals grind

theorem endsClause_head (h : endsClause ts) :
    ∃ next ∈ clauseEnds, ∃ tail, leavesOf ts = next :: tail := by
  obtain braced | marked := Bool.or_eq_true_iff.mp h
  · obtain ⟨content, rest, rfl⟩ := eq_of_startsGroup braced
    exact ⟨_, by decide, _, leavesOf_group _ _ _⟩
  · have known : ∀ s ∈ [";", "="], s.toList.map String.singleton = [s] ∧ s ∈ clauseEnds := by
      decide
    obtain ⟨s, listed, starts⟩ := List.any_eq_true.mp marked
    obtain ⟨single, ends⟩ := known s listed
    obtain ⟨rest, found⟩ := Option.isSome_iff_exists.mp starts
    exact ⟨s, ends, leavesOf rest, by rw [leavesOf_of_mark found, single]; rfl⟩

@[grind →] theorem onto_of_whereClause (nested : g.Faithful) (h : whereClause g c = some d) :
    Onto c d := by
  unfold whereClause at h
  split at h
  · cases h
    exact .refl _
  · rename_i rest named
    have own := eq_of_word named
    have shorter : rest <:+ c.ahead := own ▸ List.suffix_cons _ _
    split at h
    · rename_i stopped
      cases h
      obtain ⟨next, known, tail, left⟩ := endsClause_head stopped
      rw [leavesOf_front] at left
      refine onto_drop shorter (.clause known) ?_ left
      rw [own, leavesOf, left]
      rfl
    · exact (onto_upTo shorter).trans (keeps_chain (fun _ _ => nested.onto_of_predicate) h)

/-! ### Types -/

theorem onto_abi (c : Cursor) : Onto c (abi c) := by
  unfold abi
  split
  · exact .refl _
  · rename_i after named
    split
    · rename_i value text rest literal
      exact (onto_of_word named).trans (onto_upTo (literal ▸ List.suffix_cons _ _))
    · exact onto_of_word named

grind_pattern onto_abi => abi c

theorem keeps_functionArgument (nested : g.Faithful) : Keeps (functionArgument g) := by
  intro c d h
  unfold functionArgument at h
  obtain ⟨start, skipped, h⟩ := bind_some_iff.mp h
  have before := onto_of_skipAttributes nested skipped
  refine before.trans ?_
  dsimp only at h
  split at h <;> split at h <;> grind

@[grind →] theorem onto_of_functionType (nested : g.Faithful) (h : functionType g c = some d) :
    Onto c d := by
  have inside := reprints_commaSeparated (keeps_functionArgument nested)
  unfold functionType at h
  repeat' first | split at h | (rw [bind_some_iff] at h; obtain ⟨_, _, h⟩ := h)
  all_goals grind

@[grind →] theorem onto_of_moreBounds (nested : g.Faithful) (h : moreBounds g c = some d) :
    Onto c d :=
  keeps_afterMark (fun _ _ => nested.onto_of_bounds) h

@[grind →] theorem onto_of_groupedType (nested : g.Faithful) {plus : Bool} {content : List Tree}
    {form : TypeForm} (opened : group .parenthesis c.ahead = some (content, rest))
    (h : groupedType g plus content c = some (form, d)) : Onto c d := by
  unfold groupedType at h
  dsimp only at h
  split at h
  · cases h
    exact onto_next _
  split at h
  · have inside : Reprints (whole (bounds g true false)) :=
      reprints_whole fun _ _ => onto_of_boundsOver nested
    grind [Option.map_eq_some_iff]
  split at h
  · have inside : Reprints (whole (bound g)) := reprints_whole fun _ _ => onto_of_boundOver nested
    grind [Option.map_eq_some_iff, Option.bind_eq_some_iff]
  split at h
  · cases h
  · rename_i own first read
    have onto := nested.type read
    -- What is in the parentheses is read before them.
    have around {all : Option (List Tree)} (prints : ∀ {printed}, all = some printed →
        Prints (leavesOf content) (leavesOf printed)) {d : Cursor}
        (h : c.within .parenthesis (fun _ => all) = some d) : Onto c d := by
      refine onto_of_group (fun {own _ _} found shown => ?_) h
      cases opened.symm.trans found
      exact prints shown
    split at h
    · rename_i done
      obtain ⟨after, closed, h⟩ := bind_some_iff.mp h
      have own : Onto c after := around (fun same => by
        cases same
        simpa [List.isEmpty_iff.mp done, leavesOf] using onto.prints) closed
      split at h
      · split at h <;> grind [Option.map_eq_some_iff]
      · grind
    · obtain ⟨comma, marked, h⟩ := bind_some_iff.mp h
      obtain ⟨elements, listed, h⟩ := bind_some_iff.mp h
      obtain ⟨after, closed, h⟩ := bind_some_iff.mp h
      cases h
      have all := (onto.trans (onto_of_mark marked)).trans
        (keeps_chain (keeps_plainType nested true) listed)
      exact around (prints_of_finish all) closed

@[grind →] theorem onto_of_namedType (nested : g.Faithful) {plus bound? : Bool}
    {form : TypeForm} (h : namedType g plus bound? c = some (form, d)) : Onto c d := by
  unfold namedType at h
  repeat' first | split at h | (rw [bind_some_iff] at h; obtain ⟨_, _, h⟩ := h)
  all_goals grind [Option.map_eq_some_iff]

theorem keeps_elementType (nested : g.Faithful) : Keeps (elementType g) := by
  intro c d h
  obtain ⟨after, typed, h⟩ := bind_some_iff.mp h
  exact (nested.onto_of_plainType typed).trans (onto_of_markedExpr nested h)

@[grind →] theorem onto_of_bareType (nested : g.Faithful) {plus : Bool} {form : TypeForm}
    (h : bareType g plus c = some (form, d)) : Onto c d := by
  unfold bareType at h
  dsimp only at h
  rw [bind_some_iff] at h
  obtain ⟨start, bounded, h⟩ := h
  refine (onto_of_boundLifetimes nested bounded).trans ?_
  split at h
  · split at h
    · cases h
    · exact onto_of_groupedType nested ‹_› h
  · have element : Reprints (whole (elementType g)) := reprints_whole (keeps_elementType nested)
    repeat' (rw [ite_eq_iff] at h; rcases h with ⟨-, h⟩ | ⟨-, h⟩)
    all_goals grind [Option.map_eq_some_iff]

/-- A group between nothing has the text of its content. -/
theorem onto_unmarked {content printed : List Tree} (opened : c.rest = .group .none content :: rest)
    (prints : Prints (leavesOf content ++ leavesOf rest) (leavesOf printed ++ leavesOf rest)) :
    Onto c
      ({ c with source := c.source ++ [.group .none content], rest : Cursor }.write printed) := by
  have left : leavesOf c.rest = leavesOf content ++ leavesOf rest := by
    rw [opened]
    simp [leavesOf, leaves, Delimiter.opening?, Delimiter.closing?]
  constructor
  · simp [Cursor.text, Cursor.write, leavesOf_append, left, leavesOf, leaves, Delimiter.opening?,
      Delimiter.closing?]
  · have shown := prints.left (leavesOf c.printed)
    simpa [Cursor.shown, Cursor.write, leavesOf_append, left] using shown

theorem onto_of_typeOver (nested : g.Faithful) {plus : Bool} {form : TypeForm}
    (h : Grammar.type g plus c = some (form, d)) : Onto c d := by
  unfold Grammar.type at h
  split at h
  · rename_i content rest opened
    split at h
    · rename_i form source printed read
      have own : Prints (leavesOf content) (leavesOf printed) := by
        simpa [leavesOf] using (nested.type read).prints
      dsimp only at h
      split at h
      · exact onto_of_namedType nested h
      split at h
      · rename_i member
        obtain ⟨⟨p, after⟩, named, h⟩ := bind_some_iff.mp h
        cases h
        refine (onto_unmarked opened ?_).trans (onto_of_path nested named)
        obtain ⟨colons, marked⟩ := Option.isSome_iff_exists.mp (Bool.and_eq_true_iff.mp member).1
        have left : leavesOf rest = ":" :: ":" :: leavesOf colons :=
          (leavesOf_front rest).symm.trans (leavesOf_of_mark marked)
        have angles := Prints.of_form [] (leavesOf colons) (.qualified (leavesOf printed))
        have inside := own.right (leavesOf rest)
        rw [left] at inside
        rw [left]
        simpa [left, leavesOf_append, leavesOf, leaves] using inside.trans (by simpa using angles)
      · cases h
        refine onto_unmarked opened ?_
        simpa [leavesOf, leaves, Delimiter.opening?, Delimiter.closing?] using
          own.right (leavesOf rest)
    · exact onto_of_bareType nested h
  · exact onto_of_bareType nested h

end EndpointRouting.Grammar
