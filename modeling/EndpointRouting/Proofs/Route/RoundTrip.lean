import EndpointRouting.Proofs.Route.Matching
import EndpointRouting.Proofs.Template.Expression

/-!
# Filling a template and matching it

A regular template is plain, starts at the root and has variables of different names. What its
matcher accepts are the paths that come from putting segments in place of the variables, and after
the match the attributes of these names are those segments: `matches_iff_filled`.
-/

namespace EndpointRouting.Regex
open Template Text

variable {ps : List Piece}

/-- What the groups of a template capture, newest first, if the values are `bs`. -/
def captured (k : Nat) (bs : List (String × String)) : List (Nat × List Char) :=
  ((bs.zipIdx (k + 1)).map fun x => (x.2, x.1.2.toList)).reverse

theorem captured_cons (k : Nat) (b : String × String) (bs : List (String × String)) :
    captured k (b :: bs) = captured (k + 1) bs ++ [(k + 1, b.2.toList)] := by
  simp [captured, List.zipIdx_cons]

/-- Behind a variable no path goes on within the segment. -/
theorem whole?_bounded (bounded : ps = [] ∨ ∃ later, ps = .literal '/' :: later) (k : Nat)
    (u : Cursor) (c : Char) (rest : List Char) (here : u.after = c :: rest)
    (within : segmentTest.accepts c = true) : (Node.ofParts (nodes k ps)).whole? u = none := by
  rcases bounded with rfl | ⟨later, rfl⟩
  · simp [nodes, Node.ofParts, Node.whole?, Node.ends, here]
  · have no_slash : '/' ≠ c := by
      rw [segmentTest_accepts, bne_iff_ne] at within
      exact within.symm
    change (Node.ofParts (.one (.char '/') :: nodes k later)).whole? u = none
    rw [whole?_char, here]
    exact if_neg no_slash

/-- The row of a plain template matches just where there are values for its variables, and these
are what it captures. -/
theorem whole?_nodes (plain : Plain ps) (k : Nat) (s : Cursor) :
    ((Node.ofParts (nodes k ps)).whole? s).map Cursor.captures =
      (values? ps s.after).map fun bs => captured k bs ++ s.captures := by
  induction plain generalizing k s with
  | nil =>
    change (([s] : List Cursor).find? _).map _ = _
    cases here : s.after with
    | nil => simp [values?, captured, here]
    | cons _ _ => simp [values?, here]
  | @literal c ps ordinary rest ih =>
    rw [nodes, whole?_char]
    cases s.after with
    | nil => rfl
    | cons d left =>
      rw [values?]
      dsimp only
      by_cases same : c = d
      · rw [if_pos same, if_pos same]
        exact ih k (s.next d left)
      · rw [if_neg same, if_neg same]
        rfl
  | @var name ps valid bounded rest ih =>
    obtain ⟨left, kept⟩ := captured_run (t := segmentTest) (k + 1) s
    rw [nodes, whole?_run (whole?_bounded bounded (k + 1)), values?]
    rw [segmentTest_accepts] at left kept ⊢
    by_cases nothing : s.after.takeWhile (· != '/') = []
    · rw [if_pos nothing, if_pos nothing]
      rfl
    · rw [if_neg nothing, if_neg nothing, ih, left, kept, Option.map_map]
      congr 1
      funext bs
      simp [captured_cons]

/-! ### Looking up what was captured -/

theorem captured?_group {re : Regex} (named : re.names = groups ps)
    (distinct : (Template.names ps).Nodup) {bs : List (String × String)}
    (listed : bs.map (·.1) = (Template.names ps).map String.ofList) {found : Cursor}
    (holds : found.captures = captured 0 bs) {b : String × String} (member : b ∈ bs) :
    re.captured? found b.1.toList = some b.2.toList := by
  obtain ⟨i, bound, rfl⟩ := List.getElem_of_mem member
  have name : (Template.names ps)[i]? = some bs[i].1.toList := by
    have there := congrArg (·[i]?) listed
    simp only [List.getElem?_map, List.getElem?_eq_getElem bound, Option.map_some] at there
    obtain ⟨name, here, same⟩ := Option.map_eq_some_iff.mp there.symm
    rw [here, ← same, String.toList_ofList]
  have group : (bs[i].1.toList, i + 1) ∈ groups ps := by
    rw [groups, List.mk_mem_zipIdx_iff_le_and_getElem?_sub]
    exact ⟨Nat.le_add_left 1 i, name⟩
  have capture : (i + 1, bs[i].2.toList) ∈ captured 0 bs := by
    rw [captured, List.mem_reverse, List.mem_map]
    refine ⟨(bs[i], i + 1), ?_, rfl⟩
    rw [List.mk_mem_zipIdx_iff_le_and_getElem?_sub]
    exact ⟨Nat.le_add_left 1 i, List.getElem?_eq_getElem bound⟩
  have namesDistinct : ((groups ps).map (·.1)).Nodup := by
    rw [groups, List.zipIdx_map_fst]
    exact distinct
  have indicesDistinct : ((captured 0 bs).map (·.1)).Nodup := by
    rw [captured, List.map_reverse, List.nodup_reverse, List.map_map]
    have indices : ((bs.zipIdx 1).map Prod.snd).Nodup := by
      rw [List.zipIdx_map_snd]
      exact List.nodup_range' 1
    exact indices
  have first := find?_of_nodup namesDistinct group
  have second := find?_of_nodup indicesDistinct capture
  unfold captured? Cursor.captured?
  rw [named, holds, first, Option.bind_some]
  dsimp only at second ⊢
  rw [second, Option.map_some]

end EndpointRouting.Regex

namespace EndpointRouting.Template

/-- A plain template from the root that has variables, all of different names. -/
structure Regular (ps : List Piece) : Prop where
  rooted : ps.head? = some (.literal '/')
  plain : Plain ps
  varied : names ps ≠ []
  distinct : (names ps).Nodup

variable {ps : List Piece}

theorem compile_regular (regular : Regular ps) (path : String) :
    compile path (.ofList (written ps)) =
      { path, text := .ofList (written ps)
        expression := some (.ofList (ps.flatMap Piece.expression))
        parameters := (names ps).map String.ofList } := by
  have scanned : vars (written ps) = ps.filterMap Piece.var? := by
    rw [vars, pieces_written regular.plain]
  have some_var : (ps.filterMap Piece.var?).isEmpty = false := by
    cases listed : ps.filterMap Piece.var? with
    | nil => exact absurd (by rw [names, listed, List.map_nil]) regular.varied
    | cons _ _ => rfl
  unfold compile
  dsimp only
  rw [String.toList_ofList, scanned, pieces_written regular.plain, some_var, names, List.map_map]
  rfl

/-- A filled template is longer than the slash it starts with. -/
theorem filled_regular (regular : Regular ps) {values : String → String} (fits : Fits values ps) :
    ∃ c rest, filled values ps = '/' :: c :: rest := by
  cases ps with
  | nil => cases regular.rooted
  | cons p ps =>
    obtain rfl : p = .literal '/' := Option.some.inj regular.rooted
    have some_value : ∃ name ∈ names ps, (values (.ofList name)).toList ≠ [] := by
      obtain ⟨name, others, listed⟩ := List.exists_cons_of_ne_nil regular.varied
      have member : name ∈ names ps := by
        change names ps = _ at listed
        rw [listed]
        exact List.mem_cons_self
      exact ⟨name, member, (fits name member).1⟩
    obtain ⟨name, member, some_value⟩ := some_value
    obtain ⟨v, present, rfl⟩ := List.mem_map.mp member
    obtain ⟨q, present, found⟩ := List.mem_filterMap.mp present
    cases q with
    | literal _ => cases found
    | var w =>
      cases found
      have filling : filled values ps ≠ [] := by
        intro nothing
        exact some_value (List.flatMap_eq_nil_iff.mp nothing _ present)
      obtain ⟨c, rest, text⟩ := List.exists_cons_of_ne_nil filling
      refine ⟨c, rest, ?_⟩
      change '/' :: filled values ps = _
      rw [text]

end EndpointRouting.Template

namespace EndpointRouting.Route
open Http Template

variable {ps : List Piece}

theorem captures_plain (plain : Plain ps) (distinct : (Template.names ps).Nodup) {re : Regex}
    (compiled : Regex.compile (Regex.anchor (ps.flatMap Piece.expression)) = .ok re)
    (path : String) :
    Matcher.captures re ((Template.names ps).map String.ofList) path = values? ps path.toList := by
  rcases Regex.compile_plain plain distinct with refused | ⟨_, _, alone⟩
  · rw [compiled] at refused
    cases refused
  · have named : re.names = Regex.groups ps := by
      obtain ⟨-, -, -, same⟩ := Regex.compile_anchor alone compiled
      exact same
    have matched := Regex.whole?_nodes plain 0 ⟨[], path.toList, []⟩
    unfold Matcher.captures
    rw [Regex.search?_anchor alone compiled]
    change (Option.map _ ((Regex.Node.ofParts (Regex.nodes 0 ps)).whole? ⟨[], path.toList, []⟩)) = _
    cases read : values? ps path.toList with
    | none =>
      rw [read, Option.map_none, Option.map_eq_none_iff] at matched
      rw [matched, Option.map_none]
    | some bs =>
      rw [read, Option.map_some] at matched
      obtain ⟨found, hit, holds⟩ := Option.map_eq_some_iff.mp matched
      obtain ⟨listed, -, -⟩ := filled_of_values? read
      rw [List.append_nil] at holds
      have each (b : String × String) (member : b ∈ bs) :
          (re.captured? found b.1.toList).map (fun value => (b.1, String.ofList value)) =
            some b := by
        rw [Regex.captured?_group named distinct listed holds member, Option.map_some,
          String.ofList_toList]
      rw [hit, Option.map_some, ← listed, List.filterMap_map]
      exact congrArg some ((List.filterMap_congr each).trans List.filterMap_some)

theorem attribute?_writeAttributes (r : Request) (ns : List String) (values : String → String)
    (other : String) :
    (Matcher.writeAttributes r (ns.map fun name => (name, values name))).attribute? other =
      if other ∈ ns then some (values other) else r.attribute? other := by
  induction ns generalizing r with
  | nil => rfl
  | cons name ns ih =>
    change (Matcher.writeAttributes (r.setAttribute name (values name)) _).attribute? other = _
    rw [ih, Request.attribute?_setAttribute]
    by_cases later : other ∈ ns
    · rw [if_pos later, if_pos (List.mem_cons_of_mem _ later)]
    · rw [if_neg later]
      by_cases same : other = name
      · rw [if_pos same, if_pos (by simp [same]), same]
      · rw [if_neg same, if_neg (by simp [same, later])]

theorem writeAttributes_eq (r : Request) (bs : List (String × String)) :
    Matcher.writeAttributes r bs =
      { r with attributes := (Matcher.writeAttributes r bs).attributes } := by
  induction bs generalizing r with
  | nil => rfl
  | cons b bs ih => exact ih (r.setAttribute b.1 b.2)

/-- The matcher of a regular template reads the values off the path. -/
theorem accept?_regular (regular : Regular ps) {uri pattern : String} {m : Matcher}
    (made : Matcher.parameterized? uri pattern (.ofList (ps.flatMap Piece.expression))
      ((Template.names ps).map String.ofList) = .ok m) (r : Request) :
    m.accept? r = if r.isRoot then none
      else r.path.bind fun path => (values? ps path.toList).map (Matcher.writeAttributes r) := by
  obtain ⟨re, compiled, rfl⟩ := Matcher.parameterized?_ok made
  rw [String.toList_ofList] at compiled
  unfold Matcher.accept?
  simp only [captures_plain regular.plain regular.distinct compiled]

theorem not_isRoot_of_filled (regular : Regular ps) {values : String → String}
    (fits : Fits values ps) {r : Request} (path : r.path = some (.ofList (filled values ps))) :
    r.isRoot = false := by
  obtain ⟨c, rest, text⟩ := filled_regular regular fits
  unfold Request.isRoot
  rw [path, text]
  have longer (s : String) (short : s.toList.length ≤ 1) :
      (String.ofList ('/' :: c :: rest) == s) = false := by
    rw [beq_eq_false_iff_ne]
    intro same
    rw [← same, String.toList_ofList] at short
    simp at short
  dsimp only
  rw [longer "" (by decide), longer "/" (by decide)]
  rfl

/-- A filled regular template is accepted, and the values are written under their names. -/
theorem accept?_filled (regular : Regular ps) {uri pattern : String} {m : Matcher}
    (made : Matcher.parameterized? uri pattern (.ofList (ps.flatMap Piece.expression))
      ((Template.names ps).map String.ofList) = .ok m) {values : String → String}
    (fits : Fits values ps) {r : Request} (path : r.path = some (.ofList (filled values ps))) :
    m.accept? r = some (Matcher.writeAttributes r
      (((Template.names ps).map String.ofList).map fun name => (name, values name))) := by
  have read := values?_filled regular.plain fits
  rw [accept?_regular regular made, not_isRoot_of_filled regular fits path, path]
  simp only [Bool.false_eq_true, if_false, Option.bind_some, String.toList_ofList, read,
    Option.map_some, List.map_map]
  rfl

/-- The value that stands under a name. -/
def valueIn (bs : List (String × String)) (name : String) : String :=
  ((bs.find? (·.1 == name)).map (·.2)).getD ""

theorem valueIn_of_mem {bs : List (String × String)} (distinct : (bs.map (·.1)).Nodup)
    {b : String × String} (member : b ∈ bs) : valueIn bs b.1 = b.2 := by
  rw [valueIn, find?_of_nodup distinct member]
  rfl

/-- Only filled templates are accepted. -/
theorem filled_of_accept? (regular : Regular ps) {uri pattern : String} {m : Matcher}
    (made : Matcher.parameterized? uri pattern (.ofList (ps.flatMap Piece.expression))
      ((Template.names ps).map String.ofList) = .ok m) {r : Request}
    (hit : (m.accept? r).isSome) :
    ∃ values, Fits values ps ∧ r.path = some (.ofList (filled values ps)) := by
  rw [accept?_regular regular made] at hit
  split at hit
  · cases hit
  · cases here : r.path with
    | none =>
      rw [here] at hit
      cases hit
    | some path =>
      rw [here, Option.bind_some, Option.isSome_map] at hit
      obtain ⟨bs, read⟩ := Option.isSome_iff_exists.mp hit
      obtain ⟨listed, segments, refill⟩ := filled_of_values? read
      have distinct : (bs.map (·.1)).Nodup := by
        rw [listed]
        exact regular.distinct.map fun _ _ same => String.ofList_injective same
      have agree (b : String × String) (member : b ∈ bs) : valueIn bs b.1 = b.2 :=
        valueIn_of_mem distinct member
      refine ⟨valueIn bs, ?_, ?_⟩
      · intro name member
        have entry : String.ofList name ∈ bs.map (·.1) := by
          rw [listed]
          exact List.mem_map_of_mem member
        obtain ⟨b, present, same⟩ := List.mem_map.mp entry
        rw [← same, agree b present]
        exact segments b present
      · rw [refill (valueIn bs) agree, String.ofList_toList]

/-- The expression of a regular template is well formed, though it may be too big. Its matcher
accepts the paths that are the template with segments put in for the variables, and no others. The
segments can be told from the path, and are the attributes of these names afterwards; nothing else
of the request changes. -/
theorem matches_iff_filled (regular : Regular ps) (path : String) :
    ∃ e, (Template.compile path (.ofList (written ps))).expression = some e ∧
      (Template.compile path (.ofList (written ps))).parameters =
        (Template.names ps).map String.ofList ∧
      (∀ err, Regex.compile (anchored e).toList = .error err → err = .tooBig) ∧
      ∀ uri pattern m, Matcher.parameterized? uri pattern e
          ((Template.names ps).map String.ofList) = .ok m →
        (∀ r, (m.accept? r).isSome ↔
          ∃ values, Fits values ps ∧ r.path = some (.ofList (filled values ps))) ∧
        ∀ r values, Fits values ps → r.path = some (.ofList (filled values ps)) →
          (∀ others, Fits others ps → r.path = some (.ofList (filled others ps)) →
            ∀ name ∈ (Template.names ps).map String.ofList, others name = values name) ∧
          ∃ matched, m.accept? r = some matched ∧
            matched = { r with attributes := matched.attributes } ∧
            ∀ name, matched.attribute? name =
              if name ∈ (Template.names ps).map String.ofList then some (values name)
              else r.attribute? name := by
  have compiled := compile_regular regular path
  refine ⟨.ofList (ps.flatMap Piece.expression), by rw [compiled], by rw [compiled], ?_, ?_⟩
  · intro err refused
    rw [anchored_toList, String.toList_ofList] at refused
    rcases Regex.compile_plain regular.plain regular.distinct with tooBig | ⟨_, accepted, -⟩
    · rw [tooBig] at refused
      cases refused
      rfl
    · rw [accepted] at refused
      cases refused
  · intro uri pattern m made
    refine ⟨fun r => ⟨filled_of_accept? regular made, ?_⟩, fun r values fits here => ⟨?_, ?_⟩⟩
    · rintro ⟨values, fits, here⟩
      rw [accept?_filled regular made fits here]
      rfl
    · intro others fits' there name member
      obtain ⟨variable', listed, rfl⟩ := List.mem_map.mp member
      have texts : filled others ps = filled values ps :=
        String.ofList_injective (Option.some.inj (there.symm.trans here))
      exact eq_of_filled_eq regular.plain fits' fits texts variable' listed
    · exact ⟨_, accept?_filled regular made fits here, writeAttributes_eq _ _,
        attribute?_writeAttributes r _ values⟩

/-- The template `/t/{id}/{no}`. -/
def twoSegments : List Piece :=
  [.literal '/', .literal 't', .literal '/', .var ⟨['i', 'd'], none⟩, .literal '/',
    .var ⟨['n', 'o'], none⟩]

theorem regular_twoSegments : Regular twoSegments where
  rooted := rfl
  plain := by
    have last : Plain [.var ⟨['n', 'o'], none⟩] :=
      .var ⟨by decide +kernel, List.forall_mem_singleton.mpr (by decide +kernel)⟩ (.inl rfl) .nil
    have first : Plain [.var ⟨['i', 'd'], none⟩, .literal '/', .var ⟨['n', 'o'], none⟩] :=
      .var ⟨by decide +kernel, List.forall_mem_singleton.mpr (by decide +kernel)⟩ (.inr ⟨_, rfl⟩)
        (.literal (by decide) last)
    exact .literal (by decide) (.literal (by decide) (.literal (by decide) first))
  varied := by decide
  distinct := by decide

/-- `/t/7/x` is accepted with two attributes, `/t/7` is not. -/
theorem matches_iff_filled_twoSegments :
    ∃ m, Matcher.parameterized? "/api/t/\x7bid\x7d/\x7bno\x7d" "/t/\x7bid\x7d/\x7bno\x7d"
        "/t/(?<id>[^/]+)/(?<no>[^/]+)" ["id", "no"] = .ok m ∧
      (∃ matched, m.accept? ⟨.get, some "/t/7/x", {}, {}, {}⟩ = some matched ∧
        matched.attribute? "id" = some "7" ∧ matched.attribute? "no" = some "x" ∧
        matched.attribute? "other" = none) ∧
      ¬ ∃ values, Fits values twoSegments ∧ "/t/7" = .ofList (filled values twoSegments) := by
  obtain ⟨m, made⟩ : ∃ m, Matcher.parameterized? "/api/t/\x7bid\x7d/\x7bno\x7d"
      "/t/\x7bid\x7d/\x7bno\x7d" "/t/(?<id>[^/]+)/(?<no>[^/]+)" ["id", "no"] = .ok m :=
    ok_of_isSome (by decide +kernel)
  obtain ⟨e, compiled, -, -, round⟩ := matches_iff_filled regular_twoSegments ""
  obtain rfl : e = "/t/(?<id>[^/]+)/(?<no>[^/]+)" := by
    have written : (Template.compile "" (.ofList (written twoSegments))).expression =
        some "/t/(?<id>[^/]+)/(?<no>[^/]+)" := by decide +kernel
    exact Option.some.inj (compiled.symm.trans written)
  obtain ⟨hits, fills⟩ := round _ _ m made
  refine ⟨m, made, ?_, ?_⟩
  · obtain ⟨-, matched, hit, -, attributes⟩ := fills ⟨.get, some "/t/7/x", {}, {}, {}⟩
      (fun name => if name = "id" then "7" else "x") (by unfold Fits IsSegment; decide +kernel)
      (by decide +kernel)
    exact ⟨matched, hit, attributes "id", attributes "no", attributes "other"⟩
  · rintro ⟨values, fits, text⟩
    have hit := (hits ⟨.get, some "/t/7", {}, {}, {}⟩).mpr ⟨values, fits, congrArg some text⟩
    have missed : ((Matcher.parameterized? "/api/t/\x7bid\x7d/\x7bno\x7d"
        "/t/\x7bid\x7d/\x7bno\x7d" "/t/(?<id>[^/]+)/(?<no>[^/]+)" ["id", "no"]).toOption.bind
          (·.accept? ⟨.get, some "/t/7", {}, {}, {}⟩)).isSome = false := by decide +kernel
    rw [made] at missed
    exact absurd (missed.symm.trans hit) (by decide)

end EndpointRouting.Route
