import EndpointRouting.Proofs.Route.Dispatch

/-!
# Branches that are never reached

Declarations are compared by their template, branches are tried by their matcher. The two agree on
all templates but the root, which has two spellings and one matcher: `branch_matchers_nodup_iff`
says that a verb has two branches with one matcher just if it has both spellings, and that the
second of them might as well not be there.
-/

namespace EndpointRouting.Route
open Http Token

/-- The two spellings of the root, one each. -/
def RootPair (a b : String) : Prop := a = "" ∧ b = "/" ∨ a = "/" ∧ b = ""

theorem isRoot_iff {text : String} : Template.isRoot text = true ↔ text = "" ∨ text = "/" := by
  simp [Template.isRoot]

theorem rootPair_iff {a b : String} (different : a ≠ b) :
    RootPair a b ↔ Template.isRoot a = true ∧ Template.isRoot b = true := by
  rw [isRoot_iff, isRoot_iff]
  constructor
  · rintro (⟨rfl, rfl⟩ | ⟨rfl, rfl⟩)
    · exact ⟨.inl rfl, .inr rfl⟩
    · exact ⟨.inr rfl, .inl rfl⟩
  · rintro ⟨rfl | rfl, rfl | rfl⟩
    · exact absurd rfl different
    · exact .inl ⟨rfl, rfl⟩
    · exact .inr ⟨rfl, rfl⟩
    · exact absurd rfl different

variable {d : Definition} {t : Table}

/-! ### Templates and matchers -/

/-- The routes of one verb have different templates. -/
theorem patterns_nodup (built : Table.build d = .ok t) (v : RouteVerb) :
    ((t.routesFor v).map (·.pattern)).Nodup := by
  obtain ⟨-, faultless⟩ := eq_of_build built
  have keys : (d.declarations.map Declaration.key).Nodup := ((faults_eq_nil_iff d).mp faultless).2.1
  have some_keys : ((d.declarationsFor v).map Declaration.key).Nodup :=
    keys.sublist (List.filter_sublist.map _)
  have split : (d.declarationsFor v).map Declaration.key =
      ((d.declarationsFor v).map Declaration.pattern).map (Prod.mk v) := by
    rw [List.map_map]
    apply List.map_congr_left
    intro x member
    rw [Declaration.key, (mem_declarationsFor.mp member).2]
    rfl
  rw [split] at some_keys
  rw [routesFor_of_build built, List.map_map]
  exact some_keys.of_map

theorem matcherRef_of_root {r : Route} (root : r.isIndex = true) :
    MatcherRef.of r t.matchers = .index := by
  rw [MatcherRef.of, if_pos root]

/-- A route of a table that is not the root finds a slot, owned by a route with its template. -/
theorem matcherRef_of_other {r : Route} (member : r ∈ t.routes) (other : r.isIndex = false) :
    ∃ n owner, MatcherRef.of r t.matchers = .slot n ∧ t.matchers[n]? = some owner ∧
      owner.pattern = r.pattern :=
  slot_of_route other (owner_foldl member other)

/-- Routes with different templates find the same matcher just if both are the root. -/
theorem matcherRef_eq_iff {a b : Route} (left : a ∈ t.routes) (right : b ∈ t.routes)
    (different : a.pattern ≠ b.pattern) :
    MatcherRef.of a t.matchers = MatcherRef.of b t.matchers ↔ RootPair a.pattern b.pattern := by
  rw [rootPair_iff different]
  change _ ↔ a.isIndex = true ∧ b.isIndex = true
  cases rootLeft : a.isIndex with
  | true =>
    rw [matcherRef_of_root rootLeft]
    cases rootRight : b.isIndex with
    | true => simp only [matcherRef_of_root rootRight, and_self]
    | false =>
      obtain ⟨n, _, slot, _⟩ := matcherRef_of_other right rootRight
      simp [slot]
  | false =>
    obtain ⟨m, o, slotLeft, ownsLeft, sameLeft⟩ := matcherRef_of_other left rootLeft
    rw [slotLeft]
    cases rootRight : b.isIndex with
    | true => simp [matcherRef_of_root rootRight]
    | false =>
      obtain ⟨n, o', slotRight, ownsRight, sameRight⟩ := matcherRef_of_other right rootRight
      simp only [slotRight, MatcherRef.slot.injEq, Bool.false_eq_true, false_and, iff_false]
      rintro rfl
      rw [ownsLeft, Option.some.injEq] at ownsRight
      exact different (by rw [← sameLeft, ← sameRight, ownsRight])

/-! ### Branches of one verb -/

/-- The templates of a plan's branches, in order. -/
def VerbPlan.patterns (p : VerbPlan) : List String := p.branches.map (·.route.pattern)

/-- Two branches of a verb find the same matcher just if they spell the root differently. -/
theorem matchers_pairwise (built : Table.build d = .ok t) (development : Bool) (v : RouteVerb) :
    (planOf t development v).branches.Pairwise fun a b =>
      a.matcher = b.matcher ↔ RootPair a.route.pattern b.route.pattern := by
  have different := patterns_nodup built v
  rw [List.Nodup, List.pairwise_map] at different
  change ((t.routesFor v).map (branchOf t v)).Pairwise _
  rw [List.pairwise_map]
  refine different.imp_of_mem fun {a b} left right unlike => ?_
  exact matcherRef_eq_iff (mem_routesFor.mp left).1 (mem_routesFor.mp right).1 unlike

/-- In a row of different templates there is a pair that spells the root just if both spellings
occur. -/
theorem pairwise_not_rootPair_iff {texts : List String} :
    texts.Pairwise (fun a b => ¬ RootPair a b) ↔ ¬ ("" ∈ texts ∧ "/" ∈ texts) := by
  induction texts with
  | nil => simp
  | cons text rest ih =>
    rw [List.pairwise_cons, ih]
    constructor
    · rintro ⟨first, later⟩ ⟨empty, slash⟩
      rcases List.mem_cons.mp empty with isEmpty | empty <;>
        rcases List.mem_cons.mp slash with isSlash | slash
      · exact absurd (isEmpty.trans isSlash.symm) (by decide)
      · exact first "/" slash (.inl ⟨isEmpty.symm, rfl⟩)
      · exact first "" empty (.inr ⟨isSlash.symm, rfl⟩)
      · exact later ⟨empty, slash⟩
    · intro lacking
      refine ⟨?_, fun ⟨empty, slash⟩ =>
        lacking ⟨List.mem_cons_of_mem _ empty, List.mem_cons_of_mem _ slash⟩⟩
      rintro other member (⟨rfl, rfl⟩ | ⟨rfl, rfl⟩)
      · exact lacking ⟨List.mem_cons_self, List.mem_cons_of_mem _ member⟩
      · exact lacking ⟨List.mem_cons_of_mem _ member, List.mem_cons_self⟩

theorem nodup_matchers_iff (built : Table.build d = .ok t) (development : Bool) (v : RouteVerb) :
    ((planOf t development v).branches.map (·.matcher)).Nodup ↔
      ¬ ("" ∈ (planOf t development v).patterns ∧ "/" ∈ (planOf t development v).patterns) := by
  rw [← pairwise_not_rootPair_iff, List.Nodup, List.pairwise_map, VerbPlan.patterns,
    List.pairwise_map]
  have same := matchers_pairwise built development v
  constructor
  · intro unlike
    exact (unlike.and same).imp fun ⟨apart, same⟩ pair => apart (same.mpr pair)
  · intro unlike
    exact (unlike.and same).imp fun ⟨apart, same⟩ equal => apart (same.mp equal)

/-! ### A branch behind another one with its matcher -/

/-- Branches decide one after the other. -/
theorem decideBranches_append (slots : List Matcher) (user : Option String) (r : Request)
    (before after : List Branch) :
    decideBranches slots user (before ++ after) r =
      if ∀ b ∈ before, b.accept? slots r = none then decideBranches slots user after r
      else decideBranches slots user before r := by
  induction before with
  | nil => simp
  | cons b rest ih =>
    cases first : b.accept? slots r with
    | some accepted =>
      have hit : (b.matcher.find? slots).bind (·.accept? r) = some accepted := first
      rw [List.cons_append, decideBranches, decideBranches, hit]
      simp [first]
    | none =>
      have skipped (cs : List Branch) :
          decideBranches slots user (b :: cs) r = decideBranches slots user cs r := by
        have missed : (b.matcher.find? slots).bind (·.accept? r) = none := first
        rw [decideBranches, missed]
      rw [List.cons_append, skipped, skipped, ih]
      simp [first]

/-- A branch behind another one with the same matcher decides nothing. -/
theorem decideBranches_erase {a b : Branch} (same : a.matcher = b.matcher) (slots : List Matcher)
    (user : Option String) (before between after : List Branch) (r : Request) :
    decideBranches slots user (before ++ a :: between ++ b :: after) r =
      decideBranches slots user (before ++ a :: between ++ after) r := by
  have alike : b.accept? slots r = a.accept? slots r := by
    rw [Branch.accept?, Branch.accept?, same]
  rw [decideBranches_append slots user r _ (b :: after), decideBranches_append slots user r _ after]
  split
  · rename_i missed
    have second : b.accept? slots r = none := alike.trans (missed a (by simp))
    rw [← List.singleton_append, decideBranches_append, if_pos (by simpa using second)]
  · rfl

/-- The branches of a verb have different matchers, except that the two spellings of the root share
one. If both are there, the later one decides nothing: without it every request fares the same. -/
theorem branch_matchers_nodup_iff (built : Table.build d = .ok t) (development : Bool)
    {p : VerbPlan} (planned : p ∈ (Plan.build t development).verbs) :
    ((p.branches.map (·.matcher)).Nodup ↔ ¬ ("" ∈ p.patterns ∧ "/" ∈ p.patterns)) ∧
    (p.branches.Pairwise fun a b =>
      a.matcher = b.matcher ↔ RootPair a.route.pattern b.route.pattern) ∧
    ∀ before a between b after, p.branches = before ++ a :: between ++ b :: after →
      RootPair a.route.pattern b.route.pattern →
        ∀ slots user r, decideBranches slots user p.branches r =
          decideBranches slots user (before ++ a :: between ++ after) r := by
  obtain ⟨v, rfl⟩ := mem_verbs.mp planned
  have pairwise := matchers_pairwise built development v
  refine ⟨nodup_matchers_iff built development v, pairwise, ?_⟩
  intro before a between b after split pair slots user r
  change (planOf t development v).branches = _ at split
  have ordered : a.matcher = b.matcher ↔ RootPair a.route.pattern b.route.pattern := by
    rw [split, List.append_assoc] at pairwise
    have later := (List.pairwise_append.mp pairwise).2.1
    rw [List.cons_append, List.pairwise_cons] at later
    exact later.1 b (by simp)
  change decideBranches slots user (planOf t development v).branches r = _
  rw [split, decideBranches_erase (ordered.mpr pair)]

/-- Both spellings of the root under one verb. -/
def twoRoots : Definition where
  type := ⟨"Tasks", false⟩
  handlers := [
    ⟨⟨"index", false⟩, [⟨.get, none⟩], none⟩, ⟨⟨"show", false⟩, [⟨.get, some "/{id}"⟩], none⟩,
    ⟨⟨"home", false⟩, [⟨.get, some "/"⟩], none⟩]

def twoRootsTable : Table where
  base := "/api/tasks"
  routes := [
    ⟨.get, "/api/tasks", "", none, [], ⟨"index", false⟩, .open⟩,
    ⟨.get, "/api/tasks/{id}", "/{id}", some "/(?<id>[^/]+)", ["id"], ⟨"show", false⟩, .open⟩,
    ⟨.get, "/api/tasks/", "/", none, [], ⟨"home", false⟩, .open⟩]

/-- Two handlers for the root are accepted; the second is never called. -/
theorem branch_matchers_twoRoots : Table.build twoRoots = .ok twoRootsTable ∧
    ∃ p ∈ (Plan.build twoRootsTable true).verbs, p.patterns = ["", "/{id}", "/"] ∧
      ¬ (p.branches.map (·.matcher)).Nodup ∧
      ∀ slots user r, decideBranches slots user p.branches r =
        decideBranches slots user (p.branches.take 2) r := by
  have built : Table.build twoRoots = .ok twoRootsTable := by decide +kernel
  have planned : planOf twoRootsTable true .get ∈ (Plan.build twoRootsTable true).verbs :=
    mem_verbs.mpr ⟨.get, rfl⟩
  have patterns : (planOf twoRootsTable true .get).patterns = ["", "/{id}", "/"] := by
    decide +kernel
  obtain ⟨nodup, _, erased⟩ := branch_matchers_nodup_iff built true planned
  refine ⟨built, _, planned, patterns, ?_, ?_⟩
  · rw [nodup, patterns]
    simp
  · intro slots user r
    exact erased [] _ [_] _ [] rfl (.inl ⟨rfl, rfl⟩) slots user r

end EndpointRouting.Route
