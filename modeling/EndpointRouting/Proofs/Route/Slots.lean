import EndpointRouting.Proofs.Route.Building
import EndpointRouting.Proofs.Route.Mounting
import EndpointRouting.Route.Router
import Mathlib.Data.List.Basic
import Mathlib.Data.List.Forall2

/-!
# Matcher slots

Routes with one template share a matcher. `plan_slots_consistent` says that the matcher a branch
finds is the one its own route stands for, that no slot is idle, and that no two slots hold the
same matcher.
-/

namespace EndpointRouting.Route
open Http Token

/-! ### The routes that own a slot -/

/-- The owners after one more route. -/
def addOwner (known : List Route) (r : Route) : List Route :=
  if r.isIndex || known.any (·.pattern == r.pattern) then known else known ++ [r]

theorem matchers_eq_foldl (t : Table) : t.matchers = t.routes.foldl addOwner [] := rfl

/-- The owners have different templates, none of them the root. -/
structure Owning (known : List Route) : Prop where
  other : ∀ o ∈ known, o.isIndex = false
  distinct : (known.map Route.pattern).Nodup

theorem owning_addOwner {known : List Route} (h : Owning known) (r : Route) :
    Owning (addOwner known r) := by
  unfold addOwner
  split
  · exact h
  · rename_i fresh
    rw [Bool.not_eq_true, Bool.or_eq_false_iff, List.any_eq_false] at fresh
    obtain ⟨other, absent⟩ := fresh
    constructor
    · intro o member
      rcases List.mem_append.mp member with old | new
      · exact h.other o old
      · rw [List.mem_singleton.mp new]
        exact other
    · rw [List.map_append, List.map_singleton, List.nodup_append_comm, List.singleton_append,
        List.nodup_cons]
      refine ⟨?_, h.distinct⟩
      intro member
      obtain ⟨o, present, same⟩ := List.mem_map.mp member
      exact absent o present (by simpa using same)

theorem mem_addOwner {known : List Route} {r o : Route} (member : o ∈ addOwner known r) :
    o ∈ known ∨ o = r := by
  unfold addOwner at member
  split at member
  · exact Or.inl member
  · simpa using member

theorem subset_addOwner (known : List Route) (r : Route) : known ⊆ addOwner known r := by
  unfold addOwner
  split
  · exact fun _ member => member
  · exact List.subset_append_left _ _

theorem owner_addOwner (known : List Route) {r : Route} (other : r.isIndex = false) :
    ∃ o ∈ addOwner known r, o.pattern = r.pattern := by
  unfold addOwner
  split
  · rename_i known_pattern
    rw [other, Bool.false_or, List.any_eq_true] at known_pattern
    obtain ⟨o, present, same⟩ := known_pattern
    exact ⟨o, present, by simpa using same⟩
  · exact ⟨r, by simp, rfl⟩

theorem owning_foldl {known : List Route} (h : Owning known) (rs : List Route) :
    Owning (rs.foldl addOwner known) := by
  induction rs generalizing known with
  | nil => exact h
  | cons r rest ih => exact ih (owning_addOwner h r)

theorem mem_foldl_addOwner {known rs : List Route} {o : Route}
    (member : o ∈ rs.foldl addOwner known) : o ∈ known ∨ o ∈ rs := by
  induction rs generalizing known with
  | nil => exact Or.inl member
  | cons r rest ih =>
    rcases ih member with added | later
    · rcases mem_addOwner added with old | rfl
      · exact Or.inl old
      · exact Or.inr List.mem_cons_self
    · exact Or.inr (List.mem_cons_of_mem _ later)

theorem subset_foldl_addOwner (known rs : List Route) : known ⊆ rs.foldl addOwner known := by
  induction rs generalizing known with
  | nil => exact fun _ member => member
  | cons r rest ih => exact fun _ member => ih (addOwner known r) (subset_addOwner known r member)

theorem owner_foldl {known rs : List Route} {r : Route} (member : r ∈ rs)
    (other : r.isIndex = false) : ∃ o ∈ rs.foldl addOwner known, o.pattern = r.pattern := by
  induction rs generalizing known with
  | nil => cases member
  | cons first rest ih =>
    rcases List.mem_cons.mp member with rfl | later
    · obtain ⟨o, present, same⟩ := owner_addOwner known other
      exact ⟨o, subset_foldl_addOwner (addOwner known r) rest present, same⟩
    · exact ih later

theorem matchers_owning (t : Table) : Owning t.matchers := by
  rw [matchers_eq_foldl]
  exact owning_foldl ⟨by simp, by simp⟩ t.routes

theorem mem_routes_of_mem_matchers {t : Table} {o : Route} (member : o ∈ t.matchers) :
    o ∈ t.routes := by
  rw [matchers_eq_foldl] at member
  rcases mem_foldl_addOwner member with none_known | declared
  · cases none_known
  · exact declared

/-! ### The slot of a route -/

/-- A route that is not the index finds the slot of the owner with its template. -/
theorem slot_of_route {owners : List Route} {r : Route} (other : r.isIndex = false)
    (owned : ∃ o ∈ owners, o.pattern = r.pattern) :
    ∃ n owner, MatcherRef.of r owners = .slot n ∧ owners[n]? = some owner ∧
      owner.pattern = r.pattern := by
  obtain ⟨o, present, same⟩ := owned
  have found : (owners.findIdx? (·.pattern == r.pattern)).isSome := by
    rw [List.findIdx?_isSome, List.any_eq_true]
    exact ⟨o, present, by simpa using same⟩
  obtain ⟨n, index⟩ := Option.isSome_iff_exists.mp found
  obtain ⟨inside, matched, _⟩ := List.findIdx?_eq_some_iff_getElem.mp index
  refine ⟨n, owners[n], ?_, List.getElem?_eq_getElem inside, by simpa using matched⟩
  simp [MatcherRef.of, other, index]

theorem index_of_pattern {owners : List Route} (h : Owning owners) {m n : Nat} {a b : Route}
    (left : owners[m]? = some a) (right : owners[n]? = some b) (same : a.pattern = b.pattern) :
    m = n := by
  have inside : m < (owners.map Route.pattern).length := by
    rw [List.length_map]
    exact (List.getElem?_eq_some_iff.mp left).1
  apply (List.getElem?_inj inside h.distinct).mp
  rw [List.getElem?_map, List.getElem?_map, left, right, Option.map_some, Option.map_some, same]

/-- An owner finds its own slot. -/
theorem slot_of_owner {owners : List Route} (h : Owning owners) {n : Nat} {o : Route}
    (owner : owners[n]? = some o) : MatcherRef.of o owners = .slot n := by
  have member := List.mem_of_getElem? owner
  obtain ⟨m, o', slot, found, same⟩ := slot_of_route (h.other o member) ⟨o, member, rfl⟩
  rw [slot, index_of_pattern h found owner same]

/-! ### The matchers in the slots -/

variable {d : Definition} {t : Table}

/-- Routes with one template are matched alike. -/
theorem route_eq_of_pattern {x y : Declaration} (same : x.pattern = y.pattern) :
    (d.route x).path = (d.route y).path ∧ (d.route x).expression = (d.route y).expression ∧
      (d.route x).parameters = (d.route y).parameters := by
  have templates : x.template d.base = y.template d.base := by
    rw [Declaration.template, Declaration.template, same]
  simp only [Definition.route, ofTemplate, templates, and_self]

theorem ofRoute_congr {a b : Route} (pattern : a.pattern = b.pattern) (path : a.path = b.path)
    (expression : a.expression = b.expression) (parameters : a.parameters = b.parameters) :
    Matcher.ofRoute a = Matcher.ofRoute b := by
  rw [Matcher.ofRoute, Matcher.ofRoute, pattern, path, expression, parameters]

theorem routes_alike (built : Table.build d = .ok t) {a b : Route} (left : a ∈ t.routes)
    (right : b ∈ t.routes) (same : a.pattern = b.pattern) :
    a.path = b.path ∧ a.expression = b.expression ∧ a.parameters = b.parameters := by
  obtain ⟨x, _, rfl, _⟩ := declaration_of_mem built left
  obtain ⟨y, _, rfl, _⟩ := declaration_of_mem built right
  exact route_eq_of_pattern same

/-- A route of a table has a matcher. -/
theorem exists_ofRoute (built : Table.build d = .ok t) {r : Route} (member : r ∈ t.routes) :
    ∃ m, Matcher.ofRoute r = .ok m := by
  obtain ⟨x, _, rfl, compiles⟩ := declaration_of_mem built member
  unfold Matcher.ofRoute
  cases expression : (d.route x).expression with
  | none => exact ⟨_, rfl⟩
  | some e =>
    obtain ⟨regex, compiled⟩ := compiles e expression
    dsimp only
    rw [Matcher.parameterized?, compiled]
    exact ⟨_, rfl⟩

theorem slashed_of_mem (built : Table.build d = .ok t) {r : Route} (member : r ∈ t.routes)
    (other : r.isIndex = false) : Slashed r.pattern := by
  obtain ⟨x, _, rfl, _⟩ := declaration_of_mem built member
  exact slashed_of_not_root other

theorem path_eq_of_mem (built : Table.build d = .ok t) {r : Route} (member : r ∈ t.routes) :
    r.path = joinPath d.base r.pattern := by
  obtain ⟨x, _, rfl, _⟩ := declaration_of_mem built member
  rfl

theorem ofRoute_cases {r : Route} {m : Matcher} (made : Matcher.ofRoute r = .ok m) :
    (r.expression = none ∧ m = .fixed r.path r.pattern) ∨
      ∃ e regex, r.expression = some e ∧ Regex.compile (anchored e).toList = .ok regex ∧
        m = .parameterized r.path r.pattern regex r.parameters := by
  unfold Matcher.ofRoute at made
  cases expression : r.expression with
  | none =>
    rw [expression] at made
    exact Or.inl ⟨rfl, (Except.ok.inj made).symm⟩
  | some e =>
    rw [expression] at made
    dsimp only [Matcher.parameterized?] at made
    cases compiled : Regex.compile (anchored e).toList with
    | error _ =>
      rw [compiled] at made
      cases made
    | ok regex =>
      rw [compiled] at made
      exact Or.inr ⟨e, regex, rfl, compiled, (Except.ok.inj made).symm⟩

/-- What a matcher is told apart by is what its route has. -/
theorem same_ofRoute {a b : Route} {m n : Matcher} (left : Matcher.ofRoute a = .ok m)
    (right : Matcher.ofRoute b = .ok n) (same : m.same n = true) :
    a.path = b.path ∨ a.pattern = b.pattern := by
  rcases ofRoute_cases left with ⟨_, rfl⟩ | ⟨_, _, _, _, rfl⟩ <;>
    rcases ofRoute_cases right with ⟨_, rfl⟩ | ⟨_, _, _, _, rfl⟩
  · exact Or.inl (by simpa [Matcher.same] using same)
  · simp [Matcher.same] at same
  · simp [Matcher.same] at same
  · exact Or.inr (by simpa [Matcher.same] using same)

theorem mapM_ok_of_forall {α β ε : Type} {f : α → Except ε β} {xs : List α}
    (h : ∀ x ∈ xs, ∃ y, f x = .ok y) :
    ∃ ys, xs.mapM f = .ok ys ∧ List.Forall₂ (fun x y => f x = .ok y) xs ys := by
  induction xs with
  | nil => exact ⟨[], rfl, .nil⟩
  | cons x rest ih =>
    obtain ⟨y, first⟩ := h x List.mem_cons_self
    obtain ⟨ys, mapped, related⟩ := ih fun z member => h z (List.mem_cons_of_mem _ member)
    refine ⟨y :: ys, ?_, .cons first related⟩
    rw [List.mapM_cons, first, mapped]
    rfl

theorem slots_of_build (built : Table.build d = .ok t) (development : Bool) :
    ∃ slots, (Plan.build t development).slots = .ok slots ∧
      List.Forall₂ (fun o m => Matcher.ofRoute o = .ok m) t.matchers slots :=
  mapM_ok_of_forall fun _ member => exists_ofRoute built (mem_routes_of_mem_matchers member)

theorem forall₂_getElem? {α β : Type} {R : α → β → Prop} {xs : List α} {ys : List β}
    (related : List.Forall₂ R xs ys) {n : Nat} {x : α} (found : xs[n]? = some x) :
    ∃ y, ys[n]? = some y ∧ R x y := by
  induction related generalizing n with
  | nil => cases found
  | cons first _ ih =>
    cases n with
    | zero =>
      cases found
      exact ⟨_, rfl, first⟩
    | succ n => exact ih found

theorem mem_branches {v : RouteVerb} {routes owners : List Route} {development : Bool} {b : Branch}
    (member : b ∈ (VerbPlan.build v routes owners development).branches) :
    b.route ∈ routes ∧ b.matcher = MatcherRef.of b.route owners := by
  obtain ⟨r, present, rfl⟩ := List.mem_map.mp member
  exact ⟨present, rfl⟩

theorem branch_of_mem (v : RouteVerb) {routes : List Route} (owners : List Route)
    (development : Bool) {r : Route} (member : r ∈ routes) :
    ∃ b ∈ (VerbPlan.build v routes owners development).branches,
      b.route = r ∧ b.matcher = MatcherRef.of r owners :=
  ⟨_, List.mem_map.mpr ⟨r, member, rfl⟩, rfl, rfl⟩

theorem mem_routesFor {v : RouteVerb} {r : Route} :
    r ∈ t.routesFor v ↔ r ∈ t.routes ∧ r.verb = v := by
  simp [Table.routesFor]

theorem mem_verbs {development : Bool} {p : VerbPlan} :
    p ∈ (Plan.build t development).verbs ↔
      ∃ v, VerbPlan.build v (t.routesFor v) t.matchers development = p := by
  simp only [Plan.build, List.mem_map]
  exact ⟨fun ⟨v, _, same⟩ => ⟨v, same⟩, fun ⟨v, same⟩ => ⟨v, RouteVerb.mem_all v, same⟩⟩

/-- The matcher of a branch is made from the template of its own route. -/
theorem branch_slot (built : Table.build d = .ok t) {slots : List Matcher}
    (made : List.Forall₂ (fun o m => Matcher.ofRoute o = .ok m) t.matchers slots) {r : Route}
    (member : r ∈ t.routes) (other : r.isIndex = false) :
    ∃ n owner m, MatcherRef.of r t.matchers = .slot n ∧ t.matchers[n]? = some owner ∧
      slots[n]? = some m ∧ owner.pattern = r.pattern ∧ owner.path = r.path ∧
      owner.expression = r.expression ∧ owner.parameters = r.parameters ∧
      Matcher.ofRoute r = .ok m := by
  obtain ⟨n, owner, slot, found, same⟩ := slot_of_route other (owner_foldl member other)
  obtain ⟨m, placed, ofOwner⟩ := forall₂_getElem? made found
  have owned := mem_routes_of_mem_matchers (List.mem_of_getElem? found)
  obtain ⟨path, expression, parameters⟩ := routes_alike built owned member same
  refine ⟨n, owner, m, slot, found, placed, same, path, expression, parameters, ?_⟩
  rw [← ofOwner]
  exact ofRoute_congr same.symm path.symm expression.symm parameters.symm

theorem slot_used (development : Bool) {n : Nat} {o : Route} (owner : t.matchers[n]? = some o) :
    ∃ p ∈ (Plan.build t development).verbs, ∃ b ∈ p.branches, b.matcher = .slot n := by
  have declared := mem_routes_of_mem_matchers (List.mem_of_getElem? owner)
  obtain ⟨b, member, _, matcher⟩ := branch_of_mem o.verb t.matchers development
    (mem_routesFor.mpr ⟨declared, rfl⟩)
  refine ⟨_, mem_verbs.mpr ⟨o.verb, rfl⟩, b, member, ?_⟩
  rw [matcher, slot_of_owner (matchers_owning t) owner]

/-- Two slots never hold the same matcher. -/
theorem slots_differ (built : Table.build d = .ok t) {slots : List Matcher}
    (made : List.Forall₂ (fun o m => Matcher.ofRoute o = .ok m) t.matchers slots) {i j : Nat}
    {m n : Matcher} (left : slots[i]? = some m) (right : slots[j]? = some n)
    (same : m.same n = true) : i = j := by
  obtain ⟨a, ownsLeft, fromA⟩ := forall₂_getElem? made.flip left
  obtain ⟨b, ownsRight, fromB⟩ := forall₂_getElem? made.flip right
  have inTable : ∀ {k : Nat} {o : Route}, t.matchers[k]? = some o → o ∈ t.routes :=
    fun owner => mem_routes_of_mem_matchers (List.mem_of_getElem? owner)
  have slashed : ∀ {k : Nat} {o : Route}, t.matchers[k]? = some o → Slashed o.pattern :=
    fun owner => slashed_of_mem built (inTable owner)
      ((matchers_owning t).other _ (List.mem_of_getElem? owner))
  apply index_of_pattern (matchers_owning t) ownsLeft ownsRight
  rcases same_ofRoute fromA fromB same with path | pattern
  · rw [path_eq_of_mem built (inTable ownsLeft), path_eq_of_mem built (inTable ownsRight)] at path
    exact joinPath_injective (slashed ownsLeft) (slashed ownsRight) path
  · exact pattern

/-- The matchers of a plan can be made; each branch that is not for the index finds the matcher of
its own route in a slot; every slot serves some branch; and no two slots are the same matcher. -/
theorem plan_slots_consistent (built : Table.build d = .ok t) (development : Bool) :
    ∃ slots, (Plan.build t development).slots = .ok slots ∧
      (∀ o ∈ (Plan.build t development).owners,
        malformed? (Template.compile o.path o.pattern) = none ∧
          (Template.compile o.path o.pattern).expression = o.expression) ∧
      (∀ p ∈ (Plan.build t development).verbs, ∀ b ∈ p.branches, b.route.isIndex = false →
        ∃ n owner m, b.matcher = .slot n ∧ (Plan.build t development).owners[n]? = some owner ∧
          b.matcher.find? slots = some m ∧ owner.pattern = b.route.pattern ∧
          owner.path = b.route.path ∧ owner.expression = b.route.expression ∧
          owner.parameters = b.route.parameters ∧ Matcher.ofRoute b.route = .ok m) ∧
      (∀ n < slots.length, ∃ p ∈ (Plan.build t development).verbs, ∃ b ∈ p.branches,
        b.matcher = .slot n) ∧
      ∀ (i j : Nat) (m n : Matcher), slots[i]? = some m → slots[j]? = some n → i ≠ j →
        m.same n = false := by
  obtain ⟨slots, placed, made⟩ := slots_of_build built development
  refine ⟨slots, placed, ?_, ?_, ?_, ?_⟩
  · intro o member
    obtain ⟨x, _, rfl, compiles⟩ :=
      declaration_of_mem built (mem_routes_of_mem_matchers member)
    exact ⟨(malformed?_eq_none_iff _).mpr compiles, rfl⟩
  · intro p planned b branch other
    obtain ⟨v, rfl⟩ := mem_verbs.mp planned
    obtain ⟨routed, matcher⟩ := mem_branches branch
    obtain ⟨n, owner, m, slot, owns, held, alike⟩ :=
      branch_slot built made (mem_routesFor.mp routed).1 other
    rw [slot] at matcher
    exact ⟨n, owner, m, matcher, owns, by rw [matcher]; exact held, alike⟩
  · intro n inside
    obtain ⟨o, owner, _⟩ := forall₂_getElem? made.flip (List.getElem?_eq_getElem inside)
    exact slot_used development owner
  · intro i j m n left right different
    by_contra same
    exact different (slots_differ built made left right (by simpa using same))

/-- Two verbs share a template, and another template stands beside it. -/
def sharing : Definition where
  type := ⟨"Tasks", false⟩
  handlers := [
    ⟨⟨"show", false⟩, [⟨.get, some "/{id}"⟩], none⟩, ⟨⟨"list", false⟩, [⟨.get, none⟩], none⟩,
    ⟨⟨"remove", false⟩, [⟨.delete, some "{id}"⟩], none⟩]

def sharingTable : Table where
  base := "/api/tasks"
  routes := [
    ⟨.get, "/api/tasks/{id}", "/{id}", some "/(?<id>[^/]+)", ["id"], ⟨"show", false⟩, .open⟩,
    ⟨.get, "/api/tasks/list", "/list", none, [], ⟨"list", false⟩, .open⟩,
    ⟨.delete, "/api/tasks/{id}", "/{id}", some "/(?<id>[^/]+)", ["id"], ⟨"remove", false⟩, .open⟩]

theorem build_sharing : Table.build sharing = .ok sharingTable := by decide +kernel

theorem plan_slots_sharing : Table.build sharing = .ok sharingTable ∧
    ∃ slots, (Plan.build sharingTable true).slots = .ok slots ∧
      ∀ p ∈ (Plan.build sharingTable true).verbs, ∀ b ∈ p.branches,
        ∃ m, b.matcher.find? slots = some m ∧ Matcher.ofRoute b.route = .ok m := by
  obtain ⟨slots, placed, _, found, _⟩ := plan_slots_consistent build_sharing true
  have other : ∀ p ∈ (Plan.build sharingTable true).verbs, ∀ b ∈ p.branches,
      b.route.isIndex = false := by
    decide +kernel
  refine ⟨build_sharing, slots, placed, ?_⟩
  intro p planned b branch
  obtain ⟨_, _, m, _, _, held, _, _, _, _, made⟩ := found p planned b branch (other p planned b branch)
  exact ⟨m, held, made⟩

end EndpointRouting.Route
