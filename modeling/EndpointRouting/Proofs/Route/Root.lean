import EndpointRouting.Proofs.Route.Dispatch

/-!
# Requests for the endpoint itself

Two templates stand for the endpoint itself, and three paths. `root_requests_reach_index_only` says
that these requests and these routes keep to each other, whatever the expressions of the other
routes match, and that routing such a request writes nothing into it.
-/

namespace EndpointRouting.Route
open Http Token

/-- The path addresses the endpoint itself. -/
def RootPath (path : Option String) : Prop := path = none ∨ path = some "" ∨ path = some "/"

/-- The template stands for the endpoint itself. -/
def RootTemplate (text : String) : Prop := text = "" ∨ text = "/"

instance (path : Option String) : Decidable (RootPath path) := inferInstanceAs (Decidable (_ ∨ _))

instance (text : String) : Decidable (RootTemplate text) := inferInstanceAs (Decidable (_ ∨ _))

theorem rootPath_iff (r : Request) : RootPath r.path ↔ r.isRoot = true := by
  unfold RootPath Request.isRoot
  cases r.path <;> simp

theorem rootTemplate_iff (route : Route) : RootTemplate route.pattern ↔ route.isIndex = true := by
  simp [RootTemplate, isIndex, Template.isRoot]

/-! ### One route -/

theorem accept?_ofRoute_of_root {route : Route} {m : Matcher} (made : Matcher.ofRoute route = .ok m)
    (other : ¬ RootTemplate route.pattern) {r : Request} (root : RootPath r.path) :
    m.accept? r = none := by
  rcases ofRoute_cases made with ⟨-, rfl⟩ | ⟨_, _, -, -, rfl⟩
  · have different : r.path ≠ some route.pattern := by
      intro same
      rw [same] at root
      rcases root with absent | empty | slash
      · cases absent
      · exact other (.inl (Option.some.inj empty))
      · exact other (.inr (Option.some.inj slash))
    simp [Matcher.accept?, different]
  · simp [Matcher.accept?, (rootPath_iff r).mp root]

theorem accept?_of_root (route : Route) {r : Request} (root : RootPath r.path) :
    route.accept? r = if RootTemplate route.pattern then some r else none := by
  unfold accept?
  by_cases index : RootTemplate route.pattern
  · rw [if_pos index, if_pos ((rootTemplate_iff route).mp index)]
    simp [Matcher.accept?, (rootPath_iff r).mp root]
  · rw [if_neg index, if_neg fun shown => index ((rootTemplate_iff route).mpr shown)]
    cases made : Matcher.ofRoute route with
    | error _ => rfl
    | ok m => exact accept?_ofRoute_of_root made index root

theorem accept?_index_of_path {route : Route} (index : RootTemplate route.pattern) {r : Request}
    (other : ¬ RootPath r.path) : route.accept? r = none := by
  unfold accept?
  rw [if_pos ((rootTemplate_iff route).mp index)]
  have addressed : r.isRoot = false := by
    rw [← Bool.not_eq_true, ← rootPath_iff]
    exact other
  simp [Matcher.accept?, addressed]

/-! ### The chain of branches -/

section
variable {slots : List Matcher} {user : Option String} {bs : List Branch} {r : Request}

/-- Where no branch changes the request, the chain does not. -/
theorem decideBranches_request
    (kept : ∀ b ∈ bs, ∀ matched, b.accept? slots r = some matched → matched = r) :
    (decideBranches slots user bs r).request = r := by
  induction bs with
  | nil => rfl
  | cons b rest ih =>
    rw [decideBranches]
    split
    · rename_i accepted hit
      exact kept b List.mem_cons_self accepted hit
    · exact ih fun c member => kept c (List.mem_cons_of_mem _ member)

theorem branch_of_handle {matched : Request} {handler : Identifier}
    (decided : decideBranches slots user bs r = ⟨matched, .handle handler⟩) :
    ∃ b ∈ bs, b.accept? slots r = some matched ∧ b.route.handler = handler := by
  induction bs with
  | nil => cases decided
  | cons b rest ih =>
    rw [decideBranches] at decided
    split at decided
    · rename_i accepted hit
      obtain ⟨rfl, called⟩ := Verdict.mk.inj decided
      split at called
      · exact ⟨b, List.mem_cons_self, hit, Decision.handle.inj called⟩
      · cases called
    · obtain ⟨c, member, found⟩ := ih decided
      exact ⟨c, List.mem_cons_of_mem _ member, found⟩

end

/-- Requests for the endpoint itself and the branches that stand for it keep to each other. -/
structure KeepsRoot (slots : List Matcher) (bs : List Branch) : Prop where
  root : ∀ r : Request, RootPath r.path → ∀ b ∈ bs,
    b.accept? slots r = if RootTemplate b.route.pattern then some r else none
  other : ∀ r : Request, ¬ RootPath r.path → ∀ b ∈ bs, RootTemplate b.route.pattern →
    b.accept? slots r = none

theorem KeepsRoot.request {slots : List Matcher} {bs : List Branch} (h : KeepsRoot slots bs)
    (user : Option String) {r : Request} (root : RootPath r.path) :
    (decideBranches slots user bs r).request = r := by
  apply decideBranches_request
  intro b branch matched hit
  rw [h.root r root b branch] at hit
  split at hit
  · exact (Option.some.inj hit).symm
  · cases hit

theorem KeepsRoot.agree {slots : List Matcher} {bs : List Branch} (h : KeepsRoot slots bs)
    {b : Branch} (branch : b ∈ bs) {r matched : Request} (hit : b.accept? slots r = some matched) :
    RootPath r.path ↔ RootTemplate b.route.pattern := by
  constructor
  · intro root
    rw [h.root r root b branch] at hit
    by_contra other
    rw [if_neg other] at hit
    cases hit
  · intro index
    by_contra other
    rw [h.other r other b branch index] at hit
    cases hit

/-! ### The router of a definition -/

variable {d : Definition} {t : Table}

theorem keepsRoot_of_build (built : Table.build d = .ok t) {slots : List Matcher}
    (made : List.Forall₂ (fun o m => Matcher.ofRoute o = .ok m) t.matchers slots)
    (development : Bool) (v : RouteVerb) : KeepsRoot slots (planOf t development v).branches := by
  have own : ∀ b ∈ (planOf t development v).branches, ∀ r, b.accept? slots r = b.route.accept? r := by
    intro b branch r
    obtain ⟨routed, matcher⟩ := mem_branches branch
    exact branch_accept? built made (mem_routesFor.mp routed).1 matcher r
  constructor
  · intro r root b branch
    rw [own b branch, accept?_of_root b.route root]
  · intro r other b branch index
    rw [own b branch, accept?_index_of_path index other]

theorem route?_eq_some {w : Verb} {v : RouteVerb} (carried : w.route? = some v) : w = v.toVerb := by
  revert carried
  cases w <;> cases v <;> simp [Verb.route?, RouteVerb.toVerb]

/-- A request whose verb carries no routes falls through; the plan of its verb decides about any
other. -/
theorem decide_cases (development : Bool) (slots : List Matcher) (user : Option String)
    (r : Request) :
    (Router.mk t (Plan.build t development) slots).decide user r = ⟨r, .unhandled⟩ ∨
      ∃ v : RouteVerb, r.verb = v.toVerb ∧
        (Router.mk t (Plan.build t development) slots).decide user r =
          (planOf t development v).decide slots user r := by
  cases carried : r.verb.route? with
  | none =>
    left
    simp only [Router.decide, Router.planFor?, carried, Option.bind_none]
  | some v =>
    have verb := route?_eq_some carried
    refine .inr ⟨v, verb, ?_⟩
    rw [Router.decide, verb, planFor?_toVerb]

theorem branches_map_route (development : Bool) (v : RouteVerb) :
    (planOf t development v).branches.map (·.route) = t.routesFor v := by
  change ((t.routesFor v).map (branchOf t v)).map (·.route) = t.routesFor v
  rw [List.map_map]
  exact List.map_id _

/-- A request for the endpoint itself is accepted by the branches whose template stands for it, by
no others, and as it came; the chain leaves it alone. Any other request is accepted by none of
these branches. So whenever a handler is called, the request is for the endpoint itself just if the
template of the handler's route stands for it. -/
theorem root_requests_reach_index_only (built : Table.build d = .ok t) (setting : Option String) :
    ∃ router, Router.build d setting = .ok router ∧ router.table = t ∧
      (∀ p ∈ router.plan.verbs, p.branches.map (·.route) = t.routesFor p.verb ∧ ∀ r : Request,
        (RootPath r.path →
          (∀ b ∈ p.branches, b.accept? router.slots r =
            if RootTemplate b.route.pattern then some r else none) ∧
          ∀ user, (decideBranches router.slots user p.branches r).request = r) ∧
        (¬ RootPath r.path → ∀ b ∈ p.branches, RootTemplate b.route.pattern →
          b.accept? router.slots r = none)) ∧
      ∀ user (r : Request), (RootPath r.path → (router.decide user r).request = r) ∧
        ∀ matched handler, router.decide user r = ⟨matched, .handle handler⟩ →
          ∃ route ∈ t.routes, route.verb.toVerb = r.verb ∧ route.handler = handler ∧
            (RootPath r.path ↔ RootTemplate route.pattern) := by
  obtain ⟨slots, placed, made⟩ := router_of_build built setting
  generalize d.options.isDevelopment setting = development at placed
  have keeps := keepsRoot_of_build built made development
  refine ⟨_, placed, rfl, ?_, ?_⟩
  · intro p planned
    obtain ⟨v, rfl⟩ := mem_verbs.mp planned
    exact ⟨branches_map_route development v, fun r =>
      ⟨fun root => ⟨(keeps v).root r root, fun user => (keeps v).request user root⟩,
        (keeps v).other r⟩⟩
  · intro user r
    rcases decide_cases development slots user r with unhandled | ⟨v, verb, decided⟩
    · rw [unhandled]
      exact ⟨fun _ => rfl, fun _ _ called => nomatch called⟩
    · rw [decided, VerbPlan.decide]
      split
      · refine ⟨(keeps v).request user, ?_⟩
        intro matched handler called
        obtain ⟨b, branch, hit, own⟩ := branch_of_handle called
        obtain ⟨declared, same⟩ := mem_routesFor.mp (mem_branches branch).1
        exact ⟨b.route, declared, by rw [same, verb], own, (keeps v).agree branch hit⟩
      · exact ⟨fun _ => rfl, fun _ _ called => nomatch called⟩

/-- The first route has an expression that matches every path, the empty one included. -/
def catching : Definition where
  type := ⟨"Tasks", false⟩
  handlers := [
    ⟨⟨"any", false⟩, [⟨.get, some "/?\x7brest: .*\x7d"⟩], none⟩,
    ⟨⟨"index", false⟩, [⟨.get, none⟩], none⟩]

def catchingTable : Table where
  base := "/api/tasks"
  routes := [
    ⟨.get, "/api/tasks/?\x7brest: .*\x7d", "/?\x7brest: .*\x7d", some "/?(?<rest>.*)", ["rest"],
      ⟨"any", false⟩, .open⟩,
    ⟨.get, "/api/tasks", "", none, [], ⟨"index", false⟩, .open⟩]

/-- Though its expression matches the empty path and `/`, the first route is not called for them. -/
theorem root_requests_reach_index_only_catching :
    Table.build catching = .ok catchingTable ∧
    (∀ path ∈ ["", "/"], ((Regex.compile (anchored "/?(?<rest>.*)").toList).toOption.bind
      (·.search? path.toList)).isSome) ∧
    ∃ router, Router.build catching none = .ok router ∧
      ∀ user, ∀ path ∈ [none, some "", some "/"], ∀ matched,
        router.decide user { verb := .get, path } ≠ ⟨matched, .handle ⟨"any", false⟩⟩ := by
  have built : Table.build catching = .ok catchingTable := by decide +kernel
  refine ⟨built, by decide +kernel, ?_⟩
  obtain ⟨router, placed, _, _, called⟩ := root_requests_reach_index_only built none
  refine ⟨router, placed, ?_⟩
  intro user path root matched decided
  obtain ⟨route, declared, -, own, keeps⟩ := (called user _).2 matched _ decided
  have index : RootTemplate route.pattern := keeps.mp (by simpa [RootPath] using root)
  have unlike : ∀ x ∈ catchingTable.routes, RootTemplate x.pattern → x.handler ≠ ⟨"any", false⟩ := by
    decide +kernel
  exact unlike route declared index own

end EndpointRouting.Route
