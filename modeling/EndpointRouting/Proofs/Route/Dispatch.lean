import EndpointRouting.Proofs.Route.Guarding
import EndpointRouting.Proofs.Route.Slots

/-!
# Dispatch

A router shares matchers between routes and makes some checks before any match.
`answer_of_first_match` says that nobody can tell: a request goes to the first route, in the order
of the declarations, whose own template matches it, and that route's own roles decide.
-/

namespace EndpointRouting.Route
open Block Http Token

/-- The request after the route's own matcher accepted it; no matcher is shared here. -/
def accept? (route : Route) (r : Request) : Option Request :=
  if route.isIndex then Matcher.index.accept? r
  else match Matcher.ofRoute route with
    | .ok m => m.accept? r
    | .error _ => none

/-- The first of the routes that accepts the request, and the request it leaves. -/
def FirstMatch (routes : List Route) (r : Request) (route : Route) (matched : Request) : Prop :=
  ∃ before after, routes = before ++ route :: after ∧ (∀ x ∈ before, x.accept? r = none) ∧
    route.accept? r = some matched

/-! ### The match chain -/

/-- The request after the branch's matcher accepted it. -/
def Branch.accept? (slots : List Matcher) (b : Branch) (r : Request) : Option Request :=
  (b.matcher.find? slots).bind (·.accept? r)

theorem decideBranches_of_none {slots : List Matcher} {user : Option String} {bs : List Branch}
    {r : Request} (missed : ∀ b ∈ bs, b.accept? slots r = none) :
    decideBranches slots user bs r = ⟨r, .unhandled⟩ := by
  induction bs with
  | nil => rfl
  | cons b rest ih =>
    have first : (b.matcher.find? slots).bind (·.accept? r) = none := missed b List.mem_cons_self
    rw [decideBranches, first]
    exact ih fun c member => missed c (List.mem_cons_of_mem _ member)

theorem decideBranches_of_first {slots : List Matcher} {user : Option String}
    {before after : List Branch} {b : Branch} {r matched : Request}
    (missed : ∀ c ∈ before, c.accept? slots r = none) (hit : b.accept? slots r = some matched) :
    decideBranches slots user (before ++ b :: after) r =
      ⟨matched, if b.guards.letsPass user then .handle b.route.handler else .forbid⟩ := by
  induction before with
  | nil =>
    have first : (b.matcher.find? slots).bind (·.accept? r) = some matched := hit
    rw [List.nil_append, decideBranches, first]
  | cons c rest ih =>
    have first : (c.matcher.find? slots).bind (·.accept? r) = none :=
      missed c List.mem_cons_self
    rw [List.cons_append, decideBranches, first]
    exact ih fun c member => missed c (List.mem_cons_of_mem _ member)

variable {d : Definition} {t : Table}

/-- A branch accepts what its own route accepts, though its matcher is shared. -/
theorem branch_accept? (built : Table.build d = .ok t) {slots : List Matcher}
    (made : List.Forall₂ (fun o m => Matcher.ofRoute o = .ok m) t.matchers slots) {b : Branch}
    (member : b.route ∈ t.routes) (shared : b.matcher = MatcherRef.of b.route t.matchers)
    (r : Request) : b.accept? slots r = b.route.accept? r := by
  unfold Branch.accept? accept?
  rw [shared]
  cases index : b.route.isIndex with
  | true =>
    rw [MatcherRef.of, if_pos index]
    rfl
  | false =>
    obtain ⟨n, _, m, slot, _, held, _, _, _, _, own⟩ := branch_slot built made member index
    rw [slot, MatcherRef.find?, held, own]
    rfl

/-! ### The plan of a verb -/

/-- The plan of a verb. -/
def planOf (t : Table) (development : Bool) (v : RouteVerb) : VerbPlan :=
  VerbPlan.build v (t.routesFor v) t.matchers development

/-- The branch of a route in the plan of its verb. -/
def branchOf (t : Table) (v : RouteVerb) (x : Route) : Branch :=
  ⟨x, MatcherRef.of x t.matchers, (Hoisting.decide (t.routesFor v)).after x.authorization⟩

theorem planOf_decide (development : Bool) (v : RouteVerb) (slots : List Matcher)
    (user : Option String) (r : Request) :
    (planOf t development v).decide slots user r =
      if (planOf t development v).hoisted.letsPass user then
        decideBranches slots user ((t.routesFor v).map (branchOf t v)) r
      else ⟨r, .forbid⟩ := rfl

theorem branchOf_accept? (built : Table.build d = .ok t) {slots : List Matcher}
    (made : List.Forall₂ (fun o m => Matcher.ofRoute o = .ok m) t.matchers slots) {v : RouteVerb}
    {x : Route} (member : x ∈ t.routesFor v) (r : Request) :
    (branchOf t v x).accept? slots r = x.accept? r :=
  branch_accept? (b := branchOf t v x) built made (mem_routesFor.mp member).1 rfl r

/-- The first route that accepts the request decides by all its checks, wherever they are made. -/
theorem decide_of_first_match (built : Table.build d = .ok t) {slots : List Matcher}
    (made : List.Forall₂ (fun o m => Matcher.ofRoute o = .ok m) t.matchers slots)
    {v : RouteVerb} (development : Bool) (user : Option String) {r matched : Request}
    {route : Route} (first : FirstMatch (t.routesFor v) r route matched) :
    if route.authorization.guards.letsPass user then
      (planOf t development v).decide slots user r = ⟨matched, .handle route.handler⟩
    else ((planOf t development v).decide slots user r).decision = .forbid := by
  obtain ⟨before, after, split, missed, hit⟩ := first
  have member : route ∈ t.routesFor v := by
    rw [split]
    exact List.mem_append_right _ List.mem_cons_self
  have chain : decideBranches slots user ((t.routesFor v).map (branchOf t v)) r =
      ⟨matched, if (branchOf t v route).guards.letsPass user then .handle route.handler
        else .forbid⟩ := by
    conv_lhs => rw [split, List.map_append, List.map_cons]
    apply decideBranches_of_first
    · intro c present
      obtain ⟨x, old, rfl⟩ := List.mem_map.mp present
      have declared : x ∈ t.routesFor v := by
        rw [split]
        exact List.mem_append_left _ old
      rw [branchOf_accept? built made declared]
      exact missed x old
    · rw [branchOf_accept? built made member]
      exact hit
  have checks : ((planOf t development v).hoisted.letsPass user &&
      (branchOf t v route).guards.letsPass user) = route.authorization.guards.letsPass user :=
    hoisted_passes v t.matchers development user member
  rw [planOf_decide, chain, ← checks]
  cases (planOf t development v).hoisted.letsPass user <;>
    cases (branchOf t v route).guards.letsPass user <;> rfl

/-- Without a match nothing is handled; the request is refused early only if no route would let the
user through. -/
theorem decide_of_no_match (built : Table.build d = .ok t) {slots : List Matcher}
    (made : List.Forall₂ (fun o m => Matcher.ofRoute o = .ok m) t.matchers slots)
    {v : RouteVerb} (development : Bool) (user : Option String) {r : Request}
    (missed : ∀ x ∈ t.routesFor v, x.accept? r = none) :
    (planOf t development v).decide slots user r = ⟨r, .unhandled⟩ ∨
      (planOf t development v).decide slots user r = ⟨r, .forbid⟩ ∧ t.routesFor v ≠ [] ∧
        ∀ x ∈ t.routesFor v, x.authorization.guards.letsPass user = false := by
  have chain : decideBranches slots user ((t.routesFor v).map (branchOf t v)) r =
      ⟨r, .unhandled⟩ := by
    apply decideBranches_of_none
    intro c present
    obtain ⟨x, declared, rfl⟩ := List.mem_map.mp present
    rw [branchOf_accept? built made declared]
    exact missed x declared
  rw [planOf_decide, chain]
  cases hoisted : (planOf t development v).hoisted.letsPass user with
  | true => exact Or.inl rfl
  | false =>
    refine Or.inr ⟨rfl, ?_, ?_⟩
    · intro empty
      rw [planOf, empty, hoisted_of_no_routes] at hoisted
      cases hoisted
    · intro x member
      have checks := hoisted_passes v t.matchers development user member
      rw [← checks]
      exact Bool.and_eq_false_imp.mpr fun passed => absurd passed (by simpa [planOf] using hoisted)

/-! ### The router of a definition -/

theorem router_of_build (built : Table.build d = .ok t) (setting : Option String) :
    ∃ slots, Router.build d setting =
        .ok ⟨t, Plan.build t (d.options.isDevelopment setting), slots⟩ ∧
      List.Forall₂ (fun o m => Matcher.ofRoute o = .ok m) t.matchers slots := by
  obtain ⟨slots, placed, made⟩ := slots_of_build built (d.options.isDevelopment setting)
  refine ⟨slots, ?_, made⟩
  simp only [Router.build, built, placed, Except.mapError, bind, Except.bind, pure, Except.pure]

theorem planFor?_toVerb (development : Bool) (slots : List Matcher) (v : RouteVerb) :
    (Router.mk t (Plan.build t development) slots).planFor? v.toVerb =
      some (planOf t development v) := by
  rw [Router.planFor?, route?_toVerb]
  cases v <;> rfl

theorem route_proper {x : Declaration} (proper : ProperDefinition d) (member : x ∈ d.declarations) :
    ProperAuthorization (d.route x).authorization := by
  obtain ⟨h, present, declared⟩ := List.mem_flatMap.mp member
  obtain ⟨v, _, rfl⟩ := List.mem_map.mp declared
  apply demands_proper
  intro u listed
  rcases Option.or_eq_some_iff.mp listed with own | ⟨_, inherited⟩
  · exact proper.handlers h present u own
  · exact proper.endpoint u inherited

/-! ### What an author sees -/

/-- The handler is called on the request as it was matched, and no one else is. -/
def Router.Calls (router : Router) (behavior : Behavior) (r : Request) (handler : Identifier)
    (matched : Request) : Prop :=
  router.decide (behavior.currentUser r) r = ⟨matched, .handle handler⟩ ∧
    router.answer behavior r =
      let (response, failure) := behavior.handle handler matched (router.greet r.verb)
      ⟨matched, response, failure⟩

/-- The answer is 403, without a word from the author. -/
def Router.Refuses (router : Router) (behavior : Behavior) (r : Request) : Prop :=
  (router.decide (behavior.currentUser r) r).decision = .forbid ∧
    (router.answer behavior r).response = (router.greet r.verb).notAuthorized ∧
    (router.answer behavior r).response.status = .forbidden ∧
    (router.answer behavior r).failure = none

/-- The hook of the verb is called on the request as it came, and no handler is. -/
def Router.FallsThrough (router : Router) (behavior : Behavior) (r : Request) : Prop :=
  router.decide (behavior.currentUser r) r = ⟨r, .unhandled⟩ ∧
    router.answer behavior r =
      let (response, failure) := behavior.unhandled r.verb r (router.greet r.verb)
      ⟨r, response, failure⟩

theorem calls_of_decide {router : Router} {behavior : Behavior} {r matched : Request}
    {handler : Identifier}
    (decided : router.decide (behavior.currentUser r) r = ⟨matched, .handle handler⟩) :
    router.Calls behavior r handler matched := by
  refine ⟨decided, ?_⟩
  simp only [Router.answer, decided]

theorem refuses_of_decide {router : Router} {behavior : Behavior} {r : Request}
    (decided : (router.decide (behavior.currentUser r) r).decision = .forbid) :
    router.Refuses behavior r := by
  have response : (router.answer behavior r).response = (router.greet r.verb).notAuthorized := by
    simp only [Router.answer, decided]
  refine ⟨decided, response, ?_, ?_⟩
  · rw [response]
    rfl
  · simp only [Router.answer, decided]

theorem fallsThrough_of_decide {router : Router} {behavior : Behavior} {r : Request}
    (decided : router.decide (behavior.currentUser r) r = ⟨r, .unhandled⟩) :
    router.FallsThrough behavior r := by
  refine ⟨decided, ?_⟩
  simp only [Router.answer, decided]

/-- A block that is accepted has a router, and the router answers as if nothing were shared or
hoisted. The first declared route that matches is called just if its own roles admit the user, and
the request is refused otherwise. Without a match the hook is called, unless the verb has routes
and none of them admits the user. -/
theorem answer_of_first_match {b : Impl} {options : Options} (read : b.definition options = .ok d)
    (built : Table.build d = .ok t) (setting : Option String) :
    ∃ router, Router.build d setting = .ok router ∧ router.table = t ∧
      ∀ (behavior : Behavior) (v : RouteVerb) (r : Request), r.verb = v.toVerb →
        let routes := (d.declarationsFor v).map d.route
        (∀ route matched, FirstMatch routes r route matched →
          (route.authorization.Admits (behavior.currentUser r) →
            router.Calls behavior r route.handler matched) ∧
          (¬ route.authorization.Admits (behavior.currentUser r) → router.Refuses behavior r)) ∧
        ((∀ x ∈ routes, x.accept? r = none) →
          router.FallsThrough behavior r ∨
          router.Refuses behavior r ∧ routes ≠ [] ∧
            ∀ x ∈ routes, ¬ x.authorization.Admits (behavior.currentUser r)) := by
  obtain ⟨slots, placed, made⟩ := router_of_build built setting
  refine ⟨_, placed, rfl, ?_⟩
  intro behavior v r verb
  rw [← routesFor_of_build built v]
  have proper : ∀ x ∈ t.routesFor v, ProperAuthorization x.authorization := by
    intro x member
    rw [routesFor_of_build built] at member
    obtain ⟨y, declared, rfl⟩ := List.mem_map.mp member
    exact route_proper (definition_proper read) (mem_declarationsFor.mp declared).1
  generalize development : d.options.isDevelopment setting = dev at placed ⊢
  have decided : ∀ user, (Router.mk t (Plan.build t dev) slots).decide user r =
      (planOf t dev v).decide slots user r := by
    intro user
    rw [Router.decide, verb, planFor?_toVerb]
  dsimp only
  constructor
  · intro route matched first
    have member : route ∈ t.routesFor v := by
      obtain ⟨before, after, split, _⟩ := first
      rw [split]
      exact List.mem_append_right _ List.mem_cons_self
    have outcome := decide_of_first_match built made dev (behavior.currentUser r) first
    have admits := letsPass_guards_iff (proper route member) (behavior.currentUser r)
    constructor
    · intro admitted
      rw [if_pos (admits.mpr admitted), ← decided] at outcome
      exact calls_of_decide outcome
    · intro refused
      rw [if_neg fun passed => refused (admits.mp passed), ← decided] at outcome
      exact refuses_of_decide outcome
  · intro missed
    rcases decide_of_no_match built made dev (behavior.currentUser r) missed with
      unhandled | ⟨refused, routed, barred⟩
    · rw [← decided] at unhandled
      exact Or.inl (fallsThrough_of_decide unhandled)
    · rw [← decided] at refused
      refine Or.inr ⟨refuses_of_decide (by rw [refused]), routed, ?_⟩
      intro x member admitted
      have passed := (letsPass_guards_iff (proper x member) (behavior.currentUser r)).mpr admitted
      rw [barred x member] at passed
      cases passed

/-- A method with the given attributes. -/
def methodNamed (name : String) (attributes : List (String × Grammar.AttributeForm)) : Member :=
  .method {
    attributes := attributes.map fun (name, form) => ⟨false, [.ident ⟨name, false⟩], form⟩
    name := ⟨name, false⟩
    takesSelf := true
    head := []
    body := [] }

def textTree (s : String) : Tree := .literal ⟨.string s, "\"" ++ s ++ "\""⟩

/-- The first route takes all paths of one segment, for administrators only; the second is open. -/
def halfOpen : Impl where
  attributes := []
  modifiers := []
  parameters := []
  implements := none
  type := [.ident ⟨"Tasks", false⟩]
  typeName := some ⟨"Tasks", false⟩
  bounds := []
  members := [
    methodNamed "show" [("get", .list .parenthesis [textTree "/{id}"]),
      ("logged_user", .list .parenthesis
        [.ident ⟨"allowed_roles", false⟩, .group .parenthesis [textTree "admin"]])],
    methodNamed "mine" [("get", .bare)]]

def halfOpenDefinition : Definition where
  type := ⟨"Tasks", false⟩
  handlers := [⟨⟨"show", false⟩, [⟨.get, some "/{id}"⟩], some ⟨["admin"], []⟩⟩,
    ⟨⟨"mine", false⟩, [⟨.get, none⟩], none⟩]

def showRoute : Route :=
  ⟨.get, "/api/tasks/{id}", "/{id}", some "/(?<id>[^/]+)", ["id"], ⟨"show", false⟩,
    ⟨true, false, ["admin"], []⟩⟩

def mineRoute : Route :=
  ⟨.get, "/api/tasks/mine", "/mine", none, [], ⟨"mine", false⟩, .open⟩

theorem showRoute_refuses_guest : ¬ showRoute.authorization.Admits (some "guest") := by
  rintro ⟨allowed, _⟩
  rcases allowed with none_listed | ⟨role, same, any | listed⟩
  · cases none_listed
  · exact absurd any (by decide)
  · cases same
    exact absurd listed (by decide)

/-- A guest who asks for `/mine` is refused by the first route, though the second would do. -/
theorem answer_of_first_match_halfOpen :
    ∃ router, Router.build halfOpenDefinition none = .ok router ∧
      ∀ behavior : Behavior,
        behavior.currentUser ⟨.get, some "/mine", {}, {}, {}⟩ = some "guest" →
          router.Refuses behavior ⟨.get, some "/mine", {}, {}, {}⟩ := by
  have read : halfOpen.definition {} = .ok halfOpenDefinition := by decide +kernel
  have built : Table.build halfOpenDefinition = .ok ⟨"/api/tasks", [showRoute, mineRoute]⟩ := by
    decide +kernel
  obtain ⟨router, placed, _, answers⟩ := answer_of_first_match read built none
  refine ⟨router, placed, ?_⟩
  intro behavior user
  have routes : (halfOpenDefinition.declarationsFor .get).map halfOpenDefinition.route =
      [] ++ showRoute :: [mineRoute] := by
    decide +kernel
  have hit : showRoute.accept? ⟨.get, some "/mine", {}, {}, {}⟩ =
      some ⟨.get, some "/mine", ⟨[("id", "mine")]⟩, {}, {}⟩ := by
    decide +kernel
  obtain ⟨_, refuses⟩ := (answers behavior .get _ rfl).1 showRoute _
    ⟨[], [mineRoute], routes, by simp, hit⟩
  rw [user] at refuses
  exact refuses showRoute_refuses_guest

end EndpointRouting.Route
