import EndpointRouting.Proofs.Code.Reading
import EndpointRouting.Proofs.Route.Accounting

/-!
# What a router tells about its routes

The demands of a route are worked out when the block is read, and again from the lists that the
router carries. `listed_routes_agree` says that the lists of every route are proper, that the
router lists the routes in the order of the table, that both workings-out agree, and that no role
is ever compared with the one that stands for any.
-/

namespace EndpointRouting.Route
open Block Http Token

/-! ### The demands of a route -/

section
variable {b : Impl} {options : Options} {d : Definition} {t : Table}

theorem proper_of_mem (read : b.definition options = .ok d) (built : Table.build d = .ok t)
    {r : Route} (member : r ∈ t.routes) : ProperAuthorization r.authorization := by
  obtain ⟨x, declared, rfl, -⟩ := declaration_of_mem built member
  exact route_proper (definition_proper read) declared

theorem demands_exclusive {roles : Option LoggedUser} (agree : ¬ Conflicting roles) :
    ¬ ((demands roles).loggedUser = true ∧ (demands roles).anonymous = true) := by
  rintro ⟨logged, anonymous⟩
  cases roles with
  | none => cases logged
  | some u =>
    have listed : u.allowed ≠ [] := by simpa [demands] using logged
    have barred : u.rejected = [anyRole] := by simpa [demands] using anonymous
    exact agree ⟨u, rfl, listed, barred⟩

theorem exclusive_of_mem (built : Table.build d = .ok t) {r : Route} (member : r ∈ t.routes) :
    ¬ (r.authorization.loggedUser = true ∧ r.authorization.anonymous = true) := by
  obtain ⟨x, declared, rfl, -⟩ := declaration_of_mem built member
  have agree : d.RolesAgree := ((faults_eq_nil_iff d).mp (eq_of_build built).2).1
  obtain ⟨h, present, own⟩ := List.mem_flatMap.mp declared
  apply demands_exclusive
  rintro ⟨u, listed, conflicts⟩
  rcases Option.or_eq_some_iff.mp listed with mine | ⟨-, inherited⟩
  · exact agree.2 h present ⟨u, handler_of_mem own ▸ mine, conflicts⟩
  · exact agree.1 ⟨u, inherited, conflicts⟩

end

/-! ### Descriptions -/

theorem requiresAnonymous_eq (i : Info) : i.requiresAnonymous = (i.rejected == [anyRole]) := by
  unfold Info.requiresAnonymous
  match i.rejected with
  | [] => rfl
  | [role] => simp
  | _ :: _ :: _ => simp

/-- A description agrees with its route, if the flags of the route follow from its lists. -/
theorem info_agrees {r : Route} (proper : ProperAuthorization r.authorization) :
    (Info.ofRoute r).requiresLoggedUser = r.authorization.loggedUser ∧
      (Info.ofRoute r).requiresAnonymous = r.authorization.anonymous ∧
      (Info.ofRoute r).isIndex = r.isIndex :=
  ⟨proper.loggedUser.symm, (requiresAnonymous_eq _).trans proper.anonymous.symm, rfl⟩

/-! ### Tests of the role -/

def RoleTest.roles : RoleTest → List String
  | equals role => [role]
  | oneOf roles => roles

def Guards.tests (g : Guards) : List RoleTest := g.allowed.toList ++ g.rejected.toList

/-- All tests of a plan: those made before any match, then those of each branch. -/
def VerbPlan.tests (p : VerbPlan) : List RoleTest :=
  p.hoisted.tests ++ p.branches.flatMap (·.guards.tests)

theorem anyRole_not_mem_of? {roles : List String} (h : ProperRoles roles) {test : RoleTest}
    (called : RoleTest.of? roles = some test) : anyRole ∉ test.roles := by
  match roles with
  | [] => cases called
  | [role] =>
    by_cases any : role = anyRole
    · simp [RoleTest.of?, any] at called
    · simp only [RoleTest.of?, if_neg any, Option.some.injEq] at called
      subst called
      simpa [RoleTest.roles] using Ne.symm any
  | first :: second :: more =>
    simp only [RoleTest.of?, Option.some.injEq] at called
    subst called
    intro member
    have alone := h.alone member
    simp at alone

/-- Wherever the tests of a route are made, they are those that its lists call for. -/
theorem called_of_mem_tests {h : Hoisting} {a : Authorization} {test : RoleTest}
    (member : test ∈ (h.before a).tests ∨ test ∈ (h.after a).tests) :
    RoleTest.of? a.allowed = some test ∨ RoleTest.of? a.rejected = some test := by
  simp only [Guards.tests, Hoisting.before, Hoisting.after, List.mem_append, Option.mem_toList] at member
  rcases member with (allowed | rejected) | allowed | rejected
  · exact .inl (Option.ite_none_right_eq_some.mp allowed).2
  · exact .inr (Option.ite_none_right_eq_some.mp rejected).2
  · exact .inl (Option.ite_none_left_eq_some.mp allowed).2
  · exact .inr (Option.ite_none_left_eq_some.mp rejected).2

theorem anyRole_not_mem_tests {h : Hoisting} {a : Authorization} (proper : ProperAuthorization a)
    {test : RoleTest} (member : test ∈ (h.before a).tests ∨ test ∈ (h.after a).tests) :
    anyRole ∉ test.roles := by
  rcases called_of_mem_tests member with allowed | rejected
  · exact anyRole_not_mem_of? proper.allowed allowed
  · exact anyRole_not_mem_of? proper.rejected rejected

/-- No test of a verb's plan names the role that stands for any. -/
theorem anyRole_not_mem_planOf {t : Table} (proper : ∀ r ∈ t.routes, ProperAuthorization r.authorization)
    (development : Bool) (v : RouteVerb) :
    ∀ test ∈ (planOf t development v).tests, anyRole ∉ test.roles := by
  intro test member
  have ours : ∀ r ∈ t.routesFor v, ProperAuthorization r.authorization := fun r present =>
    proper r (mem_routesFor.mp present).1
  rcases List.mem_append.mp member with hoisted | inline
  · unfold planOf VerbPlan.build at hoisted
    cases routes : t.routesFor v with
    | nil =>
      rw [routes] at hoisted
      cases hoisted
    | cons first rest =>
      rw [routes] at hoisted
      exact anyRole_not_mem_tests (ours first (routes ▸ List.mem_cons_self)) (.inl hoisted)
  · obtain ⟨branch, present, tested⟩ := List.mem_flatMap.mp inline
    obtain ⟨r, routed, rfl⟩ := List.mem_map.mp present
    exact anyRole_not_mem_tests (ours r routed) (.inr tested)

/-- On an accepted block no route lists a blank role or mixes the one that stands for any with
others, and its flags are what its lists say, never both. The router lists all routes of the table,
verb by verb and within a verb in the order of the attributes; what it works out about each from
the lists agrees with the route; and no test of a plan compares with the role that stands for
any. -/
theorem listed_routes_agree {b : Impl} {options : Options} {d : Definition} {t : Table}
    (read : b.definition options = .ok d) (built : Table.build d = .ok t) (development : Bool) :
    (∀ r ∈ t.routes,
      ProperRoles r.authorization.allowed ∧ ProperRoles r.authorization.rejected ∧
      (r.authorization.loggedUser = true ↔ r.authorization.allowed ≠ []) ∧
      (r.authorization.anonymous = true ↔ r.authorization.rejected = [anyRole]) ∧
      ¬ (r.authorization.loggedUser = true ∧ r.authorization.anonymous = true)) ∧
    (Code.routesListed? (Code.routerCode b t (Plan.build t development)) =
        some (t.routes.map Info.ofRoute) ∧
      t.routes = RouteVerb.all.flatMap t.routesFor ∧
      ∀ v, List.Forall₂ (Stands b v) (b.marks v) (t.routesFor v)) ∧
    (∀ r ∈ t.routes,
      (Info.ofRoute r).requiresLoggedUser = r.authorization.loggedUser ∧
      (Info.ofRoute r).requiresAnonymous = r.authorization.anonymous ∧
      (Info.ofRoute r).isIndex = r.isIndex) ∧
    ∀ p ∈ (Plan.build t development).verbs, ∀ test ∈ p.tests, anyRole ∉ test.roles := by
  have proper : ∀ r ∈ t.routes, ProperAuthorization r.authorization := fun r member =>
    proper_of_mem read built member
  refine ⟨?_, ⟨Code.routesListed?_routerCode b t _, routes_of_build built,
    stands_of_build read built⟩, fun r member => info_agrees (proper r member), ?_⟩
  · intro r member
    have own := proper r member
    refine ⟨own.allowed, own.rejected, ?_, ?_, exclusive_of_mem built member⟩
    · rw [own.loggedUser]
      simp
    · rw [own.anonymous]
      simp
  · intro p planned
    obtain ⟨v, rfl⟩ := mem_verbs.mp planned
    exact anyRole_not_mem_planOf proper development v

/-- Two routes are listed; the roles of the first are its own, those of the second any. -/
theorem listed_routes_agree_guarded :
    Code.routesListed? (Code.routerCode guardedTasks guardedTable (Plan.build guardedTable true)) =
      some (guardedTable.routes.map Info.ofRoute) ∧
    (∀ r ∈ guardedTable.routes, (Info.ofRoute r).requiresLoggedUser = r.authorization.loggedUser) ∧
    guardedTable.routes.map (·.authorization.allowed) = [["admin"], [anyRole]] ∧
    ∀ p ∈ (Plan.build guardedTable true).verbs, ∀ test ∈ p.tests, anyRole ∉ test.roles := by
  have read : guardedTasks.definition {} = .ok guardedDefinition := by decide +kernel
  have built : Table.build guardedDefinition = .ok guardedTable := by decide +kernel
  obtain ⟨-, ⟨listed, -⟩, described, tested⟩ := listed_routes_agree read built true
  exact ⟨listed, fun r member => (described r member).1, rfl, tested⟩

end EndpointRouting.Route
