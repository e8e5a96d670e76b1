import EndpointRouting.Proofs.Block.Roles
import EndpointRouting.Proofs.Route.Building
import EndpointRouting.Route.Plan

/-!
# Guards and role lists

The guards of a route let a user through just if its role lists do, and it makes no difference how
the checks are divided between those made before any match and those left for after it.
-/

namespace EndpointRouting.Route
open Block Http Token

/-- The role lists let the user through. No list of allowed roles stands for all requests, and `*`
for any role. -/
structure Authorization.Admits (a : Authorization) (user : Option String) : Prop where
  allowed : a.allowed = [] ∨
    ∃ role, user = some role ∧ (anyRole ∈ a.allowed ∨ role ∈ a.allowed)
  rejected : ∀ role, user = some role → anyRole ∉ a.rejected ∧ role ∉ a.rejected

/-- The flags follow from the lists, and the lists are proper. -/
structure ProperAuthorization (a : Authorization) : Prop where
  loggedUser : a.loggedUser = !a.allowed.isEmpty
  anonymous : a.anonymous = (a.rejected == [anyRole])
  allowed : ProperRoles a.allowed
  rejected : ProperRoles a.rejected

/-- All checks of a route, none of them hoisted. -/
def Authorization.guards (a : Authorization) : Guards :=
  ⟨a.loggedUser, a.anonymous, RoleTest.of? a.allowed, RoleTest.of? a.rejected⟩

theorem demands_proper {roles : Option LoggedUser} (h : ProperListing roles) :
    ProperAuthorization (demands roles) := by
  cases roles with
  | none => exact ⟨rfl, rfl, properRoles_nil, properRoles_nil⟩
  | some u =>
    have user := h u rfl
    exact ⟨rfl, rfl, user.allowed, user.rejected⟩

/-! ### What the tests of a role say -/

/-- The first two checks on the allowed roles, together. -/
theorem allowed_holds_iff {roles : List String} (h : ProperRoles roles) (user : Option String) :
    ((!(!roles.isEmpty) || user.isSome) && (RoleTest.of? roles).all (·.holds user)) = true ↔
      roles = [] ∨ ∃ role, user = some role ∧ (anyRole ∈ roles ∨ role ∈ roles) := by
  match roles with
  | [] => simp [RoleTest.of?]
  | [role] =>
    by_cases any : role = anyRole
    · subst any
      cases user <;> simp [RoleTest.of?]
    · have other : anyRole ≠ role := Ne.symm any
      cases user <;> simp [RoleTest.of?, any, RoleTest.holds, other]
  | first :: second :: more =>
    have unmixed : anyRole ∉ first :: second :: more := fun member => by
      have alone := h.alone member
      simp at alone
    cases user <;> simp [RoleTest.of?, RoleTest.holds, unmixed]

/-- The check for an anonymous request and the test of the rejected roles, together. -/
theorem rejected_fails_iff {roles : List String} (h : ProperRoles roles) (user : Option String) :
    ((!(roles == [anyRole]) || user.isNone) && !(RoleTest.of? roles).any (·.holds user)) = true ↔
      ∀ role, user = some role → anyRole ∉ roles ∧ role ∉ roles := by
  match roles with
  | [] => simp [RoleTest.of?]
  | [role] =>
    by_cases any : role = anyRole
    · subst any
      cases user <;> simp [RoleTest.of?]
    · have other : anyRole ≠ role := Ne.symm any
      cases user <;> simp [RoleTest.of?, any, RoleTest.holds, other]
  | first :: second :: more =>
    have unmixed : anyRole ∉ first :: second :: more := fun member => by
      have alone := h.alone member
      simp at alone
    cases user <;> simp [RoleTest.of?, RoleTest.holds, unmixed]

theorem letsPass_guards_iff {a : Authorization} (h : ProperAuthorization a)
    (user : Option String) : a.guards.letsPass user = true ↔ a.Admits user := by
  have allowed := allowed_holds_iff h.allowed user
  have rejected := rejected_fails_iff h.rejected user
  rw [← h.loggedUser] at allowed
  rw [← h.anonymous] at rejected
  constructor
  · intro pass
    simp only [Authorization.guards, Guards.letsPass, Bool.and_eq_true] at pass allowed rejected
    obtain ⟨⟨⟨logged, anonymous⟩, permitted⟩, banned⟩ := pass
    exact ⟨allowed.mp ⟨logged, permitted⟩, rejected.mp ⟨anonymous, banned⟩⟩
  · intro admits
    have first := allowed.mpr admits.allowed
    have second := rejected.mpr admits.rejected
    simp only [Authorization.guards, Guards.letsPass, Bool.and_eq_true] at first second ⊢
    exact ⟨⟨⟨first.1, second.1⟩, first.2⟩, second.2⟩

/-! ### Hoisting -/

/-- What is hoisted holds of the route as well. -/
structure Hoisting.Fits (h : Hoisting) (first a : Authorization) : Prop where
  loggedUser : h.loggedUser = true → a.loggedUser = true
  anonymous : h.anonymous = true → a.anonymous = true
  allowed : h.allowed = true → a.allowed = first.allowed
  rejected : h.rejected = true → a.rejected = first.rejected

theorem decide_fits {first : Route} {rest : List Route} {r : Route} (member : r ∈ first :: rest) :
    (Hoisting.decide (first :: rest)).Fits first.authorization r.authorization := by
  have demanded := List.mem_map_of_mem (f := Route.authorization) member
  constructor
  · exact fun hoisted => List.all_eq_true.mp hoisted _ demanded
  · exact fun hoisted => List.all_eq_true.mp hoisted _ demanded
  · exact fun hoisted => by simpa using List.all_eq_true.mp hoisted _ demanded
  · exact fun hoisted => by simpa using List.all_eq_true.mp hoisted _ demanded

/-- A flag is checked once, before or after. -/
theorem flag_split {hoisted own : Bool} (fits : hoisted = true → own = true) (met : Bool) :
    ((!hoisted || met) && (!(!hoisted && own) || met)) = (!own || met) := by
  cases hoisted with
  | true => simp [fits rfl]
  | false => simp

/-- A list is tested once, before or after. -/
theorem test_split {hoisted : Bool} {first own : List String}
    (fits : hoisted = true → own = first) (passes : Option RoleTest → Bool)
    (untested : passes none = true) :
    (passes (if hoisted then RoleTest.of? first else none) &&
      passes (if hoisted then none else RoleTest.of? own)) = passes (RoleTest.of? own) := by
  cases hoisted with
  | true => simp [fits rfl, untested]
  | false => simp [untested]

/-- The checks before the match and those after it are all the checks of the route. -/
theorem before_and_after {h : Hoisting} {first a : Authorization} (fits : h.Fits first a)
    (user : Option String) :
    ((h.before first).letsPass user && (h.after a).letsPass user) = a.guards.letsPass user := by
  have logged := flag_split fits.loggedUser user.isSome
  have anonymous := flag_split fits.anonymous user.isNone
  have allowed := test_split fits.allowed (fun test => test.all (·.holds user)) rfl
  have rejected := test_split fits.rejected (fun test => !test.any (·.holds user)) rfl
  simp only [Hoisting.before, Hoisting.after, Authorization.guards, Guards.letsPass]
  rw [← logged, ← anonymous, ← allowed, ← rejected]
  ac_rfl

/-- The checks made before any match, for the routes of a verb. -/
theorem hoisted_passes (v : RouteVerb) {routes : List Route} (owners : List Route)
    (development : Bool) (user : Option String) {r : Route} (member : r ∈ routes) :
    ((VerbPlan.build v routes owners development).hoisted.letsPass user &&
      ((Hoisting.decide routes).after r.authorization).letsPass user) =
        r.authorization.guards.letsPass user := by
  cases routes with
  | nil => cases member
  | cons first rest => exact before_and_after (decide_fits member) user

theorem hoisted_of_no_routes (v : RouteVerb) (owners : List Route) (development : Bool)
    (user : Option String) :
    (VerbPlan.build v [] owners development).hoisted.letsPass user = true := rfl

end EndpointRouting.Route
