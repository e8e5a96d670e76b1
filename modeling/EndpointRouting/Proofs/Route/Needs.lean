import EndpointRouting.Proofs.Route.Dispatch

/-!
# What the checks of a verb need

The user and the role are needed by the checks of a verb just if some route of the verb lists roles
that call for them, however the checks are divided.
-/

namespace EndpointRouting.Route
open Http

variable {d : Definition} {t : Table}

theorem flags_of_mem (built : Table.build d = .ok t) {r : Route} (member : r ∈ t.routes) :
    r.authorization.loggedUser = !r.authorization.allowed.isEmpty ∧
      r.authorization.anonymous = (r.authorization.rejected == [anyRole]) := by
  obtain ⟨x, -, rfl, -⟩ := declaration_of_mem built member
  have demanded : (d.route x).authorization = demands (x.handler.loggedUser.or d.loggedUser) := rfl
  rw [demanded]
  cases x.handler.loggedUser.or d.loggedUser <;> exact ⟨rfl, rfl⟩

theorem of?_eq_none_iff {roles : List String} :
    RoleTest.of? roles = none ↔ roles = [] ∨ roles = [anyRole] := by
  match roles with
  | [] => simp [RoleTest.of?]
  | [role] => by_cases any : role = anyRole <;> simp [RoleTest.of?, any]
  | _ :: _ :: _ => simp [RoleTest.of?]

/-- Nothing is checked just if no roles are listed. -/
theorem isEmpty_guards_iff {a : Authorization} (loggedUser : a.loggedUser = !a.allowed.isEmpty)
    (anonymous : a.anonymous = (a.rejected == [anyRole])) :
    a.guards.isEmpty = true ↔ a.allowed = [] ∧ a.rejected = [] := by
  simp only [Authorization.guards, Guards.isEmpty, loggedUser, anonymous, Bool.and_eq_true,
    Bool.not_eq_true', Bool.not_not, List.isEmpty_iff, beq_eq_false_iff_ne,
    Option.isNone_iff_eq_none, of?_eq_none_iff]
  constructor
  · rintro ⟨⟨⟨unlisted, notAny⟩, -⟩, none | any⟩
    · exact ⟨unlisted, none⟩
    · exact absurd any notAny
  · rintro ⟨unlisted, unrejected⟩
    simp [unlisted, unrejected]

theorem needsRole_guards_iff (a : Authorization) :
    a.guards.needsRole = true ↔
      ∃ roles ∈ [a.allowed, a.rejected], roles ≠ [] ∧ roles ≠ [anyRole] := by
  have tested : ∀ roles, (RoleTest.of? roles).isSome = true ↔ roles ≠ [] ∧ roles ≠ [anyRole] := by
    intro roles
    rw [← Option.ne_none_iff_isSome, ne_eq, of?_eq_none_iff, not_or]
  simp [Authorization.guards, Guards.needsRole, tested]

theorem needsUser_split {h : Hoisting} {first a : Authorization} (fits : h.Fits first a) :
    (!(h.before first).isEmpty || !(h.after a).isEmpty) = !a.guards.isEmpty := by
  have logged := flag_split fits.loggedUser false
  have anonymous := flag_split fits.anonymous false
  have allowed := test_split fits.allowed Option.isNone rfl
  have rejected := test_split fits.rejected Option.isNone rfl
  simp only [Bool.or_false] at logged anonymous
  rw [← Bool.not_and]
  simp only [Hoisting.before, Hoisting.after, Authorization.guards, Guards.isEmpty]
  rw [← logged, ← anonymous, ← allowed, ← rejected]
  congr 1
  ac_rfl

theorem needsRole_split {h : Hoisting} {first a : Authorization} (fits : h.Fits first a) :
    ((h.before first).needsRole || (h.after a).needsRole) = a.guards.needsRole := by
  have allowed := test_split fits.allowed Option.isNone rfl
  have rejected := test_split fits.rejected Option.isNone rfl
  have tested : ∀ g : Guards, g.needsRole = !(g.allowed.isNone && g.rejected.isNone) := by
    intro g
    rw [Guards.needsRole, Bool.not_and, Option.not_isNone, Option.not_isNone]
  rw [tested, tested, tested, ← Bool.not_and]
  simp only [Hoisting.before, Hoisting.after, Authorization.guards]
  rw [← allowed, ← rejected]
  congr 1
  ac_rfl

/-- What the checks of a verb need, wherever they are made, some route of the verb needs. -/
theorem needs_iff (needs : Guards → Bool) (nothing : needs {} = false)
    (split : ∀ {h : Hoisting} {first a : Authorization}, h.Fits first a →
      (needs (h.before first) || needs (h.after a)) = needs a.guards)
    (v : RouteVerb) (routes owners : List Route) (development : Bool) :
    let p := VerbPlan.build v routes owners development
    (needs p.hoisted || p.branches.any (needs ·.guards)) = true ↔
      ∃ r ∈ routes, needs r.authorization.guards = true := by
  dsimp only
  cases routes with
  | nil => simp [VerbPlan.build, nothing]
  | cons first rest =>
    have both : ∀ r ∈ first :: rest,
        (needs ((Hoisting.decide (first :: rest)).before first.authorization) ||
          needs ((Hoisting.decide (first :: rest)).after r.authorization)) =
            needs r.authorization.guards :=
      fun r member => split (decide_fits member)
    rw [Bool.or_eq_true, List.any_eq_true]
    constructor
    · rintro (hoisted | ⟨b, present, needed⟩)
      · have checked := both first List.mem_cons_self
        exact ⟨first, List.mem_cons_self, by
          rw [← checked, Bool.or_eq_true]
          exact .inl hoisted⟩
      · obtain ⟨r, member, rfl⟩ := List.mem_map.mp present
        have checked := both r member
        exact ⟨r, member, by
          rw [← checked, Bool.or_eq_true]
          exact .inr needed⟩
    · rintro ⟨r, member, needed⟩
      rw [← both r member, Bool.or_eq_true] at needed
      rcases needed with hoisted | inline
      · exact .inl hoisted
      · exact .inr ⟨_, List.mem_map.mpr ⟨r, member, rfl⟩, inline⟩

theorem needsUser_iff (built : Table.build d = .ok t) (development : Bool) (v : RouteVerb) :
    (planOf t development v).needsUser = true ↔
      ∃ r ∈ t.routesFor v, r.authorization.allowed ≠ [] ∨ r.authorization.rejected ≠ [] := by
  have needed := needs_iff (!·.isEmpty) rfl needsUser_split v (t.routesFor v)
    t.matchers development
  refine needed.trans (exists_congr fun r => and_congr_right fun member => ?_)
  obtain ⟨loggedUser, anonymous⟩ := flags_of_mem built (mem_routesFor.mp member).1
  rw [Bool.not_eq_true', ← Bool.not_eq_true, isEmpty_guards_iff loggedUser anonymous,
    not_and_or]

theorem needsRole_iff (development : Bool) (v : RouteVerb) :
    (planOf t development v).needsRole = true ↔
      ∃ r ∈ t.routesFor v, ∃ roles ∈ [r.authorization.allowed, r.authorization.rejected],
        roles ≠ [] ∧ roles ≠ [anyRole] := by
  have needed := needs_iff Guards.needsRole rfl needsRole_split v (t.routesFor v)
    t.matchers development
  exact needed.trans (exists_congr fun r => and_congr_right fun _ => needsRole_guards_iff _)

theorem not_isEmpty_of_needsRole {g : Guards} (needed : g.needsRole = true) :
    g.isEmpty = false := by
  rcases Bool.or_eq_true_iff.mp needed with allowed | rejected
  · simp [Guards.isEmpty, Option.isNone_eq_false_iff.mpr allowed]
  · simp [Guards.isEmpty, Option.isNone_eq_false_iff.mpr rejected]

theorem VerbPlan.needsUser_of_needsRole {p : VerbPlan} (needed : p.needsRole = true) :
    p.needsUser = true := by
  rcases Bool.or_eq_true_iff.mp needed with hoisted | inline
  · rw [needsUser, not_isEmpty_of_needsRole hoisted]
    rfl
  · obtain ⟨b, present, tested⟩ := List.any_eq_true.mp inline
    have checked : p.branches.any (!·.guards.isEmpty) = true :=
      List.any_eq_true.mpr ⟨b, present, by rw [not_isEmpty_of_needsRole tested]; rfl⟩
    rw [needsUser, checked, Bool.or_true]

theorem slot_lt {r : Route} {owners : List Route} {n : Nat}
    (slot : MatcherRef.of r owners = .slot n) : n < owners.length := by
  unfold MatcherRef.of at slot
  split at slot
  · cases slot
  · split at slot
    · rename_i index
      cases slot
      exact (List.findIdx?_eq_some_iff_getElem.mp index).1
    · cases slot

end EndpointRouting.Route
