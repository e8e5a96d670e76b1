import EndpointRouting.Block.Definition
import EndpointRouting.Proofs.Outcome

/-!
# The roles of an accepted block

The roles that a block lists are not blank, and the role that stands for any stands by itself.
-/

namespace EndpointRouting.Block
open Grammar Http Route Text Token

/-- Roles as an accepted option lists them. -/
structure ProperRoles (roles : List String) : Prop where
  visible : ∀ role ∈ roles, isBlank role = false
  alone : anyRole ∈ roles → roles = [anyRole]

/-- Both lists of roles are proper. -/
structure ProperUser (u : LoggedUser) : Prop where
  allowed : ProperRoles u.allowed
  rejected : ProperRoles u.rejected

/-- If roles are listed at all, both lists are proper. -/
def ProperListing (roles : Option LoggedUser) : Prop := ∀ u, roles = some u → ProperUser u

theorem properRoles_nil : ProperRoles [] := ⟨by simp, by simp⟩

theorem properRoles_any : ProperRoles [anyRole] where
  visible role member := by
    rw [List.mem_singleton.mp member]
    decide +kernel
  alone _ := rfl

theorem properListing_none : ProperListing none := fun _ listed => nomatch listed

theorem properListing_some {u : LoggedUser} (h : ProperUser u) : ProperListing (some u) := by
  intro v listed
  cases listed
  exact h

/-! ### One attribute -/

theorem properRoles_of_roleErrors {o : RoleOption} {roles : List String}
    (faultless : (roleErrors o roles).isEmpty = true) : ProperRoles roles := by
  rw [roleErrors, List.isEmpty_iff, List.append_eq_nil_iff, List.map_eq_nil_iff,
    List.filter_eq_nil_iff] at faultless
  obtain ⟨visible, unmixed⟩ := faultless
  refine ⟨fun role member => by simpa using visible role member, ?_⟩
  intro member
  cases roles with
  | nil => cases member
  | cons first rest =>
    cases rest with
    | nil => rw [List.mem_singleton.mp member]
    | cons second more =>
      rw [if_pos] at unmixed
      · cases unmixed
      · simpa using member

theorem roleOption_proper {ts rest : List Tree} {o : RoleOption} {roles : List String}
    (read : roleOption ts = .ok ((o, roles), rest)) : ProperRoles roles := by
  unfold roleOption at read
  obtain ⟨⟨name, after⟩, _, read⟩ := bind_ok read
  dsimp only at read
  split at read
  · cases read
  · split at read
    · cases read
    · split at read
      · cases read
      · obtain ⟨listed, _, read⟩ := bind_ok read
        split at read
        · rename_i faultless
          cases read
          exact properRoles_of_roleErrors faultless
        · cases read

theorem setRoles_proper {u : LoggedUser} {o : RoleOption} {roles : List String}
    (h : ProperUser u) (proper : ProperRoles roles) : ProperUser (setRoles u (o, roles)) := by
  cases o with
  | allowed => exact ⟨proper, h.rejected⟩
  | rejected => exact ⟨h.allowed, proper⟩

theorem roleOptions_proper {fuel : Nat} {u v : LoggedUser} {ts : List Tree} (h : ProperUser u)
    (read : roleOptions fuel u ts = .ok v) : ProperUser v := by
  induction fuel generalizing u ts with
  | zero =>
    cases read
    exact h
  | succ fuel ih =>
    cases ts with
    | nil =>
      cases read
      exact h
    | cons t ts =>
      unfold roleOptions at read
      obtain ⟨⟨⟨o, roles⟩, rest⟩, option, read⟩ := bind_ok read
      have set := setRoles_proper (o := o) h (roleOption_proper option)
      dsimp only at read
      split at read
      · cases read
        exact set
      · obtain ⟨more, _, read⟩ := bind_ok read
        exact ih set read

theorem readLoggedUser_proper {form : AttributeForm} {u : LoggedUser}
    (read : readLoggedUser form = .ok u) : ProperUser u := by
  cases form with
  | bare =>
    cases read
    exact ⟨properRoles_any, properRoles_nil⟩
  | value _ => cases read
  | list _ content => exact roleOptions_proper ⟨properRoles_nil, properRoles_nil⟩ read

/-! ### The attributes of a method or a block -/

theorem addLoggedUser_proper (n : Notes) (a : Attribute) :
    ProperListing (n.addLoggedUser a).loggedUser := by
  unfold Notes.addLoggedUser
  dsimp only
  cases read : readLoggedUser a.form with
  | ok u => exact properListing_some (readLoggedUser_proper read)
  | error _ => exact properListing_none

theorem add_proper {n : Notes} (h : ProperListing n.loggedUser) (a : Attribute) :
    ProperListing (n.add a).loggedUser := by
  unfold Notes.add
  split
  · exact addLoggedUser_proper n a
  · cases verbOf a with
    | none => exact h
    | some v =>
      dsimp only [Notes.addVerb]
      cases readVerb v a.form <;> exact h

theorem foldl_add_proper {n : Notes} (h : ProperListing n.loggedUser) (as : List Attribute) :
    ProperListing (as.foldl Notes.add n).loggedUser := by
  induction as generalizing n with
  | nil => exact h
  | cons a rest ih => exact ih (add_proper h a)

theorem foldl_addLoggedUser_proper {n : Notes} (h : ProperListing n.loggedUser)
    (as : List Attribute) : ProperListing (as.foldl Notes.addLoggedUser n).loggedUser := by
  induction as generalizing n with
  | nil => exact h
  | cons a rest ih => exact ih (addLoggedUser_proper n a)

theorem handler_proper {m : Member} {h : Handler} (read : m.handler = .ok (some h)) :
    ProperListing h.loggedUser := by
  cases m with
  | other _ => cases read
  | method m =>
    change m.handler = _ at read
    unfold Method.handler at read
    dsimp only at read
    generalize Option.toList _ = faults at read
    split at read
    · cases read
    · split at read
      · cases read
      · cases read
        exact foldl_add_proper properListing_none m.attributes

/-! ### A whole block -/

/-- All roles of a definition are proper. -/
structure ProperDefinition (d : Definition) : Prop where
  endpoint : ProperListing d.loggedUser
  handlers : ∀ h ∈ d.handlers, ProperListing h.loggedUser

theorem definition_proper {b : Impl} {options : Options} {d : Definition}
    (read : b.definition options = .ok d) : ProperDefinition d := by
  unfold Impl.definition at read
  split at read
  · cases read
  · dsimp only at read
    generalize (_ ++ _ : List BlockError) = errors at read
    split at read
    · cases read
    · cases read
      refine ⟨foldl_addLoggedUser_proper properListing_none _, ?_⟩
      intro h member
      obtain ⟨outcome, found, chosen⟩ := List.mem_filterMap.mp member
      obtain ⟨m, _, rfl⟩ := List.mem_map.mp found
      cases handled : m.handler with
      | error _ =>
        rw [handled] at chosen
        cases chosen
      | ok handler =>
        rw [handled] at chosen
        cases chosen
        exact handler_proper handled

end EndpointRouting.Block
