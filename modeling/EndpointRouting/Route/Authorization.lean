/-!
# Authorization of a route

Roles that are allowed imply a user who is logged in; a lone `*` among the rejected roles demands
that there is none. Both at once cannot be met.
-/

namespace EndpointRouting.Route

/-- The role that stands for any role. -/
def anyRole : String := "*"

/-- The roles that a declaration lists. -/
structure LoggedUser where
  allowed : List String
  rejected : List String
  deriving DecidableEq, Repr

/-- What a route demands of the user. -/
structure Authorization where
  loggedUser : Bool := false
  anonymous : Bool := false
  allowed : List String := []
  rejected : List String := []
  deriving DecidableEq, Repr

namespace Authorization

/-- Nothing is demanded. -/
def «open» : Authorization := {}

/-- The demands of the listed roles, unless they ask for a user and for none. -/
def ofRoles? (roles : LoggedUser) : Option Authorization :=
  let loggedUser := !roles.allowed.isEmpty
  let anonymous := roles.rejected == [anyRole]
  if loggedUser && anonymous then none
  else some ⟨loggedUser, anonymous, roles.allowed, roles.rejected⟩

end Authorization

/-- A comparison of the user's role. -/
inductive RoleTest where
  | equals (role : String)
  | oneOf (roles : List String)
  deriving DecidableEq, Repr

namespace RoleTest

/-- The comparison that a list of roles calls for. A lone `*` is met by the user being there or
not. -/
def of? : List String → Option RoleTest
  | [] => none
  | [role] => if role = anyRole then none else some (.equals role)
  | roles => some (.oneOf roles)

/-- The test holds of a role; of no role it does not. -/
def holds : RoleTest → Option String → Bool
  | equals role, r => r == some role
  | oneOf roles, r => r.any roles.contains

end RoleTest

end EndpointRouting.Route
