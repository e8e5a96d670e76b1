import EndpointRouting.Route.Table

/-!
# Dispatch plans

How the requests of each verb are routed. A demand that all routes of a verb make alike is checked
once, before any route is tried; the others are checked after the match. Routes with the same
template share a matcher slot.
-/

namespace EndpointRouting.Route
open Http

/-- Checks of the user, in the order of the fields. -/
structure Guards where
  loggedUser : Bool := false
  anonymous : Bool := false
  allowed : Option RoleTest := none
  rejected : Option RoleTest := none
  deriving DecidableEq, Repr

namespace Guards

def isEmpty (g : Guards) : Bool :=
  !g.loggedUser && !g.anonymous && g.allowed.isNone && g.rejected.isNone

def needsRole (g : Guards) : Bool := g.allowed.isSome || g.rejected.isSome

/-- The checks let the user through. A user is known by the role. -/
def letsPass (g : Guards) (user : Option String) : Bool :=
  (!g.loggedUser || user.isSome) && (!g.anonymous || user.isNone) &&
    g.allowed.all (·.holds user) && !g.rejected.any (·.holds user)

end Guards

/-- Which demands are the same for all routes. -/
structure Hoisting where
  loggedUser : Bool := false
  anonymous : Bool := false
  allowed : Bool := false
  rejected : Bool := false
  deriving DecidableEq, Repr

namespace Hoisting

def decide : List Route → Hoisting
  | [] => {}
  | first :: rest =>
    let demands := (first :: rest).map (·.authorization)
    { loggedUser := demands.all (·.loggedUser)
      anonymous := demands.all (·.anonymous)
      allowed := demands.all (·.allowed == first.authorization.allowed)
      rejected := demands.all (·.rejected == first.authorization.rejected) }

/-- The checks made before any route is tried. -/
def before (h : Hoisting) (a : Authorization) : Guards :=
  { loggedUser := h.loggedUser
    anonymous := h.anonymous
    allowed := if h.allowed then RoleTest.of? a.allowed else none
    rejected := if h.rejected then RoleTest.of? a.rejected else none }

/-- The checks left for after the match. -/
def after (h : Hoisting) (a : Authorization) : Guards :=
  { loggedUser := !h.loggedUser && a.loggedUser
    anonymous := !h.anonymous && a.anonymous
    allowed := if h.allowed then none else RoleTest.of? a.allowed
    rejected := if h.rejected then none else RoleTest.of? a.rejected }

end Hoisting

/-- Where a branch finds its matcher. -/
inductive MatcherRef where
  | index
  | slot (n : Nat)
  deriving DecidableEq, Repr

/-- The matcher of a route among the routes that own a slot. -/
def MatcherRef.of (r : Route) (owners : List Route) : MatcherRef :=
  if r.isIndex then .index
  else match owners.findIdx? (·.pattern == r.pattern) with
    | some n => .slot n
    | none => .index

structure Branch where
  route : Route
  matcher : MatcherRef
  guards : Guards
  deriving DecidableEq, Repr

/-- How the requests of one verb are routed. -/
structure VerbPlan where
  verb : RouteVerb
  hoisted : Guards
  branches : List Branch
  development : Bool
  deriving DecidableEq, Repr

namespace VerbPlan

def build (verb : RouteVerb) (routes owners : List Route) (development : Bool) : VerbPlan :=
  let h := Hoisting.decide routes
  { verb, development
    hoisted := (routes.head?.map fun r => h.before r.authorization).getD {}
    branches := routes.map fun r => ⟨r, MatcherRef.of r owners, h.after r.authorization⟩ }

/-- Some check looks at the user. -/
def needsUser (p : VerbPlan) : Bool := !p.hoisted.isEmpty || p.branches.any (!·.guards.isEmpty)

/-- Some check looks at the role of the user. -/
def needsRole (p : VerbPlan) : Bool := p.hoisted.needsRole || p.branches.any (·.guards.needsRole)

end VerbPlan

/-- The plans of all verbs, and the routes that own the matcher slots. -/
structure Plan where
  owners : List Route
  verbs : List VerbPlan
  deriving DecidableEq, Repr

namespace Plan

def build (t : Table) (development : Bool) : Plan :=
  let owners := t.matchers
  ⟨owners, RouteVerb.all.map fun v => VerbPlan.build v (t.routesFor v) owners development⟩

end Plan

end EndpointRouting.Route
