import EndpointRouting.Http.Response
import EndpointRouting.Route.Matcher
import EndpointRouting.Route.Plan

/-!
# Routing a request

A router carries out the plan of the request's verb: the checks made before any route, then the
first route whose matcher accepts the request, then the checks left for that route. Verbs without
routes go to their hook at once.
-/

namespace EndpointRouting.Route
open Http Token

/-- What becomes of a request. -/
inductive Decision where
  | handle (handler : Identifier)
  | forbid
  | unhandled
  deriving DecidableEq, Repr

/-- A decision, with the request as the matchers left it. -/
structure Verdict where
  request : Request
  decision : Decision
  deriving DecidableEq, Repr

def MatcherRef.find? (slots : List Matcher) : MatcherRef → Option Matcher
  | index => some .index
  | slot n => slots[n]?

/-- The first branch whose matcher accepts the request decides. -/
def decideBranches (slots : List Matcher) (user : Option String) :
    List Branch → Request → Verdict
  | [], r => ⟨r, .unhandled⟩
  | b :: rest, r =>
    match (b.matcher.find? slots).bind (·.accept? r) with
    | some accepted =>
      ⟨accepted, if b.guards.letsPass user then .handle b.route.handler else .forbid⟩
    | none => decideBranches slots user rest r

def VerbPlan.decide (p : VerbPlan) (slots : List Matcher) (user : Option String) (r : Request) :
    Verdict :=
  if p.hoisted.letsPass user then decideBranches slots user p.branches r else ⟨r, .forbid⟩

/-- A plan with its matchers. -/
structure Router where
  table : Table
  plan : Plan
  slots : List Matcher

/-- Why there is no router for a definition. -/
inductive RouterError where
  | table (errors : List TableError)
  | matcher (error : Regex.CompileError)
  deriving DecidableEq, Repr

/-- The matchers of the routes that own a slot. -/
def Plan.slots (p : Plan) : Except Regex.CompileError (List Matcher) :=
  p.owners.mapM Matcher.ofRoute

namespace Router

def build (d : Definition) (setting : Option String) : Except RouterError Router := do
  let table ← (Table.build d).mapError .table
  let plan := Plan.build table (d.options.isDevelopment setting)
  let slots ← plan.slots.mapError .matcher
  return { table, plan, slots }

/-- The plan for a verb, if routes can be declared for it. -/
def planFor? (router : Router) (verb : Verb) : Option VerbPlan :=
  verb.route?.bind fun v => router.plan.verbs.find? (·.verb == v)

def decide (router : Router) (user : Option String) (r : Request) : Verdict :=
  match router.planFor? r.verb with
  | some p => p.decide router.slots user r
  | none => ⟨r, .unhandled⟩

end Router

/-! ### Answers -/

/-- What a handler or a hook makes of a response; it may give up. -/
abbrev Reply := Request → Response → Response × Option Failure

/-- What an author supplies beside the routes. A user is known by the role. -/
structure Behavior where
  currentUser : Request → Option String
  handle : Identifier → Reply
  unhandled : Verb → Reply

/-- A request after it was answered. -/
structure Answer where
  request : Request
  response : Response
  failure : Option Failure
  deriving DecidableEq, Repr

namespace Router

/-- The response that routing starts from. Scripts of any origin may read the answers of an
endpoint in development. -/
def greet (router : Router) (verb : Verb) : Response :=
  match router.planFor? verb with
  | some p => if p.development then ({} : Response).setHeader .allowOrigin "*" else {}
  | none => {}

def answer (router : Router) (b : Behavior) (r : Request) : Answer :=
  let verdict := router.decide (b.currentUser r) r
  let started := router.greet r.verb
  let (response, failure) := match verdict.decision with
    | .handle h => b.handle h verdict.request started
    | .forbid => (started.notAuthorized, none)
    | .unhandled => b.unhandled r.verb verdict.request started
  ⟨verdict.request, response, failure⟩

end Router

end EndpointRouting.Route
