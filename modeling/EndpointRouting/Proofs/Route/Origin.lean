import EndpointRouting.Proofs.Code.Scoping
import EndpointRouting.Proofs.Route.Root

/-!
# Scripts of any origin

`origin_allowed_in_development` says which answers scripts of any origin may read: those to the
verbs that routes are declared for, of an endpoint built for development. On any other answer
routing leaves the header alone.
-/

namespace EndpointRouting.Code
open Http Route Token

/-- Behind its prelude the method of a verb does not set headers. -/
theorem not_calls_set_header (p : VerbPlan) :
    ∃ rest, verbBody p = preludeCode p ++ rest ∧ ¬ Calls "set_header" rest := by
  refine ⟨(if p.needsUser then userCode else []) ++ ((if p.needsRole then roleCode else []) ++
    routingCode p), ?_, ?_⟩
  · rw [verbBody_eq, bindingsCode]
    simp only [List.append_assoc]
  · have user : Absent "set_header" ownCalls
        (if p.needsUser then userCode else []) := absent_if _ (absent_of_names (by decide))
    have role : Absent "set_header" ownCalls
        (if p.needsRole then roleCode else []) := absent_if _ (absent_of_names (by decide))
    have routing : Absent "set_header" ownCalls (routingCode p) :=
      absent_routingCode_of_guardNames (by decide) (by decide) (by decide) ownCalls_skip
    exact fun calls => calls (absent_append user (absent_append role routing))

end EndpointRouting.Code

namespace EndpointRouting.Route
open Http Text

variable {d : Definition} {t : Table}

/-- The author's part that a request is handed to. A refusal has none. -/
def Router.called? (router : Router) (b : Behavior) (r : Request) : Option Reply :=
  match (router.decide (b.currentUser r) r).decision with
  | .handle h => some (b.handle h)
  | .forbid => none
  | .unhandled => some (b.unhandled r.verb)

/-- What becomes of a request with the response that its author's part starts from. -/
def Router.finish (router : Router) (b : Behavior) (r : Request) (started : Response) : Answer :=
  let matched := (router.decide (b.currentUser r) r).request
  match router.called? b r with
  | some reply => ⟨matched, (reply matched started).1, (reply matched started).2⟩
  | none => ⟨matched, started.notAuthorized, none⟩

/-- The greeting, on a response that may have been written to. -/
def Router.greetOn (router : Router) (verb : Verb) (response : Response) : Response :=
  match router.planFor? verb with
  | some p => if p.development then response.setHeader .allowOrigin "*" else response
  | none => response

/-- The answer, on a response that may have been written to. -/
def Router.answerOn (router : Router) (b : Behavior) (r : Request) (response : Response) : Answer :=
  router.finish b r (router.greetOn r.verb response)

theorem answerOn_fresh (router : Router) (b : Behavior) (r : Request) :
    router.answerOn b r {} = router.answer b r := by
  have greeting : router.greetOn r.verb {} = router.greet r.verb := rfl
  rw [Router.answerOn, Router.finish, Router.called?, greeting, Router.answer]
  cases (router.decide (b.currentUser r) r).decision <;> rfl

/-- The reply leaves a header as it finds it. -/
def Keeps (reply : Reply) (name : String) : Prop :=
  ∀ r response, (reply r response).1.header? name = response.header? name

theorem header?_finish {router : Router} {b : Behavior} {r : Request} {name : String}
    (keeps : ∀ reply, router.called? b r = some reply → Keeps reply name) (started : Response) :
    (router.finish b r started).response.header? name = started.header? name := by
  unfold Router.finish
  cases called : router.called? b r with
  | some reply => exact keeps reply called _ started
  | none => rfl

theorem greetOn_eq (development : Bool) (slots : List Matcher) (verb : Verb) (response : Response) :
    (Router.mk t (Plan.build t development) slots).greetOn verb response =
      if development && verb.isRoutable then response.setHeader .allowOrigin "*" else response := by
  cases carried : verb.route? with
  | none =>
    have planless : (Router.mk t (Plan.build t development) slots).planFor? verb = none := by
      rw [Router.planFor?, carried]
      rfl
    rw [Router.greetOn, planless, Verb.isRoutable, carried]
    simp
  | some v =>
    obtain rfl := route?_eq_some carried
    have built : (planOf t development v).development = development := rfl
    rw [Router.greetOn, planFor?_toVerb, Verb.isRoutable, carried]
    simp [built]

theorem header?_allowOrigin (response : Response) :
    (response.setHeader .allowOrigin "*").header? Header.allowOrigin.spelling = some "*" := by
  rw [Response.setHeader, Response.header?_setRawHeader, sameName_self]
  rfl

/-- Before anything of the author's runs, the response of an endpoint built for development lets
scripts of any origin read it, if routes can be declared for the verb, and it is as it came in any
other case; an answer starts from a fresh response. In the end the header is the same, unless the
author's part that was called has set it. The code of a verb's method sets the header in front of
all else, in development, and nowhere else. -/
theorem origin_allowed_in_development (built : Table.build d = .ok t) (setting : Option String) :
    ∃ router, Router.build d setting = .ok router ∧ router.table = t ∧
      (∀ behavior r, router.answer behavior r = router.answerOn behavior r {}) ∧
      (∀ behavior r response,
        let allowed := d.options.isDevelopment setting && r.verb.isRoutable
        let started := if allowed then response.setHeader .allowOrigin "*" else response
        router.answerOn behavior r response = router.finish behavior r started ∧
        started.header? Header.allowOrigin.spelling =
          (if allowed then some "*" else response.header? Header.allowOrigin.spelling) ∧
        ((∀ reply, router.called? behavior r = some reply →
            Keeps reply Header.allowOrigin.spelling) →
          (router.answerOn behavior r response).response.header? Header.allowOrigin.spelling =
            started.header? Header.allowOrigin.spelling)) ∧
      ∀ (b : Block.Impl) (v : RouteVerb), ∃ rest,
        Code.methodBody? ("do_" ++ v.attributeName) (Code.routerCode b t router.plan) =
          some ((if d.options.isDevelopment setting then Code.originCode else []) ++ rest) ∧
        ¬ Code.Calls "set_header" rest := by
  obtain ⟨slots, placed, -⟩ := router_of_build built setting
  refine ⟨_, placed, rfl, ?_, ?_, ?_⟩
  · intro behavior r
    exact (answerOn_fresh _ behavior r).symm
  · intro behavior r response
    dsimp only
    generalize d.options.isDevelopment setting = development
    have greeted := greetOn_eq (t := t) development slots r.verb response
    refine ⟨?_, ?_, ?_⟩
    · rw [Router.answerOn, greeted]
    · split
      · exact header?_allowOrigin response
      · rfl
    · intro keeps
      rw [Router.answerOn, greeted]
      exact header?_finish keeps _
  · intro b v
    obtain ⟨rest, body, silent⟩ :=
      Code.not_calls_set_header (planOf t (d.options.isDevelopment setting) v)
    refine ⟨rest, ?_, silent⟩
    rw [Code.methodBody?_routerCode, body]
    rfl

/-- An answer to `OPTIONS` lacks the header that one to `GET` has. -/
theorem origin_allowed_in_development_halfOpen :
    ∃ router, Router.build halfOpenDefinition none = .ok router ∧ ∀ behavior : Behavior,
      (∀ h, Keeps (behavior.handle h) Header.allowOrigin.spelling) →
      (∀ v, Keeps (behavior.unhandled v) Header.allowOrigin.spelling) →
        (router.answer behavior ⟨.get, some "/mine", {}, {}, {}⟩).response.header?
          Header.allowOrigin.spelling = some "*" ∧
        (router.answer behavior ⟨.options, some "/mine", {}, {}, {}⟩).response.header?
          Header.allowOrigin.spelling = none := by
  have built : Table.build halfOpenDefinition = .ok ⟨"/api/tasks", [showRoute, mineRoute]⟩ := by
    decide +kernel
  obtain ⟨router, placed, -, fresh, answers, -⟩ := origin_allowed_in_development built none
  refine ⟨router, placed, fun behavior handlers hooks => ?_⟩
  have keeps : ∀ r reply, router.called? behavior r = some reply →
      Keeps reply Header.allowOrigin.spelling := by
    intro r reply called
    unfold Router.called? at called
    split at called
    · cases called
      exact handlers _
    · cases called
    · cases called
      exact hooks _
  have development : halfOpenDefinition.options.isDevelopment none = true := by decide
  obtain ⟨-, marked, final⟩ := answers behavior ⟨.get, some "/mine", {}, {}, {}⟩ {}
  obtain ⟨-, unmarked, plain⟩ := answers behavior ⟨.options, some "/mine", {}, {}, {}⟩ {}
  rw [fresh, fresh, final (keeps _), plain (keeps _), marked, unmarked, development]
  exact ⟨rfl, rfl⟩

end EndpointRouting.Route
