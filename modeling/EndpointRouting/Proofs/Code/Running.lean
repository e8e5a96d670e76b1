import EndpointRouting.Proofs.Code.Statements
import EndpointRouting.Proofs.Route.Needs

/-!
# Running the code of a router

The statements of a verb's method, carried out one after the other: they bind the user and the role
of the user, ask the matchers of the code, and leave with an answer. `answer_of_code` says that the
code answers as the router does.
-/

namespace EndpointRouting.Route
open Http

/-- What comes of a decision: the reply of the author's part that it calls for, or a refusal. -/
def Verdict.answer (v : Verdict) (b : Behavior) (verb : Verb) (started : Response) : Answer :=
  let (response, failure) := match v.decision with
    | .handle h => b.handle h v.request started
    | .forbid => (started.notAuthorized, none)
    | .unhandled => b.unhandled verb v.request started
  ⟨v.request, response, failure⟩

theorem Router.answer_eq (router : Router) (b : Behavior) (r : Request) :
    router.answer b r =
      (router.decide (b.currentUser r) r).answer b r.verb (router.greet r.verb) := rfl

end EndpointRouting.Route

namespace EndpointRouting.Code
open Http Route Token

/-! ### Carrying out statements -/

/-- What a running method has: its variables, the request and the response. -/
structure State where
  bound : List (String × Option String) := []
  request : Request
  response : Response := {}

/-- What becomes of a method: it goes on, or leaves with an answer. -/
inductive Flow where
  | goes (s : State)
  | left (a : Answer)

/-- The state after a function that may fail. -/
def Call.effect? (s : State) : Call → Option State
  | ⟨.function ["barman", "response", "set_header"], [.named "response",
      .constant ["barman", "registry", "Header", "ACCESS_CONTROL_ALLOW_ORIGIN"], .text value]⟩ =>
    some { s with response := s.response.setHeader .allowOrigin value }
  | _ => none

/-- The answer that a call leaves with. The type's own functions and the hooks of the endpoint are
the author's. -/
def Call.answer? (b : Behavior) (s : State) : Call → Option Answer
  | ⟨.function ["barman", "response", "not_authorized"],
      [.shared "request", .named "response"]⟩ =>
    some ⟨s.request, s.response.notAuthorized, none⟩
  | ⟨.own handler, [.named "self", .named "request", .named "response"]⟩ =>
    let (response, failure) := b.handle handler s.request s.response
    some ⟨s.request, response, failure⟩
  | ⟨.endpoint name, [.named "self", .named "request", .named "response"]⟩ =>
    (RouteVerb.all.find? ("unhandled_" ++ ·.attributeName == name)).map fun v =>
      let (response, failure) := b.unhandled v.toVerb s.request s.response
      ⟨s.request, response, failure⟩
  | _ => none

/-- The value of a variable that is bound. A user is known by the role. -/
def Binding.value? (b : Behavior) (s : State) : Binding → Option (Option String)
  | .result ⟨.endpoint "current_user", [.named "self", .shared "request"]⟩ =>
    some (b.currentUser s.request)
  | .mapped name ["barman", "router", "HasUserRole", "role"] => s.bound.lookup name
  | _ => none

/-- Whether a condition is met, and the request as it leaves it. -/
def Condition.holds? (slots : List Matcher) (s : State) : Condition → Option (Bool × Request)
  | .isNone name => (s.bound.lookup name).map fun value => (value.isNone, s.request)
  | .isSome name => (s.bound.lookup name).map fun value => (value.isSome, s.request)
  | .tested name test => (s.bound.lookup name).map fun value => (test.holds value, s.request)
  | .accepted m => (m.find? slots).map fun matcher =>
    match matcher.accept? s.request with
    | some matched => (true, matched)
    | none => (false, s.request)
  | .not c => (c.holds? slots s).map fun (met, request) => (!met, request)

section
variable (slots : List Matcher) (b : Behavior)

mutual

def Statement.run : Statement → State → Option Flow
  | .bind name value, s =>
    (value.value? b s).map fun v => .goes { s with bound := (name, v) :: s.bound }
  | .attempt c, s => (c.effect? s).map .goes
  | .log, s => some (.goes s)
  | .when c body, s =>
    (c.holds? slots s).bind fun (met, request) =>
      if met then runAll body { s with request } else some (.goes { s with request })
  | .leave c, s => (c.answer? b s).map .left

/-- Statements one after the other, until one leaves. -/
def runAll : List Statement → State → Option Flow
  | [], s => some (.goes s)
  | first :: rest, s =>
    (first.run s).bind fun
      | .goes s => runAll rest s
      | .left a => some (.left a)

end

/-- The answer of a method to a request. -/
def runMethod? (body : Trees) (r : Request) : Option Answer :=
  (readStatements? [] body).bind fun ss =>
    (runAll slots b ss { request := r }).bind fun
      | .left a => some a
      | .goes _ => none

end

/-- The matcher that an item of the static array is. -/
def readMatcher? (ts : Trees) : Option Matcher :=
  match readPath? ts.dropLast, (ts.getLast?.bind parenthesized?).map itemsOf with
  | some ["barman", "path", "Path", "fixed"], some [uri, pattern] => do
    return .fixed (← readText? uri) (← readText? pattern)
  | some ["barman", "path", "Path", "precompiled"],
      some [uri, pattern, expression, parameters] => do
    (Matcher.parameterized? (← readText? uri) (← readText? pattern) (← readText? expression)
      (← readTexts? parameters)).toOption
  | _, _ => none

/-- The matchers that the code declares. -/
def matchers? (code : Trees) : Option (List Matcher) :=
  match slotsDeclared? code with
  | some (_, items) => items.mapM readMatcher?
  | none => some []

/-- The answer of a router's code to a request with a verb that routes are declared for. -/
def answerOf? (code : Trees) (b : Behavior) (v : RouteVerb) (r : Request) : Option Answer := do
  runMethod? (← matchers? code) b (← methodBody? ("do_" ++ v.attributeName) code) r

/-! ### Guards -/

section
variable {slots : List Matcher} {b : Behavior} {s : State}

theorem runAll_append (xs ys : List Statement) (s : State) :
    runAll slots b (xs ++ ys) s = (runAll slots b xs s).bind fun
      | .goes s => runAll slots b ys s
      | .left a => some (.left a) := by
  induction xs generalizing s with
  | nil => simp [runAll]
  | cons x xs ih =>
    rw [List.cons_append, runAll, runAll, Option.bind_assoc]
    congr 1
    funext flow
    cases flow with
    | goes s => exact ih s
    | left a => rfl

def State.refused (s : State) : Answer := ⟨s.request, s.response.notAuthorized, none⟩

/-- Statements that refuse the request, or else leave all as it is. -/
def Checks (slots : List Matcher) (b : Behavior) (ss : List Statement) (s : State)
    (refuses : Bool) : Prop :=
  runAll slots b ss s = some (if refuses then .left s.refused else .goes s)

theorem Checks.nil : Checks slots b [] s false := rfl

theorem Checks.append {xs ys : List Statement} {p q : Bool} (first : Checks slots b xs s p)
    (second : Checks slots b ys s q) : Checks slots b (xs ++ ys) s (p || q) := by
  rw [Checks, runAll_append, first]
  cases p with
  | true => rfl
  | false => exact second

theorem Checks.ite {xs : List Statement} {p : Bool} (c : Bool)
    (checks : c = true → Checks slots b xs s p) :
    Checks slots b (if c then xs else []) s (c && p) := by
  cases c with
  | true => exact checks rfl
  | false => exact .nil

theorem checks_when {c : Condition} {met : Bool}
    (holds : c.holds? slots s = some (met, s.request)) : Checks slots b [.when c [refusal]] s met := by
  rw [Checks, runAll, Statement.run, holds]
  cases met <;> rfl

/-- The variables that checks ask for hold what is known of the user. -/
structure State.Knows (s : State) (user : Option String) (g : Guards) : Prop where
  bindsUser : g.isEmpty = false → s.bound.lookup "__barman_user" = some user
  bindsRole : g.needsRole = true → s.bound.lookup "__barman_role" = some user

theorem checks_guardStatements {g : Guards} {user : Option String} (knows : s.Knows user g) :
    Checks slots b (guardStatements g) s (!g.letsPass user) := by
  obtain ⟨loggedUser, anonymous, allowed, rejected⟩ := g
  -- the request is refused by the first check that fails, whichever it is
  have parts : (!Guards.letsPass ⟨loggedUser, anonymous, allowed, rejected⟩ user) =
      ((loggedUser && user.isNone || anonymous && user.isSome || allowed.any (!·.holds user)) ||
        rejected.any (·.holds user)) := by
    cases user <;> cases allowed <;> cases rejected <;> simp [Guards.letsPass]
  rw [parts]
  refine ((Checks.ite _ fun asks => ?_).append (Checks.ite _ fun asks => ?_)).append ?_ |>.append ?_
  · obtain rfl : loggedUser = true := asks
    apply checks_when
    rw [Condition.holds?, knows.bindsUser rfl]
    rfl
  · obtain rfl : anonymous = true := asks
    apply checks_when
    rw [Condition.holds?, knows.bindsUser (by simp [Guards.isEmpty])]
    rfl
  · cases allowed with
    | none => exact .nil
    | some test =>
      apply checks_when
      rw [Condition.holds?, Condition.holds?, knows.bindsRole rfl]
      rfl
  · cases rejected with
    | none => exact .nil
    | some test =>
      apply checks_when
      rw [Condition.holds?, knows.bindsRole (by simp [Guards.needsRole])]
      rfl

/-! ### Branches -/

/-- What a method does when no route has matched. -/
def fallbackStatements (v : RouteVerb) : List Statement :=
  [.log, .leave ⟨.endpoint ("unhandled_" ++ v.attributeName), exchanged⟩]

theorem runAll_fallback (v : RouteVerb) (s : State) :
    runAll slots b (fallbackStatements v) s =
      some (.left (Verdict.answer ⟨s.request, .unhandled⟩ b v.toVerb s.response)) := by
  cases v <;> rfl

/-- What a branch does once its matcher has accepted the request. -/
theorem runAll_matched {x : Branch} {user : Option String} (verb : Verb)
    (knows : s.Knows user x.guards) :
    runAll slots b (guardStatements x.guards ++ [.leave ⟨.own x.route.handler, exchanged⟩]) s =
      some (.left (Verdict.answer
        ⟨s.request, if x.guards.letsPass user then .handle x.route.handler else .forbid⟩
        b verb s.response)) := by
  have checked : Checks slots b (guardStatements x.guards) s _ := checks_guardStatements knows
  rw [runAll_append, checked]
  cases x.guards.letsPass user <;> rfl

/-- The branches of the code decide as those of the plan do. -/
theorem runAll_branches {user : Option String} (v : RouteVerb) {bs : List Branch}
    (found : ∀ x ∈ bs, (x.matcher.find? slots).isSome) (knows : ∀ x ∈ bs, s.Knows user x.guards) :
    runAll slots b (bs.map branchStatement ++ fallbackStatements v) s =
      some (.left ((decideBranches slots user bs s.request).answer b v.toVerb s.response)) := by
  induction bs with
  | nil => exact runAll_fallback v s
  | cons x bs ih =>
    have later := ih (fun y member => found y (List.mem_cons_of_mem _ member))
      fun y member => knows y (List.mem_cons_of_mem _ member)
    obtain ⟨matcher, slot⟩ := Option.isSome_iff_exists.mp (found x List.mem_cons_self)
    have known := knows x List.mem_cons_self
    rw [List.map_cons, List.cons_append, runAll, branchStatement, Statement.run, Condition.holds?,
      decideBranches, slot]
    cases accepted : matcher.accept? s.request with
    | none => simpa [accepted] using later
    | some matched =>
      -- only attributes are new, so what is known of the user stays known
      have kept : State.Knows { s with request := matched } user x.guards :=
        ⟨known.bindsUser, known.bindsRole⟩
      simp [accepted, runAll_matched v.toVerb kept]

/-! ### Methods -/

/-- The state in front of the checks: the response is greeted in development, and what the checks
ask for is bound. -/
def started (p : VerbPlan) (b : Behavior) (r : Request) : State where
  bound := (if p.needsRole then [("__barman_role", b.currentUser r)] else []) ++
    if p.needsUser then [("__barman_user", b.currentUser r)] else []
  request := r
  response := if p.development then ({} : Response).setHeader .allowOrigin "*" else {}

theorem knows_started {p : VerbPlan} {r : Request} {g : Guards}
    (user : g.isEmpty = false → p.needsUser = true)
    (role : g.needsRole = true → p.needsRole = true) : (started p b r).Knows (b.currentUser r) g := by
  constructor
  · intro asked
    have needed := user asked
    cases named : p.needsRole <;> simp [started, needed, named, List.lookup_cons]
  · intro asked
    simp [started, role asked]

theorem runAll_started (p : VerbPlan) (r : Request) :
    runAll slots b ((if p.development then [originStatement] else []) ++
      (if p.needsUser then [userStatement] else []) ++
      (if p.needsRole then [roleStatement] else [])) { request := r } =
        some (.goes (started p b r)) := by
  have implied := p.needsUser_of_needsRole
  unfold started
  cases p.development <;> cases user : p.needsUser <;> cases role : p.needsRole <;>
    first
      | rfl
      | simp [user, role] at implied

/-- The method of a verb decides as its plan does, and carries the decision out. -/
theorem runMethod?_verbBody {p : VerbPlan}
    (found : ∀ x ∈ p.branches, (x.matcher.find? slots).isSome) (r : Request) :
    runMethod? slots b (verbBody p) r =
      some ((p.decide slots (b.currentUser r) r).answer b p.verb.toVerb
        (started p b r).response) := by
  have knows_hoisted : (started p b r).Knows (b.currentUser r) p.hoisted :=
    knows_started (fun asks => by simp [VerbPlan.needsUser, asks])
      fun asks => by simp [VerbPlan.needsRole, asks]
  have knows_branch : ∀ x ∈ p.branches, (started p b r).Knows (b.currentUser r) x.guards := by
    intro x member
    refine knows_started (fun asks => ?_) fun asks => ?_
    · have asked : p.branches.any (!·.guards.isEmpty) = true :=
        List.any_eq_true.mpr ⟨x, member, by simp [asks]⟩
      simp [VerbPlan.needsUser, asked]
    · have asked : p.branches.any (·.guards.needsRole) = true :=
        List.any_eq_true.mpr ⟨x, member, asks⟩
      simp [VerbPlan.needsRole, asked]
  have checked : Checks slots b (guardStatements p.hoisted) (started p b r) _ :=
    checks_guardStatements knows_hoisted
  have parts : planStatements p = ((if p.development then [originStatement] else []) ++
      (if p.needsUser then [userStatement] else []) ++
      (if p.needsRole then [roleStatement] else [])) ++ (guardStatements p.hoisted ++
        (p.branches.map branchStatement ++ fallbackStatements p.verb)) := by
    simp only [planStatements, fallbackStatements, List.append_assoc]
  have run : runAll slots b (planStatements p) { request := r } =
      some (.left ((p.decide slots (b.currentUser r) r).answer b p.verb.toVerb
        (started p b r).response)) := by
    rw [parts, runAll_append, runAll_started, Option.bind_some]
    dsimp only
    rw [runAll_append, checked, VerbPlan.decide]
    cases p.hoisted.letsPass (b.currentUser r) with
    | false => rfl
    | true => exact runAll_branches p.verb found knows_branch
  rw [runMethod?, readStatements?_verbBody, Option.bind_some, run]
  rfl

end

/-! ### Matchers -/

theorem readMatcher?_matcherCode (r : Route) :
    readMatcher? (matcherCode r) = (Matcher.ofRoute r).toOption := by
  have text (s : String) : ∀ t ∈ [string s], isComma t = false := by simp [string, isComma]
  cases expressed : r.expression with
  | none =>
    have items : itemsOf (separate "," [[string r.path], [string r.pattern]]) =
        [[string r.path], [string r.pattern]] :=
      itemsOf_separate (by simp) (by simp [string, isComma])
    have code : matcherCode r = runtime ["path", "Path", "fixed"] ++
        [.group .parenthesis (separate "," [[string r.path], [string r.pattern]])] := by
      simp [matcherCode, expressed, call, parens]
    have named : readPath? (runtime ["path", "Path", "fixed"]) =
        some ["barman", "path", "Path", "fixed"] := rfl
    rw [readMatcher?, code, List.dropLast_concat, List.getLast?_concat, named, Option.bind_some,
      parenthesized?, Option.map_some, items, Matcher.ofRoute, expressed]
    rfl
  | some e =>
    let arguments := [[string r.path], [string r.pattern], [string e], strings r.parameters]
    have items : itemsOf (separate "," arguments) = arguments := by
      refine itemsOf_separate ?_ ?_
      · simp [arguments, strings, mark, joined]
      · simp [arguments, string, strings, mark, joined, brackets, isComma]
    have code : matcherCode r = runtime ["path", "Path", "precompiled"] ++
        [.group .parenthesis (separate "," arguments)] := by
      simp [matcherCode, expressed, call, parens, arguments]
    have named : readPath? (runtime ["path", "Path", "precompiled"]) =
        some ["barman", "path", "Path", "precompiled"] := rfl
    have parameters := readTexts?_strings r.parameters
    have read : readMatcher? (matcherCode r) = (readTexts? (strings r.parameters)).bind fun names =>
        (Matcher.parameterized? r.path r.pattern e names).toOption := by
      rw [readMatcher?, code, List.dropLast_concat, List.getLast?_concat, named, Option.bind_some,
        parenthesized?, Option.map_some, items]
      rfl
    rw [read, parameters, Option.bind_some, Matcher.ofRoute, expressed]

theorem mapM_readMatcher? {owners : List Route} {slots : List Matcher}
    (made : List.Forall₂ (fun o m => Matcher.ofRoute o = .ok m) owners slots) :
    (owners.map matcherCode).mapM readMatcher? = some slots := by
  induction made with
  | nil => rfl
  | cons first _ ih =>
    rw [List.map_cons, List.mapM_cons, readMatcher?_matcherCode, first, ih]
    rfl

/-- The code declares the matchers of the router. -/
theorem matchers?_routerCode (block : Block.Impl) {t : Table} {development : Bool}
    {slots : List Matcher}
    (made : List.Forall₂ (fun o m => Matcher.ofRoute o = .ok m) t.matchers slots) :
    matchers? (routerCode block t (Plan.build t development)) = some slots := by
  have owners : (Plan.build t development).owners = t.matchers := rfl
  rw [matchers?, slotsDeclared?_routerCode, owners]
  by_cases unowned : t.matchers = []
  · rw [if_pos unowned]
    rw [unowned] at made
    cases made
    rfl
  · rw [if_neg unowned]
    exact mapM_readMatcher? made

/-! ### Routers -/

/-- The code of an accepted definition, run on a request with a verb that routes are declared for,
gives the answer of the router: it greets the response, binds the user, checks and matches as the
plan says. -/
theorem answer_of_code {d : Definition} {t : Table} (built : Table.build d = .ok t)
    (setting : Option String) :
    ∃ router, Router.build d setting = .ok router ∧
      ∀ (block : Block.Impl) (b : Behavior) (v : RouteVerb) (r : Request), r.verb = v.toVerb →
        answerOf? (routerCode block router.table router.plan) b v r = some (router.answer b r) := by
  obtain ⟨slots, placed, made⟩ := router_of_build built setting
  refine ⟨_, placed, fun block b v r verb => ?_⟩
  dsimp only
  generalize d.options.isDevelopment setting = development at *
  have found : ∀ x ∈ (planOf t development v).branches, (x.matcher.find? slots).isSome := by
    intro x member
    obtain ⟨routed, matcher⟩ := mem_branches member
    rw [matcher]
    cases slot : MatcherRef.of x.route t.matchers with
    | index => rfl
    | slot n =>
      have inside : n < slots.length := made.length_eq ▸ slot_lt slot
      simp [MatcherRef.find?, inside]
  have decided := runMethod?_verbBody (b := b) found r
  have planned := planFor?_toVerb (t := t) development slots v
  have answered : runMethod? slots b (verbBody (planOf t development v)) r =
      some ((Router.mk t (Plan.build t development) slots).answer b r) := by
    rw [decided, Router.answer_eq, Router.decide, Router.greet, verb, planned]
    rfl
  rw [answerOf?, matchers?_routerCode block made, methodBody?_routerCode]
  exact answered

end EndpointRouting.Code
