import EndpointRouting.Proofs.Code.Methods
import EndpointRouting.Proofs.Code.Occurrences
import EndpointRouting.Proofs.Route.Needs

/-!
# What the method of a verb looks up

The method of a verb binds the user and the role of the user in front of the checks that need them.
`method_bodies_closed` says that it uses no name that it has not bound and no matcher that is not
there, and looks nothing up without need.
-/

namespace EndpointRouting.Code
open Http Route Token

/-! ### Names of the code of checks -/

def guardNames : List String :=
  ["if", "__barman_user", "is_none", "is_some", "return", "barman", "response", "not_authorized",
    "request", "core", "matches", "__barman_role", "option", "Option", "Some"]

theorem namesOf_literals (roles : List String) :
    namesOf (separate "|" (roles.map fun s => [string s])) = [] := by
  induction roles with
  | nil => rfl
  | cons role rest ih =>
    cases rest with
    | nil => rfl
    | cons second rest =>
      have split : separate "|" ((role :: second :: rest).map fun s => [string s]) =
          [string role] ++ (mark "|" ++ separate "|" ((second :: rest).map fun s => [string s])) :=
        List.append_assoc _ _ _
      rw [split, namesOf_append, namesOf_append, ih]
      rfl

theorem namesOf_testCode (test : RoleTest) : namesOf (testCode test) ⊆ guardNames := by
  cases test with
  | equals role =>
    have names : namesOf (testCode (.equals role)) =
        ["__barman_role", "core", "option", "Option", "Some"] := rfl
    rw [names]
    decide
  | oneOf roles =>
    have names : namesOf (testCode (.oneOf roles)) =
        ["core", "matches", "__barman_role", "core", "option", "Option", "Some"] := by
      have literals := namesOf_literals roles
      simp [testCode, namesOf, namesIn, call, separate, parens, literals, optionSome, option, path,
        mark, joined, word, roleName]
    rw [names]
    decide

theorem namesOf_guardsCode (g : Guards) : namesOf (guardsCode g) ⊆ guardNames := by
  have start : namesOf [word "if"] ⊆ guardNames := by decide
  have refused : namesOf rejection ⊆ guardNames := by decide
  unfold guardsCode
  refine namesOf_append_subset (namesOf_append_subset (namesOf_append_subset ?_ ?_) ?_) ?_
  · cases g.loggedUser <;> decide
  · cases g.anonymous <;> decide
  · cases g.allowed with
    | none => decide
    | some test =>
      have negated : namesOf ([word "if"] ++ mark "!") ⊆ guardNames := by decide
      have tested : namesOf (parens (testCode test)) ⊆ guardNames := by
        rw [parens, namesOf_group]
        exact namesOf_testCode test
      exact namesOf_append_subset (namesOf_append_subset negated tested) refused
  · cases g.rejected with
    | none => decide
    | some test =>
      exact namesOf_append_subset (namesOf_append_subset start (namesOf_testCode test)) refused

theorem guardsCode_of_isEmpty {g : Guards} (empty : g.isEmpty = true) : guardsCode g = [] := by
  obtain ⟨loggedUser, anonymous, allowed, rejected⟩ := g
  simp only [Guards.isEmpty, Bool.and_eq_true, Bool.not_eq_true', Option.isNone_iff_eq_none] at empty
  obtain ⟨⟨⟨rfl, rfl⟩, rfl⟩, rfl⟩ := empty
  rfl

theorem absent_role_guardsCode {g : Guards} (untested : g.needsRole = false)
    (except : List Trees) : Absent "__barman_role" except (guardsCode g) := by
  obtain ⟨loggedUser, anonymous, allowed, rejected⟩ := g
  simp only [Guards.needsRole, Bool.or_eq_false_iff, Option.isSome_eq_false_iff,
    Option.isNone_iff_eq_none] at untested
  obtain ⟨rfl, rfl⟩ := untested
  apply absent_of_names
  cases loggedUser <;> cases anonymous <;> decide

/-! ### Names of the code behind the bindings -/

/-- The names that a branch and the end of a method use, beside those of the checks, of the shared
matchers and of the handlers. -/
def routingNames : List String :=
  ["if", "matches", "request", "return", "Self", "self", "response", "barman", "path", "Path",
    "Index", "__private", "tracing", "debug", "verb", "path_info", "unwrap_or", "as", "router",
    "Endpoint", "unhandled_get", "unhandled_post", "unhandled_put", "unhandled_delete"]

/-- What stands in front of the lookups. -/
def preludeCode (p : VerbPlan) : Trees := if p.development then originCode else []

/-- The code of a verb's method that binds names. -/
def bindingsCode (p : VerbPlan) : Trees :=
  preludeCode p ++ (if p.needsUser then userCode else []) ++ (if p.needsRole then roleCode else [])

/-- What a method does when no route has matched. -/
def fallbackCode (v : RouteVerb) : Trees :=
  logCode v ++ (endpointMethod ("unhandled_" ++ v.attributeName) ++ exchange)

/-- The code of a verb's method behind the bindings. -/
def routingCode (p : VerbPlan) : Trees :=
  guardsCode p.hoisted ++ (p.branches.flatMap branchCode ++ fallbackCode p.verb)

theorem verbBody_eq (p : VerbPlan) : verbBody p = bindingsCode p ++ routingCode p := by
  simp only [verbBody, bindingsCode, preludeCode, routingCode, fallbackCode, List.append_assoc]

theorem namesOf_fallbackCode (v : RouteVerb) : namesOf (fallbackCode v) ⊆ routingNames := by
  cases v <;> decide

/-- The name of a handler does not count: an excepted phrase leads up to it. -/
def SkipsHandlers (except : List Trees) : Prop :=
  ∃ phrase ∈ except, phrase <:+ [word "return", selfType] ++ mark "::"

section
variable {name : String} {except : List Trees} {P : Tree → Trees → Prop}

theorem absent_of_subset {ts : Trees} {names : List String} (used : namesOf ts ⊆ names)
    (other : name ∉ names) : Absent name except ts :=
  absent_of_names fun member => other (used member)

theorem only_branchCode (grows : ∀ t later more, P t later → P t (later ++ more))
    (other : name ∉ routingNames)
    (skips : SkipsHandlers except) {b : Branch}
    (matcher : Only name except P (matcherRefCode b.matcher))
    (guards : Absent name except (guardsCode b.guards)) :
    Only name except P (branchCode b) := by
  have fixed : ∀ ts : Trees, namesOf ts ⊆ routingNames → Absent name except ts :=
    fun ts used => absent_of_subset used other
  obtain ⟨phrase, listed, leads⟩ := skips
  have handler : Absent name except
      ([word "return", selfType] ++ mark "::" ++ [.ident b.route.handler]) :=
    absent_behind (fixed _ (by decide)) listed leads b.route.handler
  have inside : Absent name except (guardsCode b.guards ++
      (([word "return", selfType] ++ mark "::" ++ [.ident b.route.handler]) ++
        (exchange ++ mark ";"))) :=
    absent_append guards (absent_append handler (fixed _ (by decide)))
  have parts : branchCode b = [word "if"] ++ (matcherRefCode b.matcher ++
      ((mark "." ++ [word "matches"] ++ parens [request]) ++
        [.group .brace (guardsCode b.guards ++
          (([word "return", selfType] ++ mark "::" ++ [.ident b.route.handler]) ++
            (exchange ++ mark ";")))])) := by
    simp only [branchCode, braces, List.append_assoc]
  rw [parts]
  have start : Absent name except [word "if"] := fixed _ (by decide)
  have called : Absent name except (mark "." ++ [word "matches"] ++ parens [request]) :=
    fixed _ (by decide)
  exact only_append grows start.only
    (only_append grows matcher (absent_append called (absent_group .brace inside)).only)

theorem only_routingCode (grows : ∀ t later more, P t later → P t (later ++ more))
    (other : name ∉ routingNames)
    (skips : SkipsHandlers except) {p : VerbPlan}
    (hoisted : Absent name except (guardsCode p.hoisted))
    (branches : ∀ b ∈ p.branches, Only name except P (matcherRefCode b.matcher) ∧
      Absent name except (guardsCode b.guards)) :
    Only name except P (routingCode p) := by
  have fallback : Absent name except (fallbackCode p.verb) :=
    absent_of_subset (namesOf_fallbackCode p.verb) other
  refine only_append grows hoisted.only (only_append grows ?_ fallback.only)
  exact only_flatMap grows fun b member =>
    only_branchCode grows other skips (branches b member).1 (branches b member).2

theorem absent_matcherRefCode (m : MatcherRef) (other : name ∉ routingNames)
    (notPaths : name ≠ "__BARMAN_PATHS") : Absent name except (matcherRefCode m) := by
  cases m with
  | index =>
    have used : namesOf (matcherRefCode .index) ⊆ routingNames := by decide
    exact absent_of_subset used other
  | slot n =>
    apply absent_of_names
    simpa [matcherRefCode, brackets, namesOf, namesIn, pathsName, word, size] using notPaths

theorem absent_routingCode (other : name ∉ routingNames) (notPaths : name ≠ "__BARMAN_PATHS")
    (skips : SkipsHandlers except) {p : VerbPlan}
    (hoisted : Absent name except (guardsCode p.hoisted))
    (branches : ∀ b ∈ p.branches, Absent name except (guardsCode b.guards)) :
    Absent name except (routingCode p) :=
  only_routingCode (fun _ _ _ => id) other skips hoisted fun b member =>
    ⟨absent_matcherRefCode b.matcher other notPaths, branches b member⟩

end

/-! ### Bindings -/

/-- What leads up to a name that is no use of a variable: it is part of a path or being bound. -/
def nonUses : List Trees := [mark "::", [word "let"]]

/-- What leads up to the name of a function of the type itself. -/
def ownCalls : List Trees := [[selfType] ++ mark "::"]

/-- A variable is used in a tree that has `before` in front of it. -/
def Mentions (name : String) : Trees → Tree → Prop := Occurs name nonUses

/-- A `let` statement has bound the variable. -/
def Binds (name : String) (before : Trees) : Prop :=
  ∃ earlier value later,
    before = earlier ++ word "let" :: word name :: (value ++ .punct ';' false :: later)

/-- A function is named in the code, other than as one of the type itself. -/
def Calls (name : String) (code : Trees) : Prop := ¬ Absent name ownCalls code

theorem Binds.append {name : String} {a : Trees} (binds : Binds name a) (b : Trees) :
    Binds name (a ++ b) := by
  obtain ⟨earlier, value, later, rfl⟩ := binds
  exact ⟨earlier, value, later ++ b, by simp⟩

/-- The uses stand behind the code that does without the variable. -/
theorem behind {name : String} {except : List Trees} {a b : Trees} (unused : Absent name except a)
    {before later : Trees} {t : Tree} (split : a ++ b = before ++ t :: later)
    (occurs : Occurs name except before t) : ∃ mid, before = a ++ mid := by
  rcases split_append split with ⟨mid, inner, -⟩ | ⟨mid, same, -⟩
  · exact (unused before t mid inner occurs).elim
  · exact ⟨mid, same⟩

theorem occurs_path (name : String) (before : Trees) {t : Tree} (other : t ≠ selfType) :
    Occurs name ownCalls (before ++ t :: mark "::") (word name) := by
  refine .here rfl fun phrase listed leads => ?_
  obtain ⟨front, same⟩ := List.mem_singleton.mp listed ▸ leads
  have ends : [selfType] ++ mark "::" = t :: mark "::" := (List.append_inj' same rfl).2
  exact other (List.cons.inj ends).1.symm

section
variable {p : VerbPlan} {name : String} {except : List Trees}

theorem absent_preludeCode (p : VerbPlan) (other : name ∉ namesOf originCode) :
    Absent name except (preludeCode p) :=
  absent_if p.development (absent_of_names other)

theorem binds_user (p : VerbPlan) : Binds "__barman_user" (preludeCode p ++ userCode) :=
  ⟨preludeCode p, mark "=" ++ endpointMethod "current_user" ++ call [[self], mark "&*" ++ [request]],
    [], rfl⟩

theorem binds_role (p : VerbPlan) : Binds "__barman_role" (preludeCode p ++ userCode ++ roleCode) :=
  ⟨preludeCode p ++ userCode, mark ":" ++ option ++ mark "<" ++ mark "&" ++ [word "str"] ++
    mark ">" ++ mark "=" ++ onUser "as_ref" ++ mark "." ++ [word "map"] ++
    parens (runtime ["router", "HasUserRole", "role"]), [], rfl⟩

/-! ### The parts of a body -/

theorem verbBody_of_needsUser (needed : p.needsUser = true) :
    verbBody p = preludeCode p ++ userCode ++
      ((if p.needsRole then roleCode else []) ++ routingCode p) := by
  rw [verbBody_eq, bindingsCode, if_pos needed, List.append_assoc]

theorem verbBody_of_needsRole (needed : p.needsRole = true) :
    verbBody p = preludeCode p ++ userCode ++ roleCode ++ routingCode p := by
  rw [verbBody_eq, bindingsCode, if_pos needed, if_pos (p.needsUser_of_needsRole needed)]

theorem verbBody_of_not_needsUser (unneeded : p.needsUser = false) :
    verbBody p = preludeCode p ++ routingCode p := by
  have roleless : p.needsRole = false := by
    rw [← Bool.not_eq_true]
    intro needed
    rw [p.needsUser_of_needsRole needed] at unneeded
    cases unneeded
  rw [verbBody_eq, bindingsCode, unneeded, roleless]
  simp

theorem absent_routingCode_of_not_needsUser (unneeded : p.needsUser = false)
    (other : name ∉ routingNames) (notPaths : name ≠ "__BARMAN_PATHS")
    (skips : SkipsHandlers except) :
    Absent name except (routingCode p) := by
  obtain ⟨hoisted, branches⟩ := Bool.or_eq_false_iff.mp unneeded
  rw [Bool.not_eq_false'] at hoisted
  refine absent_routingCode other notPaths skips ?_ fun b member => ?_
  · rw [guardsCode_of_isEmpty hoisted]
    exact absent_nil
  · have empty : b.guards.isEmpty = true := by
      simpa using List.any_eq_false.mp branches b member
    rw [guardsCode_of_isEmpty empty]
    exact absent_nil

theorem absent_role_routingCode (unneeded : p.needsRole = false)
    (skips : SkipsHandlers except) :
    Absent "__barman_role" except (routingCode p) := by
  obtain ⟨hoisted, branches⟩ := Bool.or_eq_false_iff.mp unneeded
  refine absent_routingCode (by decide) (by decide) skips (absent_role_guardsCode hoisted except)
    fun b member => absent_role_guardsCode ?_ except
  exact Bool.eq_false_iff.mpr (List.any_eq_false.mp branches b member)

/-- A name that no part of the code but the lookups uses. -/
theorem absent_routingCode_of_guardNames (other : name ∉ routingNames) (unchecked : name ∉ guardNames)
    (notPaths : name ≠ "__BARMAN_PATHS")
    (skips : SkipsHandlers except) :
    Absent name except (routingCode p) :=
  absent_routingCode other notPaths skips
    (absent_of_subset (namesOf_guardsCode p.hoisted) unchecked)
    fun b _ => absent_of_subset (namesOf_guardsCode b.guards) unchecked

end

/-! ### Uses behind their bindings -/

section
variable {p : VerbPlan} {before later : Trees} {t : Tree}

theorem nonUses_skip : SkipsHandlers nonUses :=
  ⟨mark "::", List.mem_cons_self, List.suffix_append _ _⟩

theorem ownCalls_skip : SkipsHandlers ownCalls :=
  ⟨[selfType] ++ mark "::", List.mem_cons_self, List.suffix_append [word "return"] _⟩

/-- What a `let` statement binds is not used in front of its value. -/
theorem absent_letCode {name : String} (other : name ≠ "let") (i : Identifier) {value : Trees}
    (unused : Absent name nonUses value) :
    Absent name nonUses ([word "let", .ident i] ++ value) := by
  have keyword : Absent name nonUses [word "let"] :=
    absent_of_names (by simpa [namesOf, namesIn, word] using other)
  have bound : Absent name nonUses ([word "let"] ++ [.ident i]) :=
    absent_behind keyword (List.mem_cons_of_mem _ List.mem_cons_self) (List.suffix_refl _) i
  exact absent_append bound unused

theorem absent_userCode : Absent "__barman_user" nonUses userCode := by
  have value : Absent "__barman_user" nonUses
      (mark "=" ++ endpointMethod "current_user" ++ call [[self], mark "&*" ++ [request]] ++
        mark ";") := absent_of_names (by decide)
  exact absent_letCode (by decide) _ value

theorem absent_roleCode : Absent "__barman_role" nonUses roleCode := by
  have value : Absent "__barman_role" nonUses
      (mark ":" ++ option ++ mark "<" ++ mark "&" ++ [word "str"] ++ mark ">" ++ mark "=" ++
        onUser "as_ref" ++ mark "." ++ [word "map"] ++
        parens (runtime ["router", "HasUserRole", "role"]) ++ mark ";") :=
    absent_of_names (by decide)
  exact absent_letCode (by decide) _ value

theorem user_bound (split : verbBody p = before ++ t :: later)
    (mentions : Mentions "__barman_user" before t) : Binds "__barman_user" before := by
  have prelude : Absent "__barman_user" nonUses (preludeCode p) :=
    absent_preludeCode p (by decide)
  cases needed : p.needsUser with
  | true =>
    rw [verbBody_of_needsUser needed] at split
    obtain ⟨mid, rfl⟩ := behind (absent_append prelude absent_userCode) split mentions
    exact (binds_user p).append mid
  | false =>
    rw [verbBody_of_not_needsUser needed] at split
    have routing : Absent "__barman_user" nonUses (routingCode p) :=
      absent_routingCode_of_not_needsUser needed (by decide) (by decide) nonUses_skip
    exact (absent_append prelude routing before t later split mentions).elim

theorem role_bound (split : verbBody p = before ++ t :: later)
    (mentions : Mentions "__barman_role" before t) :
    Binds "__barman_role" before ∧ Binds "__barman_user" before := by
  have prelude : Absent "__barman_role" nonUses (preludeCode p) :=
    absent_preludeCode p (by decide)
  have user : Absent "__barman_role" nonUses userCode :=
    absent_of_names (by decide)
  cases needed : p.needsRole with
  | true =>
    rw [verbBody_of_needsRole needed] at split
    obtain ⟨mid, rfl⟩ :=
      behind (absent_append (absent_append prelude user) absent_roleCode) split mentions
    have bound := (binds_user p).append (roleCode ++ mid)
    rw [← List.append_assoc] at bound
    exact ⟨(binds_role p).append mid, bound⟩
  | false =>
    have routing : Absent "__barman_role" nonUses (routingCode p) :=
      absent_role_routingCode needed nonUses_skip
    have lookup : Absent "__barman_role" nonUses
        (if p.needsUser then userCode else []) := absent_if _ user
    rw [verbBody_eq, bindingsCode, needed] at split
    exact (absent_append (absent_append (absent_append prelude lookup) absent_nil) routing
      before t later split mentions).elim

/-- The array is used for an item that it has. -/
def TakesSlot (count : Nat) (t : Tree) (later : Trees) : Prop :=
  t = pathsName ∧ ∃ k rest, later = .group .bracket [size k] :: rest ∧ k < count

theorem takesSlot_grows (count : Nat) (t : Tree) (later more : Trees)
    (takes : TakesSlot count t later) : TakesSlot count t (later ++ more) := by
  obtain ⟨same, k, rest, rfl, inside⟩ := takes
  exact ⟨same, k, rest ++ more, rfl, inside⟩

theorem only_matcherRefCode {m : MatcherRef} {count : Nat} (inside : ∀ k, m = .slot k → k < count) :
    Only "__BARMAN_PATHS" nonUses (TakesSlot count) (matcherRefCode m) := by
  cases m with
  | index =>
    have absent : Absent "__BARMAN_PATHS" nonUses (matcherRefCode .index) :=
      absent_of_names (by decide)
    exact absent.only
  | slot k =>
    intro before t later split occurs
    rcases split_append (a := [pathsName]) split with ⟨mid, inner, rfl⟩ | ⟨mid, rfl, inner⟩
    · obtain ⟨rfl, rfl, rfl⟩ := split_singleton inner
      exact ⟨rfl, k, [], rfl, inside k rfl⟩
    · have number : Absent "__BARMAN_PATHS" nonUses (brackets [size k]) :=
        absent_of_names (by simp [brackets, namesOf, namesIn, size])
      exact (number mid t later inner occurs.of_append).elim

theorem slots_in_range {table : Table} {development : Bool} {v : RouteVerb}
    (split : verbBody (planOf table development v) = before ++ t :: later)
    (mentions : Mentions "__BARMAN_PATHS" before t) :
    TakesSlot table.matchers.length t later := by
  have lookups : Absent "__BARMAN_PATHS" nonUses
      (bindingsCode (planOf table development v)) := by
    unfold bindingsCode
    refine absent_append (absent_append (absent_preludeCode _ (by decide)) ?_) ?_
    · exact absent_if _ (absent_of_names (by decide))
    · exact absent_if _ (absent_of_names (by decide))
  have grows := takesSlot_grows table.matchers.length
  have routing : Only "__BARMAN_PATHS" nonUses
      (TakesSlot table.matchers.length) (routingCode (planOf table development v)) := by
    refine only_routingCode grows (by decide) nonUses_skip
      (absent_of_subset (namesOf_guardsCode _) (by decide)) fun b member => ⟨?_, ?_⟩
    · obtain ⟨-, matcher⟩ := mem_branches member
      exact only_matcherRefCode fun k slot => slot_lt (matcher ▸ slot)
    · exact absent_of_subset (namesOf_guardsCode _) (by decide)
  rw [verbBody_eq] at split
  exact only_append grows lookups.only routing before t later split mentions

end

/-! ### Lookups -/

theorem calls_userCode (a c : Trees) : Calls "current_user" (a ++ userCode ++ c) := by
  obtain ⟨front, rest, code⟩ : ∃ front rest, userCode =
      (front ++ .punct '>' false :: mark "::") ++ word "current_user" :: rest :=
    ⟨[word "let", userName] ++ mark "=" ++ mark "<" ++ [selfType, word "as"] ++
      runtime ["router", "Endpoint"], call [[self], mark "&*" ++ [request]] ++ mark ";", rfl⟩
  have other : Tree.punct '>' false ≠ selfType := by simp [selfType, word]
  have place : Occurs "current_user" ownCalls ((a ++ front) ++ .punct '>' false :: mark "::")
      (word "current_user") := occurs_path _ _ other
  intro absent
  refine absent _ _ (rest ++ c) ?_ place
  rw [code]
  simp only [List.append_assoc, List.cons_append]

theorem calls_roleCode (a c : Trees) : Calls "role" (a ++ roleCode ++ c) := by
  obtain ⟨front, inner, code⟩ : ∃ front inner, roleCode = front ++
      .group .parenthesis ((inner ++ word "HasUserRole" :: mark "::") ++ [word "role"]) ::
        mark ";" :=
    ⟨[word "let", roleName] ++ mark ":" ++ option ++ mark "<" ++ mark "&" ++ [word "str"] ++
      mark ">" ++ mark "=" ++ onUser "as_ref" ++ mark "." ++ [word "map"],
      runtime ["router"] ++ mark "::", rfl⟩
  have other : word "HasUserRole" ≠ selfType := by simp [word, selfType]
  have place : Occurs "role" ownCalls (a ++ front)
      (.group .parenthesis ((inner ++ word "HasUserRole" :: mark "::") ++ [word "role"])) :=
    .within (occurs_path "role" inner other)
  intro absent
  refine absent _ _ (mark ";" ++ c) ?_ place
  rw [code]
  simp only [List.append_assoc, List.cons_append]

theorem calls_current_user_iff (p : VerbPlan) :
    Calls "current_user" (verbBody p) ↔ p.needsUser = true := by
  constructor
  · intro calls
    by_contra unneeded
    rw [Bool.not_eq_true] at unneeded
    apply calls
    rw [verbBody_of_not_needsUser unneeded]
    exact absent_append (absent_preludeCode p (by decide))
      (absent_routingCode_of_guardNames (by decide) (by decide) (by decide) ownCalls_skip)
  · intro needed
    rw [verbBody_of_needsUser needed]
    exact calls_userCode _ _

theorem calls_role_iff (p : VerbPlan) : Calls "role" (verbBody p) ↔ p.needsRole = true := by
  constructor
  · intro calls
    by_contra unneeded
    rw [Bool.not_eq_true] at unneeded
    have lookup : Absent "role" ownCalls
        (if p.needsUser then userCode else []) := absent_if _ (absent_of_names (by decide))
    apply calls
    rw [verbBody_eq, bindingsCode, unneeded]
    exact absent_append (absent_append (absent_append (absent_preludeCode p (by decide)) lookup)
      absent_nil) (absent_routingCode_of_guardNames (by decide) (by decide) (by decide)
        ownCalls_skip)
  · intro needed
    rw [verbBody_of_needsRole needed]
    exact calls_roleCode _ _

/-! ### The methods of a router -/

/-- The method of a verb, on an accepted definition: the user and the role are used only behind
their bindings, and that of the role has that of the user in front of it; a matcher is taken only
from the array that the code declares, below its size; the user is looked up just if some route of
the verb lists roles, and the role just if some list names one. -/
theorem method_bodies_closed {d : Definition} {t : Table} (built : Table.build d = .ok t)
    (b : Block.Impl) (development : Bool) (v : RouteVerb) :
    let code := routerCode b t (Plan.build t development)
    ∃ body, methodBody? ("do_" ++ v.attributeName) code = some body ∧
      (∀ before x later, body = before ++ x :: later →
        (Mentions "__barman_user" before x → Binds "__barman_user" before) ∧
        (Mentions "__barman_role" before x →
          Binds "__barman_role" before ∧ Binds "__barman_user" before) ∧
        (Mentions "__BARMAN_PATHS" before x →
          ∃ items, slotsDeclared? code = some (size items.length, items) ∧
            TakesSlot items.length x later)) ∧
      (Calls "current_user" body ↔
        ∃ r ∈ t.routesFor v, r.authorization.allowed ≠ [] ∨ r.authorization.rejected ≠ []) ∧
      (Calls "role" body ↔
        ∃ r ∈ t.routesFor v, ∃ roles ∈ [r.authorization.allowed, r.authorization.rejected],
          roles ≠ [] ∧ roles ≠ [anyRole]) := by
  refine ⟨_, methodBody?_routerCode b t development v, fun before x later split => ⟨?_, ?_, ?_⟩,
    ?_, ?_⟩
  · exact user_bound split
  · exact role_bound split
  · intro mentions
    obtain ⟨-, k, -, -, inside⟩ := slots_in_range split mentions
    have owners : (Plan.build t development).owners = t.matchers := rfl
    have some_owner : t.matchers ≠ [] := by
      intro none
      rw [none] at inside
      exact absurd inside (Nat.not_lt_zero k)
    refine ⟨t.matchers.map matcherCode, ?_, ?_⟩
    · rw [slotsDeclared?_routerCode, owners, if_neg some_owner, List.length_map]
    · rw [List.length_map]
      exact slots_in_range split mentions
  · rw [calls_current_user_iff, needsUser_iff built]
  · rw [calls_role_iff, needsRole_iff]

/-- One of two routes names a role, so its method looks up the user and the role. -/
theorem method_bodies_closed_halfOpen :
    ∃ body, methodBody? "do_get" (routerCode halfOpen ⟨"/api/tasks", [showRoute, mineRoute]⟩
        (Plan.build ⟨"/api/tasks", [showRoute, mineRoute]⟩ true)) = some body ∧
      Calls "current_user" body ∧ Calls "role" body := by
  have built : Table.build halfOpenDefinition = .ok ⟨"/api/tasks", [showRoute, mineRoute]⟩ := by
    decide +kernel
  obtain ⟨body, found, -, user, role⟩ := method_bodies_closed built halfOpen true .get
  have routed : showRoute ∈ Table.routesFor ⟨"/api/tasks", [showRoute, mineRoute]⟩ .get := by
    decide +kernel
  have named : showRoute.authorization.allowed ≠ [] ∧
      showRoute.authorization.allowed ≠ [anyRole] := by decide
  exact ⟨body, found, user.mpr ⟨showRoute, routed, .inl named.1⟩,
    role.mpr ⟨showRoute, routed, _, List.mem_cons_self, named⟩⟩

end EndpointRouting.Code
