import EndpointRouting.Proofs.Code.Reading
import EndpointRouting.Proofs.Route.Dispatch

/-!
# Reading the methods and the matchers in a router's code

A method is found by its name, and the shared matchers by the static that lists them.
`methodBody?_routerCode` and `slotsDeclared?_routerCode` say what a reader finds.
-/

namespace EndpointRouting.Code
open Http Route Token

def spelling? : Tree → Option String
  | .ident i => some i.spelling
  | _ => none

/-- The trees of the first block behind the name of a function. -/
def functionBody? (name : String) : Trees → Option Trees
  | [] => none
  | t :: rest =>
    if spelling? t = some "fn" ∧ rest.head?.bind spelling? = some name then rest.findSome? braced?
    else functionBody? name rest

/-- The body of a method in a router's code. -/
def methodBody? (name : String) (code : Trees) : Option Trees :=
  (membersOf? code).bind (functionBody? name)

def bracketed? : Tree → Option Trees
  | .group .bracket ts => some ts
  | _ => none

/-- The items of the array that a closure without arguments gives. -/
def closureItems? : Tree → Option (List Trees)
  | .group .parenthesis [.punct '|' true, .punct '|' false, .group .bracket items] =>
    some (itemsOf items)
  | _ => none

/-- The size and the items of the static array of matchers, if the code starts with one. -/
def slotsDeclared? (code : Trees) : Option (Tree × List Trees) := do
  match ← code.findSome? braced? with
  | .ident s :: .ident n :: rest =>
    if s.spelling = "static" ∧ n.spelling = "__BARMAN_PATHS" then
      return (← (← rest.findSome? bracketed?).getLast?, ← rest.findSome? closureItems?)
    else none
  | _ => none

/-! ### Methods -/

/-- Code without a function is passed over. -/
theorem functionBody?_append {name : String} {a : Trees} (plain : ∀ t ∈ a, spelling? t ≠ some "fn")
    (b : Trees) : functionBody? name (a ++ b) = functionBody? name b := by
  induction a with
  | nil => rfl
  | cons t rest ih =>
    have other := plain t List.mem_cons_self
    rw [List.cons_append, functionBody?, if_neg fun both => other both.1]
    exact ih fun u member => plain u (List.mem_cons_of_mem _ member)

theorem plain_constCode {name : String} {type value : Trees} (named : name ≠ "fn")
    (plainType : ∀ t ∈ type, spelling? t ≠ some "fn")
    (plainValue : ∀ t ∈ value, spelling? t ≠ some "fn") :
    ∀ t ∈ constCode name type value, spelling? t ≠ some "fn" := by
  intro t member
  rw [constCode_eq, constHead] at member
  simp only [List.cons_append, List.mem_cons, List.mem_append, List.append_assoc,
    List.not_mem_nil, or_false] at member
  rcases member with rfl | rfl | rfl | token | rfl | token | rfl
  · decide
  · simpa [spelling?, word, Identifier.spelling] using named
  · decide
  · exact plainType t token
  · decide
  · exact plainValue t token
  · decide

/-- What stands between the name of a method and its body. -/
def methodHead : Trees :=
  call [mark "&" ++ [self], dynParameter request "Request", dynParameter response "Response"] ++
    mark "->" ++ runtime ["Result"] ++ mark "<" ++ parens [] ++ mark ">"

theorem verbMethod_eq (p : VerbPlan) :
    verbMethod p = word "fn" :: word ("do_" ++ p.verb.attributeName) ::
      (methodHead ++ [.group .brace (verbBody p)]) := by
  simp [verbMethod, methodHead, braces]

theorem functionBody?_verbMethod (name : String) (p : VerbPlan) (rest : Trees) :
    functionBody? name (verbMethod p ++ rest) =
      if "do_" ++ p.verb.attributeName = name then some (verbBody p)
      else functionBody? name rest := by
  rw [verbMethod_eq, List.cons_append, functionBody?]
  by_cases named : "do_" ++ p.verb.attributeName = name
  · subst named
    rw [if_pos ⟨rfl, rfl⟩, if_pos rfl]
    rfl
  · have plain : ∀ t ∈ methodHead ++ [.group .brace (verbBody p)], spelling? t ≠ some "fn" := by
      have head : ∀ t ∈ methodHead, spelling? t ≠ some "fn" := by decide
      intro t member
      rcases List.mem_append.mp member with early | body
      · exact head t early
      · rw [List.mem_singleton.mp body]
        simp [spelling?]
    have own : spelling? (word ("do_" ++ p.verb.attributeName)) ≠ some "fn" := by
      cases p.verb <;> decide
    rw [if_neg fun both => named (Option.some.inj both.2), if_neg named, List.cons_append,
      functionBody?, if_neg fun both => own both.1]
    exact functionBody?_append plain rest

theorem functionBody?_verbMethods (v : RouteVerb) (ps : List VerbPlan) :
    functionBody? ("do_" ++ v.attributeName) (ps.flatMap verbMethod) =
      (ps.find? (·.verb == v)).map verbBody := by
  induction ps with
  | nil => rfl
  | cons p ps ih =>
    have names : "do_" ++ p.verb.attributeName = "do_" ++ v.attributeName ↔ p.verb = v := by
      cases p.verb <;> cases v <;> decide
    rw [List.flatMap_cons, functionBody?_verbMethod, ih, List.find?_cons]
    simp only [names]
    by_cases same : p.verb = v
    · simp [same]
    · rw [if_neg same, beq_false_of_ne same]

theorem methodBody?_routerCode (b : Block.Impl) (t : Table) (development : Bool) (v : RouteVerb) :
    methodBody? ("do_" ++ v.attributeName) (routerCode b t (Plan.build t development)) =
      some (verbBody (planOf t development v)) := by
  have mapping : ∀ x ∈ constCode "MAPPING" (staticRef [word "str"]) [string t.mapping],
      spelling? x ≠ some "fn" :=
    plain_constCode (by decide) (by decide) (by simp [string, spelling?])
  have routes : ∀ x ∈ constCode "ROUTES" (staticRef (brackets (runtime ["router", "RouteInfo"])))
      (mark "&" ++ brackets (separate "," (t.routes.map infoCode))), spelling? x ≠ some "fn" :=
    plain_constCode (by decide) (by decide) (by simp [mark, joined, brackets, spelling?])
  have planned : (Plan.build t development).verbs.find? (·.verb == v) =
      some (planOf t development v) := by
    cases v <;> rfl
  rw [methodBody?, membersOf?_routerCode, Option.bind_some, routerMembers, List.append_assoc,
    functionBody?_append mapping, functionBody?_append routes, functionBody?_verbMethods, planned]
  rfl

/-! ### Matchers -/

theorem matcherCode_eq (r : Route) :
    ∃ names arguments, matcherCode r = path names ++ [.group .parenthesis arguments] := by
  unfold matcherCode
  cases r.expression with
  | none => exact ⟨_, _, rfl⟩
  | some e => exact ⟨_, _, rfl⟩

theorem itemsOf_matchers (owners : List Route) :
    itemsOf (separate "," (owners.map matcherCode)) = owners.map matcherCode := by
  apply itemsOf_separate
  · intro item member
    obtain ⟨r, -, rfl⟩ := List.mem_map.mp member
    obtain ⟨names, arguments, same⟩ := matcherCode_eq r
    simp [same]
  · intro item member token present
    obtain ⟨r, -, rfl⟩ := List.mem_map.mp member
    obtain ⟨names, arguments, same⟩ := matcherCode_eq r
    rw [same] at present
    rcases List.mem_append.mp present with named | group
    · exact plain_path _ token named
    · rw [List.mem_singleton.mp group]
      rfl

/-- There is an array just if some route owns a slot, and its items are the matchers of the owners. -/
theorem slotsDeclared?_routerCode (b : Block.Impl) (t : Table) (p : Plan) :
    slotsDeclared? (routerCode b t p) =
      if p.owners = [] then none
      else some (size p.owners.length, p.owners.map matcherCode) := by
  obtain ⟨rest, block⟩ : ∃ rest, (routerCode b t p).findSome? braced? =
      some (pathsCode p.owners ++ (mark "#" ++ rest)) := by
    have value : (routerCode b t p).findSome? braced? = some (pathsCode p.owners ++ mark "#" ++
      brackets [word "automatically_derived"] ++ [word "impl"] ++
      Grammar.introduceParameters b.parameters ++ runtime ["router", "Router"] ++ [word "for"] ++
      b.type ++ b.bounds ++ braces (routerMembers t p)) := rfl
    rw [value]
    simp only [List.append_assoc]
    exact ⟨_, rfl⟩
  rw [slotsDeclared?, block]
  by_cases unowned : p.owners = []
  · rw [if_pos unowned, unowned]
    rfl
  · have owned : p.owners.isEmpty = false := by simpa using unowned
    conv_rhs => rw [if_neg unowned, ← itemsOf_matchers]
    rw [pathsCode, owned]
    rfl

end EndpointRouting.Code
