import EndpointRouting.Proofs.Route.Dispatch
import EndpointRouting.Proofs.Route.Parameters
import EndpointRouting.Proofs.Route.RoundTrip
import EndpointRouting.Proofs.Template.Contained
import EndpointRouting.Proofs.Template.Scanning

/-!
# Requests that a route accepts

A route whose template is contained accepts a path only if the path is the template with values put
in for the variables, and it writes just these values. The endpoint itself is the exception: its two
spellings stand for each other, and for no path at all.
-/

namespace EndpointRouting
namespace Template

theorem filled_of_no_vars (values : String → String) {cs : List Char} (fixed : vars cs = []) :
    filled values (pieces cs) = cs := by
  unfold vars at fixed
  fun_induction pieces cs with
  | case1 => rfl
  | case2 rest v r read _ ih => cases fixed
  | case3 rest _ ih =>
    change '\x7b' :: filled values (pieces rest) = _
    rw [ih fixed]
  | case4 c rest _ ih =>
    change c :: filled values (pieces rest) = _
    rw [ih fixed]

theorem vars_of_isRoot {text : String} (root : isRoot text = true) : vars text.toList = [] := by
  have spelled : text = "" ∨ text = "/" := by simpa [isRoot] using root
  rcases spelled with rfl | rfl <;> decide +kernel

end Template

namespace Route
open Http Template

variable {d : Definition} {t : Table} {r : Route} {q matched : Request}

theorem parameters_of_mem (built : Table.build d = .ok t) (member : r ∈ t.routes) :
    r.parameters = (vars r.pattern.toList).map fun v => String.ofList v.name := by
  obtain ⟨-, parameters, -⟩ := template_of_mem built member
  rw [parameters]
  rfl

theorem accept?_index (index : r.isIndex = true) (hit : r.accept? q = some matched) :
    q.isRoot = true ∧ matched = q := by
  unfold accept? at hit
  rw [if_pos index] at hit
  unfold Matcher.accept? at hit
  dsimp only at hit
  split at hit
  · rename_i root
    cases hit
    exact ⟨root, rfl⟩
  · cases hit

theorem accept?_captures {uri pattern : String} {regex : Regex} {parameters : List String}
    (hit : (Matcher.parameterized uri pattern regex parameters).accept? q = some matched) :
    ∃ path found, q.path = some path ∧ regex.search? path.toList = some found ∧
      matched = Matcher.writeAttributes q (parameters.filterMap fun name =>
        (regex.captured? found name.toList).map fun value => (name, String.ofList value)) := by
  simp only [Matcher.accept?] at hit
  split at hit
  · cases hit
  · obtain ⟨path, here, hit⟩ := Option.bind_eq_some_iff.mp hit
    obtain ⟨values, captured, rfl⟩ := Option.map_eq_some_iff.mp hit
    obtain ⟨found, search, rfl⟩ := Option.map_eq_some_iff.mp captured
    exact ⟨path, found, here, search, rfl⟩

/-- What the groups of a contained template captured is written under the names of its variables. -/
theorem values_of_captures {cs : List Char} (contained : Contained (pieces cs)) {re : Regex}
    (compiled : Regex.compile (Regex.anchor ((pieces cs).flatMap Piece.expression)) = .ok re)
    {uri pattern : String}
    (hit : (Matcher.parameterized uri pattern re
      ((vars cs).map fun v => String.ofList v.name)).accept? q = some matched) :
    (∃ path, q.path = some path ∧ path.toList =
      filled (fun name => (matched.attribute? name).getD "") (pieces cs)) ∧
    ∀ v ∈ vars cs, ∃ value,
      matched.attribute? (.ofList v.name) = some value ∧ v.Takes value.toList := by
  obtain ⟨path, found, there, search, written⟩ := accept?_captures hit
  obtain ⟨whole, captured⟩ := captured_of_search contained compiled search
  let value (name : String) : String := .ofList ((re.captured? found name.toList).getD [])
  have all (names : List String)
      (known : ∀ name ∈ names, ∃ text, re.captured? found name.toList = some text) :
      names.filterMap (fun name =>
        (re.captured? found name.toList).map fun text => (name, String.ofList text)) =
          names.map fun name => (name, value name) := by
    rw [← List.filterMap_eq_map]
    refine List.filterMap_congr fun name listed => ?_
    obtain ⟨text, some_text⟩ := known name listed
    simp only [Function.comp_apply, value, some_text, Option.map_some, Option.getD_some]
  have known : ∀ name ∈ (vars cs).map (fun v => String.ofList v.name),
      ∃ text, re.captured? found name.toList = some text := by
    intro name listed
    obtain ⟨v, member, rfl⟩ := List.mem_map.mp listed
    obtain ⟨text, some_text, -⟩ := captured v (mem_vars.mp member)
    rw [String.toList_ofList]
    exact ⟨text, some_text⟩
  have attributes (v : Variable) (listed : v ∈ vars cs) :
      matched.attribute? (.ofList v.name) = some (value (.ofList v.name)) := by
    rw [written, all _ known, attribute?_writeAttributes, if_pos]
    exact List.mem_map_of_mem listed
  refine ⟨⟨path, there, ?_⟩, fun v listed => ?_⟩
  · rw [whole]
    refine List.flatMap_congr fun p listed => ?_
    cases p with
    | literal c => rfl
    | var v =>
      rw [Piece.captured, Piece.filled, attributes v (mem_vars.mpr listed)]
      simp only [value, Option.getD_some, String.toList_ofList]
  · obtain ⟨text, some_text, takes⟩ := captured v (mem_vars.mp listed)
    refine ⟨_, attributes v listed, ?_⟩
    simp only [value, String.toList_ofList, some_text, Option.getD_some]
    exact takes

/-- Away from the endpoint itself an accepted path is the template with the attributes that are
written put in, and each of them is a text that the pattern of its variable matches. -/
theorem values_of_hit (built : Table.build d = .ok t) (member : r ∈ t.routes)
    (contained : Contained (pieces r.pattern.toList)) (elsewhere : r.isIndex = false)
    (hit : r.accept? q = some matched) :
    (∃ path, q.path = some path ∧ path.toList =
      filled (fun name => (matched.attribute? name).getD "") (pieces r.pattern.toList)) ∧
    ∀ v ∈ vars r.pattern.toList, ∃ value,
      matched.attribute? (.ofList v.name) = some value ∧ v.Takes value.toList := by
  obtain ⟨expression, -, -⟩ := template_of_mem built member
  unfold accept? at hit
  rw [if_neg (by simp [elsewhere]), Matcher.ofRoute] at hit
  cases here : r.expression with
  | none =>
    rw [here] at hit expression
    have fixed := (expression_eq_none _ _).mp expression.symm
    simp only [Matcher.accept?] at hit
    split at hit
    · rename_i path
      cases hit
      refine ⟨⟨r.pattern, path, (filled_of_no_vars _ fixed).symm⟩, ?_⟩
      rw [fixed]
      simp
    · cases hit
  | some e =>
    rw [here] at hit expression
    dsimp only at hit
    split at hit
    · rename_i m made
      obtain ⟨re, compiled, rfl⟩ := Matcher.parameterized?_ok made
      rw [expression_of_compile expression.symm] at compiled
      rw [parameters_of_mem built member] at hit
      exact values_of_captures contained compiled hit
    · cases hit

/-- A hit of a route with a contained template. All parameters are attributes afterwards. The path
is the template with the attributes put in for the variables, except that the endpoint itself is
also reached by its other spelling and without a path; it has no parameters, and nothing is
written. -/
theorem filled_of_hit (built : Table.build d = .ok t) (member : r ∈ t.routes)
    (contained : Contained (pieces r.pattern.toList)) (hit : r.accept? q = some matched) :
    (∀ name ∈ r.parameters, (matched.attribute? name).isSome) ∧
    if r.pattern = "" ∨ r.pattern = "/" then
      r.parameters = [] ∧ matched = q ∧ (q.path = none ∨ q.path = some "" ∨ q.path = some "/")
    else
      ∃ path, q.path = some path ∧ path.toList =
        filled (fun name => (matched.attribute? name).getD "") (pieces r.pattern.toList) := by
  have parameters := parameters_of_mem built member
  have index_iff : r.isIndex = true ↔ r.pattern = "" ∨ r.pattern = "/" := by
    simp [isIndex, isRoot]
  cases index : r.isIndex with
  | true =>
    have none_listed : r.parameters = [] := by
      rw [parameters, vars_of_isRoot index, List.map_nil]
    obtain ⟨root, same⟩ := accept?_index index hit
    rw [if_pos (index_iff.mp index), none_listed]
    refine ⟨by simp, rfl, same, ?_⟩
    unfold Request.isRoot at root
    split at root
    · rename_i no_path
      exact .inl no_path
    · rename_i path here
      right
      rw [here]
      simpa using root
  | false =>
    obtain ⟨path, values⟩ := values_of_hit built member contained index hit
    rw [if_neg (by rw [← index_iff, index]; simp)]
    refine ⟨fun name listed => ?_, path⟩
    rw [parameters] at listed
    obtain ⟨v, variable', rfl⟩ := List.mem_map.mp listed
    obtain ⟨value, defined, -⟩ := values v variable'
    rw [defined]
    rfl

/-- Two adjacent variables: one has a choice, the other a flag and a group. -/
def adjacent : Definition where
  type := ⟨"Tasks", false⟩
  handlers := [⟨⟨"pair", false⟩, [⟨.get, some "/\x7ba: [0-9]+|x\x7d\x7bb: (?i)(Y)?\x7d"⟩], none⟩]

def adjacentRoute : Route :=
  ⟨.get, "/api/tasks/\x7ba: [0-9]+|x\x7d\x7bb: (?i)(Y)?\x7d", "/\x7ba: [0-9]+|x\x7d\x7bb: (?i)(Y)?\x7d",
    some "/(?<a>[0-9]+|x)(?<b>(?i)(Y)?)", ["a", "b"], ⟨"pair", false⟩, .open⟩

theorem contained_adjacent : Contained (pieces adjacentRoute.pattern.toList) := by
  have scanned : pieces adjacentRoute.pattern.toList =
      [.literal '/', .var ⟨['a'], some "[0-9]+|x".toList⟩, .var ⟨['b'], some "(?i)(Y)?".toList⟩] := by
    decide +kernel
  rw [scanned]
  constructor
  · intro c member
    obtain rfl : c = '/' := by simpa using member
    decide
  · intro v member
    have either : v = ⟨['a'], some "[0-9]+|x".toList⟩ ∨ v = ⟨['b'], some "(?i)(Y)?".toList⟩ := by
      simpa using member
    rcases either with rfl | rfl <;> exact ⟨by decide +kernel, by simp⟩
  · intro v p member own
    have either : v = ⟨['a'], some "[0-9]+|x".toList⟩ ∨ v = ⟨['b'], some "(?i)(Y)?".toList⟩ := by
      simpa using member
    rcases either with rfl | rfl <;> cases own <;>
      exact selfContained_of_eval (by decide +kernel) (by decide +kernel)

/-- `/12y` is `12` and `y` next to each other. -/
theorem filled_of_hit_adjacent :
    ∃ matched, adjacentRoute.accept? ⟨.get, some "/12y", {}, {}, {}⟩ = some matched ∧
      matched.attribute? "a" = some "12" ∧ matched.attribute? "b" = some "y" ∧
      "/12y".toList = filled (fun name => (matched.attribute? name).getD "")
        (pieces adjacentRoute.pattern.toList) := by
  have built : Table.build adjacent = .ok ⟨"/api/tasks", [adjacentRoute]⟩ := by decide +kernel
  have hit : adjacentRoute.accept? ⟨.get, some "/12y", {}, {}, {}⟩ =
      some ⟨.get, some "/12y", ⟨[("a", "12"), ("b", "y")]⟩, {}, {}⟩ := by decide +kernel
  obtain ⟨-, path⟩ := filled_of_hit built List.mem_cons_self contained_adjacent hit
  rw [if_neg (by decide)] at path
  obtain ⟨path, here, whole⟩ := path
  cases here
  exact ⟨_, hit, by decide, by decide, whole⟩

def rootOnly : Definition where
  type := ⟨"Tasks", false⟩
  handlers := [⟨⟨"index", false⟩, [⟨.get, none⟩], none⟩]

def rootRoute : Route :=
  ⟨.get, "/api/tasks", "", none, [], ⟨"index", false⟩, .open⟩

/-- The empty template has no variables and accepts the path `/` all the same. -/
theorem root_hit_is_not_filled :
    ¬ ∀ (d : Definition) (t : Table) (r : Route) (q matched : Request) (path : String),
      Table.build d = .ok t → r ∈ t.routes → Contained (pieces r.pattern.toList) →
      r.accept? q = some matched → q.path = some path →
      (∀ name ∈ r.parameters, (matched.attribute? name).isSome) ∧
      path.toList =
        filled (fun name => (matched.attribute? name).getD "") (pieces r.pattern.toList) := by
  intro filled_of_accept
  have built : Table.build rootOnly = .ok ⟨"/api/tasks", [rootRoute]⟩ := by decide +kernel
  have scanned : pieces rootRoute.pattern.toList = [] := by decide +kernel
  have contained : Contained (pieces rootRoute.pattern.toList) := by
    rw [scanned]
    exact ⟨by simp, by simp, by simp⟩
  have hit : rootRoute.accept? ⟨.get, some "/", {}, {}, {}⟩ =
      some ⟨.get, some "/", {}, {}, {}⟩ := by decide +kernel
  obtain ⟨-, same⟩ := filled_of_accept _ _ _ _ _ _ built List.mem_cons_self contained hit rfl
  rw [scanned] at same
  exact absurd same (by decide)

end Route
end EndpointRouting
