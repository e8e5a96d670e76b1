import EndpointRouting.Proofs.Route.Declarations
import Mathlib.Data.List.Perm.Basic

/-!
# Building a table

The draft of a table follows the entries of the definition: after each of them its errors are the
faults so far, it has seen the declarations so far, and without a fault it has a route for each.
-/

namespace EndpointRouting.Route
open Http Token

/-! ### The loop as one pass over the entries -/

/-- What a handler demands, when it may lack roles of its own. -/
def ownDemands (byDefault : Authorization) (roles : Option LoggedUser) : Authorization :=
  (roles.map fun u => demands (some u)).getD byDefault

/-- The route of a declaration, when the authorization of handlers without roles is given. -/
def routeUnder (base : String) (byDefault : Authorization) (x : Declaration) : Route :=
  ofTemplate x.verb (x.template base) x.handler.name (ownDemands byDefault x.handler.loggedUser)

/-- The draft after one more entry. -/
def Draft.enter (base : String) (byDefault : Authorization) (s : Draft) : Entry → Draft
  | .conflict => s.fail .conflictingRoles
  | .declaration x =>
    s.declare base x.handler.name (ownDemands byDefault x.handler.loggedUser) x.declared

theorem foldl_declare (base : String) (byDefault a : Authorization) (s : Draft) (h : Handler)
    (agree : ownDemands byDefault h.loggedUser = a) :
    h.verbs.foldl (Draft.declare base h.name a) s =
      (h.declarations.map Entry.declaration).foldl (Draft.enter base byDefault) s := by
  subst agree
  rw [Handler.declarations, List.map_map, List.foldl_map]
  rfl

theorem addHandler_eq_foldl (base : String) (byDefault : Authorization) (s : Draft) (h : Handler) :
    s.addHandler base byDefault h = h.entries.foldl (Draft.enter base byDefault) s := by
  unfold Draft.addHandler Handler.entries
  cases roles : h.loggedUser with
  | none =>
    have agree : ¬ Conflicting (none : Option LoggedUser) := by rintro ⟨_, listed, _⟩; cases listed
    rw [if_neg agree]
    exact foldl_declare base byDefault _ s h (by rw [roles]; rfl)
  | some u =>
    by_cases conflicts : u.Conflicts
    · rw [if_pos ⟨u, rfl, conflicts⟩]
      simp only [ofRoles?_of_conflicts conflicts]
      rfl
    · have agree : ¬ Conflicting (some u) := by
        rintro ⟨_, listed, h⟩
        cases listed
        exact conflicts h
      rw [if_neg agree]
      simp only [ofRoles?_of_not_conflicts conflicts]
      exact foldl_declare base byDefault _ s h (by rw [roles]; rfl)

theorem foldl_addHandler (base : String) (byDefault : Authorization) (hs : List Handler)
    (s : Draft) :
    hs.foldl (Draft.addHandler base byDefault) s =
      (hs.flatMap Handler.entries).foldl (Draft.enter base byDefault) s := by
  induction hs generalizing s with
  | nil => rfl
  | cons h rest ih =>
    rw [List.foldl_cons, ih, List.flatMap_cons, List.foldl_append, addHandler_eq_foldl]

theorem start_of_conflicting {roles : Option LoggedUser} (h : Conflicting roles) :
    Table.start roles = (({} : Draft).fail .conflictingRoles, .open) := by
  obtain ⟨u, rfl, conflicts⟩ := h
  simp [Table.start, ofRoles?_of_conflicts conflicts]

theorem start_of_not_conflicting {roles : Option LoggedUser} (h : ¬ Conflicting roles) :
    Table.start roles = ({}, demands roles) := by
  cases roles with
  | none => rfl
  | some u =>
    have agree : ¬ u.Conflicts := fun conflicts => h ⟨u, rfl, conflicts⟩
    simp [Table.start, ofRoles?_of_not_conflicts agree]

theorem draft_eq_foldl (d : Definition) :
    Table.draft d =
      d.entries.foldl (Draft.enter d.base (Table.start d.loggedUser).2) ({} : Draft) := by
  unfold Table.draft Definition.entries
  by_cases conflicting : Conflicting d.loggedUser
  · simp only [start_of_conflicting conflicting, foldl_addHandler, if_pos conflicting,
      List.foldl_append]
    rfl
  · simp only [start_of_not_conflicting conflicting, foldl_addHandler, if_neg conflicting]
    rfl

/-! ### What the draft knows after the entries so far -/

/-- The draft is the one that the entries lead to. -/
structure Draft.Follows (base : String) (byDefault : Authorization) (entries : List Entry)
    (s : Draft) : Prop where
  errors : s.errors = faultsOf base entries
  seen : ∀ k, s.seen.lookup k =
    ((declarationsOf entries).find? (·.key == k)).map (·.handler.name)
  routes : s.errors = [] → s.routes = (declarationsOf entries).map (routeUnder base byDefault)

variable {base : String} {byDefault : Authorization} {entries : List Entry} {s : Draft}

theorem follows_initial : Draft.Follows base byDefault [] {} where
  errors := rfl
  seen _ := rfl
  routes _ := rfl

theorem follows_conflict (h : s.Follows base byDefault entries) :
    (s.enter base byDefault .conflict).Follows base byDefault (entries ++ [.conflict]) where
  errors := by
    rw [faultsOf_concat, ← h.errors]
    rfl
  seen k := by
    rw [declarationsOf_concat, Entry.declaration?, Option.toList_none, List.append_nil]
    exact h.seen k
  routes none_failed := by
    simp [Draft.enter, Draft.fail] at none_failed

theorem declarationsOf_concat_declaration (entries : List Entry) (x : Declaration) :
    declarationsOf (entries ++ [.declaration x]) = declarationsOf entries ++ [x] :=
  declarationsOf_concat entries (.declaration x)

/-- A declaration whose key was seen is reported, and leaves no other trace. -/
theorem follows_duplicate {x first : Declaration} (h : s.Follows base byDefault entries)
    (found : (declarationsOf entries).find? (·.key == x.key) = some first) :
    (s.fail (.duplicate x.verb x.pattern first.handler.name)).Follows base byDefault
      (entries ++ [.declaration x]) where
  errors := by
    have fault : Entry.fault? base entries (.declaration x) =
        some (.duplicate x.verb x.pattern first.handler.name) := by
      simp only [Entry.fault?, found]
    rw [faultsOf_concat, fault, ← h.errors]
    rfl
  seen k := by
    rw [declarationsOf_concat_declaration, List.find?_append]
    by_cases same : x.key = k
    · subst same
      rw [found]
      exact (h.seen _).trans (by rw [found]; rfl)
    · exact (h.seen k).trans (by simp [same])
  routes none_failed := by simp [Draft.fail] at none_failed

theorem lookup_seen {x : Declaration} (h : s.Follows base byDefault entries)
    (fresh : (declarationsOf entries).find? (·.key == x.key) = none) (k : RouteVerb × String) :
    (s.seen ++ [(x.key, x.handler.name)]).lookup k =
      ((declarationsOf (entries ++ [.declaration x])).find? (·.key == k)).map
        (·.handler.name) := by
  rw [List.lookup_append, h.seen k, declarationsOf_concat_declaration, List.find?_append]
  by_cases same : x.key = k
  · subst same
    simp [fresh]
  · have other : (k == x.key) = false := by simpa using Ne.symm same
    simp [same, List.lookup_cons, other]

/-- A declaration with a new key is seen; it fails or becomes a route. -/
theorem follows_fresh {x : Declaration} (h : s.Follows base byDefault entries)
    (fresh : (declarationsOf entries).find? (·.key == x.key) = none) :
    Draft.Follows base byDefault (entries ++ [.declaration x])
      (match malformed? (x.template base) with
        | some e => { s with seen := s.seen ++ [(x.key, x.handler.name)] }.fail e
        | none => { s with
            seen := s.seen ++ [(x.key, x.handler.name)]
            routes := s.routes ++ [routeUnder base byDefault x] }) := by
  have fault : Entry.fault? base entries (.declaration x) = malformed? (x.template base) := by
    simp only [Entry.fault?, fresh]
  have faults := faultsOf_concat base entries (.declaration x)
  rw [fault, ← h.errors] at faults
  cases malformed : malformed? (x.template base) with
  | some e =>
    rw [malformed] at faults
    refine ⟨faults.symm, lookup_seen h fresh, ?_⟩
    intro none_failed
    simp [Draft.fail] at none_failed
  | none =>
    rw [malformed, Option.toList_none, List.append_nil] at faults
    refine ⟨faults.symm, lookup_seen h fresh, ?_⟩
    intro none_failed
    rw [declarationsOf_concat_declaration, List.map_append, List.map_singleton,
      ← h.routes none_failed]

theorem follows_declaration (h : s.Follows base byDefault entries) (x : Declaration) :
    (s.enter base byDefault (.declaration x)).Follows base byDefault
      (entries ++ [.declaration x]) := by
  have looked := h.seen x.key
  unfold Draft.enter Draft.declare
  change s.seen.lookup (x.declared.verb, handlerTemplate x.handler.name x.declared.path) = _
    at looked
  cases found : (declarationsOf entries).find? (·.key == x.key) with
  | some first =>
    rw [found, Option.map_some] at looked
    simp only [looked]
    exact follows_duplicate h found
  | none =>
    rw [found, Option.map_none] at looked
    simp only [looked]
    exact follows_fresh h found

theorem follows_entry (h : s.Follows base byDefault entries) (e : Entry) :
    (s.enter base byDefault e).Follows base byDefault (entries ++ [e]) := by
  cases e with
  | conflict => exact follows_conflict h
  | declaration x => exact follows_declaration h x

theorem follows_foldl (h : s.Follows base byDefault entries) (more : List Entry) :
    (more.foldl (Draft.enter base byDefault) s).Follows base byDefault (entries ++ more) := by
  induction more generalizing s entries with
  | nil => simpa using h
  | cons e rest ih => simpa using ih (follows_entry h e)

theorem draft_follows (d : Definition) :
    (Table.draft d).Follows d.base (Table.start d.loggedUser).2 d.entries := by
  rw [draft_eq_foldl]
  exact follows_foldl follows_initial d.entries

/-! ### When there is a table, and which -/

theorem entries_of_rolesAgree {d : Definition} (agree : d.RolesAgree) :
    d.entries = d.declarations.map .declaration := by
  obtain ⟨own, handlers⟩ := agree
  rw [Definition.entries, if_neg own, List.nil_append, Definition.declarations,
    List.map_flatMap]
  apply List.flatMap_congr
  intro h member
  rw [Handler.entries, if_neg (handlers h member)]

theorem conflict_mem_entries {d : Definition} (disagree : ¬ d.RolesAgree) :
    .conflict ∈ d.entries := by
  rw [Definition.entries, List.mem_append]
  by_cases own : Conflicting d.loggedUser
  · rw [if_pos own]
    exact Or.inl List.mem_cons_self
  · right
    have some_handler : ∃ h ∈ d.handlers, Conflicting h.loggedUser := by
      by_contra none_conflicts
      push Not at none_conflicts
      exact disagree ⟨own, none_conflicts⟩
    obtain ⟨h, member, conflicting⟩ := some_handler
    refine List.mem_flatMap.mpr ⟨h, member, ?_⟩
    rw [Handler.entries, if_pos conflicting]
    exact List.mem_cons_self

theorem conflictingRoles_mem_faultsOf {base : String} {entries : List Entry}
    (met : .conflict ∈ entries) : .conflictingRoles ∈ faultsOf base entries := by
  obtain ⟨before, after, rfl⟩ := List.append_of_mem met
  rw [faultsOf, withEarlier_append, List.filterMap_append]
  apply List.mem_append_right
  simp [withEarlier, Entry.fault?]

theorem faults_eq_nil_iff (d : Definition) :
    d.faults = [] ↔ d.RolesAgree ∧ (d.declarations.map Declaration.key).Nodup ∧
      ∀ x ∈ d.declarations, x.Compiles d.base := by
  by_cases agree : d.RolesAgree
  · rw [Definition.faults, entries_of_rolesAgree agree, faultsOf_declarations_eq_nil_iff]
    exact ⟨fun h => ⟨agree, h⟩, fun h => h.2⟩
  · constructor
    · intro faultless
      have reported : TableError.conflictingRoles ∈ d.faults :=
        conflictingRoles_mem_faultsOf (conflict_mem_entries agree)
      simp [faultless] at reported
    · rintro ⟨h, _⟩
      exact (agree h).elim

theorem routeUnder_start {d : Definition} (agree : d.RolesAgree) :
    routeUnder d.base (Table.start d.loggedUser).2 = d.route := by
  funext x
  rw [start_of_not_conflicting agree.1, routeUnder, Definition.route]
  cases x.handler.loggedUser <;> rfl

/-- The routes of a definition, grouped by verb, each group in the order of its declarations. -/
def Definition.routes (d : Definition) : List Route :=
  RouteVerb.all.flatMap fun v => (d.declarationsFor v).map d.route

theorem build_eq (d : Definition) :
    Table.build d = if d.faults = [] then .ok ⟨d.base, d.routes⟩ else .error d.faults := by
  have follows := draft_follows d
  have errors : (Table.draft d).errors = d.faults := follows.errors
  unfold Table.build
  dsimp only
  by_cases faultless : d.faults = []
  · have agree := ((faults_eq_nil_iff d).mp faultless).1
    have routes := follows.routes (errors.trans faultless)
    rw [entries_of_rolesAgree agree, declarationsOf_map, routeUnder_start agree] at routes
    rw [if_pos (by rw [errors, faultless]; rfl), if_pos faultless, routes]
    congr 2
    apply List.flatMap_congr
    intro v _
    rw [List.filter_map]
    rfl
  · rw [if_neg (by rw [errors]; simpa using faultless), if_neg faultless, errors]

variable {d : Definition} {t : Table}

theorem eq_of_build (built : Table.build d = .ok t) :
    t = ⟨d.base, d.routes⟩ ∧ d.faults = [] := by
  rw [build_eq] at built
  by_cases faultless : d.faults = []
  · rw [if_pos faultless] at built
    exact ⟨(Except.ok.inj built).symm, faultless⟩
  · rw [if_neg faultless] at built
    cases built

theorem mem_declarationsFor {x : Declaration} {v : RouteVerb} :
    x ∈ d.declarationsFor v ↔ x ∈ d.declarations ∧ x.verb = v := by
  simp [Definition.declarationsFor]

theorem mem_routes_iff {r : Route} : r ∈ d.routes ↔ ∃ x ∈ d.declarations, d.route x = r := by
  simp only [Definition.routes, List.mem_flatMap, List.mem_map, mem_declarationsFor]
  constructor
  · rintro ⟨_, _, x, ⟨member, _⟩, same⟩
    exact ⟨x, member, same⟩
  · rintro ⟨x, member, same⟩
    exact ⟨x.verb, RouteVerb.mem_all _, x, ⟨member, rfl⟩, same⟩

/-- Each route of a table is that of a declaration whose template compiles. -/
theorem declaration_of_mem (built : Table.build d = .ok t) {r : Route} (member : r ∈ t.routes) :
    ∃ x ∈ d.declarations, d.route x = r ∧ x.Compiles d.base := by
  obtain ⟨rfl, faultless⟩ := eq_of_build built
  obtain ⟨x, declared, same⟩ := mem_routes_iff.mp member
  exact ⟨x, declared, same, ((faults_eq_nil_iff d).mp faultless).2.2 x declared⟩

theorem filter_flatMap_verbs {α : Type} (verb : α → RouteVerb) (f : RouteVerb → List α)
    (sorted : ∀ v, ∀ x ∈ f v, verb x = v) (v : RouteVerb) :
    (RouteVerb.all.flatMap f).filter (verb · == v) = f v := by
  have each : ∀ w, (f w).filter (verb · == v) = if w = v then f v else [] := by
    intro w
    split
    · rename_i same
      subst same
      exact List.filter_eq_self.mpr fun x member => by simp [sorted w x member]
    · rename_i other
      exact List.filter_eq_nil_iff.mpr fun x member => by simpa [sorted w x member] using other
  rw [List.filter_flatMap]
  simp only [each, RouteVerb.all]
  cases v <;> simp

/-- The routes of a verb are those of its declarations, in order. -/
theorem routesFor_of_build (built : Table.build d = .ok t) (v : RouteVerb) :
    t.routesFor v = (d.declarationsFor v).map d.route := by
  obtain ⟨rfl, _⟩ := eq_of_build built
  refine filter_flatMap_verbs Route.verb (fun v => (d.declarationsFor v).map d.route) ?_ v
  intro w r member
  obtain ⟨x, declared, rfl⟩ := List.mem_map.mp member
  exact (mem_declarationsFor.mp declared).2

/-- The routes of a table are those of each verb, verb by verb. -/
theorem routes_of_build (built : Table.build d = .ok t) :
    t.routes = RouteVerb.all.flatMap t.routesFor := by
  rw [List.flatMap_congr fun v _ => routesFor_of_build built v]
  obtain ⟨rfl, _⟩ := eq_of_build built
  rfl

/-- Grouping by verb loses nothing and repeats nothing. -/
theorem filter_verbs_perm {α : Type} (verb : α → RouteVerb) (xs : List α) :
    (RouteVerb.all.flatMap fun v => xs.filter (verb · == v)).Perm xs := by
  induction xs with
  | nil => simp
  | cons x xs ih =>
    simp only [RouteVerb.all, List.flatMap_cons, List.flatMap_nil, List.append_nil] at ih ⊢
    refine List.Perm.trans ?_ (ih.cons x)
    cases kind : verb x with
    | get => simp [kind]
    | post => simp [kind]
    | put => simpa [kind] using (List.perm_middle.append_left _).trans List.perm_middle
    | delete =>
      simpa [kind] using
        ((List.perm_middle.append_left _).trans List.perm_middle |>.append_left _).trans
          List.perm_middle

/-- A table fails with exactly the faults of its definition. There are none just if the roles
agree, no two declarations share verb and template, and all templates compile; then the routes are
those of the declarations, one for each. -/
theorem build_eq_routes_or_faults (d : Definition) :
    (Table.build d = if d.faults = [] then .ok ⟨d.base, d.routes⟩ else .error d.faults) ∧
    ((∃ t, Table.build d = .ok t) ↔ d.RolesAgree ∧ (d.declarations.map Declaration.key).Nodup ∧
      ∀ x ∈ d.declarations, x.Compiles d.base) ∧
    d.routes.Perm (d.declarations.map d.route) := by
  refine ⟨build_eq d, ?_, ?_⟩
  · rw [← faults_eq_nil_iff, build_eq]
    split
    · rename_i faultless
      exact ⟨fun _ => faultless, fun _ => ⟨_, rfl⟩⟩
    · rename_i faulty
      exact ⟨fun ⟨_, built⟩ => (nomatch built), fun h => (faulty h).elim⟩
  · have grouped : d.routes =
        (RouteVerb.all.flatMap fun v => d.declarations.filter (·.verb == v)).map d.route := by
      rw [List.map_flatMap]
      rfl
    rw [grouped]
    exact (filter_verbs_perm Declaration.verb d.declarations).map d.route

end EndpointRouting.Route
