import EndpointRouting.Proofs.Block.Attributes
import EndpointRouting.Proofs.Route.Dispatch

/-!
# Where the authorization of a route comes from

Every verb attribute of an accepted block is a route, and the route demands what is written on the
same method, else what is written on the block. Nothing that is written about roles is lost on the
way, and nothing is taken from another method.
-/

namespace EndpointRouting.Block
open Grammar Http Route Token

/-- The attributes of a method for one verb, each with the method. -/
def Method.marks (v : RouteVerb) (m : Method) : List (Method × Attribute) :=
  ((verbAttributes m.attributes).filter (·.1 == v)).map fun x => (m, x.2)

/-- The attributes for one verb on the methods of a block, in order. -/
def Impl.marks (b : Impl) (v : RouteVerb) : List (Method × Attribute) :=
  b.methods.flatMap (Method.marks v)

/-- The only attribute that lists roles demands the authorization. -/
def Demands (as : List Attribute) (a : Authorization) : Prop :=
  ∃ x u, roleAttributes as = [x] ∧ readLoggedUser x.form = .ok u ∧
    Authorization.ofRoles? u = some a

/-- The authorization of a method in a block: what is demanded on the method replaces what is
demanded on the block. -/
inductive Governs (block method : List Attribute) : Authorization → Prop
  | own {a : Authorization} (demanded : Demands method a) : Governs block method a
  | inherited {a : Authorization} (unlisted : roleAttributes method = [])
      (demanded : Demands block a) : Governs block method a
  | unrestricted (unlisted : roleAttributes method = []) (free : roleAttributes block = []) :
      Governs block method .open

/-- The route is what the attribute on the method says. -/
structure Stands (b : Impl) (v : RouteVerb) (mark : Method × Attribute) (r : Route) : Prop where
  verb : r.verb = v
  pattern : ∃ path, readVerb v mark.2.form = .ok ⟨v, path⟩ ∧
    r.pattern = handlerTemplate mark.1.name path
  handler : r.handler = mark.1.name
  authorization : Governs b.attributes mark.1.attributes r.authorization

theorem readVerb_verb {v : RouteVerb} {form : AttributeForm} {d : VerbDeclaration}
    (read : readVerb v form = .ok d) : d.verb = v := by
  unfold readVerb at read
  split at read
  · cases read
    rfl
  · cases read
  · split at read
    · cases read
    · cases read
      rfl
    · cases read

theorem demands_of_listsRoles {as : List Attribute} {u : LoggedUser}
    (lists : ListsRoles as (some u)) (agree : ¬ u.Conflicts) :
    Demands as (demands (some u)) := by
  cases lists with
  | some only read => exact ⟨_, u, only, read, ofRoles?_of_not_conflicts agree⟩

theorem demands_of_roles {as : List Attribute} {roles : Option LoggedUser}
    (lists : ListsRoles as roles) (agree : ¬ Conflicting roles) (listed : roleAttributes as ≠ []) :
    ∃ a, Demands as a := by
  cases roles with
  | none =>
    obtain ⟨unlisted⟩ := lists
    exact absurd unlisted listed
  | some u => exact ⟨_, demands_of_listsRoles lists fun conflicts => agree ⟨u, rfl, conflicts⟩⟩

/-- Roles that were read govern as the table combines them. -/
theorem governs_of_listsRoles {block method : List Attribute} {byDefault own : Option LoggedUser}
    (inherited : ListsRoles block byDefault) (lists : ListsRoles method own)
    (agree : ¬ Conflicting byDefault) (agree' : ¬ Conflicting own) :
    Governs block method (demands (own.or byDefault)) := by
  cases own with
  | some u => exact .own (demands_of_listsRoles lists fun conflicts => agree' ⟨u, rfl, conflicts⟩)
  | none =>
    obtain ⟨unlisted⟩ := lists
    cases byDefault with
    | some u =>
      refine .inherited unlisted (demands_of_listsRoles inherited ?_)
      exact fun conflicts => agree ⟨u, rfl, conflicts⟩
    | none =>
      obtain ⟨free⟩ := inherited
      exact .unrestricted unlisted free

/-! ### Attributes and declarations -/

/-- Methods without a verb attribute leave no mark. -/
theorem marks_eq_routed (b : Impl) (v : RouteVerb) :
    b.marks v = b.routed.flatMap (Method.marks v) := by
  unfold Impl.marks Impl.routed
  induction b.methods with
  | nil => rfl
  | cons m rest ih =>
    rw [List.flatMap_cons, ih]
    by_cases declared : verbAttributes m.attributes = []
    · have unmarked : m.marks v = [] := by simp [Method.marks, declared]
      rw [List.filter_cons_of_neg (by simp [declared]), unmarked, List.nil_append]
    · rw [List.filter_cons_of_pos (by simp [declared]), List.flatMap_cons]

/-- The attribute on the method declares this. -/
structure Yields (v : RouteVerb) (mark : Method × Attribute) (x : Declaration) : Prop where
  read : readVerb v mark.2.form = .ok x.declared
  describes : Describes mark.1 x.handler

theorem yields_of_describes {m : Method} {h : Handler} (describes : Describes m h) (v : RouteVerb) :
    List.Forall₂ (Yields v) (m.marks v) (h.declarations.filter (·.verb == v)) := by
  have sameVerb (x : RouteVerb × Attribute) (d : VerbDeclaration)
      (read : readVerb x.1 x.2.form = .ok d) : (x.1 == v) = true ↔ (d.verb == v) = true := by
    rw [readVerb_verb read]
  have kept := List.rel_filter sameVerb describes.verbs
  unfold Method.marks Handler.declarations
  rw [List.filter_map, List.forall₂_map_left_iff, List.forall₂_map_right_iff]
  have chosen : ∀ x ∈ (verbAttributes m.attributes).filter (·.1 == v), x.1 = v := by
    intro x member
    simpa using (List.mem_filter.mp member).2
  refine (List.forall₂_iff_zip.mpr ⟨kept.length_eq, ?_⟩)
  intro x d paired
  have read := (List.forall₂_iff_zip.mp kept).2 paired
  rw [chosen x (List.of_mem_zip paired).1] at read
  exact ⟨read, describes⟩

theorem yields_of_reads {b : Impl} {d : Definition} (reads : b.Reads d) (v : RouteVerb) :
    List.Forall₂ (Yields v) (b.marks v) (d.declarationsFor v) := by
  rw [marks_eq_routed, Definition.declarationsFor, Definition.declarations, List.filter_flatMap]
  exact List.rel_flatMap reads.handlers fun _ _ describes => yields_of_describes describes v

end EndpointRouting.Block

namespace EndpointRouting.Route
open Block Grammar Http Token

theorem stands_of_yields {b : Impl} {d : Definition} (reads : b.Reads d) (agree : d.RolesAgree)
    {v : RouteVerb} {mark : Method × Attribute} {x : Declaration} (declared : x ∈ d.declarations)
    (yields : Yields v mark x) : Stands b v mark (d.route x) := by
  obtain ⟨read, describes⟩ := yields
  obtain ⟨h, present, member⟩ := List.mem_flatMap.mp declared
  have own : x.handler = h := handler_of_mem member
  have verb : x.declared.verb = v := readVerb_verb read
  refine ⟨verb, ⟨x.declared.path, ?_, ?_⟩, describes.name, ?_⟩
  · rw [read, ← verb]
  · rw [← describes.name]
    rfl
  · exact governs_of_listsRoles reads.roles describes.roles agree.1 (own ▸ agree.2 h present)

/-- Each place of an accepted block lists roles at most once, a method only beside a verb
attribute, and what it lists can be met. The routes of a verb are, one by one, what the attributes
for the verb say, and each is governed by the roles of its own method, else by those of the
block. -/
theorem routes_governed_by_own_method {b : Impl} {options : Options} {d : Definition} {t : Table}
    (read : b.definition options = .ok d) (built : Table.build d = .ok t) :
    ((roleAttributes b.attributes).length ≤ 1 ∧
      (roleAttributes b.attributes ≠ [] → ∃ a, Demands b.attributes a)) ∧
    (∀ m ∈ b.methods, (roleAttributes m.attributes).length ≤ 1 ∧
      (roleAttributes m.attributes ≠ [] → verbAttributes m.attributes ≠ [])) ∧
    ∀ v, List.Forall₂ (Stands b v) (b.marks v) (t.routesFor v) := by
  have reads : b.Reads d := reads_of_definition read
  obtain ⟨-, faultless⟩ := eq_of_build built
  have agree : d.RolesAgree := ((faults_eq_nil_iff d).mp faultless).1
  refine ⟨⟨reads.roles.length_le, demands_of_roles reads.roles agree.1⟩, ?_, ?_⟩
  · intro m member
    exact ⟨(reads.orderly m member).once, (reads.orderly m member).routed⟩
  · intro v
    have yields := yields_of_reads reads v
    rw [routesFor_of_build built, List.forall₂_map_right_iff]
    refine List.forall₂_iff_zip.mpr ⟨yields.length_eq, ?_⟩
    intro mark x paired
    have declared : x ∈ d.declarations := (mem_declarationsFor.mp (List.of_mem_zip paired).2).1
    exact stands_of_yields reads agree declared (List.forall₂_zip yields paired)

/-- The block is for users only; `show` has roles of its own, `mine` has not, and `help` has no
verb. -/
def guardedTasks : Impl where
  attributes := [⟨false, [.ident ⟨"logged_user", false⟩], .bare⟩]
  modifiers := []
  parameters := []
  implements := none
  type := [.ident ⟨"Tasks", false⟩]
  typeName := some ⟨"Tasks", false⟩
  bounds := []
  members := [
    methodNamed "show" [
      ("logged_user", .list .parenthesis
        [.ident ⟨"allowed_roles", false⟩, .group .parenthesis [textTree "admin"]]),
      ("get", .list .parenthesis [textTree "/{id}"]), ("inline", .bare)],
    methodNamed "help" [("inline", .bare)],
    methodNamed "mine" [("get", .bare)]]

def guardedDefinition : Definition where
  type := ⟨"Tasks", false⟩
  loggedUser := some ⟨["*"], []⟩
  handlers := [⟨⟨"show", false⟩, [⟨.get, some "/{id}"⟩], some ⟨["admin"], []⟩⟩,
    ⟨⟨"mine", false⟩, [⟨.get, none⟩], none⟩]

def guardedTable : Table where
  base := "/api/tasks"
  routes := [showRoute, { mineRoute with authorization := ⟨true, false, ["*"], []⟩ }]

theorem routes_governed_by_own_method_guarded :
    List.Forall₂ (Stands guardedTasks .get) (guardedTasks.marks .get)
      (guardedTable.routesFor .get) := by
  have read : guardedTasks.definition {} = .ok guardedDefinition := by decide +kernel
  have built : Table.build guardedDefinition = .ok guardedTable := by decide +kernel
  exact (routes_governed_by_own_method read built).2.2 .get

end EndpointRouting.Route
