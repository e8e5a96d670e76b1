import EndpointRouting.Proofs.Block.Problems
import EndpointRouting.Proofs.Route.Provenance

/-!
# Every verb attribute is accounted for

A block is written again without its verb attributes. `removed_verbs_accounted` follows each of
them: those of the methods become the routes, one by one, or an error says what is wrong with them.
Those of the block itself are the exception: they are left out, and nothing else becomes of them.
-/

namespace EndpointRouting.Block
open Grammar Http Route Token

/-! ### What is removed -/

/-- The verb attributes of a block: its own, then those of its methods. -/
def Impl.verbs (b : Impl) : List (RouteVerb × Attribute) :=
  verbAttributes b.attributes ++ b.methods.flatMap fun m => verbAttributes m.attributes

theorem verbAttributes_stripped (as : List Attribute) :
    verbAttributes (as.filter (!isRouting ·)) = [] := by
  refine List.filterMap_eq_nil_iff.mpr fun a member => ?_
  have foreign : isRouting a = false := by simpa using (List.mem_filter.mp member).2
  cases declares : verbOf a with
  | none => rfl
  | some v => simp [isRouting, declares] at foreign

theorem methods_strip (b : Impl) : b.strip.methods = b.methods.map Method.strip := by
  unfold Impl.methods Impl.strip
  rw [List.filterMap_map, List.map_filterMap]
  apply List.filterMap_congr
  intro m _
  cases m <;> rfl

theorem verbs_strip (b : Impl) : b.strip.verbs = [] := by
  unfold Impl.verbs
  rw [methods_strip, List.flatMap_map, List.append_eq_nil_iff, List.flatMap_eq_nil_iff]
  exact ⟨verbAttributes_stripped _, fun m _ => verbAttributes_stripped m.attributes⟩

theorem length_marks (b : Impl) :
    (RouteVerb.all.flatMap b.marks).length =
      (b.methods.flatMap fun m => verbAttributes m.attributes).length := by
  let placed : List (Method × RouteVerb × Attribute) :=
    b.methods.flatMap fun m => (verbAttributes m.attributes).map (m, ·)
  have marks : ∀ v, b.marks v = (placed.filter (·.2.1 == v)).map fun x => (x.1, x.2.2) := by
    intro v
    rw [List.filter_flatMap, List.map_flatMap]
    apply List.flatMap_congr
    intro m _
    rw [List.filter_map, List.map_map]
    rfl
  -- Grouped by verb, the same attributes stand in another order.
  have grouped : RouteVerb.all.flatMap b.marks =
      (RouteVerb.all.flatMap fun v => placed.filter (·.2.1 == v)).map fun x => (x.1, x.2.2) := by
    rw [List.map_flatMap]
    exact List.flatMap_congr fun v _ => marks v
  rw [grouped, List.length_map, (filter_verbs_perm (·.2.1) placed).length_eq]
  simp only [placed, List.length_flatMap, List.length_map]

/-- What is made of a block does not depend on its own attributes, but for those that list roles. -/
theorem definition_roleAttributes (b : Impl) (options : Options) :
    ({ b with attributes := roleAttributes b.attributes } : Impl).definition options =
      b.definition options := by
  have same : ({ b with attributes := roleAttributes b.attributes } : Impl).loggedUserNotes =
      b.loggedUserNotes := by
    unfold Impl.loggedUserNotes roleAttributes
    rw [List.filter_filter]
    simp
  unfold Impl.definition
  rw [same]

/-- What is wrong with a verb attribute by itself, or with the receiver of its method, is a problem
of the method. -/
theorem verb_problem {m : Method} {v : RouteVerb} {a : Attribute}
    (declares : (v, a) ∈ verbAttributes m.attributes) :
    match readVerb v a.form with
    | .error e => e ∈ m.problems
    | .ok _ => m.takesSelf = false → .noReceiver ∈ m.problems := by
  obtain ⟨a', member, found⟩ := List.mem_filterMap.mp declares
  obtain ⟨v', verb, same⟩ := Option.map_eq_some_iff.mp found
  cases same
  cases read : readVerb v a.form with
  | error e =>
    have unlisted : isLoggedUser a = false := by
      by_contra lists
      rw [verbOf_of_isLoggedUser (by simpa using lists)] at verb
      cases verb
    refine List.mem_append_left _ (mem_attributesProblems member fun earlier => ?_)
    simp [attributeProblems, unlisted, verb, read, Except.mapError, errorsOf]
  | ok d =>
    intro unreceived
    have some_declared : d ∈ declared m.attributes :=
      List.mem_filterMap.mpr ⟨(v, a), declares, by rw [read]; rfl⟩
    have nonempty : declared m.attributes ≠ [] := List.ne_nil_of_mem some_declared
    refine List.mem_append_right _ ?_
    simp [Method.misuse, nonempty, unreceived]

/-- A refused block reports what is wrong with each verb attribute of its methods. -/
theorem verb_reported {b : Impl} {options : Options} {es : List BlockError}
    (refused : b.definition options = .error es) (named : b.typeName ≠ none) {m : Method}
    (member : m ∈ b.methods) {v : RouteVerb} {a : Attribute}
    (declares : (v, a) ∈ verbAttributes m.attributes) :
    match readVerb v a.form with
    | .error e => e ∈ es
    | .ok _ => m.takesSelf = false → .noReceiver ∈ es := by
  obtain ⟨type, named⟩ := Option.ne_none_iff_exists'.mp named
  have all : es = b.problems := by
    have reported := errorsOf_definition named options
    rw [refused] at reported
    exact reported
  have problem := verb_problem declares
  rw [all]
  cases read : readVerb v a.form with
  | error e =>
    rw [read] at problem
    exact mem_problems_of_method member problem
  | ok d =>
    rw [read] at problem
    exact fun unreceived => mem_problems_of_method member (problem unreceived)

end EndpointRouting.Block

namespace EndpointRouting.Route
open Block Grammar Http Token

/-! ### What is wrong with a declaration -/

/-- What is wrong with a declaration behind others. Those of handlers whose roles conflict do not
count. -/
def Declaration.fault? (base : String) (before : List Declaration) (x : Declaration) :
    Option TableError :=
  if Conflicting x.handler.loggedUser then some .conflictingRoles
  else match (before.filter fun y => ¬ Conflicting y.handler.loggedUser).find? (·.key == x.key) with
    | some first => some (.duplicate x.verb x.pattern first.handler.name)
    | none => malformed? (x.template base)

theorem mem_faultsOf {base : String} {earlier later : List Entry} {x : Entry} {e : TableError}
    (wrong : x.fault? base earlier = some e) : e ∈ faultsOf base (earlier ++ x :: later) := by
  rw [faultsOf, withEarlier_append, List.filterMap_append]
  apply List.mem_append_right
  simp [withEarlier, wrong]

theorem declarationsOf_handler (h : Handler) :
    declarationsOf h.entries =
      h.declarations.filter fun y => ¬ Conflicting y.handler.loggedUser := by
  unfold Handler.entries
  split
  · rename_i conflicting
    symm
    refine List.filter_eq_nil_iff.mpr fun y member => ?_
    simpa [handler_of_mem member] using conflicting
  · rename_i agree
    rw [declarationsOf_map]
    symm
    refine List.filter_eq_self.mpr fun y member => ?_
    simpa [handler_of_mem member] using agree

/-- A declaration whose roles can be met is met, behind those before it whose roles can be met. -/
theorem split_entries {hs : List Handler} {before after : List Declaration} {x : Declaration}
    (split : hs.flatMap Handler.declarations = before ++ x :: after)
    (agree : ¬ Conflicting x.handler.loggedUser) :
    ∃ earlier later, hs.flatMap Handler.entries = earlier ++ .declaration x :: later ∧
      declarationsOf earlier = before.filter fun y => ¬ Conflicting y.handler.loggedUser := by
  induction hs generalizing before with
  | nil => simp at split
  | cons h rest ih =>
    -- The declaration stands behind all those of the first handler.
    have behind {before' : List Declaration}
        (split : rest.flatMap Handler.declarations = before' ++ x :: after) :
        ∃ earlier later, (h :: rest).flatMap Handler.entries = earlier ++ .declaration x :: later ∧
          declarationsOf earlier =
            (h.declarations ++ before').filter fun y => ¬ Conflicting y.handler.loggedUser := by
      obtain ⟨earlier, later, entries, met⟩ := ih split
      refine ⟨h.entries ++ earlier, later, ?_, ?_⟩
      · rw [List.flatMap_cons, entries, List.append_assoc]
      · rw [declarationsOf_append, declarationsOf_handler, met, List.filter_append]
    rw [List.flatMap_cons, List.append_eq_append_iff] at split
    rcases split with ⟨before', rfl, split⟩ | ⟨own, whole, split⟩
    · exact behind split
    · cases own with
      | nil =>
        rw [List.append_nil] at whole
        subst whole
        simpa using @behind [] split.symm
      | cons y own =>
        -- It is the first handler's own, so that all declarations of this handler are met.
        obtain ⟨rfl, rfl⟩ := List.cons.inj split
        have mine : ∀ z ∈ before ++ x :: own, z.handler = h := fun z member =>
          handler_of_mem (whole ▸ member)
        have ours : ¬ Conflicting h.loggedUser := mine x (by simp) ▸ agree
        refine ⟨before.map .declaration, own.map .declaration ++ rest.flatMap Handler.entries, ?_, ?_⟩
        · rw [List.flatMap_cons, Handler.entries, if_neg ours, whole]
          simp
        · rw [declarationsOf_map]
          symm
          refine List.filter_eq_self.mpr fun z member => ?_
          simpa [mine z (List.mem_append_left _ member)] using ours

theorem fault_mem_faults {d : Definition} {before after : List Declaration} {x : Declaration}
    (split : d.declarations = before ++ x :: after) {e : TableError}
    (wrong : x.fault? d.base before = some e) : e ∈ d.faults := by
  unfold Declaration.fault? at wrong
  by_cases conflicting : Conflicting x.handler.loggedUser
  · rw [if_pos conflicting] at wrong
    cases wrong
    have declared : x ∈ d.declarations := by simp [split]
    obtain ⟨h, present, member⟩ := List.mem_flatMap.mp declared
    apply conflictingRoles_mem_faultsOf
    apply conflict_mem_entries
    rintro ⟨-, agree⟩
    exact agree h present (handler_of_mem member ▸ conflicting)
  · rw [if_neg conflicting] at wrong
    obtain ⟨earlier, later, entries, met⟩ := split_entries split conflicting
    let first : List Entry := if Conflicting d.loggedUser then [.conflict] else []
    have unmet : declarationsOf first = [] := by
      simp only [first]
      split <;> rfl
    have whole : d.entries = (first ++ earlier) ++ .declaration x :: later := by
      rw [Definition.entries, entries, List.append_assoc]
    rw [Definition.faults, whole]
    apply mem_faultsOf
    rw [Entry.fault?, declarationsOf_append, unmet, List.nil_append, met]
    exact wrong

theorem build_error {d : Definition} {es : List TableError} (failed : Table.build d = .error es) :
    es = d.faults ∧ es ≠ [] := by
  rw [build_eq] at failed
  split at failed
  · cases failed
  · rename_i faulty
    cases failed
    exact ⟨rfl, faulty⟩

/-! ### The routes of an accepted block -/

theorem stands_of_build {b : Impl} {options : Options} {d : Definition} {t : Table}
    (read : b.definition options = .ok d) (built : Table.build d = .ok t) (v : RouteVerb) :
    List.Forall₂ (Stands b v) (b.marks v) (t.routesFor v) := by
  have reads := reads_of_definition read
  have agree : d.RolesAgree := ((faults_eq_nil_iff d).mp (eq_of_build built).2).1
  have yields := yields_of_reads reads v
  rw [routesFor_of_build built, List.forall₂_map_right_iff]
  refine List.forall₂_iff_zip.mpr ⟨yields.length_eq, fun {mark x} paired => ?_⟩
  have declared : x ∈ d.declarations := (mem_declarationsFor.mp (List.of_mem_zip paired).2).1
  exact stands_of_yields reads agree declared (List.forall₂_zip yields paired)

theorem length_routes {b : Impl} {options : Options} {d : Definition} {t : Table}
    (read : b.definition options = .ok d) (built : Table.build d = .ok t) :
    t.routes.length = (b.methods.flatMap fun m => verbAttributes m.attributes).length := by
  rw [← length_marks, routes_of_build built, List.length_flatMap, List.length_flatMap]
  congr 1
  apply List.map_congr_left
  intro v _
  exact (stands_of_build read built v).length_eq.symm

/-- No verb attribute is left in a block that is written again. If the block is accepted, those of
its methods are the routes, one by one: each has the verb, the template and the method of its
attribute; so more were removed than there are routes only if some stood on the block itself. If
the block is refused, there are errors, and what is wrong with an attribute on a method, with the
receiver, the roles, the template, or a declaration before it, is among them. The attributes of the
block itself that declare a verb make no difference to any of this. -/
theorem removed_verbs_accounted (b : Impl) (options : Options) :
    b.strip.verbs = [] ∧
    (∀ d t, b.definition options = .ok d → Table.build d = .ok t →
      (∀ v, List.Forall₂ (Stands b v) (b.marks v) (t.routesFor v)) ∧
      b.verbs.length - b.strip.verbs.length =
        (verbAttributes b.attributes).length + t.routes.length) ∧
    (∀ es, b.definition options = .error es → es ≠ [] ∧
      (b.typeName ≠ none → ∀ m ∈ b.methods, ∀ v a, (v, a) ∈ verbAttributes m.attributes →
        match readVerb v a.form with
        | .error e => e ∈ es
        | .ok _ => m.takesSelf = false → .noReceiver ∈ es)) ∧
    (∀ d es, b.definition options = .ok d → Table.build d = .error es → es ≠ [] ∧
      (∀ v, List.Forall₂ (Yields v) (b.marks v) (d.declarationsFor v)) ∧
      ∀ before x after, d.declarations = before ++ x :: after →
        ∀ e, x.fault? d.base before = some e → e ∈ es) ∧
    ({ b with attributes := roleAttributes b.attributes } : Impl).definition options =
      b.definition options := by
  refine ⟨verbs_strip b, ?_, ?_, ?_, definition_roleAttributes b options⟩
  · intro d t read built
    refine ⟨stands_of_build read built, ?_⟩
    rw [verbs_strip, Impl.verbs, List.length_append, length_routes read built]
    rfl
  · intro es refused
    exact ⟨definition_error refused, fun named m member v a declares =>
      verb_reported refused named member declares⟩
  · intro d es read failed
    obtain ⟨rfl, faulty⟩ := build_error failed
    exact ⟨faulty, yields_of_reads (reads_of_definition read),
      fun before x after split e wrong => fault_mem_faults split wrong⟩

/-- The block itself carries a verb attribute. -/
def strayTasks : Impl where
  attributes := [⟨false, [.ident ⟨"get", false⟩], .list .parenthesis [textTree "/x"]⟩]
  modifiers := []
  parameters := []
  implements := none
  type := [.ident ⟨"Tasks", false⟩]
  typeName := some ⟨"Tasks", false⟩
  bounds := []
  members := [methodNamed "mine" [("get", .bare)]]

def strayDefinition : Definition where
  type := ⟨"Tasks", false⟩
  handlers := [⟨⟨"mine", false⟩, [⟨.get, none⟩], none⟩]

/-- Two attributes are removed, no error is reported, and there is one route. -/
theorem removed_verbs_accounted_stray :
    strayTasks.verbs.length = 2 ∧ strayTasks.strip.verbs = [] ∧
    strayTasks.definition {} = .ok strayDefinition ∧
    Table.build strayDefinition = .ok ⟨"/api/tasks", [mineRoute]⟩ ∧
    ¬ ∃ t, Table.build strayDefinition = .ok t ∧
      strayTasks.verbs.length - strayTasks.strip.verbs.length = t.routes.length := by
  have read : strayTasks.definition {} = .ok strayDefinition := by decide +kernel
  have built : Table.build strayDefinition = .ok ⟨"/api/tasks", [mineRoute]⟩ := by decide +kernel
  obtain ⟨stripped, accepted, -⟩ := removed_verbs_accounted strayTasks {}
  refine ⟨by decide +kernel, stripped, read, built, ?_⟩
  rintro ⟨t, made, equal⟩
  obtain ⟨-, counted⟩ := accepted strayDefinition t read made
  have ownVerb : (verbAttributes strayTasks.attributes).length = 1 := by decide +kernel
  omega

end EndpointRouting.Route
