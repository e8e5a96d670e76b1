import EndpointRouting.Proofs.Block.Problems
import EndpointRouting.Proofs.Lists
import EndpointRouting.Proofs.Route.Mounting
import EndpointRouting.Proofs.Route.Provenance
import EndpointRouting.Proofs.Text.FlatCase
import EndpointRouting.Route.Info

/-!
# Raw names

A block is read twice, with some of its names in the raw form. `respelled_blocks_agree` says that
the names of handlers may be respelled at will, and the name of the type if the endpoint has a path
of its own; otherwise the raw mark shows in every path.
-/

namespace EndpointRouting.Route
open Http Token

/-! ### Handlers and declarations -/

structure Handler.Respells (h h' : Handler) : Prop where
  name : h'.name.text = h.name.text
  verbs : h'.verbs = h.verbs
  loggedUser : h'.loggedUser = h.loggedUser

structure Definition.Respells (d d' : Definition) : Prop where
  type : d'.type.text = d.type.text
  options : d'.options = d.options
  loggedUser : d'.loggedUser = d.loggedUser
  handlers : List.Forall₂ Handler.Respells d.handlers d'.handlers

structure Declaration.Respells (x x' : Declaration) : Prop where
  handler : x.handler.Respells x'.handler
  declared : x'.declared = x.declared

theorem handlerTemplate_congr {i j : Identifier} (same : j.text = i.text) (path : Option String) :
    handlerTemplate j path = handlerTemplate i path := by
  unfold handlerTemplate
  rw [same]

section
variable {x x' : Declaration} {d d' : Definition}

theorem Declaration.Respells.pattern (respells : x.Respells x') : x'.pattern = x.pattern := by
  unfold Declaration.pattern
  rw [respells.declared, handlerTemplate_congr respells.handler.name]

theorem Declaration.Respells.key (respells : x.Respells x') : x'.key = x.key := by
  unfold Declaration.key Declaration.verb
  rw [respells.pattern, respells.declared]

theorem Declaration.Respells.expression (respells : x.Respells x') (base base' : String) :
    (x'.template base').expression = (x.template base).expression := by
  unfold Declaration.template
  rw [respells.pattern]
  rfl

theorem Declaration.Respells.compiles_iff (respells : x.Respells x') (base base' : String) :
    x'.Compiles base' ↔ x.Compiles base := by
  unfold Declaration.Compiles
  rw [respells.expression base base']

theorem Definition.Respells.declarations (respells : d.Respells d') :
    List.Forall₂ Declaration.Respells d.declarations d'.declarations := by
  refine List.rel_flatMap respells.handlers fun h h' same => ?_
  unfold Handler.declarations
  rw [same.verbs, List.forall₂_map_left_iff, List.forall₂_map_right_iff, List.forall₂_same]
  exact fun _ _ => ⟨same, rfl⟩

theorem Definition.Respells.declarationsFor (respells : d.Respells d') (v : RouteVerb) :
    List.Forall₂ Declaration.Respells (d.declarationsFor v) (d'.declarationsFor v) := by
  refine List.rel_filter ?_ respells.declarations
  intro x x' same
  have verb : x'.verb = x.verb := congrArg (·.verb) same.declared
  simp only [verb]

theorem Definition.Respells.rolesAgree_iff (respells : d.Respells d') :
    d'.RolesAgree ↔ d.RolesAgree := by
  have handlers : (∀ h ∈ d'.handlers, ¬ Conflicting h.loggedUser) ↔
      ∀ h ∈ d.handlers, ¬ Conflicting h.loggedUser :=
    forall_mem_iff_of_forall₂ respells.handlers fun _ _ same => by rw [same.loggedUser]
  unfold Definition.RolesAgree
  rw [respells.loggedUser, handlers]

theorem Definition.Respells.faultless_iff (respells : d.Respells d') :
    d'.faults = [] ↔ d.faults = [] := by
  have keys : d'.declarations.map Declaration.key = d.declarations.map Declaration.key :=
    map_eq_of_forall₂ respells.declarations fun _ _ same => same.key
  have compile : (∀ x ∈ d'.declarations, x.Compiles d'.base) ↔
      ∀ x ∈ d.declarations, x.Compiles d.base :=
    forall_mem_iff_of_forall₂ respells.declarations fun _ _ same =>
      same.compiles_iff d.base d'.base
  rw [faults_eq_nil_iff, faults_eq_nil_iff, respells.rolesAgree_iff, keys, compile]

end

/-! ### Where the endpoint is mounted -/

/-- The endpoint has a path of its own, or its type has kept its spelling. -/
def Unmoved (d d' : Definition) : Prop :=
  d'.type = d.type ∨ ∃ path, d.options.path = some path ∧ path ≠ ""

theorem basePath_of_path (i j : Identifier) {path : String} (own : path ≠ "") (stem : String) :
    basePath i (some path) stem = basePath j (some path) stem := by
  unfold basePath
  dsimp only
  split
  · rename_i empty
    exact (own (String.toList_eq_nil_iff.mp empty)).elim
  · rfl
  · rfl

theorem basePath_of_type (i : Identifier) {path : Option String} (none : ∀ p, path = some p → p = "")
    (stem : String) : basePath i path stem = joinPath stem (Text.flatCase i.spelling) := by
  cases path with
  | none => rfl
  | some p =>
    rw [none p rfl]
    rfl

theorem length_joinPath_le (parent child : String) :
    (joinPath parent child).toList.length ≤ parent.toList.length + 1 + child.toList.length := by
  unfold joinPath
  split <;> simp [*] <;> omega

/-- Under the stems of endpoints the raw mark shows in full. -/
theorem length_joinPath_raw (o : Options) (name : String) :
    (joinPath o.stem ("r#" ++ name)).toList.length =
      o.stem.toList.length + 3 + name.toList.length := by
  have text : ("r#" ++ name).toList = 'r' :: '#' :: name.toList := by
    rw [String.toList_append]
    rfl
  have joined : joinPath o.stem ("r#" ++ name) = o.stem ++ "/" ++ ("r#" ++ name) := by
    unfold Options.stem joinPath
    rw [text]
    cases o.admin <;> rfl
  rw [joined, String.toList_append, String.toList_append, text]
  simp
  omega

/-- A base path that is longer by two characters mounts every template elsewhere. -/
theorem joinPath_ne_of_longer {base base' child : String} (mounted : child = "" ∨ Slashed child)
    (longer : base.toList.length + 2 ≤ base'.toList.length) :
    joinPath base' child ≠ joinPath base child := by
  intro same
  rcases mounted with rfl | slashed
  · rw [joinPath_empty, joinPath_empty] at same
    rw [same] at longer
    omega
  · have texts := congrArg String.toList same
    rw [joinPath_toList slashed, joinPath_toList slashed, List.append_cancel_right_eq] at texts
    have lengths := congrArg List.length texts
    have short : (stemOf base).length ≤ base.toList.length := by
      unfold stemOf
      split
      · rw [List.length_dropLast]
        omega
      · exact Nat.le_refl _
    have long : base'.toList.length ≤ (stemOf base').length + 1 := by
      unfold stemOf
      split
      · rw [List.length_dropLast]
        omega
      · exact Nat.le_succ _
    omega

theorem identifier_ext {i j : Identifier} (text : j.text = i.text) (raw : j.raw = i.raw) :
    j = i := by
  cases i
  cases j
  simp_all

section
variable {d d' : Definition}

theorem Definition.Respells.base_of_unmoved (respells : d.Respells d') (unmoved : Unmoved d d') :
    d'.base = d.base := by
  unfold Definition.base
  rw [respells.options]
  rcases unmoved with same | ⟨path, set, own⟩
  · rw [same]
  · rw [set]
    exact basePath_of_path _ _ own _

/-- One of the two base paths is longer by the raw mark, and mounts every template elsewhere. -/
theorem Definition.Respells.joinPath_ne (respells : d.Respells d') (moved : ¬ Unmoved d d')
    {child : String} (mounted : child = "" ∨ Slashed child) :
    joinPath d'.base child ≠ joinPath d.base child := by
  obtain ⟨respelled, pathless⟩ := not_or.mp moved
  have none : ∀ p, d.options.path = some p → p = "" := by
    intro p set
    by_contra own
    exact pathless ⟨p, set, own⟩
  have base : d.base = joinPath d.options.stem (Text.flatCase d.type.spelling) :=
    basePath_of_type d.type none _
  have base' : d'.base = joinPath d.options.stem (Text.flatCase d'.type.spelling) := by
    unfold Definition.base
    rw [respells.options]
    exact basePath_of_type d'.type none _
  have longer : (joinPath d.options.stem (Text.flatCase d.type.text)).toList.length + 2 ≤
      (joinPath d.options.stem (Text.flatCase ("r#" ++ d.type.text))).toList.length := by
    have plain := length_joinPath_le d.options.stem (Text.flatCase d.type.text)
    rw [Text.flatCase_raw, length_joinPath_raw]
    omega
  have differ := joinPath_ne_of_longer mounted longer
  have same := respells.type
  rw [base, base', Identifier.spelling, Identifier.spelling, same]
  cases raw : d.type.raw with
  | false =>
    cases raw' : d'.type.raw with
    | false => exact (respelled (identifier_ext same (raw'.trans raw.symm))).elim
    | true => exact differ
  | true =>
    cases raw' : d'.type.raw with
    | false => exact differ.symm
    | true => exact (respelled (identifier_ext same (raw'.trans raw.symm))).elim

theorem Definition.Respells.joinPath_eq_iff (respells : d.Respells d') {child : String}
    (mounted : child = "" ∨ Slashed child) :
    joinPath d'.base child = joinPath d.base child ↔ Unmoved d d' := by
  constructor
  · intro same
    by_contra moved
    exact respells.joinPath_ne moved mounted same
  · intro unmoved
    rw [respells.base_of_unmoved unmoved]

/-! ### Routes -/

/-- The routes differ at most in where they are mounted and in how the handler is spelled. -/
structure Respelled (d d' : Definition) (r r' : Route) : Prop where
  info : Info.ofRoute r' = { Info.ofRoute r with path := r'.path }
  expression : r'.expression = r.expression
  authorization : r'.authorization = r.authorization
  path : r'.path = r.path ↔ Unmoved d d'

theorem Definition.Respells.route (respells : d.Respells d') {x x' : Declaration}
    (same : x.Respells x') : Respelled d d' (d.route x) (d'.route x') := by
  have pattern := same.pattern
  have verb : x'.verb = x.verb := congrArg (·.verb) same.declared
  have demanded : (d'.route x').authorization = (d.route x).authorization := by
    change demands (x'.handler.loggedUser.or d'.loggedUser) =
      demands (x.handler.loggedUser.or d.loggedUser)
    rw [same.handler.loggedUser, respells.loggedUser]
  have parameters : (x'.template d'.base).parameters = (x.template d.base).parameters := by
    unfold Declaration.template
    rw [pattern]
    rfl
  refine ⟨?_, same.expression d.base d'.base, demanded, ?_⟩
  · rw [Info.ofRoute, Info.ofRoute, Info.mk.injEq]
    exact ⟨congrArg RouteVerb.toVerb verb, rfl, pattern, same.handler.name, parameters,
      congrArg Authorization.allowed demanded, congrArg Authorization.rejected demanded⟩
  · change joinPath d'.base x'.pattern = joinPath d.base x.pattern ↔ _
    rw [pattern]
    exact respells.joinPath_eq_iff (handlerTemplate_slashed _ _)

theorem Definition.Respells.routes (respells : d.Respells d') :
    List.Forall₂ (Respelled d d') d.routes d'.routes := by
  refine List.rel_flatMap (List.forall₂_same.mpr fun v _ => rfl) ?_
  rintro v _ rfl
  rw [List.forall₂_map_left_iff, List.forall₂_map_right_iff]
  exact (respells.declarationsFor v).imp fun _ _ same => respells.route same

end

end EndpointRouting.Route

namespace EndpointRouting.Block
open Route Token

/-! ### Blocks -/

/-- The members say the same of routing, but for how the name of a method is spelled. -/
inductive Member.Respells : Member → Member → Prop
  | method {m m' : Method} (attributes : m'.attributes = m.attributes)
      (takesSelf : m'.takesSelf = m.takesSelf) (name : m'.name.text = m.name.text) :
      Respells (.method m) (.method m')
  | other (trees trees' : List Tree) : Respells (.other trees) (.other trees')

def Member.rawNamed : Member → Member
  | .method m => .method { m with name := { m.name with raw := true } }
  | .other trees => .other trees

theorem Member.respells_rawNamed (m : Member) : m.Respells m.rawNamed := by
  cases m with
  | method m => exact .method rfl rfl rfl
  | other trees => exact .other trees trees

/-- The blocks say the same of routing, but for how the names of the type and of the methods are
spelled. -/
structure Impl.Respells (b b' : Impl) : Prop where
  attributes : b'.attributes = b.attributes
  implements : b'.implements.isSome = b.implements.isSome
  typeName : b'.typeName.map (·.text) = b.typeName.map (·.text)
  members : List.Forall₂ Member.Respells b.members b'.members

/-- The handler that was read, if nothing was wrong. -/
def handlerOf : Except (List BlockError) (Option Handler) → Option Handler
  | .ok h => h
  | .error _ => none

/-- The same is wrong with the members, and if nothing is, they are the same handler or none. -/
theorem Member.Respells.handler {m m' : Member} (respells : m.Respells m') :
    errorsOf m'.handler = errorsOf m.handler ∧
      Option.Rel Handler.Respells (handlerOf m.handler) (handlerOf m'.handler) := by
  cases respells with
  | other trees trees' => exact ⟨rfl, .none⟩
  | @method m m' attributes takesSelf name =>
    have left : (Member.method m).handler = m.handler := rfl
    have right : (Member.method m').handler = m'.handler := rfl
    rw [left, right]
    unfold Method.handler
    rw [attributes, takesSelf]
    dsimp only
    generalize Notes.fail _ _ = n
    split
    · exact ⟨rfl, .none⟩
    · split
      · exact ⟨rfl, .none⟩
      · exact ⟨rfl, .some ⟨name, rfl, rfl⟩⟩

theorem definition_named {b : Impl} {type : Identifier} (named : b.typeName = some type)
    (options : Options) :
    b.definition options =
      let errors := (if b.implements.isSome then [BlockError.implementsTrait] else []) ++
        b.loggedUserNotes.errors ++ (b.members.map (·.handler)).flatMap errorsOf
      if !errors.isEmpty then .error errors
      else .ok {
        type, options
        loggedUser := b.loggedUserNotes.loggedUser
        handlers := (b.members.map (·.handler)).filterMap handlerOf } := by
  rw [Impl.definition, named]
  dsimp only
  congr! with outcome outcome outcome
  all_goals cases outcome <;> rfl

/-- Blocks that respell each other are refused alike or have definitions that do. -/
theorem definition_respells {b b' : Impl} (respells : b.Respells b') (options : Options) :
    (∃ es, b.definition options = .error es ∧ b'.definition options = .error es) ∨
      ∃ d d', b.definition options = .ok d ∧ b'.definition options = .ok d' ∧ d.Respells d' ∧
        b.typeName = some d.type ∧ b'.typeName = some d'.type ∧ d.options = options := by
  have names := respells.typeName
  cases named : b.typeName with
  | none =>
    rw [named, Option.map_none, Option.map_eq_none_iff] at names
    exact .inl ⟨[.unnamedType], by rw [Impl.definition, named], by rw [Impl.definition, names]⟩
  | some type =>
    rw [named, Option.map_some] at names
    obtain ⟨type', named', text⟩ := Option.map_eq_some_iff.mp names
    have notes : b'.loggedUserNotes = b.loggedUserNotes := by
      unfold Impl.loggedUserNotes
      rw [respells.attributes]
    have errors : (b'.members.map (·.handler)).flatMap errorsOf =
        (b.members.map (·.handler)).flatMap errorsOf := by
      have each : b'.members.map (errorsOf ·.handler) = b.members.map (errorsOf ·.handler) :=
        map_eq_of_forall₂ respells.members fun _ _ same => same.handler.1
      rw [List.flatMap_map, List.flatMap_map, List.flatMap_def, List.flatMap_def, each]
    have handlers : List.Forall₂ Handler.Respells
        ((b.members.map (·.handler)).filterMap handlerOf)
        ((b'.members.map (·.handler)).filterMap handlerOf) := by
      rw [List.filterMap_map, List.filterMap_map]
      exact List.rel_filterMap (fun _ _ same => same.handler.2) respells.members
    rw [definition_named named, definition_named named']
    dsimp only
    rw [notes, respells.implements, errors]
    generalize (if b.implements.isSome then [BlockError.implementsTrait] else []) ++
      b.loggedUserNotes.errors ++ (b.members.map (·.handler)).flatMap errorsOf = found
    cases found with
    | cons e es => exact .inl ⟨e :: es, rfl, rfl⟩
    | nil => exact .inr ⟨_, _, rfl, rfl, ⟨text, rfl, rfl, handlers⟩, rfl, named', rfl⟩

end EndpointRouting.Block

namespace EndpointRouting.Route
open Block Http Token

/-- Some names of a block, its type's and its methods', are put in the raw form or out of it. The
block is accepted as before, with as many routes, and each answers to the same verb with the same
pattern, expression, parameters and demands and is told of by the same name. The mapping and the
paths are the same too just if the endpoint has a path of its own or the name of the type was left
alone: the raw mark of a type shows in the base path. -/
theorem respelled_blocks_agree {b b' : Impl} (respells : b.Respells b') (options : Options) :
    (∃ es, b.definition options = .error es ∧ b'.definition options = .error es) ∨
      ∃ d d', b.definition options = .ok d ∧ b'.definition options = .ok d' ∧
        ((∃ t, Table.build d = .ok t) ↔ ∃ t', Table.build d' = .ok t') ∧
        ∀ t t', Table.build d = .ok t → Table.build d' = .ok t' →
          let unmoved := b'.typeName = b.typeName ∨ ∃ path, options.path = some path ∧ path ≠ ""
          (t'.mapping = t.mapping ↔ unmoved) ∧
          List.Forall₂ (fun r r' =>
            Info.ofRoute r' = { Info.ofRoute r with path := r'.path } ∧
            r'.expression = r.expression ∧ r'.authorization = r.authorization ∧
            (r'.path = r.path ↔ unmoved)) t.routes t'.routes := by
  rcases definition_respells respells options with
    refused | ⟨d, d', read, read', same, named, named', own⟩
  · exact .inl refused
  · refine .inr ⟨d, d', read, read', ?_, ?_⟩
    · have accepted : ∀ d : Definition, (∃ t, Table.build d = .ok t) ↔ d.faults = [] := by
        intro d
        rw [build_eq]
        split <;> simp [*]
      rw [accepted, accepted, same.faultless_iff]
    · intro t t' built built'
      obtain ⟨rfl, -⟩ := eq_of_build built
      obtain ⟨rfl, -⟩ := eq_of_build built'
      have unmoved : Unmoved d d' ↔
          (b'.typeName = b.typeName ∨ ∃ path, options.path = some path ∧ path ≠ "") := by
        rw [named, named', Option.some.injEq, ← own]
        rfl
      dsimp only
      rw [← unmoved]
      refine ⟨same.joinPath_eq_iff (.inr ⟨['*'], rfl⟩), same.routes.imp fun r r' respelled => ?_⟩
      exact ⟨respelled.info, respelled.expression, respelled.authorization, respelled.path⟩

/-- The block `halfOpen` with all its names in the raw form. -/
def halfOpenRaw : Impl where
  attributes := []
  modifiers := []
  parameters := []
  implements := none
  type := [.ident ⟨"Tasks", true⟩]
  typeName := some ⟨"Tasks", true⟩
  bounds := []
  members := halfOpen.members.map Member.rawNamed

/-- The raw block has the same two routes, mounted elsewhere. -/
theorem respelled_blocks_agree_halfOpen :
    halfOpen.Respells halfOpenRaw ∧
      ∃ d t, halfOpenRaw.definition {} = .ok d ∧ Table.build d = .ok t ∧
        t.mapping ≠ "/api/tasks/*" ∧
        List.Forall₂ (fun r r' =>
            Info.ofRoute r' = { Info.ofRoute r with path := r'.path } ∧ r'.path ≠ r.path)
          [showRoute, mineRoute] t.routes := by
  have respells : halfOpen.Respells halfOpenRaw :=
    ⟨rfl, rfl, rfl, List.forall₂_map_right_iff.mpr (List.forall₂_same.mpr fun m _ =>
      m.respells_rawNamed)⟩
  have read : halfOpen.definition {} = .ok halfOpenDefinition := by decide +kernel
  have built : Table.build halfOpenDefinition = .ok ⟨"/api/tasks", [showRoute, mineRoute]⟩ := by
    decide +kernel
  have moved : ¬ (halfOpenRaw.typeName = halfOpen.typeName ∨
      ∃ path, ({} : Options).path = some path ∧ path ≠ "") := by
    rintro (same | ⟨path, set, -⟩)
    · exact absurd same (by decide)
    · cases set
  obtain ⟨es, refused, -⟩ | ⟨d, d', own, read', accepted, agree⟩ :=
    respelled_blocks_agree respells {}
  · rw [read] at refused
    cases refused
  · obtain rfl : halfOpenDefinition = d := Except.ok.inj (read.symm.trans own)
    obtain ⟨t', built'⟩ := accepted.mp ⟨_, built⟩
    obtain ⟨mapping, routes⟩ := agree _ t' built built'
    refine ⟨respells, d', t', read', built', fun same => moved (mapping.mp same), ?_⟩
    exact routes.imp fun r r' ⟨info, _, _, path⟩ => ⟨info, fun same => moved (path.mp same)⟩

end EndpointRouting.Route
