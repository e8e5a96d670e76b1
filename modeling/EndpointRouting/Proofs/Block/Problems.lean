import EndpointRouting.Proofs.Block.Attributes
import EndpointRouting.Proofs.Route.Declarations

/-!
# What is wrong with a block

Each part of a block has its problems: the block itself, its type, its attributes, and each method
with its attributes. `definition_reports_all_iff` says that a block is accepted just if no part has
any, and that its errors are the problems of all parts in order, with one exception: of a block
whose type has no name nothing else is reported.
-/

namespace EndpointRouting.Block
open Grammar Http Route Token

/-! ### What attributes say -/

def rolesOf? (a : Attribute) : Option LoggedUser := (readLoggedUser a.form).toOption

/-- The roles of the last attribute that lists any, if they can be read. -/
def latestRoles (as : List Attribute) : Option LoggedUser :=
  (roleAttributes as).getLast?.bind rolesOf?

def declared (as : List Attribute) : List VerbDeclaration :=
  (verbAttributes as).filterMap fun x => (readVerb x.1 x.2.form).toOption

def errorsOf {ε α : Type} : Except (List ε) α → List ε
  | .error es => es
  | .ok _ => []

/-- What is wrong with an attribute behind earlier ones. One that lists roles is a duplicate when
roles could be read off the last one before it. -/
def attributeProblems (earlier : List Attribute) (a : Attribute) : List BlockError :=
  if isLoggedUser a then
    (if (latestRoles earlier).isSome then [.duplicateLoggedUser] else []) ++
      errorsOf (readLoggedUser a.form)
  else match verbOf a with
    | some v => errorsOf ((readVerb v a.form).mapError ([·]))
    | none => []

def attributesProblems (as : List Attribute) : List BlockError :=
  (withEarlier [] as).flatMap fun (earlier, a) => attributeProblems earlier a

/-- What is wrong with a method beside its attributes. -/
def Method.misuse (m : Method) : List BlockError :=
  if declared m.attributes = [] then
    if (latestRoles m.attributes).isSome then [.strayLoggedUser] else []
  else if m.takesSelf then [] else [.noReceiver]

def Method.problems (m : Method) : List BlockError := attributesProblems m.attributes ++ m.misuse

/-- Everything that is wrong with a block, in order: the trait, the type, the roles of the block,
each method. -/
def Impl.problems (b : Impl) : List BlockError :=
  (if b.implements.isSome then [.implementsTrait] else []) ++
    (if b.typeName.isNone then [.unnamedType] else []) ++
    attributesProblems (roleAttributes b.attributes) ++ b.methods.flatMap Method.problems

theorem isSome_latestRoles_iff (as : List Attribute) :
    (latestRoles as).isSome ↔
      ∃ x u, (roleAttributes as).getLast? = some x ∧ readLoggedUser x.form = .ok u := by
  unfold latestRoles rolesOf?
  cases (roleAttributes as).getLast? with
  | none => simp
  | some x => cases read : readLoggedUser x.form <;> simp [read, Except.toOption]

/-- An attribute that lists roles is a duplicate just if the last one before it could be read. -/
theorem duplicate_mem_iff {earlier : List Attribute} {a : Attribute}
    (lists : isLoggedUser a = true) :
    .duplicateLoggedUser ∈ attributeProblems earlier a ↔
      ∃ x u, (roleAttributes earlier).getLast? = some x ∧ readLoggedUser x.form = .ok u := by
  have own : .duplicateLoggedUser ∉ errorsOf (readLoggedUser a.form) := by
    cases read : readLoggedUser a.form with
    | ok _ => simp [errorsOf]
    | error es => exact (readLoggedUser_error read).2
  rw [← isSome_latestRoles_iff, attributeProblems, if_pos lists, List.mem_append,
    or_iff_left own]
  split <;> simp [*]

/-! ### One more attribute -/

section
variable (as : List Attribute) (a : Attribute)

theorem latestRoles_concat :
    latestRoles (as ++ [a]) = if isLoggedUser a then rolesOf? a else latestRoles as := by
  unfold latestRoles
  rw [roleAttributes_concat]
  split
  · rw [List.getLast?_concat, Option.bind_some]
  · rw [List.append_nil]

theorem declared_concat :
    declared (as ++ [a]) = declared as ++
      ((verbOf a).bind fun v => (readVerb v a.form).toOption).toList := by
  unfold declared
  rw [verbAttributes_concat, List.filterMap_append]
  cases verbOf a with
  | none => rfl
  | some v => cases read : readVerb v a.form <;> simp [read, Except.toOption]

theorem attributesProblems_concat :
    attributesProblems (as ++ [a]) = attributesProblems as ++ attributeProblems as a := by
  unfold attributesProblems
  rw [withEarlier_append, List.flatMap_append]
  simp [withEarlier]

end

/-- The notes say what the attributes say, and what is wrong with them. -/
structure Notes.Records (n : Notes) (as : List Attribute) : Prop where
  errors : n.errors = attributesProblems as
  roles : n.loggedUser = latestRoles as
  verbs : n.verbs = declared as

section
variable {n : Notes} {as : List Attribute} {a : Attribute}

theorem records_addLoggedUser (h : n.Records as) (lists : isLoggedUser a = true) :
    (n.addLoggedUser a).Records (as ++ [a]) := by
  have undeclared : declared (as ++ [a]) = declared as := by
    rw [declared_concat, verbOf_of_isLoggedUser lists]
    exact List.append_nil _
  have roles : latestRoles (as ++ [a]) = rolesOf? a := by rw [latestRoles_concat, if_pos lists]
  have problems : attributesProblems (as ++ [a]) = n.errors ++
      ((if n.loggedUser.isSome then [.duplicateLoggedUser] else []) ++
        errorsOf (readLoggedUser a.form)) := by
    rw [attributesProblems_concat, attributeProblems, if_pos lists, ← h.errors, ← h.roles]
  unfold Notes.addLoggedUser
  rw [rolesOf?] at roles
  cases read : readLoggedUser a.form with
  | ok u =>
    rw [read] at roles problems
    refine ⟨?_, roles.symm, ?_⟩
    · rw [problems]
      cases known : n.loggedUser <;> simp [known, Notes.fail, errorsOf]
    · rw [undeclared, ← h.verbs]
      cases known : n.loggedUser <;> simp [known, Notes.fail]
  | error es =>
    rw [read] at roles problems
    refine ⟨?_, roles.symm, ?_⟩
    · rw [problems]
      cases known : n.loggedUser <;> simp [known, Notes.fail, errorsOf]
    · rw [undeclared, ← h.verbs]
      cases known : n.loggedUser <;> simp [known, Notes.fail]

theorem records_add (h : n.Records as) (a : Attribute) : (n.add a).Records (as ++ [a]) := by
  unfold Notes.add
  by_cases lists : isLoggedUser a = true
  · rw [if_pos lists]
    exact records_addLoggedUser h lists
  · rw [if_neg lists]
    have roles : latestRoles (as ++ [a]) = latestRoles as := by
      rw [latestRoles_concat, if_neg lists]
    cases declares : verbOf a with
    | none =>
      refine ⟨?_, h.roles.trans roles.symm, ?_⟩
      · simp [attributesProblems_concat, attributeProblems, lists, declares, h.errors]
      · simp [declared_concat, declares, h.verbs]
    | some v =>
      dsimp only [Notes.addVerb]
      cases read : readVerb v a.form with
      | ok d =>
        refine ⟨?_, h.roles.trans roles.symm, ?_⟩
        · simp [attributesProblems_concat, attributeProblems, lists, declares, read, errorsOf,
            Except.mapError, h.errors]
        · simp [declared_concat, declares, read, Except.toOption, h.verbs]
      | error e =>
        refine ⟨?_, h.roles.trans roles.symm, ?_⟩
        · simp [attributesProblems_concat, attributeProblems, lists, declares, read, errorsOf,
            Except.mapError, h.errors, Notes.fail]
        · simp [declared_concat, declares, read, Except.toOption, h.verbs, Notes.fail]

theorem records_foldl (h : n.Records as) (more : List Attribute) :
    (more.foldl Notes.add n).Records (as ++ more) := by
  induction more generalizing n as with
  | nil => simpa using h
  | cons a rest ih => simpa using ih (records_add h a)

end

theorem records_attributes (as : List Attribute) : (as.foldl Notes.add {}).Records as := by
  have first : Notes.Records {} [] := ⟨rfl, rfl, rfl⟩
  exact records_foldl first as

/-- The notes of a block are those of its attributes that list roles. -/
theorem records_block (b : Impl) : b.loggedUserNotes.Records (roleAttributes b.attributes) := by
  have same : b.loggedUserNotes = (roleAttributes b.attributes).foldl Notes.add {} := by
    unfold Impl.loggedUserNotes
    change (roleAttributes b.attributes).foldl _ _ = _
    apply List.foldl_ext
    intro n a member
    rw [Notes.add, if_pos (List.mem_filter.mp member).2]
  rw [same]
  exact records_attributes _

/-! ### Methods and blocks -/

theorem errorsOf_unless {ε α : Type} (es : List ε) {x : Except (List ε) α} (fine : errorsOf x = []) :
    errorsOf (if !es.isEmpty then .error es else x) = es := by
  cases es with
  | nil => exact fine
  | cons _ _ => rfl

theorem errorsOf_handler (m : Method) : errorsOf m.handler = m.problems := by
  have records := records_attributes m.attributes
  unfold Method.handler
  generalize m.attributes.foldl Notes.add {} = n at records
  have misused : (if n.verbs.isEmpty then n.loggedUser.map fun _ => BlockError.strayLoggedUser
      else if m.takesSelf then none else some .noReceiver).toList = m.misuse := by
    rw [Method.misuse, ← records.roles, ← records.verbs]
    cases n.verbs with
    | nil => cases n.loggedUser <;> rfl
    | cons _ _ => cases m.takesSelf <;> rfl
  dsimp only
  rw [misused, errorsOf_unless]
  · rw [Notes.fail, records.errors, Method.problems]
  · split <;> rfl

theorem errorsOf_members (b : Impl) :
    b.members.flatMap (fun m => errorsOf m.handler) = b.methods.flatMap Method.problems := by
  unfold Impl.methods
  induction b.members with
  | nil => rfl
  | cons m rest ih =>
    rw [List.flatMap_cons, ih]
    cases m with
    | other _ => rfl
    | method m =>
      have own : errorsOf (Member.method m).handler = m.problems := errorsOf_handler m
      rw [own]
      rfl

/-- What a block reports is what is wrong with it, if its type has a name. -/
theorem errorsOf_definition {b : Impl} {type : Identifier} (named : b.typeName = some type)
    (options : Options) : errorsOf (b.definition options) = b.problems := by
  -- The type has a name, so that its problem, which stands second, is none.
  have gathered : (if b.implements.isSome then [BlockError.implementsTrait] else []) ++
      b.loggedUserNotes.errors ++ (b.members.map (·.handler)).flatMap errorsOf = b.problems := by
    rw [List.flatMap_map, errorsOf_members, (records_block b).errors, Impl.problems, named]
    simp
  unfold Impl.definition
  rw [named]
  dsimp only
  rw [errorsOf_unless _ rfl, ← gathered]
  congr 2
  funext outcome
  cases outcome <;> rfl

theorem definition_unnamed {b : Impl} (unnamed : b.typeName = none) (options : Options) :
    b.definition options = .error [.unnamedType] := by
  rw [Impl.definition, unnamed]

theorem definition_error {b : Impl} {options : Options} {es : List BlockError}
    (failed : b.definition options = .error es) : es ≠ [] := by
  unfold Impl.definition at failed
  split at failed
  · cases failed
    simp
  · rcases unless_errors_error failed with faulty | failed
    · exact faulty
    · cases failed

theorem unnamedType_mem_problems {b : Impl} (unnamed : b.typeName = none) :
    .unnamedType ∈ b.problems := by
  simp [Impl.problems, unnamed]

theorem mem_attributesProblems {as : List Attribute} {a : Attribute} {e : BlockError}
    (member : a ∈ as) (wrong : ∀ earlier, e ∈ attributeProblems earlier a) :
    e ∈ attributesProblems as := by
  obtain ⟨before, after, rfl⟩ := List.append_of_mem member
  unfold attributesProblems
  rw [withEarlier_append, List.flatMap_append]
  apply List.mem_append_right
  simp [withEarlier, wrong]

theorem mem_problems_of_method {b : Impl} {m : Method} (member : m ∈ b.methods) {e : BlockError}
    (wrong : e ∈ m.problems) : e ∈ b.problems :=
  List.mem_append_right _ (List.mem_flatMap.mpr ⟨m, member, wrong⟩)

theorem exists_definition_iff (b : Impl) (options : Options) :
    (∃ d, b.definition options = .ok d) ↔ b.problems = [] := by
  cases named : b.typeName with
  | none =>
    rw [definition_unnamed named]
    refine ⟨fun ⟨_, accepted⟩ => (nomatch accepted), fun faultless => ?_⟩
    have problem := unnamedType_mem_problems named
    rw [faultless] at problem
    cases problem
  | some type =>
    have reported := errorsOf_definition named options
    constructor
    · rintro ⟨d, accepted⟩
      rw [← reported, accepted]
      rfl
    · intro faultless
      cases outcome : b.definition options with
      | ok d => exact ⟨d, rfl⟩
      | error es =>
        rw [outcome, faultless] at reported
        exact absurd reported (definition_error outcome)

theorem definition_eq_problems_iff (b : Impl) (options : Options) :
    b.definition options = .error b.problems ↔
      b.problems ≠ [] ∧ (b.typeName = none → b.problems = [.unnamedType]) := by
  constructor
  · intro failed
    refine ⟨definition_error failed, fun unnamed => ?_⟩
    rw [definition_unnamed unnamed] at failed
    exact (Except.error.inj failed).symm
  · rintro ⟨faulty, only⟩
    cases named : b.typeName with
    | none => rw [definition_unnamed named, only named]
    | some type =>
      have reported := errorsOf_definition named options
      cases outcome : b.definition options with
      | ok d =>
        rw [outcome] at reported
        exact absurd reported.symm faulty
      | error es =>
        rw [outcome] at reported
        rw [← reported]
        rfl

/-- A block is accepted just if nothing is wrong with any part of it. Otherwise its errors are all
problems of all its parts, in order, just if its type has a name or nothing else is wrong; without
a name for the type, that is all the errors say. The problems of a method are the errors of its
handler. An attribute that lists roles behind others is a duplicate just if the last of them could
be read. -/
theorem definition_reports_all_iff (b : Impl) (options : Options) :
    ((∃ d, b.definition options = .ok d) ↔ b.problems = []) ∧
    (b.definition options = .error b.problems ↔
      b.problems ≠ [] ∧ (b.typeName = none → b.problems = [.unnamedType])) ∧
    (b.typeName = none → b.definition options = .error [.unnamedType]) ∧
    (∀ m ∈ b.methods, m.problems = errorsOf m.handler) ∧
    ∀ earlier a, isLoggedUser a = true →
      (.duplicateLoggedUser ∈ attributeProblems earlier a ↔
        ∃ x u, (roleAttributes earlier).getLast? = some x ∧ readLoggedUser x.form = .ok u) :=
  ⟨exists_definition_iff b options, definition_eq_problems_iff b options,
    fun unnamed => definition_unnamed unnamed options, fun m _ => (errorsOf_handler m).symm,
    fun _ _ lists => duplicate_mem_iff lists⟩

/-- A trait is implemented for a type without a name, and an attribute cannot be read. -/
def misplaced : Impl where
  attributes := [⟨false, [.ident ⟨"logged_user", false⟩], .value []⟩]
  modifiers := []
  parameters := []
  implements := some [.ident ⟨"Handler", false⟩, .ident ⟨"for", false⟩]
  type := [.group .bracket [.ident ⟨"Tasks", false⟩]]
  typeName := none
  bounds := []
  members := [.method {
    attributes := [⟨false, [.ident ⟨"get", false⟩], .value []⟩]
    name := ⟨"show", false⟩
    takesSelf := true
    head := []
    body := [] }]

/-- Of four problems one is reported. -/
theorem definition_reports_all_iff_misplaced :
    misplaced.problems = [.implementsTrait, .unnamedType, .valueLoggedUser, .valueVerb .get] ∧
    misplaced.definition {} = .error [.unnamedType] ∧
    misplaced.definition {} ≠ .error misplaced.problems := by
  have problems :
      misplaced.problems = [.implementsTrait, .unnamedType, .valueLoggedUser, .valueVerb .get] := by
    decide +kernel
  obtain ⟨-, all, unnamed, -⟩ := definition_reports_all_iff misplaced {}
  refine ⟨problems, unnamed rfl, ?_⟩
  intro reported
  have only := (all.mp reported).2 rfl
  rw [problems] at only
  cases only

end EndpointRouting.Block
