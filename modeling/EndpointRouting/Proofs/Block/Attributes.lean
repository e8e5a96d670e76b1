import EndpointRouting.Block.Definition
import EndpointRouting.Proofs.Outcome
import Mathlib.Data.List.Forall2

/-!
# The attributes of an accepted block

Notes keep the latest roles only, and forget them when an attribute cannot be read; a second
attribute is then no duplicate any more. The errors make up for it: notes without an error cover
every routing attribute, so a block that is accepted lists roles at most once at each place.
-/

namespace EndpointRouting.Block
open Grammar Http Route Token

/-- The attributes that list roles. -/
def roleAttributes (as : List Attribute) : List Attribute := as.filter isLoggedUser

/-- The attributes that declare a verb, each behind its verb. -/
def verbAttributes (as : List Attribute) : List (RouteVerb × Attribute) :=
  as.filterMap fun a => (verbOf a).map (·, a)

/-- The roles that attributes list: none, or those of the only attribute that lists any. -/
inductive ListsRoles (as : List Attribute) : Option LoggedUser → Prop
  | none (unlisted : roleAttributes as = []) : ListsRoles as none
  | some {a : Attribute} {u : LoggedUser} (only : roleAttributes as = [a])
      (read : readLoggedUser a.form = .ok u) : ListsRoles as (some u)

/-- What attributes declare, one declaration for each that declares a verb. -/
def Declares (as : List Attribute) (ds : List VerbDeclaration) : Prop :=
  List.Forall₂ (fun x d => readVerb x.1 x.2.form = .ok d) (verbAttributes as) ds

/-- Nothing that the attributes say is missing from the notes. -/
structure Notes.Covers (n : Notes) (as : List Attribute) : Prop where
  roles : ListsRoles as n.loggedUser
  verbs : Declares as n.verbs

theorem ListsRoles.length_le {as : List Attribute} {roles : Option LoggedUser}
    (h : ListsRoles as roles) : (roleAttributes as).length ≤ 1 := by
  cases h with
  | none unlisted => simp [unlisted]
  | some only => simp [only]

theorem verbOf_of_isLoggedUser {a : Attribute} (lists : isLoggedUser a = true) :
    verbOf a = none := by
  unfold isLoggedUser Attribute.isNamed at lists
  unfold verbOf
  cases named : a.name? with
  | none => rfl
  | some i =>
    rw [named] at lists
    have spelled : i.spelling = "logged_user" := by simpa using lists
    rw [Option.bind_some, spelled]
    rfl

theorem roleAttributes_concat (as : List Attribute) (a : Attribute) :
    roleAttributes (as ++ [a]) = roleAttributes as ++ if isLoggedUser a then [a] else [] := by
  rw [roleAttributes, List.filter_append, List.filter_singleton]
  cases isLoggedUser a <;> rfl

theorem verbAttributes_concat (as : List Attribute) (a : Attribute) :
    verbAttributes (as ++ [a]) = verbAttributes as ++ ((verbOf a).map (·, a)).toList := by
  rw [verbAttributes, List.filterMap_append]
  cases declares : verbOf a <;> simp [verbAttributes, declares]

/-! ### Errors of one attribute -/

/-- Errors of reading one attribute: there are some, and none is about another attribute. -/
def OwnErrors (es : List BlockError) : Prop := es ≠ [] ∧ .duplicateLoggedUser ∉ es

theorem ownErrors_unread (f : Fault) : OwnErrors [.unread f] := by simp [OwnErrors]

theorem ownErrors_roleErrors {o : RoleOption} {roles : List String}
    (faulty : ¬ (roleErrors o roles).isEmpty = true) : OwnErrors (roleErrors o roles) := by
  refine ⟨by simpa using faulty, ?_⟩
  unfold roleErrors
  split <;> simp

theorem roleOption_error {ts : List Tree} {es : List BlockError}
    (unread : roleOption ts = .error es) : OwnErrors es := by
  unfold roleOption at unread
  rcases bind_error unread with failed | ⟨⟨name, rest⟩, -, unread⟩
  · obtain ⟨_, rfl⟩ := mapError_error failed
    exact ownErrors_unread _
  · dsimp only at unread
    split at unread
    · cases unread
      simp [OwnErrors]
    · split at unread
      · cases unread
        simp [OwnErrors]
      · split at unread
        · cases unread
          exact ownErrors_unread _
        · rcases bind_error unread with failed | ⟨roles, -, unread⟩
          · obtain ⟨_, rfl⟩ := mapError_error failed
            exact ownErrors_unread _
          · split at unread
            · cases unread
            · rename_i faulty
              cases unread
              exact ownErrors_roleErrors faulty

theorem roleOptions_error {fuel : Nat} {u : LoggedUser} {ts : List Tree} {es : List BlockError}
    (unread : roleOptions fuel u ts = .error es) : OwnErrors es := by
  induction fuel generalizing u ts with
  | zero => cases unread
  | succ fuel ih =>
    cases ts with
    | nil => cases unread
    | cons t ts =>
      unfold roleOptions at unread
      rcases bind_error unread with failed | ⟨⟨o, rest⟩, -, unread⟩
      · exact roleOption_error failed
      · dsimp only at unread
        split at unread
        · cases unread
        · rcases bind_error unread with failed | ⟨more, -, unread⟩
          · obtain ⟨_, rfl⟩ := mapError_error failed
            exact ownErrors_unread _
          · exact ih unread

/-- An attribute that cannot be read has errors of its own. -/
theorem readLoggedUser_error {form : AttributeForm} {es : List BlockError}
    (unread : readLoggedUser form = .error es) : OwnErrors es := by
  cases form with
  | bare => cases unread
  | value _ =>
    cases unread
    simp [OwnErrors]
  | list _ content => exact roleOptions_error unread

/-! ### One more attribute -/

section
variable {n : Notes} {as : List Attribute} {a : Attribute} {v : RouteVerb}

theorem fail_errors_eq_nil {es : List BlockError} (clean : (n.fail es).errors = []) :
    n.errors = [] ∧ es = [] := List.append_eq_nil_iff.mp clean

/-- Roles noted without an error are the first ones, and could be read. -/
theorem addLoggedUser_clean (clean : (n.addLoggedUser a).errors = []) :
    n.errors = [] ∧ n.loggedUser = none ∧
      ∃ u, readLoggedUser a.form = .ok u ∧ n.addLoggedUser a = { n with loggedUser := some u } := by
  unfold Notes.addLoggedUser at clean ⊢
  cases known : n.loggedUser with
  | some _ =>
    simp only [known, Option.isSome_some, if_true] at clean
    split at clean
    · exact absurd (fail_errors_eq_nil clean).2 (by simp)
    · exact absurd (fail_errors_eq_nil (fail_errors_eq_nil clean).1).2 (by simp)
  | none =>
    simp only [known, Option.isSome_none, Bool.false_eq_true, if_false] at clean ⊢
    cases read : readLoggedUser a.form with
    | ok u =>
      rw [read] at clean
      exact ⟨clean, trivial, u, rfl, rfl⟩
    | error es =>
      rw [read] at clean
      exact absurd (fail_errors_eq_nil clean).2 (readLoggedUser_error read).1

theorem addVerb_clean (clean : (n.addVerb v a).errors = []) :
    n.errors = [] ∧
      ∃ d, readVerb v a.form = .ok d ∧ n.addVerb v a = { n with verbs := n.verbs ++ [d] } := by
  unfold Notes.addVerb at clean ⊢
  cases read : readVerb v a.form with
  | ok d =>
    rw [read] at clean
    exact ⟨clean, d, rfl, rfl⟩
  | error e =>
    rw [read] at clean
    exact absurd (fail_errors_eq_nil clean).2 (by simp)

theorem listsRoles_concat (unlisted : ListsRoles as none) (lists : isLoggedUser a = true)
    {u : LoggedUser} (read : readLoggedUser a.form = .ok u) : ListsRoles (as ++ [a]) (some u) := by
  obtain ⟨unlisted⟩ := unlisted
  refine .some (a := a) ?_ read
  rw [roleAttributes_concat, unlisted, if_pos lists, List.nil_append]

theorem listsRoles_concat_other {roles : Option LoggedUser} (h : ListsRoles as roles)
    (other : ¬ isLoggedUser a = true) : ListsRoles (as ++ [a]) roles := by
  have same : roleAttributes (as ++ [a]) = roleAttributes as := by
    rw [roleAttributes_concat, if_neg other, List.append_nil]
  cases h with
  | none unlisted => exact .none (same.trans unlisted)
  | some only read => exact .some (same.trans only) read

theorem declares_concat {ds : List VerbDeclaration} {d : VerbDeclaration} (h : Declares as ds)
    (declares : verbOf a = some v) (read : readVerb v a.form = .ok d) :
    Declares (as ++ [a]) (ds ++ [d]) := by
  rw [Declares, verbAttributes_concat, declares]
  exact List.rel_append h (.cons read .nil)

theorem declares_concat_other {ds : List VerbDeclaration} (h : Declares as ds)
    (other : verbOf a = none) : Declares (as ++ [a]) ds := by
  rw [Declares, verbAttributes_concat, other, Option.map_none, Option.toList_none, List.append_nil]
  exact h

/-- One more attribute is covered, unless it leaves an error. -/
theorem covers_add (h : n.errors = [] → n.Covers as) (clean : (n.add a).errors = []) :
    n.errors = [] ∧ (n.add a).Covers (as ++ [a]) := by
  unfold Notes.add at clean ⊢
  by_cases lists : isLoggedUser a = true
  · rw [if_pos lists] at clean ⊢
    obtain ⟨before, first, u, read, added⟩ := addLoggedUser_clean clean
    obtain ⟨roles, verbs⟩ := h before
    rw [added]
    exact ⟨before, listsRoles_concat (first ▸ roles) lists read,
      declares_concat_other verbs (verbOf_of_isLoggedUser lists)⟩
  · rw [if_neg lists] at clean ⊢
    cases declares : verbOf a with
    | some v =>
      simp only [declares] at clean ⊢
      obtain ⟨before, d, read, added⟩ := addVerb_clean clean
      obtain ⟨roles, verbs⟩ := h before
      rw [added]
      exact ⟨before, listsRoles_concat_other roles lists, declares_concat verbs declares read⟩
    | none =>
      simp only [declares] at clean ⊢
      obtain ⟨roles, verbs⟩ := h clean
      exact ⟨clean, listsRoles_concat_other roles lists, declares_concat_other verbs declares⟩

theorem covers_foldl (h : n.errors = [] → n.Covers as) (more : List Attribute)
    (clean : (more.foldl Notes.add n).errors = []) :
    (more.foldl Notes.add n).Covers (as ++ more) := by
  suffices both : n.errors = [] ∧ (more.foldl Notes.add n).Covers (as ++ more) from both.2
  induction more generalizing n as with
  | nil => exact ⟨clean, by simpa using h clean⟩
  | cons a rest ih =>
    obtain ⟨clean', covers⟩ := ih (fun clean => (covers_add h clean).2) clean
    exact ⟨(covers_add h clean').1, by simpa using covers⟩

/-- Of a block only the attributes that list roles are noted. -/
theorem listsRoles_foldl (h : n.errors = [] → ListsRoles as n.loggedUser) (more : List Attribute)
    (clean : ((more.filter isLoggedUser).foldl Notes.addLoggedUser n).errors = []) :
    ListsRoles (as ++ more)
      ((more.filter isLoggedUser).foldl Notes.addLoggedUser n).loggedUser := by
  suffices both : n.errors = [] ∧ ListsRoles (as ++ more)
      ((more.filter isLoggedUser).foldl Notes.addLoggedUser n).loggedUser from both.2
  induction more generalizing n as with
  | nil => exact ⟨clean, by simpa using h clean⟩
  | cons a rest ih =>
    by_cases lists : isLoggedUser a = true
    · rw [List.filter_cons_of_pos lists, List.foldl_cons] at clean ⊢
      have step (clean : (n.addLoggedUser a).errors = []) :
          n.errors = [] ∧ ListsRoles (as ++ [a]) (n.addLoggedUser a).loggedUser := by
        obtain ⟨before, first, u, read, added⟩ := addLoggedUser_clean clean
        rw [added]
        exact ⟨before, listsRoles_concat (first ▸ h before) lists read⟩
      obtain ⟨clean', listed⟩ := ih (fun clean => (step clean).2) clean
      exact ⟨(step clean').1, by simpa using listed⟩
    · rw [List.filter_cons_of_neg lists] at clean ⊢
      obtain ⟨clean', listed⟩ := ih (fun clean => listsRoles_concat_other (h clean) lists) clean
      exact ⟨clean', by simpa using listed⟩

end

/-! ### Methods and blocks -/

def Member.method? : Member → Option Method
  | method m => some m
  | other _ => none

/-- The methods of a block, in order. -/
def Impl.methods (b : Impl) : List Method := b.members.filterMap Member.method?

/-- The handler is what the attributes of the method say. -/
structure Describes (m : Method) (h : Handler) : Prop where
  name : h.name = m.name
  roles : ListsRoles m.attributes h.loggedUser
  verbs : Declares m.attributes h.verbs

/-- A method without an error is a handler if it has a verb attribute; if it has none, it lists no
roles either. -/
theorem handler_of_method {m : Method} {h : Option Handler} (read : m.handler = .ok h) :
    (verbAttributes m.attributes = [] ∧ roleAttributes m.attributes = [] ∧ h = none) ∨
      verbAttributes m.attributes ≠ [] ∧ ∃ handler, h = some handler ∧ Describes m handler := by
  have first : Notes.Covers {} [] := ⟨.none rfl, .nil⟩
  have covered := covers_foldl (fun _ => first) m.attributes
  rw [List.nil_append] at covered
  unfold Method.handler at read
  dsimp only at read
  generalize m.attributes.foldl Notes.add {} = n at read covered
  obtain ⟨clean, read⟩ := unless_errors_ok read
  obtain ⟨clean, faultless⟩ := fail_errors_eq_nil clean
  obtain ⟨roles, verbs⟩ := covered clean
  change (if n.verbs.isEmpty then _ else
    Except.ok (some (Handler.mk m.name n.verbs n.loggedUser))) = _ at read
  cases listed : n.verbs with
  | nil =>
    rw [listed] at faultless read
    cases read
    have unlisted : n.loggedUser = none := by simpa using faultless
    rw [unlisted] at roles
    rw [Declares, listed, List.forall₂_nil_right_iff] at verbs
    obtain ⟨unlisted⟩ := roles
    exact .inl ⟨verbs, unlisted, rfl⟩
  | cons d ds =>
    rw [listed] at read
    cases read
    refine .inr ⟨?_, _, rfl, rfl, roles, listed ▸ verbs⟩
    intro undeclared
    rw [Declares, undeclared, listed] at verbs
    cases verbs

theorem handler_error {m : Member} {es : List BlockError} (failed : m.handler = .error es) :
    es ≠ [] := by
  cases m with
  | other _ => cases failed
  | method m =>
    change m.handler = _ at failed
    unfold Method.handler at failed
    dsimp only at failed
    generalize Option.toList _ = faults at failed
    rcases unless_errors_error failed with faulty | failed
    · exact faulty
    · split at failed <;> cases failed

/-- The methods with a verb attribute, in order. -/
def Impl.routed (b : Impl) : List Method :=
  b.methods.filter fun m => !(verbAttributes m.attributes).isEmpty

/-- Roles are listed at most once, and beside a verb attribute. -/
structure Method.Orderly (m : Method) : Prop where
  once : (roleAttributes m.attributes).length ≤ 1
  routed : roleAttributes m.attributes ≠ [] → verbAttributes m.attributes ≠ []

/-- What an accepted block has become: a handler for each method with a verb attribute. -/
structure Impl.Reads (b : Impl) (d : Definition) : Prop where
  roles : ListsRoles b.attributes d.loggedUser
  orderly : ∀ m ∈ b.methods, m.Orderly
  handlers : List.Forall₂ Describes b.routed d.handlers

theorem orderly_of_readable {ms : List Member} (readable : ∀ m ∈ ms, ∃ h, m.handler = .ok h) :
    ∀ m ∈ ms.filterMap Member.method?, m.Orderly := by
  intro m member
  obtain ⟨member', present, found⟩ := List.mem_filterMap.mp member
  cases member' with
  | other _ => cases found
  | method m' =>
    cases found
    obtain ⟨h, read⟩ := readable _ present
    rcases handler_of_method read with ⟨-, unlisted, -⟩ | ⟨declared, _, -, describes⟩
    · exact ⟨by simp [unlisted], fun listed => absurd unlisted listed⟩
    · exact ⟨describes.roles.length_le, fun _ => declared⟩

theorem handlers_of_readable {ms : List Member} (readable : ∀ m ∈ ms, ∃ h, m.handler = .ok h) :
    List.Forall₂ Describes
      ((ms.filterMap Member.method?).filter fun m => !(verbAttributes m.attributes).isEmpty)
      (ms.filterMap fun m => m.handler.toOption.join) := by
  induction ms with
  | nil => exact .nil
  | cons m rest ih =>
    have later := ih fun m member => readable m (List.mem_cons_of_mem _ member)
    obtain ⟨h, read⟩ := readable m List.mem_cons_self
    rw [List.filterMap_cons, List.filterMap_cons, read]
    cases m with
    | other _ =>
      cases read
      exact later
    | method m =>
      rcases handler_of_method read with ⟨undeclared, -, rfl⟩ | ⟨declared, handler, rfl, describes⟩
      · simpa [Member.method?, undeclared, Except.toOption] using later
      · simpa [Member.method?, declared, Except.toOption] using ⟨describes, later⟩

theorem reads_of_definition {b : Impl} {options : Options} {d : Definition}
    (read : b.definition options = .ok d) : b.Reads d := by
  unfold Impl.definition at read
  split at read
  · cases read
  · dsimp only at read
    obtain ⟨clean, read⟩ := unless_errors_ok read
    cases read
    rw [List.append_eq_nil_iff, List.append_eq_nil_iff, List.flatMap_eq_nil_iff] at clean
    obtain ⟨⟨-, noted⟩, handlers⟩ := clean
    have readable : ∀ m ∈ b.members, ∃ h, m.handler = .ok h := by
      intro m member
      have clean := handlers _ (List.mem_map_of_mem member)
      cases read : m.handler with
      | ok h => exact ⟨h, rfl⟩
      | error es =>
        rw [read] at clean
        exact absurd clean (handler_error read)
    have first : ListsRoles [] (Notes.loggedUser {}) := .none rfl
    have roles : ListsRoles b.attributes b.loggedUserNotes.loggedUser :=
      listsRoles_foldl (fun _ => first) b.attributes noted
    refine ⟨roles, orderly_of_readable readable, ?_⟩
    have handled : List.Forall₂ Describes b.routed
        (b.members.filterMap fun m => m.handler.toOption.join) := handlers_of_readable readable
    convert handled using 1
    dsimp only
    rw [List.filterMap_map]
    congr 1
    funext m
    dsimp only [Function.comp_apply]
    cases m.handler <;> rfl

end EndpointRouting.Block
