import EndpointRouting.Route.Table
import Mathlib.Data.List.Induction
import Mathlib.Data.List.Nodup

/-!
# From declarations to a table

`Table.build` goes through the handlers once and threads who was seen, what went wrong and which
routes came of it. Here the declarations of a definition are a list, the fault of each is read off
the ones before it, and `build_eq` says that a table fails with exactly these faults, or has one
route for each declaration.
-/

namespace EndpointRouting.Route
open Http Token

/-! ### Roles that cannot be met -/

/-- The roles ask for a user and for none. -/
def LoggedUser.Conflicts (u : LoggedUser) : Prop := u.allowed ≠ [] ∧ u.rejected = [anyRole]

instance (u : LoggedUser) : Decidable u.Conflicts := inferInstanceAs (Decidable (_ ∧ _))

/-- The roles are listed, and conflict. -/
def Conflicting (roles : Option LoggedUser) : Prop := ∃ u, roles = some u ∧ u.Conflicts

instance : (roles : Option LoggedUser) → Decidable (Conflicting roles)
  | none => .isFalse fun ⟨_, listed, _⟩ => nomatch listed
  | some u => decidable_of_iff u.Conflicts
      ⟨fun h => ⟨u, rfl, h⟩, fun ⟨_, listed, h⟩ => Option.some.inj listed ▸ h⟩

/-- What listed roles demand, when they do not conflict. Without a list nothing is demanded. -/
def demands : Option LoggedUser → Authorization
  | none => .open
  | some u => ⟨!u.allowed.isEmpty, u.rejected == [anyRole], u.allowed, u.rejected⟩

theorem ofRoles?_of_conflicts {u : LoggedUser} (h : u.Conflicts) :
    Authorization.ofRoles? u = none := by
  obtain ⟨some_allowed, rejected⟩ := h
  have : u.allowed.isEmpty = false := by simpa using some_allowed
  simp [Authorization.ofRoles?, this, rejected]

theorem ofRoles?_of_not_conflicts {u : LoggedUser} (h : ¬ u.Conflicts) :
    Authorization.ofRoles? u = some (demands (some u)) := by
  unfold Authorization.ofRoles?
  dsimp only
  rw [if_neg]
  · rfl
  · intro both
    rw [Bool.and_eq_true, Bool.not_eq_true', beq_iff_eq, List.isEmpty_eq_false_iff] at both
    exact h both

/-! ### Declarations and their faults -/

/-- A verb declaration with the handler that it belongs to. -/
structure Declaration where
  handler : Handler
  declared : VerbDeclaration

namespace Declaration

def verb (x : Declaration) : RouteVerb := x.declared.verb

def pattern (x : Declaration) : String := handlerTemplate x.handler.name x.declared.path

/-- Declarations with the same key cannot both become routes. -/
def key (x : Declaration) : RouteVerb × String := (x.verb, x.pattern)

def template (base : String) (x : Declaration) : Template :=
  Template.compile (joinPath base x.pattern) x.pattern

/-- The template has no expression, or one that compiles when it is anchored. -/
def Compiles (base : String) (x : Declaration) : Prop :=
  ∀ e, (x.template base).expression = some e → ∃ r, Regex.compile (anchored e).toList = .ok r

end Declaration

/-- What a table meets on its way: roles that conflict, in place of what they hold for, or a
declaration. -/
inductive Entry where
  | conflict
  | declaration (x : Declaration)

def Entry.declaration? : Entry → Option Declaration
  | conflict => none
  | declaration x => some x

/-- The declarations that are met, those of conflicting handlers left out. -/
def declarationsOf (entries : List Entry) : List Declaration := entries.filterMap Entry.declaration?

/-- What is wrong with an entry, given what is before it. -/
def Entry.fault? (base : String) (earlier : List Entry) : Entry → Option TableError
  | conflict => some .conflictingRoles
  | declaration x =>
    match (declarationsOf earlier).find? (·.key == x.key) with
    | some first => some (.duplicate x.verb x.pattern first.handler.name)
    | none => malformed? (x.template base)

/-- Each item with those before it; `earlier` come before all. -/
def withEarlier {α : Type} (earlier : List α) : List α → List (List α × α)
  | [] => []
  | x :: rest => (earlier, x) :: withEarlier (earlier ++ [x]) rest

/-- The faults of entries, in order. -/
def faultsOf (base : String) (entries : List Entry) : List TableError :=
  (withEarlier [] entries).filterMap fun (earlier, e) => e.fault? base earlier

def Handler.declarations (h : Handler) : List Declaration := h.verbs.map (⟨h, ·⟩)

def Handler.entries (h : Handler) : List Entry :=
  if Conflicting h.loggedUser then [.conflict] else h.declarations.map .declaration

namespace Definition

def base (d : Definition) : String := basePath d.type d.options.path d.options.stem

/-- All verb declarations, handler by handler. -/
def declarations (d : Definition) : List Declaration := d.handlers.flatMap Handler.declarations

def entries (d : Definition) : List Entry :=
  (if Conflicting d.loggedUser then [.conflict] else []) ++ d.handlers.flatMap Handler.entries

/-- Everything that keeps a definition from being a table. -/
def faults (d : Definition) : List TableError := faultsOf d.base d.entries

/-- No roles conflict, neither those of the endpoint nor those of a handler. -/
def RolesAgree (d : Definition) : Prop :=
  ¬ Conflicting d.loggedUser ∧ ∀ h ∈ d.handlers, ¬ Conflicting h.loggedUser

/-- The route of a declaration. Roles of the handler replace those of the endpoint. -/
def route (d : Definition) (x : Declaration) : Route :=
  ofTemplate x.verb (x.template d.base) x.handler.name
    (demands (x.handler.loggedUser.or d.loggedUser))

/-- The declarations of one verb, in order. -/
def declarationsFor (d : Definition) (v : RouteVerb) : List Declaration :=
  d.declarations.filter (·.verb == v)

end Definition

theorem handler_of_mem {h : Handler} {x : Declaration} (member : x ∈ h.declarations) :
    x.handler = h := by
  obtain ⟨_, -, rfl⟩ := List.mem_map.mp member
  rfl

theorem withEarlier_append {α : Type} (earlier xs ys : List α) :
    withEarlier earlier (xs ++ ys) = withEarlier earlier xs ++ withEarlier (earlier ++ xs) ys := by
  induction xs generalizing earlier with
  | nil => simp [withEarlier]
  | cons x rest ih => simp [withEarlier, ih]

theorem faultsOf_concat (base : String) (entries : List Entry) (e : Entry) :
    faultsOf base (entries ++ [e]) = faultsOf base entries ++ (e.fault? base entries).toList := by
  rw [faultsOf, withEarlier_append, List.filterMap_append]
  cases h : e.fault? base entries <;> simp [faultsOf, withEarlier, h]

theorem declarationsOf_append (xs ys : List Entry) :
    declarationsOf (xs ++ ys) = declarationsOf xs ++ declarationsOf ys := List.filterMap_append

theorem declarationsOf_concat (entries : List Entry) (e : Entry) :
    declarationsOf (entries ++ [e]) = declarationsOf entries ++ e.declaration?.toList := by
  rw [declarationsOf_append]
  cases e <;> rfl

theorem malformed?_eq_none_iff (t : Template) :
    malformed? t = none ↔
      ∀ e, t.expression = some e → ∃ r, Regex.compile (anchored e).toList = .ok r := by
  unfold malformed?
  cases t.expression with
  | none => simp
  | some e => cases h : Regex.compile (anchored e).toList <;> simp [h]

theorem declarationsOf_map (xs : List Declaration) :
    declarationsOf (xs.map .declaration) = xs := by
  induction xs with
  | nil => rfl
  | cons x xs ih => simpa [declarationsOf, Entry.declaration?] using ih

theorem fault?_declaration_eq_none_iff (base : String) (xs : List Declaration) (x : Declaration) :
    Entry.fault? base (xs.map .declaration) (.declaration x) = none ↔
      x.key ∉ xs.map Declaration.key ∧ x.Compiles base := by
  simp only [Entry.fault?, declarationsOf_map]
  cases found : xs.find? (·.key == x.key) with
  | none =>
    have fresh : x.key ∉ xs.map Declaration.key := by
      intro member
      obtain ⟨y, present, same⟩ := List.mem_map.mp member
      simpa [same] using List.find?_eq_none.mp found y present
    simp only [fresh, not_false_eq_true, true_and]
    exact malformed?_eq_none_iff _
  | some first =>
    have seen : x.key ∈ xs.map Declaration.key := by
      have same : first.key = x.key := by simpa using List.find?_some found
      exact same ▸ List.mem_map_of_mem (List.mem_of_find?_eq_some found)
    simp [seen]

/-- Declarations have no fault when no two share a key and all their templates compile. -/
theorem faultsOf_declarations_eq_nil_iff (base : String) (xs : List Declaration) :
    faultsOf base (xs.map .declaration) = [] ↔
      (xs.map Declaration.key).Nodup ∧ ∀ x ∈ xs, x.Compiles base := by
  induction xs using List.reverseRecOn with
  | nil => simp [faultsOf, withEarlier]
  | append_singleton xs x ih =>
    rw [List.map_append, List.map_singleton, faultsOf_concat, List.append_eq_nil_iff, ih,
      Option.toList_eq_nil_iff, fault?_declaration_eq_none_iff, List.map_append,
      List.map_singleton, List.nodup_append_comm, List.singleton_append, List.nodup_cons]
    simp only [List.forall_mem_append, List.forall_mem_singleton]
    exact ⟨fun ⟨⟨nodup, old⟩, fresh, new⟩ => ⟨⟨fresh, nodup⟩, old, new⟩,
      fun ⟨⟨fresh, nodup⟩, old, new⟩ => ⟨⟨nodup, old⟩, fresh, new⟩⟩

end EndpointRouting.Route
