import Mathlib.Data.List.Infix
import EndpointRouting.Code.Router
import EndpointRouting.Proofs.Lists

/-!
# Where a name stands in code

A name stands somewhere in code as a token, at whatever depth. What is said of every place carries
over from the parts of the code to the whole.
-/

namespace EndpointRouting.Code
open Token

/-- The name stands in a tree that has `before` in front of it in its own group, and no phrase of
`except` leads up to it. -/
inductive Occurs (name : String) (except : List Trees) : Trees → Tree → Prop
  | here {before : Trees} {i : Identifier} (same : i.text = name)
      (plain : ∀ phrase ∈ except, ¬ phrase <:+ before) : Occurs name except before (.ident i)
  | within {before inner later : Trees} {d : Delimiter} {t : Tree}
      (deeper : Occurs name except inner t) :
      Occurs name except before (.group d (inner ++ t :: later))

/-- Where the name stands in the code, the tree that it stands in and what follows are as said. -/
def Only (name : String) (except : List Trees) (P : Tree → Trees → Prop) (ts : Trees) : Prop :=
  ∀ before t later, ts = before ++ t :: later → Occurs name except before t → P t later

/-- The name stands nowhere in the code. -/
def Absent (name : String) (except : List Trees) (ts : Trees) : Prop :=
  Only name except (fun _ _ => False) ts

variable {name : String} {except : List Trees} {P : Tree → Trees → Prop} {a b : Trees}

theorem Occurs.of_append {before : Trees} {t : Tree} (occurs : Occurs name except (a ++ before) t) :
    Occurs name except before t := by
  cases occurs with
  | here same plain =>
    exact .here same fun phrase listed leads =>
      plain phrase listed (leads.trans (List.suffix_append a before))
  | within deeper => exact .within deeper

theorem only_nil : Only name except P [] := by
  intro before t later split
  simp at split

theorem Absent.only (absent : Absent name except a) : Only name except P a :=
  fun before t later split occurs => (absent before t later split occurs).elim

/-- What more code behind it does not change holds of the whole if it holds of the parts. -/
theorem only_append (grows : ∀ t later more, P t later → P t (later ++ more))
    (first : Only name except P a) (second : Only name except P b) :
    Only name except P (a ++ b) := by
  intro before t later split occurs
  rcases split_append split with ⟨mid, inner, rfl⟩ | ⟨mid, rfl, inner⟩
  · exact grows t mid b (first before t mid inner occurs)
  · exact second mid t later inner occurs.of_append

theorem absent_nil : Absent name except [] := only_nil

theorem absent_append (first : Absent name except a) (second : Absent name except b) :
    Absent name except (a ++ b) :=
  only_append (fun _ _ _ => id) first second

theorem absent_if (c : Bool) (absent : Absent name except a) :
    Absent name except (if c then a else []) := by
  cases c with
  | true => exact absent
  | false => exact absent_nil

theorem only_flatMap {α : Type} (grows : ∀ t later more, P t later → P t (later ++ more))
    {f : α → Trees} {xs : List α} (each : ∀ x ∈ xs, Only name except P (f x)) :
    Only name except P (xs.flatMap f) := by
  induction xs with
  | nil => exact only_nil
  | cons x xs ih =>
    rw [List.flatMap_cons]
    exact only_append grows (each x List.mem_cons_self)
      (ih fun y member => each y (List.mem_cons_of_mem _ member))

theorem absent_group (d : Delimiter) (inner : Absent name except a) :
    Absent name except [.group d a] := by
  intro before t later split occurs
  obtain ⟨rfl, rfl, rfl⟩ := split_singleton split
  cases occurs with
  | within deeper => exact inner _ _ _ rfl deeper

/-- A name that an excepted phrase leads up to does not count. -/
theorem absent_behind (absent : Absent name except a) {phrase : Trees} (listed : phrase ∈ except)
    (leads : phrase <:+ a) (i : Identifier) : Absent name except (a ++ [.ident i]) := by
  intro before t later split occurs
  rcases split_append split with ⟨mid, inner, rfl⟩ | ⟨mid, rfl, inner⟩
  · exact absent before t mid inner occurs
  · obtain ⟨rfl, rfl, rfl⟩ := split_singleton inner
    rw [List.append_nil] at occurs
    cases occurs with
    | here same plain => exact plain phrase listed leads

/-! ### Names of closed code -/

mutual

def namesIn : Tree → List String
  | .ident i => [i.text]
  | .punct _ _ => []
  | .literal _ => []
  | .group _ ts => namesOf ts

def namesOf : List Tree → List String
  | [] => []
  | t :: rest => namesIn t ++ namesOf rest

end

theorem namesOf_append (a b : Trees) : namesOf (a ++ b) = namesOf a ++ namesOf b := by
  induction a with
  | nil => rfl
  | cons t rest ih => rw [List.cons_append, namesOf, namesOf, ih, List.append_assoc]

theorem namesOf_append_subset {names : List String} (first : namesOf a ⊆ names)
    (second : namesOf b ⊆ names) : namesOf (a ++ b) ⊆ names := by
  rw [namesOf_append]
  exact List.append_subset.mpr ⟨first, second⟩

theorem namesOf_group (d : Delimiter) (ts : Trees) : namesOf [.group d ts] = namesOf ts := by
  simp [namesOf, namesIn]

theorem mem_namesIn {before : Trees} {t : Tree} (occurs : Occurs name except before t) :
    name ∈ namesIn t := by
  induction occurs with
  | here same _ => simp [namesIn, same]
  | within _ ih => simp [namesIn, namesOf_append, namesOf, ih]

theorem absent_of_names (missing : name ∉ namesOf a) : Absent name except a := by
  rintro before t later rfl occurs
  apply missing
  simp [namesOf_append, namesOf, mem_namesIn occurs]

end EndpointRouting.Code
