import EndpointRouting.Block.Definition
import EndpointRouting.Proofs.Outcome
import Mathlib.Data.List.Basic

/-!
# The options of a role attribute

What an attribute writes is read off its tokens, without the reader: each option with the texts in
its parentheses. An option that is read replaces what earlier ones of its kind listed, so that the
roles of an accepted attribute are those of the last option of each kind.
-/

namespace EndpointRouting

namespace Token.Tree

mutual

/-- The values of the string literals in a tree. -/
def strings : Tree → List String
  | ident _ | punct _ _ => []
  | literal l => l.stringValue?.toList
  | group _ trees => stringsOf trees

def stringsOf : List Tree → List String
  | [] => []
  | t :: rest => strings t ++ stringsOf rest

end

end Token.Tree

namespace Block
open Grammar Http Route Token

/-- The options that tokens write, each with the texts in the parentheses behind its name. -/
def writtenOptions : List Tree → List (RoleOption × List String)
  | .ident i :: .group .parenthesis content :: rest =>
    match RoleOption.ofName? i.spelling with
    | some o => (o, Tree.stringsOf content) :: writtenOptions rest
    | none => writtenOptions rest
  | _ :: rest => writtenOptions rest
  | [] => []

/-- The lists of roles that tokens write in options of one kind, in order. -/
def writtenLists (o : RoleOption) (ts : List Tree) : List (List String) :=
  ((writtenOptions ts).filter (·.1 == o)).map (·.2)

/-- The roles that an attribute lists under an option. -/
def RoleOption.listed (u : LoggedUser) : RoleOption → List String
  | allowed => u.allowed
  | rejected => u.rejected

/-! ### What is read is what is written -/

theorem stringLiteral_ok {ts rest : List Tree} {s : String}
    (read : stringLiteral ts = .ok (s, rest)) :
    ∃ text, ts = .literal ⟨.string s, text⟩ :: rest := by
  unfold stringLiteral at read
  split at read
  · cases read
    exact ⟨_, rfl⟩
  · cases read

theorem comma_ok {ts rest : List Tree} (read : comma ts = .ok rest) :
    ∃ joint, ts = .punct ',' joint :: rest := by
  unfold comma mark at read
  cases ts with
  | nil => cases read
  | cons t ts =>
    cases t with
    | punct c joint =>
      by_cases same : ',' = c
      · subst same
        cases read
        exact ⟨joint, rfl⟩
      · simp [punctChars, same] at read
    | _ => cases read

theorem roleNames_strings {fuel : Nat} {ts : List Tree} {roles : List String}
    (enough : ts.length < fuel) (read : roleNames fuel ts = .ok roles) :
    Tree.stringsOf ts = roles := by
  induction fuel generalizing ts roles with
  | zero => cases enough
  | succ fuel ih =>
    cases ts with
    | nil =>
      cases read
      rfl
    | cons t ts =>
      unfold roleNames at read
      obtain ⟨⟨role, rest⟩, literal, read⟩ := bind_ok read
      obtain ⟨text, rfl, rfl⟩ : ∃ text, t = .literal ⟨.string role, text⟩ ∧ ts = rest := by
        obtain ⟨text, same⟩ := stringLiteral_ok literal
        exact ⟨text, List.cons.inj same⟩
      change [role] ++ Tree.stringsOf ts = roles
      dsimp only at read
      split at read
      · rename_i ended
        cases read
        rw [List.isEmpty_iff.mp ended]
        rfl
      · obtain ⟨later, separated, read⟩ := bind_ok read
        obtain ⟨more, others, read⟩ := bind_ok read
        cases read
        obtain ⟨joint, rfl⟩ := comma_ok separated
        simp only [List.length_cons] at enough
        change [role] ++ ([] ++ Tree.stringsOf later) = role :: more
        rw [ih (by omega) others]
        rfl

theorem optionWords_ne_nil {fuel : Nat} {ts rest : List Tree} {is : List Identifier}
    (read : optionWords fuel ts = .ok (is, rest)) : is ≠ [] := by
  cases fuel with
  | zero => cases read
  | succ fuel =>
    unfold optionWords at read
    split at read
    · cases read
    · split at read
      · cases read
        exact List.cons_ne_nil _ _
      · obtain ⟨_, _, same⟩ := map_ok read
        cases same
        exact List.cons_ne_nil _ _

theorem optionWords_single {fuel : Nat} {ts rest : List Tree} {i : Identifier}
    (read : optionWords fuel ts = .ok ([i], rest)) : ts = .ident i :: rest := by
  cases fuel with
  | zero => cases read
  | succ fuel =>
    unfold optionWords at read
    split at read
    · cases read
    · rename_i j after found
      have front : ts = .ident j :: after := by
        unfold anyWord at found
        split at found
        · cases found
          rfl
        · cases found
      split at read
      · cases read
        exact front
      · obtain ⟨⟨is, _⟩, more, same⟩ := map_ok read
        cases same
        exact absurd rfl (optionWords_ne_nil more)

/-- An option with a name starts with just that name. -/
theorem optionPath_name {ts rest : List Tree} {i : Identifier}
    (read : optionPath ts = .ok (some i, rest)) : ts = .ident i :: rest := by
  unfold optionPath at read
  dsimp only at read
  split at read
  · obtain ⟨⟨is, after⟩, words, same⟩ := map_ok read
    dsimp only at same
    split at same
    · split at same
      · cases same
      · rename_i unqualified
        cases same
        have start : skipMark "::" ts = ts := by
          unfold startsMark at unqualified
          rw [Bool.not_eq_true, Option.isSome_eq_false_iff, Option.isNone_iff_eq_none] at unqualified
          rw [skipMark, unqualified, Option.getD_none]
        rw [start] at words
        exact optionWords_single words
    · cases same
  · split at read
    · cases read
    · split at read <;> cases read

theorem group_ok {d : Delimiter} {ts content rest : List Tree}
    (found : group d ts = some (content, rest)) : ts = .group d content :: rest := by
  unfold group at found
  split at found
  · split at found
    · rename_i same
      cases found
      rw [same]
    · cases found
  · cases found

/-- An option that is read stands in front as it is written. -/
theorem roleOption_written {ts rest : List Tree} {o : RoleOption} {roles : List String}
    (read : roleOption ts = .ok ((o, roles), rest)) :
    ∃ i content, ts = .ident i :: .group .parenthesis content :: rest ∧
      RoleOption.ofName? i.spelling = some o ∧ Tree.stringsOf content = roles := by
  unfold roleOption at read
  obtain ⟨⟨name, after⟩, path, read⟩ := bind_ok read
  dsimp only at read
  split at read
  · cases read
  · rename_i i
    have front : ts = .ident i :: after := optionPath_name (mapError_ok path)
    split at read
    · cases read
    · rename_i kind known
      split at read
      · cases read
      · rename_i content later found
        obtain ⟨names, listed, read⟩ := bind_ok read
        split at read
        · cases read
          exact ⟨i, content, by rw [front, group_ok found], known,
            roleNames_strings (Nat.lt_succ_self _) (mapError_ok listed)⟩
        · cases read

theorem writtenOptions_option {i : Identifier} {content rest : List Tree} {o : RoleOption}
    (known : RoleOption.ofName? i.spelling = some o) :
    writtenOptions (.ident i :: .group .parenthesis content :: rest) =
      (o, Tree.stringsOf content) :: writtenOptions rest := by
  rw [writtenOptions, known]

/-- The options are carried out one after the other, and no text stands outside of them. -/
theorem roleOptions_written {fuel : Nat} {u v : LoggedUser} {ts : List Tree}
    (enough : ts.length < fuel) (read : roleOptions fuel u ts = .ok v) :
    v = (writtenOptions ts).foldl setRoles u ∧
      Tree.stringsOf ts = (writtenOptions ts).flatMap (·.2) := by
  induction fuel generalizing u ts with
  | zero => cases enough
  | succ fuel ih =>
    cases ts with
    | nil =>
      cases read
      exact ⟨rfl, rfl⟩
    | cons t ts =>
      unfold roleOptions at read
      obtain ⟨⟨⟨o, roles⟩, rest⟩, option, read⟩ := bind_ok read
      obtain ⟨i, content, same, known, rfl⟩ := roleOption_written option
      rw [same] at enough ⊢
      have texts : Tree.stringsOf (.ident i :: .group .parenthesis content :: rest) =
          Tree.stringsOf content ++ Tree.stringsOf rest := rfl
      rw [writtenOptions_option known, texts, List.foldl_cons, List.flatMap_cons]
      dsimp only at read
      split at read
      · rename_i ended
        cases read
        rw [List.isEmpty_iff.mp ended]
        exact ⟨rfl, rfl⟩
      · obtain ⟨later, separated, read⟩ := bind_ok read
        obtain ⟨joint, rfl⟩ := comma_ok (mapError_ok separated)
        simp only [List.length_cons] at enough
        obtain ⟨done, outside⟩ := ih (by omega) read
        exact ⟨done, congrArg (Tree.stringsOf content ++ ·) outside⟩

/-! ### The last option of a kind -/

theorem listed_setRoles (u : LoggedUser) (x : RoleOption × List String) (o : RoleOption) :
    o.listed (setRoles u x) = if x.1 == o then x.2 else o.listed u := by
  obtain ⟨kind, roles⟩ := x
  cases kind <;> cases o <;> rfl

/-- Of the options of one kind the last one counts. -/
theorem listed_foldl (u : LoggedUser) (xs : List (RoleOption × List String)) (o : RoleOption) :
    o.listed (xs.foldl setRoles u) =
      (((xs.filter (·.1 == o)).map (·.2)).getLast?).getD (o.listed u) := by
  induction xs generalizing u with
  | nil => rfl
  | cons x xs ih =>
    rw [List.foldl_cons, ih, listed_setRoles]
    rw [List.filter_cons]
    by_cases same : (x.1 == o) = true
    · rw [if_pos same, if_pos same, List.map_cons, List.getLast?_cons, Option.getD_some]
    · rw [if_neg same, if_neg same]

theorem getLast?_getD_suffix {α : Type} (xss : List (List α)) :
    xss.getLast?.getD [] <:+ xss.flatten := by
  rcases List.eq_nil_or_concat xss with rfl | ⟨before, last, rfl⟩
  · exact List.suffix_rfl
  · rw [List.concat_eq_append, List.getLast?_concat, Option.getD_some, List.flatten_append, List.flatten_singleton]
    exact List.suffix_append _ _

/-- Several lists are their last one just when the others are empty. -/
theorem getLast?_getD_eq_flatten_iff {α : Type} (xss : List (List α)) :
    xss.getLast?.getD [] = xss.flatten ↔ ∀ xs ∈ xss.dropLast, xs = [] := by
  rcases List.eq_nil_or_concat xss with rfl | ⟨before, last, rfl⟩
  · simp
  · rw [List.concat_eq_append, List.getLast?_concat, Option.getD_some, List.flatten_append, List.flatten_singleton,
      List.dropLast_concat, List.self_eq_append_left, List.flatten_eq_nil_iff]

/-- An accepted attribute is bare, and allows any role, or a list of options that holds no other
texts. Under each option it lists the roles of the last option of the kind: nothing that is not
written there, in the order in which it is written, and all that is written in options of the kind
if and only if the earlier ones are empty. -/
theorem last_option_listed {form : AttributeForm} {u : LoggedUser}
    (read : readLoggedUser form = .ok u) :
    (form = .bare ∧ u = ⟨[anyRole], []⟩) ∨
      ∃ d content, form = .list d content ∧
        Tree.stringsOf content = (writtenOptions content).flatMap (·.2) ∧
        ∀ o : RoleOption,
          o.listed u = (writtenLists o content).getLast?.getD [] ∧
          o.listed u <:+ (writtenLists o content).flatten ∧
          (o.listed u = (writtenLists o content).flatten ↔
            ∀ roles ∈ (writtenLists o content).dropLast, roles = []) := by
  cases form with
  | bare =>
    cases read
    exact .inl ⟨rfl, rfl⟩
  | value _ => cases read
  | list d content =>
    obtain ⟨rfl, outside⟩ := roleOptions_written (Nat.lt_succ_self _) read
    refine .inr ⟨d, content, rfl, outside, fun o => ?_⟩
    have last : o.listed ((writtenOptions content).foldl setRoles ⟨[], []⟩) =
        (writtenLists o content).getLast?.getD [] := by
      rw [listed_foldl]
      cases o <;> rfl
    rw [last]
    exact ⟨rfl, getLast?_getD_suffix _, getLast?_getD_eq_flatten_iff _⟩

/-- Two options of one kind, with one of the other between them. -/
def repeatedOptions : List Tree :=
  [.ident ⟨"rejected_roles", false⟩,
    .group .parenthesis [.literal ⟨.string "banned", "\"banned\""⟩], .punct ',' false,
    .ident ⟨"allowed_roles", false⟩,
    .group .parenthesis [.literal ⟨.string "admin", "\"admin\""⟩, .punct ',' false,
      .literal ⟨.string "staff", "\"staff\""⟩], .punct ',' false,
    .ident ⟨"rejected_roles", false⟩,
    .group .parenthesis [.literal ⟨.string "guest", "\"guest\""⟩]]

/-- The banned users are rejected no more. -/
theorem last_option_listed_repeated :
    readLoggedUser (.list .parenthesis repeatedOptions) = .ok ⟨["admin", "staff"], ["guest"]⟩ ∧
      RoleOption.listed ⟨["admin", "staff"], ["guest"]⟩ .allowed =
        (writtenLists .allowed repeatedOptions).flatten ∧
      RoleOption.listed ⟨["admin", "staff"], ["guest"]⟩ .rejected ≠
        (writtenLists .rejected repeatedOptions).flatten := by
  have read : readLoggedUser (.list .parenthesis repeatedOptions) =
      .ok ⟨["admin", "staff"], ["guest"]⟩ := by decide +kernel
  rcases last_option_listed read with ⟨bare, -⟩ | ⟨_, _, same, -, listed⟩
  · cases bare
  · cases same
    refine ⟨read, (listed .allowed).2.2.mpr ?_, fun whole => ?_⟩
    · have once : (writtenLists .allowed repeatedOptions).dropLast = [] := by decide +kernel
      simp [once]
    · have earlier : ["banned"] ∈ (writtenLists .rejected repeatedOptions).dropLast := by
        decide +kernel
      exact absurd ((listed .rejected).2.2.mp whole _ earlier) (List.cons_ne_nil _ _)

end Block
end EndpointRouting
