import EndpointRouting.Route.Table

/-!
# Mounted paths

A template is empty or starts with a slash. A template that starts with a slash is appended to the
base path without its last slash, so different ones are mounted at different paths.
-/

namespace EndpointRouting.Route
open Http Token

/-- The text starts with a slash. -/
def Slashed (s : String) : Prop := ∃ rest, s.toList = '/' :: rest

/-- A base path without a slash at its end. -/
def stemOf (base : String) : List Char :=
  if base.toList.getLast? = some '/' then base.toList.dropLast else base.toList

theorem slashed_append (s : String) : Slashed ("/" ++ s) := ⟨s.toList, by simp⟩

theorem handlerTemplate_slashed (handler : Identifier) (path : Option String) :
    handlerTemplate handler path = "" ∨ Slashed (handlerTemplate handler path) := by
  have named : (if rootHandlers.contains handler.text then "" else "/" ++ handler.text) = "" ∨
      Slashed (if rootHandlers.contains handler.text then "" else "/" ++ handler.text) := by
    split
    · exact Or.inl rfl
    · exact Or.inr (slashed_append _)
  unfold handlerTemplate
  dsimp only
  cases path with
  | none => exact named
  | some path =>
    dsimp only
    split
    · exact named
    · rename_i rest text
      exact Or.inr ⟨rest, text⟩
    · exact Or.inr (slashed_append _)

theorem slashed_of_not_root {handler : Identifier} {path : Option String}
    (other : Template.isRoot (handlerTemplate handler path) = false) :
    Slashed (handlerTemplate handler path) := by
  rcases handlerTemplate_slashed handler path with empty | slashed
  · simp [Template.isRoot, empty] at other
  · exact slashed

theorem joinPath_empty (base : String) : joinPath base "" = base := by
  unfold joinPath
  split <;> simp_all

theorem joinPath_toList {base child : String} (slashed : Slashed child) :
    (joinPath base child).toList = stemOf base ++ child.toList := by
  obtain ⟨rest, text⟩ := slashed
  unfold joinPath stemOf
  rw [text]
  by_cases ended : base.toList.getLast? = some '/'
  · obtain ⟨stem, whole⟩ := List.getLast?_eq_some_iff.mp ended
    rw [if_pos ended, ended]
    change (base ++ String.ofList rest).toList = _
    rw [String.toList_append, String.toList_ofList, whole]
    simp
  · rw [if_neg ended]
    split
    · rename_i last _
      exact (ended last).elim
    · rename_i last _
      exact (ended last).elim
    · rw [String.toList_append, text]
    · rename_i empty _
      cases empty
    · rename_i other _ _
      exact (other rest rfl).elim

/-- Templates that start with a slash are told apart by where they are mounted. -/
theorem joinPath_injective {base a b : String} (left : Slashed a) (right : Slashed b)
    (same : joinPath base a = joinPath base b) : a = b := by
  have texts := congrArg String.toList same
  rw [joinPath_toList left, joinPath_toList right, List.append_cancel_left_eq] at texts
  exact String.toList_inj.mp texts

end EndpointRouting.Route
