import EndpointRouting.Proofs.Regex.Groups
import EndpointRouting.Template

/-!
# Tame templates

Between the variables of a tame template stands text that opens neither a set nor a named group and
switches nothing on, and what belongs to a variable reads by itself. Then each variable is a group
of its expression, and the names of the groups can be told from the variables.
-/

namespace EndpointRouting.Template
open Regex Text

/-- The name of the group of a variable. An angle bracket ends it early. -/
def Variable.groupName (v : Variable) : List Char := v.name.takeWhile (· != '>')

/-- What stands in the group of a variable, behind its name. -/
def Variable.body (v : Variable) : List Char :=
  ((v.name ++ '>' :: (v.pattern.map expandClasses).getD segment).dropWhile (· != '>')).drop 1

/-- The names of the groups in a pattern. -/
def namesOf (cs : List Char) : List (List Char) :=
  match Pattern.read cs with
  | .ok own => own.names.map (·.1)
  | .error _ => []

/-- The names that a variable gives to groups: its own, and those in its pattern. -/
def Variable.groupNames (v : Variable) : List (List Char) := v.groupName :: namesOf v.body

/-- Literal text with groups that neither have names nor change settings, and escaped characters;
variables whose own text reads by itself. -/
inductive Tame : List Piece → Prop
  | nil : Tame []
  | literal {c : Char} {ps : List Piece} (closed : c ∉ ['[', '\\', '\x7b', '\n'])
      (unmarked : c = '(' → ps.head? ≠ some (.literal '?')) (rest : Tame ps) :
      Tame (.literal c :: ps)
  | group {ps : List Piece} (rest : Tame ps) :
      Tame (.literal '(' :: .literal '?' :: .literal ':' :: ps)
  | escape {c : Char} {ps : List Piece} (escapable : isEscapable c = true) (unbroken : c ≠ '\n')
      (rest : Tame ps) : Tame (.literal '\\' :: .literal c :: ps)
  | var {v : Variable} {ps : List Piece} {own : NamedPattern}
      (alone : Pattern.read v.body = .ok own) (rest : Tame ps) : Tame (.var v :: ps)

/-- The names that the variables give to groups, in order. -/
def groupNames (ps : List Piece) : List (List Char) :=
  (ps.filterMap Piece.var?).flatMap Variable.groupNames

theorem split_name (name pattern : List Char) :
    name ++ '>' :: pattern =
      name.takeWhile (· != '>') ++
        '>' :: ((name ++ '>' :: pattern).dropWhile (· != '>')).drop 1 := by
  induction name with
  | nil => simp
  | cons c name ih =>
    by_cases ends : c = '>'
    · simp [ends]
    · have passes : (c != '>') = true := by simpa using ends
      rw [List.cons_append, List.takeWhile_cons, List.dropWhile_cons, if_pos passes, if_pos passes,
        List.cons_append, ← ih]

theorem group_eq (v : Variable) :
    v.group = '(' :: '?' :: '<' :: (v.groupName ++ '>' :: (v.body ++ [')'])) := by
  have text : v.group = '(' :: '?' :: '<' ::
      (v.name ++ '>' :: (v.pattern.map expandClasses).getD segment ++ [')']) := by
    simp [Variable.group]
  rw [text, split_name]
  simp [Variable.groupName, Variable.body]

theorem unended_groupName (v : Variable) : '>' ∉ v.groupName := by
  intro member
  simpa using List.mem_takeWhile_imp member

theorem tame_of_lazy {ps : List Piece} (tame : Tame (.literal '?' :: ps)) : Tame ps := by
  cases tame with
  | literal _ _ rest => exact rest

section
variable {ps : List Piece} {t : List Char} {r rf : Reader}

/-- A question mark comes from the template itself. -/
theorem question_of_head (bounded : t.head? ≠ some '?')
    (marked : (ps.flatMap Piece.expression ++ t).head? = some '?') :
    ∃ later, ps = .literal '?' :: later := by
  cases ps with
  | nil => exact absurd marked bounded
  | cons p ps =>
    cases p with
    | literal c =>
      obtain rfl : c = '?' := Option.some.inj marked
      exact ⟨ps, rfl⟩
    | var v =>
      rw [List.flatMap_cons, Piece.expression, group_eq] at marked
      cases marked

/-- The reader passes a tame template, and knows the names that its variables give. -/
theorem run_tame (tame : Tame ps) (quiet : '\n' ∉ ps.flatMap Piece.expression ++ t)
    (bounded : t.head? ≠ some '?') (calm : r.Calm) {n : Nat} {p : Pattern}
    (h : Reader.run n r (ps.flatMap Piece.expression ++ t) = .ok rf)
    (room : (ps.flatMap Piece.expression ++ t).length ≤ n) (finished : rf.finish = .ok p) :
    ∃ l r', t.length ≤ l ∧ Reader.run l r' t = .ok rf ∧
      r'.names.map (·.name) = (groupNames ps).reverse ++ r.names.map (·.name) := by
  induction size : ps.length using Nat.strongRecOn generalizing ps n r with
  | _ m ih =>
    have here (cs : List Char) : skip r.verbose cs = cs := by
      rw [calm.verbose]
      rfl
    -- what is left of the template after some of its literal characters
    have continues {later : List Piece} {r₁ : Reader} {k : Nat} (tame' : Tame later)
        (shorter : later.length < ps.length)
        (sub : ∃ cs, ps.flatMap Piece.expression = cs ++ later.flatMap Piece.expression)
        (same : groupNames ps = groupNames later) (calm₁ : r₁.Calm) (names : r₁.names = r.names)
        (h₁ : Reader.run k r₁ (later.flatMap Piece.expression ++ t) = .ok rf)
        (room₁ : (later.flatMap Piece.expression ++ t).length ≤ k) :
        ∃ l r', t.length ≤ l ∧ Reader.run l r' t = .ok rf ∧
          r'.names.map (·.name) = (groupNames ps).reverse ++ r.names.map (·.name) := by
      obtain ⟨cs, text⟩ := sub
      have quiet' : '\n' ∉ later.flatMap Piece.expression ++ t := by
        intro member
        rw [text, List.append_assoc] at quiet
        exact quiet (List.mem_append_right _ member)
      rw [same, ← names]
      exact ih _ (size ▸ shorter) tame' quiet' calm₁ h₁ room₁ rfl
    cases tame with
    | nil => exact ⟨n, r, room, h, rfl⟩
    | @literal c ps closed unmarked rest =>
      obtain ⟨k, r₁, left, rfl, step, h₁⟩ := Reader.run_cons (here _) room h
      have room₁ : (ps.flatMap Piece.expression ++ t).length ≤ k := Nat.le_of_succ_le_succ room
      by_cases opens : c = '('
      · subst opens
        have plain : (ps.flatMap Piece.expression ++ t).head? ≠ some '?' := by
          intro marked
          obtain ⟨later, rfl⟩ := question_of_head bounded marked
          exact unmarked rfl rfl
        obtain ⟨calm₁, names, rfl⟩ := Reader.calm_open calm plain step
        exact continues rest (Nat.lt_succ_self _) ⟨['('], rfl⟩ rfl calm₁ names h₁ room₁
      · have plain : c ∉ Reader.opening := by
          simp only [Reader.opening, List.mem_cons, List.not_mem_nil, or_false] at closed ⊢
          tauto
        obtain ⟨calm₁, names, rfl | lazy⟩ := Reader.calm_step calm plain step
        · exact continues rest (Nat.lt_succ_self _) ⟨[c], rfl⟩ rfl calm₁ names h₁ room₁
        · obtain ⟨later, rfl⟩ := question_of_head bounded (congrArg List.head? lazy)
          obtain rfl : later.flatMap Piece.expression ++ t = left := (List.cons.inj lazy).2
          have room₂ : (later.flatMap Piece.expression ++ t).length ≤ k :=
            Nat.le_of_succ_le room₁
          refine continues (tame_of_lazy rest) ?_ ⟨[c, '?'], rfl⟩ rfl calm₁ names h₁ room₂
          exact Nat.lt_succ_of_lt (Nat.lt_succ_self _)
    | @group ps rest =>
      obtain ⟨k, r₁, left, rfl, step, h₁⟩ := Reader.run_cons (here _) room h
      obtain ⟨calm₁, names, rfl⟩ := Reader.calm_colon calm step
      refine continues rest ?_ ⟨['(', '?', ':'], rfl⟩ rfl calm₁ names h₁ ?_
      · simp only [List.length_cons]
        omega
      · change (ps.flatMap Piece.expression ++ t).length + 1 + 1 + 1 ≤ k + 1 at room
        omega
    | @escape c ps escapable unbroken rest =>
      obtain ⟨k, r₁, left, rfl, step, h₁⟩ := Reader.run_cons (here _) room h
      obtain ⟨calm₁, names, rfl⟩ := Reader.calm_escape calm escapable step
      refine continues rest ?_ ⟨['\\', c], rfl⟩ rfl calm₁ names h₁ ?_
      · simp only [List.length_cons]
        omega
      · change (ps.flatMap Piece.expression ++ t).length + 1 + 1 ≤ k + 1 at room
        omega
    | @var v ps own alone rest =>
      have text : (.var v :: ps).flatMap Piece.expression ++ t = '(' :: '?' :: '<' ::
          (v.groupName ++ '>' :: (v.body ++ ')' :: (ps.flatMap Piece.expression ++ t))) := by
        rw [List.flatMap_cons, Piece.expression, group_eq]
        simp
      rw [text] at h room quiet
      have quiet' : '\n' ∉ ps.flatMap Piece.expression ++ t := by
        intro member
        refine quiet ?_
        simp only [List.mem_cons, List.mem_append] at member ⊢
        tauto
      obtain ⟨k, r₁, room₁, h₁, passes⟩ :=
        Reader.run_group alone (fun _ _ _ => quiet') calm (unended_groupName v) h room finished
      obtain ⟨l, r', room', h', names'⟩ :=
        ih ps.length (size ▸ Nat.lt_succ_self _) rest quiet' passes.calm h₁ room₁ rfl
      refine ⟨l, r', room', h', ?_⟩
      have listed : namesOf v.body = own.names.map (·.1) := by rw [namesOf, alone]
      rw [names', passes.listed]
      simp [groupNames, Piece.var?, Variable.groupNames, listed]

end

end EndpointRouting.Template
