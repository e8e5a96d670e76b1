import EndpointRouting.Proofs.Route.Building
import EndpointRouting.Proofs.Route.Matching
import EndpointRouting.Proofs.Template.Tame

/-!
# Parameters and groups

A route looks its parameters up under the names of the groups in its expression. The names of the
groups are always different. For a tame template `parameters_are_groups` says what they are: one
for each variable, up to the first angle bracket in its name, and after it those in the pattern of
the variable. So they are the parameters just if no variable has an angle bracket in its name or a
named group in its pattern.
-/

namespace EndpointRouting.Template
open Regex Text

/-! ### Expressions on one line -/

theorem no_break_readPattern {cs p r : List Char} (read : readPattern cs = some (p, r)) :
    '\n' ∉ p := by
  induction cs generalizing p with
  | nil => cases read
  | cons c rest ih =>
    rw [readPattern] at read
    split at read
    · cases read
      simp
    · split at read
      · cases read
      · rename_i unbroken
        obtain ⟨⟨q, s⟩, later, same⟩ := Option.map_eq_some_iff.mp read
        cases same
        simp only [List.mem_cons, not_or]
        exact ⟨fun same => unbroken same.symm, ih later⟩

theorem no_break_readVariable {cs r : List Char} {v : Variable}
    (read : readVariable cs = some (v, r)) :
    '\n' ∉ v.name ∧ ∀ p, v.pattern = some p → '\n' ∉ p := by
  induction cs generalizing v with
  | nil => cases read
  | cons c rest ih =>
    rw [readVariable] at read
    split at read
    · rename_i p s own
      cases read
      refine ⟨by simp, fun q same => ?_⟩
      cases same
      unfold readOwnPattern at own
      split at own
      · split at own
        · exact no_break_readPattern own
        · cases own
      · cases own
    · split at read
      · cases read
        exact ⟨by simp, fun p same => by cases same⟩
      · split at read
        · cases read
        · rename_i unbroken
          obtain ⟨⟨w, s⟩, later, same⟩ := Option.map_eq_some_iff.mp read
          cases same
          obtain ⟨name, pattern⟩ := ih later
          refine ⟨?_, pattern⟩
          simp only [List.mem_cons, not_or]
          exact ⟨fun same => unbroken same.symm, name⟩

theorem no_break_replaceAll {old new cs : List Char} (quiet : '\n' ∉ new) (unbroken : '\n' ∉ cs) :
    '\n' ∉ replaceAll old new cs := by
  fun_induction replaceAll old new cs with
  | case1 => simp
  | case2 c rest _ ih =>
    rw [List.mem_append, not_or]
    refine ⟨quiet, ih fun member => unbroken ?_⟩
    exact List.mem_cons_of_mem _ (List.mem_of_mem_drop member)
  | case3 c rest _ ih =>
    rw [List.mem_cons, not_or] at unbroken ⊢
    exact ⟨unbroken.1, ih unbroken.2⟩

theorem no_break_expandClasses {pattern : List Char} (unbroken : '\n' ∉ pattern) :
    '\n' ∉ expandClasses pattern := by
  have step (entries : List (List Char × List Char)) (quiet : ∀ e ∈ entries, '\n' ∉ e.2)
      (cs : List Char) (unbroken : '\n' ∉ cs) :
      '\n' ∉ entries.foldl (fun p e => replaceAll e.1 e.2 p) cs := by
    induction entries generalizing cs with
    | nil => exact unbroken
    | cons e entries ih =>
      refine ih (fun e member => quiet e (List.mem_cons_of_mem _ member)) _ ?_
      exact no_break_replaceAll (quiet e List.mem_cons_self) unbroken
  exact step classes (by decide) pattern unbroken

theorem readVariable_of_mem {cs : List Char} {v : Variable} (member : .var v ∈ pieces cs) :
    ∃ start rest, readVariable start = some (v, rest) := by
  fun_induction pieces cs with
  | case1 => cases member
  | case2 rest w r read _ ih =>
    rcases List.mem_cons.mp member with same | later
    · cases same
      exact ⟨rest, r, read⟩
    · exact ih later
  | case3 rest _ ih =>
    rcases List.mem_cons.mp member with same | later
    · cases same
    · exact ih later
  | case4 c rest _ ih =>
    rcases List.mem_cons.mp member with same | later
    · cases same
    · exact ih later

theorem no_break_group {cs : List Char} {v : Variable} (member : v ∈ vars cs) : '\n' ∉ v.group := by
  obtain ⟨p, present, found⟩ := List.mem_filterMap.mp member
  cases p with
  | literal _ => cases found
  | var w =>
    cases found
    obtain ⟨start, rest, read⟩ := readVariable_of_mem present
    obtain ⟨name, pattern⟩ := no_break_readVariable read
    have inner : '\n' ∉ (v.pattern.map expandClasses).getD segment := by
      cases own : v.pattern with
      | none =>
        rw [Option.map_none, Option.getD_none]
        decide +kernel
      | some p =>
        rw [Option.map_some, Option.getD_some]
        exact no_break_expandClasses (pattern p own)
    have text : v.group = "(?<".toList ++ v.name ++
        '>' :: (v.pattern.map expandClasses).getD segment ++ [')'] := rfl
    have opening : '\n' ∉ "(?<".toList := by decide +kernel
    rw [text]
    simp only [List.mem_append, List.mem_cons, List.not_mem_nil, not_or, or_false]
    exact ⟨⟨⟨opening, name⟩, by decide, inner⟩, by decide⟩

theorem no_break_expression {ps : List Piece} (tame : Tame ps)
    (quiet : ∀ v ∈ ps.filterMap Piece.var?, '\n' ∉ v.group) :
    '\n' ∉ ps.flatMap Piece.expression := by
  induction tame with
  | nil => simp
  | literal closed _ _ ih =>
    have later := ih quiet
    rw [List.flatMap_cons, List.mem_append, not_or]
    refine ⟨?_, later⟩
    rintro broken
    obtain rfl := List.mem_singleton.mp broken
    exact closed (by decide)
  | group _ ih =>
    have later := ih quiet
    simp [List.flatMap_cons, Piece.expression, later]
  | escape _ unbroken _ ih =>
    have later := ih quiet
    simp [List.flatMap_cons, Piece.expression, later, unbroken.symm]
  | var _ _ ih =>
    have here := quiet _ List.mem_cons_self
    have later := ih fun v member => quiet v (List.mem_cons_of_mem _ member)
    rw [List.flatMap_cons, List.mem_append, not_or]
    exact ⟨here, later⟩

/-- The groups of a tame template that has been anchored. -/
theorem names_of_tame {ps : List Piece} (tame : Tame ps)
    (quiet : ∀ v ∈ ps.filterMap Piece.var?, '\n' ∉ v.group) {re : Regex}
    (compiled : Regex.compile (anchor (ps.flatMap Piece.expression)) = .ok re) :
    re.names.map (·.1) = groupNames ps := by
  obtain ⟨read, _, hread, -, names⟩ := compile_ok compiled
  obtain ⟨n, span, r, room, run, finished, names'⟩ := read_anchor_ok hread
  have unbroken : '\n' ∉ ps.flatMap Piece.expression ++ [')', '$'] := by
    simpa using no_break_expression tame quiet
  obtain ⟨l, r₁, room, run, known⟩ :=
    run_tame tame unbroken (by simp) (Reader.calm_wrapped span) run room finished
  have unskipped : skip r₁.verbose [')', '$'] = [')', '$'] := by cases r₁.verbose <;> rfl
  obtain ⟨l, r₂, rest, rfl, step, run⟩ := Reader.run_cons unskipped room run
  obtain ⟨r₃, close, step⟩ := bind_ok step
  cases step
  obtain rfl := Reader.run_dollar (Nat.le_of_succ_le_succ room) run
  have kept : (r₂.push (.anchor .lineEnd)).names = r₁.names :=
    (Reader.names_of_closeParenthesis close).1
  have entries : (r₁.names.map (GroupName.entry 0)).map (·.1) = r₁.names.map (·.name) := by
    rw [List.map_map]
    rfl
  have none_before : (Reader.wrapped span).names.map (·.name) = [] := rfl
  rw [names, names', kept, List.map_reverse, entries, known, none_before, List.append_nil,
    List.reverse_reverse]

theorem groupName_eq_iff (v : Variable) : v.groupName = v.name ↔ '>' ∉ v.name := by
  constructor
  · intro same
    rw [← same]
    exact unended_groupName v
  · intro unended
    refine List.takeWhile_eq_self_iff.mpr fun c member => ?_
    rw [bne_iff_ne]
    rintro rfl
    exact unended member

/-- A variable that is found under its whole name, and brings no other name along. -/
def Variable.IsGroup (v : Variable) : Prop := '>' ∉ v.name ∧ namesOf v.body = []

theorem groupNames_eq_iff (ps : List Piece) :
    groupNames ps = (ps.filterMap Piece.var?).map Variable.name ↔
      ∀ v ∈ ps.filterMap Piece.var?, v.IsGroup := by
  have each : groupNames ps = (ps.filterMap Piece.var?).map Variable.name ↔
      ∀ v ∈ ps.filterMap Piece.var?, v.groupName = v.name ∧ namesOf v.body = [] :=
    flatMap_cons_eq_map_iff
  simp only [groupName_eq_iff] at each
  exact each

end EndpointRouting.Template

namespace EndpointRouting.Route
open Http Template Token

variable {d : Definition} {t : Table}

/-- The template of a route, whose expression has compiled. -/
theorem template_of_mem (built : Table.build d = .ok t) {r : Route} (member : r ∈ t.routes) :
    r.expression = (Template.compile r.path r.pattern).expression ∧
      r.parameters = (Template.compile r.path r.pattern).parameters ∧
      ∀ e, r.expression = some e → ∃ re, Regex.compile (anchored e).toList = .ok re := by
  obtain ⟨x, -, rfl, compiles⟩ := declaration_of_mem built member
  exact ⟨rfl, rfl, compiles⟩

theorem parameters_eq_iff {ps : List Piece} {re : Regex}
    (named : re.names.map (·.1) = groupNames ps) :
    re.names.map (fun n => String.ofList n.1) =
        (ps.filterMap Piece.var?).map (fun v => String.ofList v.name) ↔
      ∀ v ∈ ps.filterMap Piece.var?, v.IsGroup := by
  rw [← groupNames_eq_iff, ← named]
  have injective : Function.Injective String.ofList := fun _ _ => String.ofList_injective
  have left : re.names.map (fun n => String.ofList n.1) =
      (re.names.map (·.1)).map String.ofList := by
    rw [List.map_map]
    rfl
  have right : (ps.filterMap Piece.var?).map (fun v => String.ofList v.name) =
      ((ps.filterMap Piece.var?).map Variable.name).map String.ofList := by
    rw [List.map_map]
    rfl
  rw [left, right]
  exact (List.map_injective_iff.mpr injective).eq_iff

/-- The groups of a route have different names, in the order of the groups. In a tame template
they are the groups of the variables, and they are the parameters just if each variable is a group
by its whole name and brings no other along; then the parameters differ too. -/
theorem parameters_are_groups (built : Table.build d = .ok t) {r : Route} (member : r ∈ t.routes) :
    (r.expression = none → r.parameters = []) ∧
    ∀ e, r.expression = some e → ∃ re, Regex.compile (anchored e).toList = .ok re ∧
      (re.names.map (·.1)).Nodup ∧ (re.names.map (·.2)).Pairwise (· < ·) ∧
      (Tame (pieces r.pattern.toList) →
        re.names.map (·.1) = groupNames (pieces r.pattern.toList) ∧
        (re.names.map (fun n => String.ofList n.1) = r.parameters ↔
          ∀ v ∈ vars r.pattern.toList, v.IsGroup) ∧
        ((∀ v ∈ vars r.pattern.toList, v.IsGroup) → r.parameters.Nodup)) := by
  obtain ⟨expression, parameters, compiles⟩ := template_of_mem built member
  constructor
  · intro plain
    rw [plain] at expression
    rw [parameters]
    unfold Template.compile at expression ⊢
    dsimp only at expression ⊢
    split at expression
    · rename_i empty
      rw [List.isEmpty_iff.mp empty, List.map_nil]
    · cases expression
  · intro e here
    obtain ⟨re, compiled⟩ := compiles e here
    have text : e.toList = (pieces r.pattern.toList).flatMap Piece.expression := by
      rw [here] at expression
      unfold Template.compile at expression
      dsimp only at expression
      split at expression
      · cases expression
      · rw [Option.some.inj expression, String.toList_ofList]
    have compiled' := compiled
    rw [anchored_toList, text] at compiled'
    obtain ⟨read, _, hread, -, names⟩ := Regex.compile_ok compiled'
    obtain ⟨distinct, ordered⟩ := Regex.read_names_ordered hread
    rw [← names] at distinct ordered
    refine ⟨re, compiled, distinct, ordered, fun tame => ?_⟩
    have named := names_of_tame tame (fun v => no_break_group) compiled'
    have same := parameters_eq_iff named
    rw [parameters]
    refine ⟨named, same, fun groups => ?_⟩
    have injective : Function.Injective String.ofList := fun _ _ => String.ofList_injective
    have apart : (re.names.map fun n => String.ofList n.1).Nodup := by
      have mapped := distinct.map injective
      rwa [List.map_map] at mapped
    rw [same.mpr groups] at apart
    exact apart

/-- A segment under a name with an angle bracket in it. -/
def bracketed : Definition where
  type := ⟨"Tasks", false⟩
  handlers := [⟨⟨"day", false⟩, [⟨.get, some "/\x7ba>b\x7d"⟩], none⟩]

def bracketedRoute : Route :=
  ⟨.get, "/api/tasks/\x7ba>b\x7d", "/\x7ba>b\x7d", some "/(?<a>b>[^/]+)", ["a>b"],
    ⟨"day", false⟩, .open⟩

/-- The parameter is `a>b`, but the group is `a`. -/
theorem parameters_are_groups_bracketed :
    ∃ re, Regex.compile (anchored "/(?<a>b>[^/]+)").toList = .ok re ∧
      re.names.map (·.1) = [['a']] ∧
      re.names.map (fun n => String.ofList n.1) ≠ bracketedRoute.parameters := by
  have built : Table.build bracketed = .ok ⟨"/api/tasks", [bracketedRoute]⟩ := by decide +kernel
  obtain ⟨-, groups⟩ := parameters_are_groups built List.mem_cons_self
  obtain ⟨re, compiled, -, -, tame⟩ := groups _ rfl
  have scanned : pieces bracketedRoute.pattern.toList =
      [.literal '/', .var ⟨['a', '>', 'b'], none⟩] := by decide +kernel
  have listed : vars bracketedRoute.pattern.toList = [⟨['a', '>', 'b'], none⟩] := by
    rw [vars, scanned]
    rfl
  obtain ⟨own, alone⟩ :
      ∃ own, Regex.Pattern.read (Variable.body ⟨['a', '>', 'b'], none⟩) = .ok own :=
    ok_of_isSome (by decide +kernel)
  have between : Tame (pieces bracketedRoute.pattern.toList) := by
    rw [scanned]
    exact .literal (by decide) (by decide) (.var alone .nil)
  obtain ⟨named, same, -⟩ := tame between
  refine ⟨re, compiled, ?_, fun equal => ?_⟩
  · rw [named, scanned]
    decide +kernel
  · have whole := same.mp equal ⟨['a', '>', 'b'], none⟩ (by rw [listed]; exact List.mem_cons_self)
    exact whole.1 (by decide)

end EndpointRouting.Route
