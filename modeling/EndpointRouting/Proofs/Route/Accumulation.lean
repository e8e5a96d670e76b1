import EndpointRouting.Proofs.Route.Filling

/-!
# Matchers one after the other

A matcher touches nothing of a request but attributes, and those only under the names of its
parameters whose groups took part in the match. Tried one after the other on one request, matchers
hit as each does alone, and an attribute ends up with what the last one of them captured for it.
-/

namespace EndpointRouting

namespace Route
open Http

namespace Matcher

/-- What a matcher captures from a path under a name: the name is one of its parameters, and the
group of the name took part in the match. -/
def captured? : Matcher → Option String → String → Option String
  | parameterized _ _ regex parameters, some path, name =>
    if path = "" ∨ path = "/" ∨ name ∉ parameters then none
    else (regex.search? path.toList).bind fun found =>
      (regex.captured? found name.toList).map String.ofList
  | _, _, _ => none

/-- The matcher accepts a request that has nothing but the path. -/
def hits (m : Matcher) (path : Option String) : Bool :=
  (m.accept? { verb := .get, path }).isSome

/-- A request after a matcher was tried on it. -/
def pass (r : Request) (m : Matcher) : Request := (m.accept? r).getD r

/-- A request after matchers were tried on it, one after the other. -/
def passAll (ms : List Matcher) (r : Request) : Request := ms.foldl pass r

/-- Which matchers hit, each tried on the request as the ones before it left it. -/
def hitsAlong : List Matcher → Request → List Bool
  | [], _ => []
  | m :: ms, r => (m.accept? r).isSome :: hitsAlong ms (pass r m)

variable {m : Matcher} {ms : List Matcher} {r matched : Request}

/-! ### One matcher -/

theorem attribute?_writeCaptured (r : Request) (names : List String) (value : String → Option String)
    (other : String) :
    (writeAttributes r (names.filterMap fun name => (value name).map (name, ·))).attribute? other =
      (if other ∈ names then value other else none).or (r.attribute? other) := by
  induction names generalizing r with
  | nil => rfl
  | cons name names ih =>
    rw [List.filterMap_cons]
    cases taken : value name with
    | none =>
      rw [Option.map_none, ih]
      by_cases later : other ∈ names
      · rw [if_pos later, if_pos (List.mem_cons_of_mem _ later)]
      · rw [if_neg later]
        by_cases same : other = name
        · rw [if_pos (by simp [same]), same, taken]
        · rw [if_neg (by simp [same, later])]
    | some text =>
      change (writeAttributes (r.setAttribute name text) _).attribute? other = _
      rw [ih, Request.attribute?_setAttribute]
      by_cases later : other ∈ names
      · rw [if_pos later, if_pos (List.mem_cons_of_mem _ later)]
        by_cases same : other = name
        · rw [if_pos same, same, taken]
          rfl
        · rw [if_neg same]
      · rw [if_neg later, Option.none_or]
        by_cases same : other = name
        · rw [if_pos same, if_pos (by simp [same]), same, taken]
          rfl
        · rw [if_neg same, if_neg (by simp [same, later])]
          rfl

theorem isRoot_iff_path {path : String} (here : r.path = some path) :
    r.isRoot = true ↔ path = "" ∨ path = "/" := by
  unfold Request.isRoot
  rw [here]
  simp

/-- Of a request that it accepts a matcher changes nothing but attributes, and those to what it
captures. -/
theorem accept?_frame (hit : m.accept? r = some matched) :
    matched = { r with attributes := matched.attributes } ∧
      ∀ name, matched.attribute? name = (m.captured? r.path name).or (r.attribute? name) := by
  cases m with
  | index | fixed =>
    unfold accept? at hit
    dsimp only at hit
    split at hit
    · cases hit
      exact ⟨rfl, fun name => rfl⟩
    · cases hit
  | parameterized uri pattern regex parameters =>
    obtain ⟨elsewhere, -⟩ := accept?_parameterized hit
    obtain ⟨path, found, here, search, rfl⟩ := accept?_captures hit
    refine ⟨writeAttributes_eq _ _, fun name => ?_⟩
    have shown : ¬ (path = "" ∨ path = "/") := by
      rw [← isRoot_iff_path here, elsewhere]
      exact Bool.false_ne_true
    have written := attribute?_writeCaptured r parameters
      (fun name => (regex.captured? found name.toList).map String.ofList) name
    simp only [Option.map_map, Function.comp_def] at written
    rw [written, captured?.eq_def, here]
    dsimp only
    by_cases listed : name ∈ parameters
    · rw [if_pos listed, if_neg (by tauto), search]
      rfl
    · rw [if_neg listed, if_pos (by tauto)]

/-- Whether a matcher accepts a request depends on nothing but the path. -/
theorem isSome_accept? (m : Matcher) (r : Request) : (m.accept? r).isSome = m.hits r.path := by
  unfold hits
  cases m with
  | index | fixed =>
    unfold accept? Request.isRoot
    dsimp only
    split <;> rfl
  | parameterized uri pattern regex parameters =>
    have root : ({ verb := .get, path := r.path } : Request).isRoot = r.isRoot := rfl
    unfold accept?
    dsimp only
    rw [root]
    split
    · rfl
    · cases r.path with
      | none => rfl
      | some path => simp

theorem captured?_of_miss (missed : m.hits r.path = false) (name : String) :
    m.captured? r.path name = none := by
  rw [← isSome_accept?] at missed
  cases m with
  | index | fixed => rfl
  | parameterized uri pattern regex parameters =>
    cases here : r.path with
    | none => rfl
    | some path =>
      unfold captured?
      dsimp only
      split
      · rfl
      · rename_i shown
        have elsewhere : r.isRoot = false := by
          rw [← Bool.not_eq_true, isRoot_iff_path here]
          tauto
        have unmatched : regex.search? path.toList = none := by
          simpa [accept?, elsewhere, here, captures] using missed
        rw [unmatched]
        rfl

theorem mem_of_captured? {path : Option String} {name value : String}
    (captured : m.captured? path name = some value) :
    name ∈ m.parameterNames ∧ ∃ p, path = some p ∧ value.toList <:+: p.toList := by
  cases m with
  | index | fixed => cases captured
  | parameterized uri pattern regex parameters =>
    cases path with
    | none => cases captured
    | some p =>
      unfold captured? at captured
      dsimp only at captured
      split at captured
      · cases captured
      · rename_i shown
        obtain ⟨found, search, captured⟩ := Option.bind_eq_some_iff.mp captured
        obtain ⟨text, group, rfl⟩ := Option.map_eq_some_iff.mp captured
        have listed : name ∈ parameters := by tauto
        refine ⟨listed, p, rfl, ?_⟩
        rw [String.toList_ofList]
        exact Regex.captured?_infix search group

/-- What one matcher does to a request: on a miss nothing, and in any case nothing but to write what
it captures. -/
theorem pass_frame (m : Matcher) (r : Request) :
    pass r m = { r with attributes := (pass r m).attributes } ∧
      (m.hits r.path = false → pass r m = r) ∧
      ∀ name, (pass r m).attribute? name = (m.captured? r.path name).or (r.attribute? name) := by
  unfold pass
  cases outcome : m.accept? r with
  | some matched =>
    obtain ⟨kept, written⟩ := accept?_frame outcome
    refine ⟨kept, fun missed => ?_, written⟩
    rw [← isSome_accept?, outcome] at missed
    cases missed
  | none =>
    have missed : m.hits r.path = false := by
      rw [← isSome_accept?, outcome]
      rfl
    refine ⟨rfl, fun _ => rfl, fun name => ?_⟩
    rw [captured?_of_miss missed]
    rfl

/-! ### Matchers one after the other -/

theorem pass_path (r : Request) (m : Matcher) : (pass r m).path = r.path := by
  rw [(pass_frame m r).1]

theorem passAll_frame (ms : List Matcher) (r : Request) :
    passAll ms r = { r with attributes := (passAll ms r).attributes } := by
  induction ms generalizing r with
  | nil => rfl
  | cons m ms ih =>
    change passAll ms (pass r m) = { r with attributes := (passAll ms (pass r m)).attributes }
    rw [ih (pass r m), (pass_frame m r).1]

theorem hitsAlong_eq_map (ms : List Matcher) (r : Request) :
    hitsAlong ms r = ms.map (·.hits r.path) := by
  induction ms generalizing r with
  | nil => rfl
  | cons m ms ih => rw [hitsAlong, ih, pass_path, isSome_accept?, List.map_cons]

/-- The last of the matchers that captures anything under a name, and what it captures. -/
def LastCaptures (ms : List Matcher) (path : Option String) (name value : String) : Prop :=
  ∃ before m later, ms = before ++ m :: later ∧ m.hits path = true ∧
    m.captured? path name = some value ∧ ∀ n ∈ later, n.captured? path name = none

theorem attribute?_passAll (ms : List Matcher) (r : Request) (name : String) :
    (∃ value, LastCaptures ms r.path name value ∧ (passAll ms r).attribute? name = some value) ∨
      (∀ m ∈ ms, m.captured? r.path name = none) ∧
        (passAll ms r).attribute? name = r.attribute? name := by
  induction ms using List.reverseRecOn with
  | nil => exact .inr ⟨by simp, rfl⟩
  | append_singleton ms m ih =>
    have written : (passAll (ms ++ [m]) r).attribute? name =
        (m.captured? r.path name).or ((passAll ms r).attribute? name) := by
      have path : (passAll ms r).path = r.path := by rw [passAll_frame]
      rw [passAll, List.foldl_append]
      change (pass (passAll ms r) m).attribute? name = _
      rw [(pass_frame m _).2.2, path]
    cases captured : m.captured? r.path name with
    | some value =>
      have hit : m.hits r.path = true := by
        by_contra missed
        rw [captured?_of_miss (Bool.not_eq_true _ ▸ missed)] at captured
        cases captured
      rw [captured] at written
      exact .inl ⟨value, ⟨ms, m, [], rfl, hit, captured, by simp⟩, written⟩
    | none =>
      rw [captured, Option.none_or] at written
      rw [written]
      rcases ih with ⟨value, ⟨before, n, later, rfl, hit, last, others⟩, final⟩ | ⟨none_captured, kept⟩
      · refine .inl ⟨value, ⟨before, n, later ++ [m], by simp, hit, last, ?_⟩, final⟩
        exact List.forall_mem_append.mpr ⟨others, List.forall_mem_singleton.mpr captured⟩
      · exact .inr ⟨List.forall_mem_append.mpr
          ⟨none_captured, List.forall_mem_singleton.mpr captured⟩, kept⟩

/-- Matchers tried one after the other change nothing of a request but attributes. Each hits if and
only if it hits a request with the same path and nothing else. An attribute ends up with what the
last matcher that captures anything under its name captured, or as it was if none does. Each of
them, whatever the request, changes nothing on a miss, and otherwise sets what it captures and leaves
the other attributes: only names of its parameters, to pieces of the path. -/
theorem attributes_after_matchers (ms : List Matcher) (r : Request) :
    passAll ms r = { r with attributes := (passAll ms r).attributes } ∧
    hitsAlong ms r = ms.map (·.hits r.path) ∧
    (∀ name,
      (∃ value, LastCaptures ms r.path name value ∧
        (passAll ms r).attribute? name = some value) ∨
      ((∀ m ∈ ms, m.captured? r.path name = none) ∧
        (passAll ms r).attribute? name = r.attribute? name)) ∧
    ∀ (m : Matcher) (q : Request),
      (m.accept? q).isSome = m.hits q.path ∧
      pass q m = { q with attributes := (pass q m).attributes } ∧
      (m.hits q.path = false → pass q m = q) ∧
      ∀ name, (pass q m).attribute? name = (m.captured? q.path name).or (q.attribute? name) ∧
        ∀ value, m.captured? q.path name = some value →
          name ∈ m.parameterNames ∧ ∃ path, q.path = some path ∧ value.toList <:+: path.toList := by
  refine ⟨passAll_frame ms r, hitsAlong_eq_map ms r, attribute?_passAll ms r, fun m q => ?_⟩
  obtain ⟨kept, missed, written⟩ := pass_frame m q
  exact ⟨isSome_accept? m q, kept, missed,
    fun name => ⟨written name, fun value captured => mem_of_captured? captured⟩⟩

end Matcher

end Route
end EndpointRouting
