import EndpointRouting.Proofs.Regex.Anchoring
import EndpointRouting.Route.Matcher

/-!
# Matching by an expression

A matcher with parameters anchors its expression by text and promises that a match covers the whole
path. The promise holds for expressions that compile by themselves. It fails for those that close
the group around them: `parameterized_covers` says what both do.
-/

namespace EndpointRouting.Route
open Http

theorem anchored_toList (expression : String) :
    (anchored expression).toList = Regex.anchor expression.toList := by
  unfold anchored Regex.anchor
  rw [String.toList_append, String.toList_append]
  rfl

namespace Matcher

/-- The request after an expression matched the whole of its path. -/
def acceptWhole? (own : Regex) (parameters : List String) (r : Request) : Option Request :=
  if r.isRoot then none
  else r.path.bind fun path =>
    (own.whole? path.toList).map fun found =>
      writeAttributes r (parameters.filterMap fun name =>
        (own.captured? found name.toList).map fun value => (name, String.ofList value))

variable {uri pattern expression : String} {parameters : List String} {m : Matcher}

theorem parameterized?_ok (accepted : parameterized? uri pattern expression parameters = .ok m) :
    ∃ regex, Regex.compile (Regex.anchor expression.toList) = .ok regex ∧
      m = .parameterized uri pattern regex parameters := by
  obtain ⟨regex, hregex, rfl⟩ := map_ok accepted
  rw [anchored_toList] at hregex
  exact ⟨regex, hregex, rfl⟩

/-- A hit of a matcher with parameters, taken apart. -/
theorem accept?_parameterized {regex : Regex} {r matched : Request}
    (hit : (Matcher.parameterized uri pattern regex parameters).accept? r = some matched) :
    r.isRoot = false ∧ ∃ path found, r.path = some path ∧ regex.search? path.toList = some found := by
  simp only [accept?] at hit
  split at hit
  · cases hit
  · rename_i not_root
    obtain ⟨path, hpath, hit⟩ := Option.bind_eq_some_iff.1 hit
    obtain ⟨values, hvalues, -⟩ := Option.map_eq_some_iff.1 hit
    obtain ⟨found, hfound, -⟩ := Option.map_eq_some_iff.1 hvalues
    exact ⟨by simpa using not_root, path, found, hpath, hfound⟩

/-- An expression that compiles by itself is matched against whole paths: the anchored expression
finds a match from the first character to the last or none, and the matcher accepts what the
expression alone matches as a whole. An expression that closes the group around it and goes on with
an alternative finds at the start of a path what its first part matches there, whatever follows, and
the path is accepted. The alternative holds no line break, which could end a comment that the first
part leaves open. Nothing is said of other expressions, as of one that closes the group and goes on
without an alternative. -/
theorem parameterized_covers
    (accepted : parameterized? uri pattern expression parameters = .ok m) :
    ∃ regex, m = .parameterized uri pattern regex parameters ∧
      (∀ own, Regex.compile expression.toList = .ok own →
        (∀ r matched, m.accept? r = some matched →
          ∃ path found, r.path = some path ∧ regex.search? path.toList = some found ∧
            found ∈ regex.node.ends ⟨[], path.toList, []⟩ ∧ found.after = []) ∧
        ∀ r, m.accept? r = acceptWhole? own parameters r) ∧
      ∀ (first second : String) (own : Regex), expression = first ++ ")|" ++ second →
        '\n' ∉ second.toList → Regex.compile first.toList = .ok own →
        ∀ (path : String) (found : Regex.Cursor),
          (own.node.ends ⟨[], path.toList, []⟩).head? = some found →
          regex.search? path.toList = some found ∧
            ∀ r : Request, r.path = some path → r.isRoot = false → (m.accept? r).isSome := by
  obtain ⟨regex, compiled, rfl⟩ := parameterized?_ok accepted
  refine ⟨regex, rfl, fun own alone => ⟨fun r matched hit => ?_, fun r => ?_⟩, ?_⟩
  · obtain ⟨-, path, found, hpath, hfound⟩ := accept?_parameterized hit
    exact ⟨path, found, hpath, hfound, Regex.search?_anchor_covers alone compiled hfound⟩
  · unfold acceptWhole? accept? captures
    simp only [Regex.search?_anchor alone compiled, Regex.captured?_anchor alone compiled,
      Option.map_map]
    rfl
  · intro first second own hexpression quiet alone path found begins
    subst hexpression
    have text : (first ++ ")|" ++ second).toList = first.toList ++ ')' :: '|' :: second.toList := by
      simp [String.toList_append]
    rw [text] at compiled
    have hfound := Regex.search?_anchor_of_closed quiet alone compiled begins
    refine ⟨hfound, fun r hpath not_root => ?_⟩
    simp only [accept?, not_root, hpath]
    simp [captures, hfound]

/-- A segment is matched as a whole. With the group closed early, a match of the segment is found
in a path that goes on after it, and the path is accepted. -/
theorem parameterized_covers_segment :
    (∃ m own, parameterized? "/api/t/\x7bid\x7d" "/\x7bid\x7d" "/(?<id>[^/]+)" ["id"] = .ok m ∧
      Regex.compile "/(?<id>[^/]+)".toList = .ok own ∧
      (m.accept? { verb := .get, path := some "/5" }).isSome ∧
      m.accept? { verb := .get, path := some "/5/x" } =
        acceptWhole? own ["id"] { verb := .get, path := some "/5/x" }) ∧
    ∃ regex, parameterized? "/api/t/\x7bid\x7d)|(?:x" "/\x7bid\x7d)|(?:x" "/(?<id>[^/]+))|(?:x"
        ["id"] = .ok (.parameterized "/api/t/\x7bid\x7d)|(?:x" "/\x7bid\x7d)|(?:x" regex ["id"]) ∧
      regex.search? "/5/x".toList = some ⟨['5', '/'], ['/', 'x'], [(1, ['5'])]⟩ ∧
      ((Matcher.parameterized "/api/t/\x7bid\x7d)|(?:x" "/\x7bid\x7d)|(?:x" regex ["id"]).accept?
        { verb := .get, path := some "/5/x" }).isSome := by
  obtain ⟨own, alone⟩ : ∃ own, Regex.compile "/(?<id>[^/]+)".toList = .ok own :=
    ok_of_isSome (by decide +kernel)
  constructor
  · obtain ⟨m, accepted⟩ : ∃ m,
        parameterized? "/api/t/\x7bid\x7d" "/\x7bid\x7d" "/(?<id>[^/]+)" ["id"] = .ok m :=
      ok_of_isSome (by decide +kernel)
    have hit : ((parameterized? "/api/t/\x7bid\x7d" "/\x7bid\x7d" "/(?<id>[^/]+)" ["id"]).toOption.bind
        (·.accept? { verb := .get, path := some "/5" })).isSome := by decide +kernel
    obtain ⟨_, _, covers, _⟩ := parameterized_covers accepted
    rw [accepted] at hit
    exact ⟨m, own, accepted, alone, hit, (covers own alone).2 _⟩
  · obtain ⟨m, accepted⟩ : ∃ m,
        parameterized? "/api/t/\x7bid\x7d)|(?:x" "/\x7bid\x7d)|(?:x" "/(?<id>[^/]+))|(?:x" ["id"] =
          .ok m := ok_of_isSome (by decide +kernel)
    have begins : (Regex.compile "/(?<id>[^/]+)".toList).toOption.bind
        (fun own => (own.node.ends ⟨[], "/5/x".toList, []⟩).head?) =
          some ⟨['5', '/'], ['/', 'x'], [(1, ['5'])]⟩ := by decide +kernel
    rw [alone] at begins
    obtain ⟨regex, rfl, _, closed⟩ := parameterized_covers accepted
    obtain ⟨found, hits⟩ :=
      closed "/(?<id>[^/]+)" "(?:x" own rfl (by decide) alone "/5/x" _ begins
    exact ⟨regex, accepted, found, hits _ rfl (by decide)⟩

end Matcher

end EndpointRouting.Route
