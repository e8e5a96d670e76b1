import EndpointRouting.Proofs.Route.Slots

/-!
# One stem for all routes of an endpoint

The mapping and the paths of an endpoint continue its base path without its last slash, so that the
path of a static route tells, behind that stem, what the matcher of the route accepts. Routes away
from the root share neither a path nor, where they have no variables, a matcher, unless they have
one template.
-/

namespace EndpointRouting.Route
open Http Token

/-- A template that is empty or starts with a slash, joined with a base. -/
theorem joinPath_template {base child : String} (template : child = "" ∨ Slashed child) :
    (joinPath base child).toList =
      if child = "" then base.toList else stemOf base ++ child.toList := by
  split
  · rename_i empty
    rw [empty, joinPath_empty]
  · rename_i other
    exact joinPath_toList (template.resolve_left other)

variable {d : Definition} {t : Table} {a b r : Route}

theorem base_of_build (built : Table.build d = .ok t) : t.base = d.base := by
  rw [(eq_of_build built).1]

theorem template_of_mem_routes (built : Table.build d = .ok t) (member : r ∈ t.routes) :
    r.pattern = "" ∨ Slashed r.pattern := by
  obtain ⟨x, _, rfl, _⟩ := declaration_of_mem built member
  exact handlerTemplate_slashed _ _

theorem path_toList (built : Table.build d = .ok t) (member : r ∈ t.routes) :
    r.path.toList =
      if r.pattern = "" then t.base.toList else stemOf t.base ++ r.pattern.toList := by
  rw [path_eq_of_mem built member, base_of_build built]
  exact joinPath_template (template_of_mem_routes built member)

theorem mapping_toList (t : Table) : t.mapping.toList = stemOf t.base ++ ['/', '*'] :=
  joinPath_toList ⟨['*'], rfl⟩

/-- Away from the root a route is mounted where its template is. -/
theorem path_eq_iff (built : Table.build d = .ok t) (left : a ∈ t.routes) (right : b ∈ t.routes)
    (notRoot : a.isIndex = false) (notRoot' : b.isIndex = false) :
    a.path = b.path ↔ a.pattern = b.pattern := by
  constructor
  · intro same
    rw [path_eq_of_mem built left, path_eq_of_mem built right] at same
    exact joinPath_injective (slashed_of_mem built left notRoot)
      (slashed_of_mem built right notRoot') same
  · exact fun same => (routes_alike built left right same).1

/-- The matcher of a route without variables. -/
theorem ofRoute_fixed (fixed : r.expression = none) :
    Matcher.ofRoute r = .ok (.fixed r.path r.pattern) := by
  rw [Matcher.ofRoute, fixed]

/-- The mapping is the stem of the base path and `/*`. A template is empty, and then mounted at the
base path itself, or starts with a slash, and is then mounted behind the stem. Behind the stem, the
path of a static route away from the root is the only path that its matcher accepts. Two routes away
from the root are mounted at one path just when they have one template, and then alone are their
matchers, where they have no variables, the same. -/
theorem routes_mounted_at_stem (built : Table.build d = .ok t) :
    t.base = basePath d.type d.options.path d.options.stem ∧
    t.mapping.toList = stemOf t.base ++ "/*".toList ∧
    (∀ r ∈ t.routes, (r.pattern = "" ∨ Slashed r.pattern) ∧
      r.path.toList =
        if r.pattern = "" then t.base.toList else stemOf t.base ++ r.pattern.toList) ∧
    (∀ r ∈ t.routes, r.expression = none → r.isIndex = false →
      ∃ m info, Matcher.ofRoute r = .ok m ∧ r.path.toList = stemOf t.base ++ info ∧
        ∀ q, m.accept? q = if q.path = some (.ofList info) then some q else none) ∧
    ∀ a ∈ t.routes, ∀ b ∈ t.routes, a.isIndex = false → b.isIndex = false →
      (a.path = b.path ↔ a.pattern = b.pattern) ∧
      (a.expression = none → b.expression = none →
        ∃ m n, Matcher.ofRoute a = .ok m ∧ Matcher.ofRoute b = .ok n ∧
          (m.same n = true ↔ a.pattern = b.pattern)) := by
  refine ⟨base_of_build built, mapping_toList t, ?_, ?_, ?_⟩
  · exact fun r member => ⟨template_of_mem_routes built member, path_toList built member⟩
  · intro r member fixed other
    have slashed := slashed_of_mem built member other
    refine ⟨_, r.pattern.toList, ofRoute_fixed fixed, ?_, fun q => ?_⟩
    · rw [path_eq_of_mem built member, base_of_build built]
      exact joinPath_toList slashed
    · rw [String.ofList_toList]
      rfl
  · intro a left b right notRoot notRoot'
    have paths := path_eq_iff built left right notRoot notRoot'
    refine ⟨paths, fun fixed fixed' => ⟨_, _, ofRoute_fixed fixed, ofRoute_fixed fixed', ?_⟩⟩
    rw [← paths]
    exact beq_iff_eq

/-- A base path with a slash at its end, both spellings of the root, and a static route. -/
def shop : Definition where
  type := ⟨"Shop", false⟩
  options := { path := some "/shop/" }
  handlers := [⟨⟨"index", false⟩, [⟨.get, none⟩, ⟨.post, some "/"⟩], none⟩,
    ⟨⟨"list", false⟩, [⟨.get, none⟩], none⟩,
    ⟨⟨"item", false⟩, [⟨.get, some "item/\x7bid\x7d"⟩], none⟩]

def shopTable : Table where
  base := "/shop/"
  routes := [⟨.get, "/shop/", "", none, [], ⟨"index", false⟩, .open⟩,
    ⟨.get, "/shop/list", "/list", none, [], ⟨"list", false⟩, .open⟩,
    ⟨.get, "/shop/item/\x7bid\x7d", "/item/\x7bid\x7d", some "/item/(?<id>[^/]+)", ["id"],
      ⟨"item", false⟩, .open⟩,
    ⟨.post, "/shop/", "/", none, [], ⟨"index", false⟩, .open⟩]

/-- Behind `/shop`, the path of the list is what its matcher accepts. -/
theorem routes_mounted_at_stem_shop : Table.build shop = .ok shopTable ∧
    shopTable.mapping = "/shop/*" ∧
    ∃ m, Matcher.ofRoute ⟨.get, "/shop/list", "/list", none, [], ⟨"list", false⟩, .open⟩ = .ok m ∧
      ∀ q, m.accept? q = if q.path = some "/list" then some q else none := by
  have built : Table.build shop = .ok shopTable := by decide +kernel
  obtain ⟨-, mapping, -, accepted, -⟩ := routes_mounted_at_stem built
  refine ⟨built, String.toList_inj.mp mapping, ?_⟩
  obtain ⟨m, info, made, mounted, accepts⟩ :=
    accepted ⟨.get, "/shop/list", "/list", none, [], ⟨"list", false⟩, .open⟩
      (by decide) rfl (by decide)
  have behind : info = "/list".toList := by
    change "/shop".toList ++ "/list".toList = "/shop".toList ++ info at mounted
    exact (List.append_cancel_left mounted).symm
  rw [behind] at accepts
  exact ⟨m, made, accepts⟩

end EndpointRouting.Route
