import EndpointRouting.Code.Router

/-!
# Reading the descriptions in a router's code

What the constant for the routes says is read off the code as a compiler reads it: array items and
fields between commas, fields by their names, texts by their values. `routesListed?_routerCode`
says that it lists the descriptions of the table's routes, in their order.
-/

namespace EndpointRouting.Code
open Http Route Token

/-! ### Readers -/

def isComma : Tree → Bool
  | .punct ',' _ => true
  | _ => false

def isSemicolon : Tree → Bool
  | .punct ';' _ => true
  | _ => false

def isEquals : Tree → Bool
  | .punct '=' _ => true
  | _ => false

/-- The items of a list with commas between them. -/
def itemsOf (ts : Trees) : List Trees := if ts.isEmpty then [] else ts.splitOnP isComma

def readText? : Trees → Option String
  | [.literal l] => l.stringValue?
  | _ => none

def readArray? : Trees → Option (List Trees)
  | [.punct '&' _, .group .bracket items] => some (itemsOf items)
  | _ => none

def readTexts? (ts : Trees) : Option (List String) := (readArray? ts).bind (·.mapM readText?)

def readPath? : Trees → Option (List String)
  | [] => some []
  | .punct ':' true :: .punct ':' false :: .ident i :: rest =>
    (readPath? rest).map (i.spelling :: ·)
  | _ => none

def readVerb? (ts : Trees) : Option Verb :=
  match readPath? ts with
  | some ["barman", "http", "Verb", name] =>
    (RouteVerb.all.find? (variantName · == name)).map (·.toVerb)
  | _ => none

def readField? : Trees → Option (String × Trees)
  | .ident i :: .punct ':' false :: value => some (i.spelling, value)
  | _ => none

def braced? : Tree → Option Trees
  | .group .brace ts => some ts
  | _ => none

/-- The description that an expression builds. -/
def readInfo? (ts : Trees) : Option Info := do
  if readPath? ts.dropLast ≠ some ["barman", "router", "RouteInfo"] then none
  let fields ← (itemsOf (← ts.getLast?.bind braced?)).mapM readField?
  return {
    verb := ← (fields.lookup "verb").bind readVerb?
    path := ← (fields.lookup "path").bind readText?
    pattern := ← (fields.lookup "pattern").bind readText?
    handler := ← (fields.lookup "handler").bind readText?
    parameters := ← (fields.lookup "parameters").bind readTexts?
    allowed := ← (fields.lookup "allowed_roles").bind readTexts?
    rejected := ← (fields.lookup "rejected_roles").bind readTexts? }

/-- The value that a member gives to the constant of a name, if it is that constant. -/
def constantNamed? (name : String) : Trees → Option Trees
  | .ident c :: .ident i :: rest =>
    if c.spelling = "const" ∧ i.spelling = name then some ((rest.dropWhile (!isEquals ·)).drop 1)
    else none
  | _ => none

/-- The value of a constant among the members of an implementation. -/
def constant? (name : String) (members : Trees) : Option Trees :=
  (members.splitOnP isSemicolon).findSome? (constantNamed? name)

/-- The members of the implementation in a router's code: the last group of the block that the code
is the value of. -/
def membersOf? (code : Trees) : Option Trees := do
  (← (← code.findSome? braced?).getLast?.bind braced?)

/-- What the code lists as the routes. -/
def routesListed? (code : Trees) : Option (List Info) := do
  (← readArray? (← constant? "ROUTES" (← membersOf? code))).mapM readInfo?

/-! ### Lists of items -/

section
variable {sep : String} {between : Tree} {ends : Tree → Bool}

theorem separate_cons (one : mark sep = [between]) (first second : Trees) (rest : List Trees) :
    separate sep (first :: second :: rest) =
      first ++ between :: separate sep (second :: rest) := by
  simp [separate, one]

theorem splitOnP_separate (one : mark sep = [between]) (splits : ends between = true) {first : Trees}
    {rest : List Trees} (plain : ∀ item ∈ first :: rest, ∀ t ∈ item, ends t = false) :
    (separate sep (first :: rest)).splitOnP ends = first :: rest := by
  induction rest generalizing first with
  | nil => exact List.splitOnP_eq_singleton (plain first List.mem_cons_self)
  | cons second rest ih =>
    have later := ih fun item member => plain item (List.mem_cons_of_mem _ member)
    rw [separate_cons one,
      List.splitOnP_append_cons_of_forall_mem (plain first List.mem_cons_self) _ splits, later]

/-- Items that have tokens, but no mark among them, are told apart by the marks between them. -/
theorem parts_separate (one : mark sep = [between]) (splits : ends between = true) {items : List Trees}
    (filled : ∀ item ∈ items, item ≠ []) (plain : ∀ item ∈ items, ∀ t ∈ item, ends t = false) :
    (if (separate sep items).isEmpty then [] else (separate sep items).splitOnP ends) = items := by
  cases items with
  | nil => rfl
  | cons first rest =>
    have nonempty : (separate sep (first :: rest)).isEmpty = false := by
      have token := filled first List.mem_cons_self
      cases rest with
      | nil => simpa [separate] using token
      | cons second rest => simp [separate, token]
    rw [nonempty]
    exact splitOnP_separate one splits plain

end

theorem itemsOf_separate {items : List Trees} (filled : ∀ item ∈ items, item ≠ [])
    (plain : ∀ item ∈ items, ∀ t ∈ item, isComma t = false) :
    itemsOf (separate "," items) = items := by
  have comma : mark "," = [.punct ',' false] := rfl
  exact parts_separate comma rfl filled plain

theorem mapM_map_eq_some {α β γ : Type} {f : β → Option γ} {g : α → β} {h : α → γ} {xs : List α}
    (each : ∀ x ∈ xs, f (g x) = some (h x)) : (xs.map g).mapM f = some (xs.map h) := by
  induction xs with
  | nil => rfl
  | cons x rest ih =>
    have later := ih fun y member => each y (List.mem_cons_of_mem _ member)
    rw [List.map_cons, List.mapM_cons, each x List.mem_cons_self, later]
    rfl

theorem mapM_map_eq_self {α β : Type} {f : β → Option α} {g : α → β} {xs : List α}
    (each : ∀ x ∈ xs, f (g x) = some x) : (xs.map g).mapM f = some xs := by
  rw [mapM_map_eq_some (h := fun x => x) each, List.map_id']

theorem readTexts?_strings (texts : List String) : readTexts? (strings texts) = some texts := by
  have items : itemsOf (separate "," (texts.map fun s => [string s])) =
      texts.map fun s => [string s] := by
    apply itemsOf_separate <;> simp [string, isComma]
  have read : readArray? (strings texts) =
      some (itemsOf (separate "," (texts.map fun s => [string s]))) := rfl
  rw [readTexts?, read, items, Option.bind_some]
  exact mapM_map_eq_self fun _ _ => rfl

/-! ### Paths -/

theorem readPath?_path (names : List String) : readPath? (path names) = some names := by
  induction names with
  | nil => rfl
  | cons n rest ih =>
    have first : path (n :: rest) =
        .punct ':' true :: .punct ':' false :: .ident ⟨n, false⟩ :: path rest := rfl
    rw [first, readPath?, ih]
    rfl

theorem plain_path (names : List String) : ∀ t ∈ path names, isComma t = false := by
  intro t member
  obtain ⟨n, -, token⟩ := List.mem_flatMap.mp member
  have tokens : t ∈ [Tree.punct ':' true, .punct ':' false, .ident ⟨n, false⟩] := token
  simp only [List.mem_cons, List.not_mem_nil, or_false] at tokens
  rcases tokens with rfl | rfl | rfl <;> rfl

theorem readVerb?_verbPath (v : RouteVerb) : readVerb? (verbPath v) = some v.toVerb := by
  have names : readPath? (verbPath v) = some ["barman", "http", "Verb", variantName v] :=
    readPath?_path _
  rw [readVerb?, names]
  cases v <;> rfl

/-! ### Descriptions -/

def infoFields (i : Info) (verb : RouteVerb) : List (String × Trees) :=
  [("verb", verbPath verb), ("path", [string i.path]), ("pattern", [string i.pattern]),
    ("handler", [string i.handler]), ("parameters", strings i.parameters),
    ("allowed_roles", strings i.allowed), ("rejected_roles", strings i.rejected)]

theorem infoCode_eq (r : Route) :
    infoCode r = runtime ["router", "RouteInfo"] ++
      [.group .brace (separate "," ((infoFields (Info.ofRoute r) r.verb).map fun f =>
        field f.1 f.2))] := rfl

theorem plain_infoFields (i : Info) (verb : RouteVerb) :
    ∀ f ∈ infoFields i verb, ∀ t ∈ f.2, isComma t = false := by
  simp only [infoFields, List.forall_mem_cons]
  have texts : ∀ items, ∀ t ∈ strings items, isComma t = false := by
    intro items t member
    have tokens : t ∈ [Tree.punct '&' false,
      .group .bracket (separate "," (items.map fun s => [string s]))] := member
    simp only [List.mem_cons, List.not_mem_nil, or_false] at tokens
    rcases tokens with rfl | rfl <;> rfl
  have text : ∀ s, isComma (string s) = false ∧ ∀ t ∈ ([] : Trees), isComma t = false :=
    fun s => ⟨rfl, by simp⟩
  exact ⟨plain_path _, text _, text _, text _, texts _, texts _, texts _, by simp⟩

theorem itemsOf_fields {fields : List (String × Trees)}
    (plain : ∀ f ∈ fields, ∀ t ∈ f.2, isComma t = false) :
    (itemsOf (separate "," (fields.map fun f => field f.1 f.2))).mapM readField? = some fields := by
  rw [itemsOf_separate]
  · exact mapM_map_eq_self fun _ _ => rfl
  · intro item member
    obtain ⟨f, -, rfl⟩ := List.mem_map.mp member
    simp [field]
  · intro item member t token
    obtain ⟨f, present, rfl⟩ := List.mem_map.mp member
    have tokens : t ∈ [Tree.ident ⟨f.1, false⟩, .punct ':' false] ++ f.2 := token
    rcases List.mem_append.mp tokens with named | value
    · simp only [List.mem_cons, List.not_mem_nil, or_false] at named
      rcases named with rfl | rfl <;> rfl
    · exact plain f present t value

/-- The code of a description builds that description. -/
theorem readInfo?_infoCode (r : Route) : readInfo? (infoCode r) = some (Info.ofRoute r) := by
  have named : readPath? (runtime ["router", "RouteInfo"]) =
      some ["barman", "router", "RouteInfo"] := readPath?_path _
  have fields := itemsOf_fields (plain_infoFields (Info.ofRoute r) r.verb)
  have verb : ((infoFields (Info.ofRoute r) r.verb).lookup "verb").bind readVerb? =
      some r.verb.toVerb := readVerb?_verbPath r.verb
  have parameters : ((infoFields (Info.ofRoute r) r.verb).lookup "parameters").bind readTexts? =
      some r.parameters := readTexts?_strings _
  have allowed : ((infoFields (Info.ofRoute r) r.verb).lookup "allowed_roles").bind readTexts? =
      some r.authorization.allowed := readTexts?_strings _
  have rejected : ((infoFields (Info.ofRoute r) r.verb).lookup "rejected_roles").bind readTexts? =
      some r.authorization.rejected := readTexts?_strings _
  rw [readInfo?, infoCode_eq, List.dropLast_concat, List.getLast?_concat, named]
  simp only [ne_eq, not_true_eq_false, if_false, Option.bind_some, braced?, fields, verb,
    parameters, allowed, rejected, Option.bind_eq_bind]
  rfl

/-! ### Constants -/

/-- The code of a constant, up to its semicolon. -/
def constHead (name : String) (type value : Trees) : Trees :=
  word "const" :: word name :: .punct ':' false :: (type ++ .punct '=' false :: value)

theorem constCode_eq (name : String) (type value : Trees) :
    constCode name type value = constHead name type value ++ [.punct ';' false] := by
  simp [constCode, constHead, mark, joined]

theorem splitOnP_constCode {name : String} {type value rest : Trees}
    (plainType : ∀ t ∈ type, isSemicolon t = false)
    (plainValue : ∀ t ∈ value, isSemicolon t = false) :
    (constCode name type value ++ rest).splitOnP isSemicolon =
      constHead name type value :: rest.splitOnP isSemicolon := by
  have plain : ∀ t ∈ constHead name type value, isSemicolon t = false := by
    intro t member
    simp only [constHead, List.mem_cons, List.mem_append] at member
    rcases member with rfl | rfl | rfl | token | rfl | token
    · rfl
    · rfl
    · rfl
    · exact plainType t token
    · rfl
    · exact plainValue t token
  rw [constCode_eq, List.append_assoc, List.singleton_append,
    List.splitOnP_append_cons_of_forall_mem plain _ rfl]

theorem constantNamed?_constHead {name : String} {type : Trees} (value : Trees)
    (plain : ∀ t ∈ type, isEquals t = false) (other : String) :
    constantNamed? other (constHead name type value) = if name = other then some value else none := by
  -- No token of the type ends the search for the value.
  have value_after : ((Tree.punct ':' false :: (type ++ .punct '=' false :: value)).dropWhile
      (!isEquals ·)).drop 1 = value := by
    have passed : ∀ t ∈ Tree.punct ':' false :: type, (!isEquals t) = true := by
      intro t member
      rcases List.mem_cons.mp member with rfl | token
      · rfl
      · rw [plain t token]
        rfl
    rw [← List.cons_append, List.dropWhile_append_of_pos passed]
    rfl
  unfold constHead constantNamed?
  dsimp only [word]
  rw [value_after]
  simp [Identifier.spelling]

theorem membersOf?_routerCode (b : Block.Impl) (t : Table) (p : Plan) :
    membersOf? (routerCode b t p) = some (routerMembers t p) := by
  let block : Trees := pathsCode p.owners ++ mark "#" ++ brackets [word "automatically_derived"] ++
    [word "impl"] ++ Grammar.introduceParameters b.parameters ++ runtime ["router", "Router"] ++
    [word "for"] ++ b.type ++ b.bounds
  have value : (routerCode b t p).findSome? braced? =
      some (block ++ [.group .brace (routerMembers t p)]) := rfl
  rw [membersOf?, value, Option.bind_eq_bind, Option.bind_some, List.getLast?_concat]
  rfl

/-- The constant for the routes is the second member, behind the one for the mapping. -/
theorem constant?_routes (t : Table) (p : Plan) :
    constant? "ROUTES" (routerMembers t p) =
      some [.punct '&' false, .group .bracket (separate "," (t.routes.map infoCode))] := by
  let textType : Trees := staticRef [word "str"]
  let listType : Trees := staticRef (brackets (runtime ["router", "RouteInfo"]))
  let value : Trees := [.punct '&' false, .group .bracket (separate "," (t.routes.map infoCode))]
  have plainText : ∀ x ∈ textType, isSemicolon x = false ∧ isEquals x = false := by decide
  have plainList : ∀ x ∈ listType, isSemicolon x = false ∧ isEquals x = false := by decide
  have plainMapping : ∀ x ∈ [string t.mapping], isSemicolon x = false := by
    simp [string, isSemicolon]
  have plainValue : ∀ x ∈ value, isSemicolon x = false := by simp [value, isSemicolon]
  have members : routerMembers t p = constCode "MAPPING" textType [string t.mapping] ++
      (constCode "ROUTES" listType value ++ p.verbs.flatMap verbMethod) := by
    rw [← List.append_assoc]
    rfl
  rw [constant?, members,
    splitOnP_constCode (fun x member => (plainText x member).1) plainMapping,
    splitOnP_constCode (fun x member => (plainList x member).1) plainValue,
    List.findSome?_cons, List.findSome?_cons,
    constantNamed?_constHead _ fun x member => (plainText x member).2,
    constantNamed?_constHead _ fun x member => (plainList x member).2]
  rfl

/-- The code of a router lists the descriptions of the routes, in the order of the table. -/
theorem routesListed?_routerCode (b : Block.Impl) (t : Table) (p : Plan) :
    routesListed? (routerCode b t p) = some (t.routes.map Info.ofRoute) := by
  have items : itemsOf (separate "," (t.routes.map infoCode)) = t.routes.map infoCode := by
    apply itemsOf_separate
    · intro item member
      obtain ⟨r, -, rfl⟩ := List.mem_map.mp member
      simp [infoCode_eq]
    · intro item member token present
      obtain ⟨r, -, rfl⟩ := List.mem_map.mp member
      rw [infoCode_eq] at present
      rcases List.mem_append.mp present with named | fields
      · exact plain_path _ token named
      · rw [List.mem_singleton.mp fields]
        rfl
  rw [routesListed?, membersOf?_routerCode, Option.bind_eq_bind, Option.bind_some,
    constant?_routes]
  simp only [Option.bind_some, readArray?, items]
  exact mapM_map_eq_some fun r _ => readInfo?_infoCode r

end EndpointRouting.Code
