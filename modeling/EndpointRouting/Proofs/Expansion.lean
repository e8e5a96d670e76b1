import EndpointRouting.Expansion
import EndpointRouting.Proofs.Grammar.Levels
import EndpointRouting.Proofs.Route.Accounting

/-!
# What becomes of a block

A block is written again without its routing attributes, whatever becomes of its routes, and
either its router or the errors of the first step that failed follow. A block without routing
attributes is read as one that routes nothing.
-/

namespace EndpointRouting.Block
open Grammar Http Route Token Tree

/-! ### Routing attributes -/

/-- The names of routing attributes. -/
def routingNames : List String := RouteVerb.all.map (·.attributeName) ++ ["logged_user"]

theorem ofAttribute?_isSome_iff (name : String) :
    (RouteVerb.ofAttribute? name).isSome ↔ name ∈ RouteVerb.all.map (·.attributeName) := by
  rw [RouteVerb.ofAttribute?, List.find?_isSome, List.mem_map]
  simp only [beq_iff_eq]

/-- An attribute is a routing attribute by its path alone: one identifier, which in raw form is
spelled differently. -/
theorem isRouting_iff (a : Attribute) :
    isRouting a ↔ ∃ i, a.path = [.ident i] ∧ i.spelling ∈ routingNames := by
  have named (i : Identifier) : a.name? = some i ↔ a.path = [.ident i] := by
    unfold Attribute.name?
    split <;> simp_all
  unfold isRouting verbOf isLoggedUser Attribute.isNamed
  cases found : a.name? with
  | none =>
    simp only [Option.bind_none, Option.any_none, Option.isSome_none, Bool.or_self,
      Bool.false_eq_true, false_iff]
    rintro ⟨i, path, -⟩
    rw [(named i).mpr path] at found
    cases found
  | some i =>
    have path := (named i).mp found
    simp [path, routingNames, ← ofAttribute?_isSome_iff]

theorem add_of_not_isRouting {a : Attribute} (foreign : isRouting a = false) (n : Notes) :
    n.add a = n := by
  obtain ⟨verbless, unlisted⟩ : verbOf a = none ∧ isLoggedUser a = false := by
    simpa [isRouting] using foreign
  rw [Notes.add, unlisted, verbless]
  rfl

/-! ### Pieces -/

/-- A piece of a printed block: an attribute of the block or of one of its methods, or whatever
stands between them. -/
inductive Piece where
  | attr (a : Attribute)
  | other (text : List String)

def Piece.text : Piece → List String
  | attr a => leavesOf a.trees
  | other text => text

/-- The piece is written again when routing attributes are left out. -/
def Piece.isKept : Piece → Bool
  | attr a => !isRouting a
  | other _ => true

def outerPieces (as : List Attribute) : List Piece := (as.filter (!·.inner)).map .attr

def innerPieces (as : List Attribute) : List Piece := (as.filter (·.inner)).map .attr

def Method.pieces (m : Method) : List Piece :=
  outerPieces m.attributes ++ [.other (leavesOf m.head ++ ["\x7b"])] ++
    innerPieces m.attributes ++ [.other (leavesOf m.body ++ ["\x7d"])]

def Member.pieces : Member → List Piece
  | method m => m.pieces
  | other trees => [.other (leavesOf trees)]

def Impl.pieces (b : Impl) : List Piece :=
  let head := b.modifiers ++ [.ident ⟨"impl", false⟩] ++ declareParameters b.parameters ++
    b.implements.getD [] ++ b.type ++ b.bounds
  outerPieces b.attributes ++ [.other (leavesOf head ++ ["\x7b"])] ++ innerPieces b.attributes ++
    b.members.flatMap (·.pieces) ++ [.other ["\x7d"]]

/-- The text of pieces one after the other. -/
def piecesText (ps : List Piece) : List String := ps.flatMap (·.text)

@[simp] theorem piecesText_append (ps qs : List Piece) :
    piecesText (ps ++ qs) = piecesText ps ++ piecesText qs := List.flatMap_append

theorem piecesText_attributes (as : List Attribute) :
    piecesText (as.map .attr) = leavesOf (as.flatMap (·.trees)) := by
  induction as with
  | nil => rfl
  | cons a as ih =>
    rw [List.flatMap_cons, leavesOf_append, ← ih]
    rfl

theorem text_outerPieces (as : List Attribute) :
    piecesText (outerPieces as) = leavesOf (outerTrees as) :=
  piecesText_attributes _

theorem text_innerPieces (as : List Attribute) :
    piecesText (innerPieces as) = leavesOf (innerTrees as) :=
  piecesText_attributes _

theorem text_other (text : List String) : piecesText [.other text] = text := List.append_nil text

theorem leavesOf_brace (content : List Tree) :
    leavesOf [.group .brace content] = ["\x7b"] ++ leavesOf content ++ ["\x7d"] := by
  simp [leavesOf, leaves, Delimiter.opening?, Delimiter.closing?]

theorem Method.text_pieces (m : Method) : leavesOf m.trees = piecesText m.pieces := by
  simp only [Method.trees, Method.pieces, piecesText_append, text_outerPieces, text_innerPieces,
    text_other, leavesOf_append, leavesOf_brace, List.append_assoc]

theorem Member.text_pieces (m : Member) : leavesOf m.trees = piecesText m.pieces := by
  cases m with
  | method m => exact m.text_pieces
  | other trees => exact (text_other _).symm

theorem text_members (ms : List Member) :
    leavesOf (ms.flatMap (·.trees)) = piecesText (ms.flatMap (·.pieces)) := by
  induction ms with
  | nil => rfl
  | cons m ms ih => rw [List.flatMap_cons, List.flatMap_cons, leavesOf_append, piecesText_append,
      m.text_pieces, ih]

/-- The pieces of a block are all that is printed. -/
theorem Impl.text_pieces (b : Impl) : leavesOf b.trees = piecesText b.pieces := by
  simp only [Impl.trees, Impl.pieces, piecesText_append, text_outerPieces, text_innerPieces,
    text_other, text_members, leavesOf_append, leavesOf_brace, List.append_assoc]

theorem filter_attributes (as : List Attribute) :
    (as.map Piece.attr).filter (·.isKept) = (as.filter (!isRouting ·)).map .attr := by
  rw [List.filter_map]
  rfl

theorem outerPieces_strip (as : List Attribute) :
    outerPieces (as.filter (!isRouting ·)) = (outerPieces as).filter (·.isKept) := by
  rw [outerPieces, outerPieces, filter_attributes, List.filter_comm]

theorem innerPieces_strip (as : List Attribute) :
    innerPieces (as.filter (!isRouting ·)) = (innerPieces as).filter (·.isKept) := by
  rw [innerPieces, innerPieces, filter_attributes, List.filter_comm]

theorem filter_other (text : List String) :
    [Piece.other text].filter (·.isKept) = [.other text] := rfl

theorem Member.pieces_strip (m : Member) : m.strip.pieces = m.pieces.filter (·.isKept) := by
  cases m with
  | method m =>
    simp only [Member.strip, Member.pieces, Method.strip, Method.pieces, List.filter_append,
      outerPieces_strip, innerPieces_strip, filter_other]
  | other trees => rfl

/-- Just the routing attributes are left out. -/
theorem Impl.pieces_strip (b : Impl) : b.strip.pieces = b.pieces.filter (·.isKept) := by
  have members : (b.members.map (·.strip)).flatMap (·.pieces) =
      (b.members.flatMap (·.pieces)).filter (·.isKept) := by
    rw [List.flatMap_map, List.filter_flatMap]
    exact List.flatMap_congr fun m _ => m.pieces_strip
  simp only [Impl.strip, Impl.pieces, List.filter_append, outerPieces_strip, innerPieces_strip,
    filter_other, members]

/-! ### Stripped blocks -/

theorem strip_strip (b : Impl) : b.strip.strip = b.strip := by
  have member (m : Member) : m.strip.strip = m.strip := by
    cases m with
    | method m => simp [Member.strip, Method.strip]
    | other trees => rfl
  simp [Impl.strip, member]

/-- Attributes that are no routing attributes leave notes as they are. -/
theorem foldl_add_stripped (as : List Attribute) (n : Notes) :
    (as.filter (!isRouting ·)).foldl Notes.add n = n := by
  induction as with
  | nil => rfl
  | cons a as ih =>
    cases routes : isRouting a with
    | true => simpa [routes] using ih
    | false => simpa [routes, add_of_not_isRouting routes] using ih

/-- A stripped member is no handler, and nothing is wrong with it. -/
theorem handler_strip (m : Member) : m.strip.handler = .ok none := by
  cases m with
  | method m =>
    show (m.strip).handler = .ok none
    simp [Method.handler, Method.strip, foldl_add_stripped, Notes.fail]
  | other trees => rfl

theorem roleAttributes_stripped (as : List Attribute) :
    roleAttributes (as.filter (!isRouting ·)) = [] := by
  refine List.filter_eq_nil_iff.mpr fun a member => ?_
  have foreign : isRouting a = false := by simpa using (List.mem_filter.mp member).2
  intro lists
  simp [isRouting, lists] at foreign

/-- A stripped block routes nothing, and only the block itself can be at fault. -/
theorem definition_strip (b : Impl) (options : Options) :
    b.strip.definition options =
      match b.typeName with
      | none => .error [.unnamedType]
      | some type =>
        if b.implements.isSome then .error [.implementsTrait]
        else .ok { type, options, loggedUser := none, handlers := [] } := by
  have notes : b.strip.loggedUserNotes = {} := by
    have unlisted := roleAttributes_stripped b.attributes
    unfold roleAttributes at unlisted
    simp [Impl.loggedUserNotes, Impl.strip, unlisted]
  have handlers : b.strip.members.map (·.handler) = b.members.map fun _ => .ok none := by
    rw [Impl.strip, List.map_map]
    exact List.map_congr_left fun m _ => handler_strip m
  have type : b.strip.typeName = b.typeName := rfl
  have trait : b.strip.implements = b.implements := rfl
  rw [Impl.definition, notes, handlers, type, trait]
  cases b.typeName with
  | none => rfl
  | some type => cases b.implements <;> simp

theorem readArguments_error {ts : List Tree} {es : List ArgumentError}
    (failed : readArguments ts = .error es) : es ≠ [] := by
  unfold readArguments at failed
  split at failed
  · cases failed
    simp
  · dsimp only at failed
    split at failed
    · cases failed
    · rename_i faulty
      cases failed
      simpa using faulty

end EndpointRouting.Block

namespace EndpointRouting
open Block Route Token Tree

/-! ### What follows a block -/

/-- What follows a block: its router, or the errors of the first step that fails, at least one. -/
inductive Outcome (arguments : List Tree) (b : Impl) (setting : Option String) : List Tree → Prop
  | unreadArguments {es : List ArgumentError} (failed : readArguments arguments = .error es)
      (reported : es ≠ []) :
      Outcome arguments b setting (es.flatMap fun e => Code.failure (e.message false))
  | unreadBlock {options : Options} {es : List BlockError}
      (given : readArguments arguments = .ok options) (failed : b.definition options = .error es)
      (reported : es ≠ []) :
      Outcome arguments b setting (es.flatMap fun e => Code.failure e.message)
  | unbuiltTable {options : Options} {d : Definition} {es : List TableError}
      (given : readArguments arguments = .ok options) (read : b.definition options = .ok d)
      (failed : Table.build d = .error es) (reported : es ≠ []) :
      Outcome arguments b setting (es.flatMap fun e => Code.failure e.message)
  | routed {options : Options} {d : Definition} {t : Table}
      (given : readArguments arguments = .ok options) (read : b.definition options = .ok d)
      (built : Table.build d = .ok t) :
      Outcome arguments b setting
        (Code.routerCode b t (Plan.build t (options.isDevelopment setting)))

/-- What follows a block is decided by its routes. -/
theorem outcome_of_routerOf (arguments : List Tree) (b : Impl) (setting : Option String) :
    match routerOf arguments b setting with
    | .ok router => Outcome arguments b setting router
    | .error es => Outcome arguments b setting (es.flatMap (Code.failure ·.message)) := by
  cases given : readArguments arguments with
  | error es =>
    have stopped : routerOf arguments b setting = .error (es.map .argument) := by
      rw [routerOf, given]
      rfl
    rw [stopped]
    simpa [List.flatMap_map] using .unreadArguments given (readArguments_error given)
  | ok options =>
    cases read : b.definition options with
    | error es =>
      have stopped : routerOf arguments b setting = .error (es.map .block) := by
        rw [routerOf, given]
        change (b.definition options).mapError _ >>= _ = _
        rw [read]
        rfl
      rw [stopped]
      simpa [List.flatMap_map] using .unreadBlock given read (definition_error read)
    | ok d =>
      have reached : routerOf arguments b setting =
          ((Table.build d).mapError (·.map .table) >>= fun t =>
            .ok (Code.routerCode b t (Plan.build t (options.isDevelopment setting)))) := by
        rw [routerOf, given]
        change (b.definition options).mapError _ >>= _ = _
        rw [read]
        rfl
      rw [reached]
      cases built : Table.build d with
      | error es =>
        change Outcome arguments b setting ((es.map EndpointError.table).flatMap _)
        simpa [List.flatMap_map] using .unbuiltTable given read built (build_error built).2
      | ok t => exact .routed given read built

/-- A block is written without its routing attributes, and what follows is its outcome. -/
theorem trees_of_readOver {g : Grammar.Recognisers} {item : List Tree} {b : Impl}
    (read : Impl.readOver g item = some b) (arguments : List Tree) (setting : Option String) :
    ∃ tail, (Expansion.ofOver g arguments item setting).trees = b.strip.trees ++ tail ∧
      Outcome arguments b setting tail := by
  have outcome := outcome_of_routerOf arguments b setting
  cases followed : routerOf arguments b setting <;>
  · rw [followed] at outcome
    refine ⟨_, ?_, outcome⟩
    rw [Expansion.ofOver, read]
    dsimp only
    rw [followed]
    rfl

/-- A router and errors are told apart by their first token. -/
theorem routerCode_ne_failures (b : Impl) (t : Table) (p : Plan) (messages : List String) :
    Code.routerCode b t p ≠ messages.flatMap Code.failure := by
  have colons : Code.mark "::" = [.punct ':' true, .punct ':' false] := rfl
  intro same
  replace same := congrArg List.head? same
  cases messages with
  | nil => simp [Code.routerCode] at same
  | cons message rest =>
    simp [Code.routerCode, Code.failure, Code.path, Code.word, colons] at same

/-! ### Blocks with their attributes -/

/-- Let readers of what is nested in a block print what they take, as those of all constructs do.
Whatever becomes of its routes, a block that is read over them is written as it is printed, which
differs from its source only in normal forms, without just the pieces that are its routing
attributes. Then comes the router or, if a step fails, its errors, and never both. An attribute
counts as a routing attribute by its path: one identifier that is spelled like one of five names. A
stripped block stays as it is when it is stripped again, and is read as one without handlers and
roles, with nothing wrong on any method. -/
theorem block_kept_without_routing {g : Grammar.Recognisers} (faithful : g.Faithful)
    {item : List Tree} {b : Impl} (read : Impl.readOver g item = some b) (arguments : List Tree)
    (setting : Option String) :
    Grammar.Prints (leavesOf item) (leavesOf b.trees) ∧
    leavesOf b.trees = piecesText b.pieces ∧
    leavesOf b.strip.trees = piecesText (b.pieces.filter (·.isKept)) ∧
    (∃ tail, (Expansion.ofOver g arguments item setting).trees = b.strip.trees ++ tail ∧
      Outcome arguments b setting tail) ∧
    (∀ t p (messages : List String), Code.routerCode b t p ≠ messages.flatMap Code.failure) ∧
    (∀ a, isRouting a ↔
      ∃ i, a.path = [.ident i] ∧ i.spelling ∈ ["get", "post", "put", "delete", "logged_user"]) ∧
    b.strip.strip = b.strip ∧
    (∀ m ∈ b.strip.members, m.handler = .ok none) ∧
    ∀ options, b.strip.definition options =
      match b.typeName with
      | none => .error [.unnamedType]
      | some type =>
        if b.implements.isSome then .error [.implementsTrait]
        else .ok { type, options, loggedUser := none, handlers := [] } := by
  refine ⟨prints_of_readOver faithful read, b.text_pieces, ?_,
    trees_of_readOver read arguments setting, routerCode_ne_failures b, isRouting_iff,
    strip_strip b, ?_, definition_strip b⟩
  · rw [b.strip.text_pieces, b.pieces_strip]
  · intro m member
    obtain ⟨original, -, rfl⟩ := List.mem_map.mp member
    exact handler_strip original

/-- A method without arguments beside its receiver, and with an empty body. -/
def emptyMethod (name : String) : List Tree :=
  Code.words ["fn", name] ++ Code.parens (Code.mark "&" ++ [Code.word "self"]) ++ Code.braces []

def listedAttribute (name : String) (content : List Tree) : List Tree :=
  Code.mark "#" ++ Code.brackets (Code.word name :: Code.parens content)

/-- A block with routing attributes among others, on itself and on its method. -/
def markedTasks : List Tree :=
  Code.mark "#" ++ Code.brackets [Code.word "logged_user"] ++
    listedAttribute "allow" [Code.word "dead_code"] ++ Code.words ["impl", "Tasks"] ++
    Code.braces (Code.mark "#" ++ Code.brackets [Code.word "get"] ++ emptyMethod "index")

theorem block_kept_without_routing_marked :
    ∃ b tail, Impl.read markedTasks = some b ∧
      leavesOf (Expansion.of [] markedTasks none).trees =
        ["#", "[", "allow", "(", "dead_code", ")", "]", "impl", "Tasks", "\x7b", "fn", "index", "(",
          "&", "self", ")", "\x7b", "\x7d", "\x7d"] ++ leavesOf tail ∧
      Outcome [] b none tail := by
  obtain ⟨b, read⟩ : ∃ b, Impl.read markedTasks = some b :=
    Option.isSome_iff_exists.mp (by decide +kernel)
  obtain ⟨-, -, -, ⟨tail, written, outcome⟩, -⟩ := block_kept_without_routing
    (Grammar.recognisersFor_faithful markedTasks) read [] none
  refine ⟨b, tail, read, ?_, outcome⟩
  have kept : (Impl.read markedTasks).map (leavesOf ·.strip.trees) = some
      ["#", "[", "allow", "(", "dead_code", ")", "]", "impl", "Tasks", "\x7b", "fn", "index", "(",
        "&", "self", ")", "\x7b", "\x7d", "\x7d"] := by decide +kernel
  rw [read, Option.map_some] at kept
  rw [Expansion.of, written, leavesOf_append, Option.some.inj kept]

/-- A block with the word of a where clause, but without predicates. -/
def emptyClauseTasks : List Tree :=
  Code.words ["impl", "Tasks", "where"] ++ Code.braces (emptyMethod "help")

/-- The word of a clause without predicates is not written again, though no attribute is there to
be removed. -/
theorem empty_clause_dropped :
    "#" ∉ leavesOf emptyClauseTasks ∧ (Impl.read emptyClauseTasks).isSome ∧
      ∀ tail, leavesOf (Expansion.of [] emptyClauseTasks none).trees ≠
        leavesOf emptyClauseTasks ++ tail := by
  refine ⟨by decide, by decide +kernel, fun tail same => ?_⟩
  have written : (leavesOf (Expansion.of [] emptyClauseTasks none).trees).take 3 =
      ["impl", "Tasks", "\x7b"] := by decide +kernel
  have source : (leavesOf emptyClauseTasks ++ tail).take 3 = ["impl", "Tasks", "where"] := rfl
  rw [same, source] at written
  exact absurd written (by decide)

end EndpointRouting
