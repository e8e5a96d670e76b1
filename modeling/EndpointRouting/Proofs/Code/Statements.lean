import EndpointRouting.Proofs.Code.Methods

/-!
# Reading the statements of a method

What the body of a verb's method does is read off its tokens as a compiler reads them: a statement
goes up to its semicolon, or to the block behind its condition, and a call up to its arguments.
`readStatements?_verbBody` says which statements the code of a plan consists of.
-/

namespace EndpointRouting.Code
open Http Route Token

/-! ### Statements -/

/-- What is called: a function by its path, one of the type itself, or a method of the endpoint
trait. -/
inductive Callee where
  | function (path : List String)
  | own (i : Identifier)
  | endpoint (name : String)

/-- What is handed over: a variable, what it refers to, a constant behind a reference, or a text. -/
inductive Argument where
  | named (name : String)
  | shared (name : String)
  | constant (path : List String)
  | text (s : String)

structure Call where
  callee : Callee
  arguments : List Argument

/-- What a variable is bound to: the result of a call, or what a function makes of the content of
another variable, if there is any. -/
inductive Binding where
  | result (c : Call)
  | mapped (name : String) (function : List String)

inductive Condition where
  | isNone (name : String)
  | isSome (name : String)
  | tested (name : String) (test : RoleTest)
  | accepted (m : MatcherRef)
  | not (c : Condition)

inductive Statement where
  | bind (name : String) (value : Binding)
  /-- A call that may fail, and the method with it. -/
  | attempt (c : Call)
  | log
  | when (c : Condition) (body : List Statement)
  | leave (c : Call)

/-! ### Readers -/

def parenthesized? : Tree → Option Trees
  | .group .parenthesis ts => some ts
  | _ => none

def isBar : Tree → Bool
  | .punct '|' _ => true
  | _ => false

/-- The names of the path that the tokens begin with, and what follows it. -/
def pathFront : Trees → List String × Trees
  | .punct ':' true :: .punct ':' false :: .ident i :: rest =>
    (i.spelling :: (pathFront rest).1, (pathFront rest).2)
  | ts => ([], ts)

def readCallee? : Trees → Option Callee
  | [.ident s, .punct ':' true, .punct ':' false, .ident i] =>
    if s.spelling = "Self" then some (.own i) else none
  | .punct '<' _ :: .ident s :: .ident a :: rest =>
    match s.spelling, a.spelling, pathFront rest with
    | "Self", "as", (["barman", "router", "Endpoint"], .punct '>' _ :: method) =>
      match readPath? method with
      | some [name] => some (.endpoint name)
      | _ => none
    | _, _, _ => none
  | ts => (readPath? ts).map .function

def readArgument? : Trees → Option Argument
  | [.ident i] => some (.named i.spelling)
  | [.literal l] => l.stringValue?.map .text
  | [.punct '&' true, .punct '*' false, .ident i] => some (.shared i.spelling)
  | .punct '&' false :: rest => (readPath? rest).map .constant
  | _ => none

def readCall? (ts : Trees) : Option Call := do
  let arguments ← ts.getLast?.bind parenthesized?
  return ⟨← readCallee? ts.dropLast, ← (itemsOf arguments).mapM readArgument?⟩

/-- What a method is called on, its name and its arguments. -/
def readMethod? (ts : Trees) : Option (Trees × String × Trees) :=
  match ts.reverse with
  | .group .parenthesis arguments :: .ident m :: .punct '.' _ :: value =>
    some (value.reverse, m.spelling, arguments)
  | _ => none

def readBinding? (ts : Trees) : Option Binding :=
  match readMethod? ts with
  | some (inner, "map", function) =>
    match readMethod? inner with
    | some ([.ident i], "as_ref", []) => (readPath? function).map (.mapped i.spelling)
    | _ => none
  | _ => (readCall? ts).map .result

/-- What an option is compared with, if that is no empty one. -/
def readSome? (ts : Trees) : Option Trees :=
  if readPath? ts.dropLast = some ["core", "option", "Option", "Some"] then
    ts.getLast?.bind parenthesized?
  else none

/-- The alternatives of a pattern. -/
def alternativesOf (ts : Trees) : List Trees := if ts.isEmpty then [] else ts.splitOnP isBar

def readSize? (l : Literal) : Option Nat :=
  let digits := l.text.toList.takeWhile Char.isDigit
  if l.text.toList.dropWhile Char.isDigit = "usize".toList then
    some (Nat.ofDigitChars 10 digits 0)
  else none

def readMatcherRef? : Trees → Option MatcherRef
  | [.ident s, .group .bracket [.literal l]] =>
    if s.spelling = "__BARMAN_PATHS" then (readSize? l).map .slot else none
  | ts => if readPath? ts = some ["barman", "path", "Path", "Index"] then some .index else none

/-- The condition that a call of a method is. -/
def readQuestion? (ts : Trees) : Option Condition :=
  match readMethod? ts with
  | some ([.ident i], "is_none", []) => some (.isNone i.spelling)
  | some ([.ident i], "is_some", []) => some (.isSome i.spelling)
  | some (matcher, "matches", [.ident i]) =>
    if i.spelling = "request" then (readMatcherRef? matcher).map .accepted else none
  | _ => none

/-- The condition that a comparison or a call is. -/
def readTest? : Trees → Option Condition
  | .ident i :: .punct '=' true :: .punct '=' false :: value =>
    ((readSome? value).bind readText?).map fun role => .tested i.spelling (.equals role)
  | ts =>
    match pathFront ts with
    | (["core", "matches"], [.punct '!' _, .group .parenthesis arguments]) =>
      match itemsOf arguments with
      | [[.ident i], pattern] =>
        ((readSome? pattern).bind (alternativesOf · |>.mapM readText?)).map fun roles =>
          .tested i.spelling (.oneOf roles)
      | _ => none
    | _ => readQuestion? ts

def readCondition? : Trees → Option Condition
  | [.punct '!' _, .group .parenthesis inner] => (readTest? inner).map .not
  | ts => readTest? ts

/-- The statement that tokens in front of a semicolon are. -/
def readStatement? : Trees → Option Statement
  | .ident k :: rest =>
    match k.spelling, rest with
    | "return", _ => (readCall? rest).map .leave
    | "let", .ident n :: value =>
      (readBinding? ((value.dropWhile (!isEquals ·)).drop 1)).map (.bind n.spelling)
    | _, _ => none
  | ts =>
    match ts.getLast? with
    | some (.punct '?' _) => (readCall? ts.dropLast).map .attempt
    | _ =>
      match pathFront ts with
      | (["barman", "__private", "tracing", "debug"], [.punct '!' _, .group .parenthesis _]) =>
        some .log
      | _ => none

/-- The condition that tokens in front of a block are. -/
def readIf? : Trees → Option Condition
  | .ident k :: ts => if k.spelling = "if" then readCondition? ts else none
  | _ => none

mutual

/-- The statements of a block. -/
def readBlock? : Tree → Option (List Statement)
  | .group .brace body => readStatements? [] body
  | _ => none

/-- The statements that tokens are, behind the tokens `front` of the one that has begun. A call at
the end is what the block gives. -/
def readStatements? (front : Trees) : Trees → Option (List Statement)
  | [] => if front.isEmpty then some [] else (readCall? front).map ([.leave ·])
  | t :: rest =>
    if isSemicolon t then do
      return (← readStatement? front) :: (← readStatements? [] rest)
    else if (braced? t).isSome then do
      return .when (← readIf? front) (← readBlock? t) :: (← readStatements? [] rest)
    else readStatements? (front ++ [t]) rest

end

/-! ### Code that reads as statements -/

/-- A token that ends no statement. -/
def isPlain (t : Tree) : Bool := !isSemicolon t && (braced? t).isNone

/-- Code that reads as statements, whatever follows it. -/
def Reads (ts : Trees) (ss : List Statement) : Prop :=
  ∀ rest, readStatements? [] (ts ++ rest) = (readStatements? [] rest).map (ss ++ ·)

theorem readStatements?_plain {t : Tree} (plain : isPlain t) (front rest : Trees) :
    readStatements? front (t :: rest) = readStatements? (front ++ [t]) rest := by
  obtain ⟨ends, opens⟩ : isSemicolon t = false ∧ braced? t = none := by simpa [isPlain] using plain
  simp [readStatements?, ends, opens]

theorem readStatements?_front {ts : Trees} (plain : ∀ t ∈ ts, isPlain t) (front rest : Trees) :
    readStatements? front (ts ++ rest) = readStatements? (front ++ ts) rest := by
  induction ts generalizing front with
  | nil => simp
  | cons t ts ih =>
    obtain ⟨first, later⟩ := List.forall_mem_cons.mp plain
    rw [List.cons_append, readStatements?_plain first, ih later, List.append_assoc]
    rfl

theorem Reads.nil : Reads [] [] := fun rest => by simp

theorem Reads.append {a b : Trees} {ss us : List Statement} (first : Reads a ss)
    (second : Reads b us) : Reads (a ++ b) (ss ++ us) := by
  intro rest
  rw [List.append_assoc, first, second, Option.map_map]
  congr 1
  funext ts
  simp

theorem Reads.flatMap {α : Type} {f : α → Trees} {g : α → Statement}
    (each : ∀ x, Reads (f x) [g x]) (xs : List α) : Reads (xs.flatMap f) (xs.map g) := by
  induction xs with
  | nil => exact .nil
  | cons x xs ih => exact (each x).append ih

theorem Reads.ite (c : Bool) {ts : Trees} {ss : List Statement} (reads : Reads ts ss) :
    Reads (if c then ts else []) (if c then ss else []) := by
  cases c with
  | true => exact reads
  | false => exact .nil

theorem Reads.all {ts : Trees} {ss : List Statement} (reads : Reads ts ss) :
    readStatements? [] ts = some ss := by
  have whole := reads []
  rw [List.append_nil] at whole
  simpa [readStatements?] using whole

/-- A statement up to its semicolon. -/
theorem reads_statement {ts : Trees} {s : Statement} (plain : ∀ t ∈ ts, isPlain t)
    (read : readStatement? ts = some s) : Reads (ts ++ mark ";") [s] := by
  intro rest
  rw [List.append_assoc, readStatements?_front plain]
  simp [readStatements?, mark, joined, isSemicolon, read]
  cases readStatements? [] rest <;> rfl

/-- A condition and the block behind it. -/
theorem reads_when {condition body : Trees} {c : Condition} {ss : List Statement}
    (plain : ∀ t ∈ condition, isPlain t) (read : readCondition? condition = some c)
    (inside : readStatements? [] body = some ss) :
    Reads ([word "if"] ++ condition ++ braces body) [.when c ss] := by
  intro rest
  have keyword : ∀ t ∈ [word "if"] ++ condition, isPlain t :=
    List.forall_mem_cons.mpr ⟨rfl, plain⟩
  have tested : readIf? (word "if" :: condition) = some c := read
  rw [List.append_assoc, readStatements?_front keyword]
  simp [readStatements?, readBlock?, isSemicolon, braced?, braces, tested, inside]
  cases readStatements? [] rest <;> rfl

/-! ### The statements of a plan -/

def exchanged : List Argument := [.named "self", .named "request", .named "response"]

/-- Rejects the request. -/
def refusal : Statement :=
  .leave ⟨.function ["barman", "response", "not_authorized"],
    [.shared "request", .named "response"]⟩

def guardStatements (g : Guards) : List Statement :=
  (if g.loggedUser then [.when (.isNone "__barman_user") [refusal]] else []) ++
    (if g.anonymous then [.when (.isSome "__barman_user") [refusal]] else []) ++
    (g.allowed.toList.map fun test => .when (.not (.tested "__barman_role" test)) [refusal]) ++
    g.rejected.toList.map fun test => .when (.tested "__barman_role" test) [refusal]

def branchStatement (b : Branch) : Statement :=
  .when (.accepted b.matcher)
    (guardStatements b.guards ++ [.leave ⟨.own b.route.handler, exchanged⟩])

def originStatement : Statement :=
  .attempt ⟨.function ["barman", "response", "set_header"],
    [.named "response",
      .constant ["barman", "registry", "Header", "ACCESS_CONTROL_ALLOW_ORIGIN"], .text "*"]⟩

def userStatement : Statement :=
  .bind "__barman_user"
    (.result ⟨.endpoint "current_user", [.named "self", .shared "request"]⟩)

def roleStatement : Statement :=
  .bind "__barman_role" (.mapped "__barman_user" ["barman", "router", "HasUserRole", "role"])

def planStatements (p : VerbPlan) : List Statement :=
  (if p.development then [originStatement] else []) ++
    (if p.needsUser then [userStatement] else []) ++
    (if p.needsRole then [roleStatement] else []) ++
    guardStatements p.hoisted ++ p.branches.map branchStatement ++
    [.log, .leave ⟨.endpoint ("unhandled_" ++ p.verb.attributeName), exchanged⟩]

/-! ### Conditions -/

theorem readSome?_optionSome (ts : Trees) : readSome? (optionSome ++ parens ts) = some ts := by
  have named : readPath? optionSome = some ["core", "option", "Option", "Some"] := rfl
  rw [readSome?, parens, List.dropLast_concat, List.getLast?_concat, if_pos named]
  rfl

theorem alternativesOf_separate (roles : List String) :
    alternativesOf (separate "|" (roles.map fun s => [string s])) =
      roles.map fun s => [string s] := by
  have bar : mark "|" = [.punct '|' false] := rfl
  apply parts_separate bar rfl <;> simp [string, isBar]

theorem readTest?_testCode (test : RoleTest) :
    readTest? (testCode test) = some (.tested "__barman_role" test) := by
  cases test with
  | equals role =>
    have compared : testCode (.equals role) = .ident ⟨"__barman_role", false⟩ :: .punct '=' true ::
        .punct '=' false :: (optionSome ++ parens [string role]) := rfl
    rw [compared, readTest?, readSome?_optionSome]
    rfl
  | oneOf roles =>
    let alternatives := separate "|" (roles.map fun s => [string s])
    have matched : readTest? (testCode (.oneOf roles)) =
        ((readSome? (optionSome ++ parens alternatives)).bind
          (alternativesOf · |>.mapM readText?)).map fun roles =>
            .tested "__barman_role" (.oneOf roles) := rfl
    have texts : (roles.map fun s => [string s]).mapM readText? = some roles :=
      mapM_map_eq_self fun _ _ => rfl
    rw [matched, readSome?_optionSome, Option.bind_some, alternativesOf_separate, texts]
    rfl

theorem plain_testCode (test : RoleTest) : ∀ t ∈ testCode test, isPlain t := by
  cases test with
  | equals role =>
    have start : ∀ t ∈ [roleName] ++ mark "==" ++ optionSome, isPlain t := by decide
    exact List.forall_mem_append.mpr ⟨start, by simp [parens, isPlain, isSemicolon, braced?]⟩
  | oneOf roles =>
    have start : ∀ t ∈ path ["core", "matches"] ++ mark "!", isPlain t := by decide
    exact List.forall_mem_append.mpr ⟨start, by simp [call, parens, isPlain, isSemicolon, braced?]⟩

theorem readSize?_size (n : Nat) : readSize? ⟨.integer, toString n ++ "usize"⟩ = some n := by
  have digits : ∀ c ∈ Nat.toDigits 10 n, c.isDigit = true := fun c member =>
    Nat.isDigit_of_mem_toDigits (by decide) (by decide) member
  have text : (toString n ++ "usize").toList = Nat.toDigits 10 n ++ "usize".toList := by simp
  have suffix_taken : "usize".toList.takeWhile Char.isDigit = [] := by decide
  have suffix_kept : "usize".toList.dropWhile Char.isDigit = "usize".toList := by decide
  rw [readSize?, text, List.takeWhile_append_of_pos digits, List.dropWhile_append_of_pos digits,
    suffix_taken, suffix_kept, List.append_nil, Nat.ofDigitChars_ten_toDigits]
  rfl

theorem readMatcherRef?_matcherRefCode (m : MatcherRef) :
    readMatcherRef? (matcherRefCode m) = some m := by
  cases m with
  | index => rfl
  | slot n =>
    have read : readMatcherRef? (matcherRefCode (.slot n)) =
        (readSize? ⟨.integer, toString n ++ "usize"⟩).map .slot := rfl
    rw [read, readSize?_size]
    rfl

theorem readCondition?_matches (m : MatcherRef) :
    readCondition? (matcherRefCode m ++ mark "." ++ [word "matches"] ++ parens [request]) =
      some (.accepted m) := by
  have read : readCondition? (matcherRefCode m ++ mark "." ++ [word "matches"] ++
      parens [request]) = (readMatcherRef? (matcherRefCode m)).map .accepted := by
    cases m <;> rfl
  rw [read, readMatcherRef?_matcherRefCode]
  rfl

/-! ### Guards, branches and bodies -/

theorem reads_rejection : readStatements? []
    ([word "return"] ++ runtime ["response", "not_authorized"] ++
      call [mark "&*" ++ [request], [response]] ++ mark ";") = some [refusal] := by
  rfl

theorem reads_check {condition : Trees} {c : Condition} (plain : ∀ t ∈ condition, isPlain t)
    (read : readCondition? condition = some c) :
    Reads ([word "if"] ++ condition ++ rejection) [.when c [refusal]] :=
  reads_when plain read reads_rejection

theorem reads_guardsCode (g : Guards) : Reads (guardsCode g) (guardStatements g) := by
  refine (((Reads.ite _ ?_).append (Reads.ite _ ?_)).append ?_).append ?_
  · exact reads_check (by decide) rfl
  · exact reads_check (by decide) rfl
  · cases g.allowed with
    | none => exact .nil
    | some test =>
      have plain : ∀ t ∈ mark "!" ++ parens (testCode test), isPlain t := by
        simp [mark, joined, parens, isPlain, isSemicolon, braced?]
      have read : readCondition? (mark "!" ++ parens (testCode test)) =
          (readTest? (testCode test)).map .not := rfl
      rw [readTest?_testCode] at read
      exact reads_check plain read
  · cases g.rejected with
    | none => exact .nil
    | some test =>
      refine reads_check (plain_testCode test) ?_
      rw [← readTest?_testCode]
      cases test <;> rfl

theorem reads_branchCode (b : Branch) : Reads (branchCode b) [branchStatement b] := by
  have call : Reads ([word "return", selfType] ++ mark "::" ++ [.ident b.route.handler] ++
      exchange ++ mark ";") [.leave ⟨.own b.route.handler, exchanged⟩] := by
    refine reads_statement ?_ rfl
    simp [word, selfType, mark, joined, exchange, call, parens, isPlain, isSemicolon, braced?]
  have inside := ((reads_guardsCode b.guards).append call).all
  have plain : ∀ t ∈ matcherRefCode b.matcher ++ mark "." ++ [word "matches"] ++ parens [request],
      isPlain t := by
    refine List.forall_mem_append.mpr ⟨List.forall_mem_append.mpr
      ⟨List.forall_mem_append.mpr ⟨?_, by decide⟩, by decide⟩, by decide⟩
    cases b.matcher with
    | index => decide
    | slot n => simp [matcherRefCode, pathsName, word, brackets, isPlain, isSemicolon, braced?]
  have whole := reads_when plain (readCondition?_matches b.matcher) inside
  simpa [branchCode, branchStatement, mark, joined] using whole

theorem reads_originCode : Reads originCode [originStatement] := by
  change Reads (originCode.dropLast ++ mark ";") _
  exact reads_statement (by decide) rfl

theorem reads_userCode : Reads userCode [userStatement] := by
  change Reads (userCode.dropLast ++ mark ";") _
  exact reads_statement (by decide) rfl

theorem reads_roleCode : Reads roleCode [roleStatement] := by
  change Reads (roleCode.dropLast ++ mark ";") _
  exact reads_statement (by decide) rfl

theorem reads_logCode (v : RouteVerb) : Reads (logCode v) [.log] := by
  change Reads ((logCode v).dropLast ++ mark ";") _
  cases v <;> exact reads_statement (by decide) rfl

/-- The call at the end of a method is what it gives. -/
theorem readStatements?_hook (v : RouteVerb) :
    readStatements? [] (endpointMethod ("unhandled_" ++ v.attributeName) ++ exchange) =
      some [.leave ⟨.endpoint ("unhandled_" ++ v.attributeName), exchanged⟩] := by
  cases v <;> rfl

/-- The statements of a verb's method. -/
theorem readStatements?_verbBody (p : VerbPlan) :
    readStatements? [] (verbBody p) = some (planStatements p) := by
  have start := (((((Reads.ite p.development reads_originCode).append
    (Reads.ite p.needsUser reads_userCode)).append (Reads.ite p.needsRole reads_roleCode)).append
    (reads_guardsCode p.hoisted)).append (Reads.flatMap reads_branchCode p.branches)).append
    (reads_logCode p.verb)
  have whole := start (endpointMethod ("unhandled_" ++ p.verb.attributeName) ++ exchange)
  rw [readStatements?_hook, ← List.append_assoc] at whole
  rw [verbBody, whole]
  simp [planStatements]

end EndpointRouting.Code
