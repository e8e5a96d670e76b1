import EndpointRouting.Text.Basic

/-!
# Path templates

A template is literal text with variables between braces. A variable has a name and may have a
pattern of its own, after a colon and a blank character. A template with variables stands for
the expression in which each of them is a named group; the rest of the text is copied as it is.
-/

namespace EndpointRouting
open Text

namespace Template

/-- A variable of a template, with its own pattern if it has one. -/
structure Variable where
  name : List Char
  pattern : Option (List Char) := none
  deriving DecidableEq, Repr

/-- The pattern of a variable: the text up to the closing brace, on one line. -/
def readPattern : List Char → Option (List Char × List Char)
  | [] => none
  | c :: rest =>
    if c = '\x7d' then some ([], rest)
    else if c = '\n' then none
    else (readPattern rest).map fun (p, r) => (c :: p, r)

/-- A variable that may end here with its own pattern: a colon, a blank character, the pattern. -/
def readOwnPattern : List Char → Option (List Char × List Char)
  | ':' :: b :: rest => if isBlankChar b then readPattern rest else none
  | _ => none

/-- A variable, after its opening brace. Its name is as short as it can be. -/
def readVariable : List Char → Option (Variable × List Char)
  | [] => none
  | c :: rest =>
    match readOwnPattern (c :: rest) with
    | some (p, r) => some (⟨[], some p⟩, r)
    | none =>
      if c = '\x7d' then some (⟨[], none⟩, rest)
      else if c = '\n' then none
      else (readVariable rest).map fun (v, r) => ({ v with name := c :: v.name }, r)

theorem length_of_readPattern {cs p r : List Char} (h : readPattern cs = some (p, r)) :
    r.length < cs.length := by
  induction cs generalizing p with
  | nil => simp [readPattern] at h
  | cons c rest ih =>
    simp only [readPattern] at h
    split at h
    · simp_all
    · split at h
      · simp at h
      · obtain ⟨⟨q, s⟩, hq, heq⟩ := Option.map_eq_some_iff.1 h
        simp only [Prod.mk.injEq] at heq
        obtain ⟨-, rfl⟩ := heq
        exact Nat.lt_succ_of_lt (ih hq)

theorem length_of_readOwnPattern {cs p r : List Char} (h : readOwnPattern cs = some (p, r)) :
    r.length < cs.length := by
  unfold readOwnPattern at h
  split at h
  · split at h
    · have := length_of_readPattern h
      simp only [List.length_cons]
      omega
    · simp at h
  · simp at h

theorem length_of_readVariable {cs r : List Char} {v : Variable}
    (h : readVariable cs = some (v, r)) : r.length < cs.length := by
  induction cs generalizing v with
  | nil => simp [readVariable] at h
  | cons c rest ih =>
    simp only [readVariable] at h
    split at h
    · rename_i p s hp
      simp only [Option.some.injEq, Prod.mk.injEq] at h
      obtain ⟨-, rfl⟩ := h
      exact length_of_readOwnPattern hp
    · split at h
      · simp_all
      · split at h
        · simp at h
        · obtain ⟨⟨w, s⟩, hw, heq⟩ := Option.map_eq_some_iff.1 h
          simp only [Prod.mk.injEq] at heq
          obtain ⟨-, rfl⟩ := heq
          exact Nat.lt_succ_of_lt (ih hw)

/-- A literal character or a variable. -/
inductive Piece where
  | literal (c : Char)
  | var (v : Variable)
  deriving DecidableEq, Repr

/-- The pieces of a template. A brace that opens no variable is literal. -/
def pieces (cs : List Char) : List Piece :=
  match cs with
  | [] => []
  | c :: rest =>
    if c = '\x7b' then
      match h : readVariable rest with
      | some (v, r) =>
        have := length_of_readVariable h
        .var v :: pieces r
      | none => .literal c :: pieces rest
    else .literal c :: pieces rest
  termination_by cs.length

/-! ### Expressions -/

/-- The text with `new` in place of every `old`, from the left; `old` is not empty. -/
def replaceAll (old new : List Char) (cs : List Char) : List Char :=
  match cs with
  | [] => []
  | c :: rest =>
    if old.isPrefixOf (c :: rest) then new ++ replaceAll old new (rest.drop (old.length - 1))
    else c :: replaceAll old new rest
  termination_by cs.length
  decreasing_by
    · simp only [List.length_drop, List.length_cons]
      omega
    · simp

/-- The names of character classes in patterns, and what each stands for. -/
def classes : List (List Char × List Char) :=
  [(":alnum:".toList, "[0-9A-Za-z]".toList), (":alpha:".toList, "\\p\x7bL\x7d".toList),
   (":ascii:".toList, "[\\x00-\\x7F]".toList), (":digit:".toList, "[0-9]".toList),
   (":xdigit:".toList, "[0-9A-Fa-f]".toList)]

/-- The pattern with the names of classes replaced, one class after the other. -/
def expandClasses (pattern : List Char) : List Char :=
  classes.foldl (fun p (name, set) => replaceAll name set p) pattern

/-- The pattern of a variable that has none of its own: one segment of a path. -/
def segment : List Char := "[^/]+".toList

/-- A named group. -/
def Variable.group (v : Variable) : List Char :=
  "(?<".toList ++ v.name ++ '>' :: (v.pattern.map expandClasses).getD segment ++ [')']

def Piece.expression : Piece → List Char
  | literal c => [c]
  | var v => v.group

def Piece.var? : Piece → Option Variable
  | literal _ => none
  | var v => some v

def vars (cs : List Char) : List Variable := (pieces cs).filterMap Piece.var?

end Template

/-- A template, mounted at a path. -/
structure Template where
  path : String
  text : String
  /-- The expression, if there is a variable. -/
  expression : Option String
  /-- The names of the variables, in order. -/
  parameters : List String
  deriving DecidableEq, Repr

namespace Template

def compile (path text : String) : Template :=
  let cs := text.toList
  let vs := vars cs
  { path, text
    expression :=
      if vs.isEmpty then none else some (String.ofList ((pieces cs).flatMap Piece.expression))
    parameters := vs.map (String.ofList ·.name) }

/-- Templates are told apart by their text, wherever they are mounted. -/
def same (a b : Template) : Bool := a.text == b.text

/-- A template that addresses the endpoint itself. -/
def isRoot (text : String) : Bool := text == "" || text == "/"

end Template

end EndpointRouting
