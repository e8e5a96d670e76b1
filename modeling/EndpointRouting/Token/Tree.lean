/-!
# Token trees

Source text as identifiers, punctuation, literals and delimited groups. The text of a token list
has one space between its tokens.
-/

namespace EndpointRouting.Token

/-- An identifier. The raw form lets a keyword be a name. -/
structure Identifier where
  text : String
  raw : Bool := false
  deriving DecidableEq, Repr

/-- The identifier as it is written. -/
def Identifier.spelling (i : Identifier) : String := if i.raw then "r#" ++ i.text else i.text

/-- What a literal is. A string literal has a value. -/
inductive LiteralKind where
  | string (value : String)
  | byteString
  | cString
  | byte
  | char
  | integer
  | float
  deriving DecidableEq, Repr

structure Literal where
  kind : LiteralKind
  text : String
  deriving DecidableEq, Repr

def Literal.stringValue? (l : Literal) : Option String :=
  match l.kind with
  | .string value => some value
  | _ => none

/-- What a group stands between. Tokens that were put in for a variable of a macro are a group
that stands between nothing. -/
inductive Delimiter where
  | parenthesis
  | bracket
  | brace
  | none
  deriving DecidableEq, Repr

def Delimiter.opening? : Delimiter → Option Char
  | parenthesis => some '('
  | bracket => some '['
  | brace => some '\x7b'
  | none => .none

def Delimiter.closing? : Delimiter → Option Char
  | parenthesis => some ')'
  | bracket => some ']'
  | brace => some '\x7d'
  | none => .none

def Delimiter.all : List Delimiter := [parenthesis, bracket, brace, none]

/-- A token, or a group of them. A punctuation character is joint when another one follows it
directly. -/
inductive Tree where
  | ident (i : Identifier)
  | punct (c : Char) (joint : Bool)
  | literal (l : Literal)
  | group (d : Delimiter) (trees : List Tree)
  deriving Repr

namespace Tree

/-! ### Texts -/

mutual

/-- The texts of the tokens of a tree. -/
def leaves : Tree → List String
  | ident i => [i.spelling]
  | punct c _ => [String.singleton c]
  | literal l => [l.text]
  | group d trees =>
    (d.opening?.map String.singleton).toList ++ leavesOf trees ++
      (d.closing?.map String.singleton).toList

def leavesOf : List Tree → List String
  | [] => []
  | t :: rest => leaves t ++ leavesOf rest

end

/-- The text of a token list. -/
def textOf (trees : List Tree) : String := " ".intercalate (leavesOf trees)

theorem leavesOf_append (a b : List Tree) : leavesOf (a ++ b) = leavesOf a ++ leavesOf b := by
  induction a with
  | nil => simp [leavesOf]
  | cons t rest ih => simp [leavesOf, ih, List.append_assoc]

/-! ### Groups between nothing -/

mutual

/-- A tree as a list that does not start with a group between nothing. -/
def unwrap : Tree → List Tree
  | group .none trees => front trees
  | t => [t]

/-- The tokens with the groups between nothing opened that they start with. -/
def front : List Tree → List Tree
  | [] => []
  | t :: rest =>
    match unwrap t with
    | [] => front rest
    | ts => ts ++ rest

end

mutual

theorem leavesOf_unwrap (t : Tree) : leavesOf (unwrap t) = leaves t := by
  match t with
  | ident i => simp [unwrap, leavesOf]
  | punct c joint => simp [unwrap, leavesOf]
  | literal l => simp [unwrap, leavesOf]
  | group d trees =>
    cases d with
    | none => simp [unwrap, leaves, Delimiter.opening?, Delimiter.closing?, leavesOf_front trees]
    | _ => simp [unwrap, leavesOf]

/-- Opening groups between nothing does not change the text. -/
theorem leavesOf_front (ts : List Tree) : leavesOf (front ts) = leavesOf ts := by
  match ts with
  | [] => simp [front]
  | t :: rest =>
    have own := leavesOf_unwrap t
    unfold front
    split
    · rename_i empty
      rw [empty] at own
      simp [leavesOf, leavesOf_front rest, ← own]
    · rw [leavesOf_append, own, leavesOf]

end

mutual

/-- The trees in a tree when all groups between nothing are opened. -/
def flatten : Tree → List Tree
  | group .none trees => flat trees
  | group d trees => [group d (flat trees)]
  | t => [t]

/-- The tokens with all groups between nothing opened. -/
def flat : List Tree → List Tree
  | [] => []
  | t :: rest => flatten t ++ flat rest

end

mutual

theorem leavesOf_flatten (t : Tree) : leavesOf (flatten t) = leaves t := by
  match t with
  | ident i => simp [flatten, leavesOf]
  | punct c joint => simp [flatten, leavesOf]
  | literal l => simp [flatten, leavesOf]
  | group d trees =>
    cases d <;>
      simp [flatten, leavesOf, leaves, Delimiter.opening?, Delimiter.closing?, leavesOf_flat trees]

theorem leavesOf_flat (ts : List Tree) : leavesOf (flat ts) = leavesOf ts := by
  match ts with
  | [] => simp [flat]
  | t :: rest => rw [flat, leavesOf_append, leavesOf_flatten t, leavesOf_flat rest, leavesOf]

end

end Tree

end EndpointRouting.Token
