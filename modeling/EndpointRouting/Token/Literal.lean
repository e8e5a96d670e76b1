import EndpointRouting.Text.Identifier
import EndpointRouting.Text.Basic
import EndpointRouting.Token.Tree

/-!
# Literals

Reading one literal from the front of a text: strings, byte strings and strings that end in a
null, cooked or raw; bytes and characters; numbers. Every literal may have a suffix.
-/

namespace EndpointRouting.Token
open Text

def isIdentStart (c : Char) : Bool := c == '_' || identifierStart.contains c.toNat

def isIdentContinue (c : Char) : Bool := identifierContinue.contains c.toNat

/-- The name that `cs` starts with, and the rest. -/
def readName : List Char → Option (List Char × List Char)
  | [] => none
  | c :: rest =>
    if isIdentStart c then
      some (c :: rest.takeWhile isIdentContinue, rest.dropWhile isIdentContinue)
    else none

/-- What is left after a suffix, if there is one. -/
def skipSuffix (cs : List Char) : List Char :=
  match readName cs with
  | some (_, rest) => rest
  | none => cs

/-! ### Strings -/

/-- What a string literal holds. -/
inductive StringKind where
  | text
  | bytes
  | terminated
  deriving DecidableEq

/-- A character that stands for itself. -/
def StringKind.allows : StringKind → Char → Bool
  | text, _ => true
  | bytes, c => c.toNat < 0x80
  | terminated, c => c.toNat != 0

def hexDigit? (c : Char) : Option Nat :=
  if c.isDigit then some (c.toNat - 48)
  else if 'a' ≤ c && c ≤ 'f' then some (c.toNat - 87)
  else if 'A' ≤ c && c ≤ 'F' then some (c.toNat - 55)
  else none

/-- The number that two hexadecimal digits write, if the kind takes it. -/
def StringKind.hexEscape? (k : StringKind) (high low : Char) : Option Nat := do
  let n := (← hexDigit? high) * 16 + (← hexDigit? low)
  let taken := match k with
    | text => decide (n < 0x80)
    | bytes => true
    | terminated => n != 0
  if taken then some n else none

/-- A code point in up to six hexadecimal digits, after its opening brace. Underscores may stand
after the first digit. -/
def codePoint (value digits : Nat) : List Char → Option (Char × List Char)
  | [] => none
  | c :: rest =>
    match hexDigit? c with
    | some d => if digits < 6 then codePoint (value * 16 + d) (digits + 1) rest else none
    | none =>
      if digits = 0 then none
      else if c = '_' then codePoint value digits rest
      else if c = '\x7d' then
        if value.isValidChar then some (Char.ofNat value, rest) else none
      else none

/-- What is left after a line break and the blank characters that follow it. -/
def skipBreak : List Char → Option (List Char)
  | [] => none
  | '\r' :: '\n' :: rest => skipBreak rest
  | c :: rest =>
    if c = '\r' then none
    else if c = '\n' || c = ' ' || c = '\t' then skipBreak rest
    else some (c :: rest)

/-- The character that a one-letter escape stands for. -/
def simpleEscape? : Char → Option Char
  | 'n' => some '\n'
  | 'r' => some '\r'
  | 't' => some '\t'
  | '0' => some (Char.ofNat 0)
  | '\\' => some '\\'
  | '\'' => some '\''
  | '"' => some '"'
  | _ => none

/-- An escape, after its backslash: what it stands for, and the rest. -/
def readEscape (k : StringKind) : List Char → Option (List Char × List Char)
  | [] => none
  | c :: rest =>
    if c = 'x' then
      match rest with
      | high :: low :: rest => (k.hexEscape? high low).map fun n => ([Char.ofNat n], rest)
      | _ => none
    else if c = 'u' then
      match rest with
      | '\x7b' :: rest =>
        if k = .bytes then none
        else match codePoint 0 0 rest with
          | some (c, rest) => if k.allows c then some ([c], rest) else none
          | none => none
      | _ => none
    else if c = '\n' || c = '\r' then (skipBreak (c :: rest)).map fun rest => ([], rest)
    else if k = .terminated && c = '0' then none
    else (simpleEscape? c).map fun c => ([c], rest)

theorem length_of_codePoint {value digits : Nat} {cs r : List Char} {c : Char}
    (h : codePoint value digits cs = some (c, r)) : r.length < cs.length := by
  induction cs generalizing value digits with
  | nil => simp [codePoint] at h
  | cons d rest ih =>
    simp only [codePoint] at h
    split at h
    · split at h
      · exact Nat.lt_succ_of_lt (ih h)
      · simp at h
    · split at h
      · simp at h
      · split at h
        · exact Nat.lt_succ_of_lt (ih h)
        · split at h
          · split at h <;> simp_all
          · simp at h

theorem length_of_skipBreak {cs r : List Char} (h : skipBreak cs = some r) :
    r.length ≤ cs.length := by
  fun_induction skipBreak cs with
  | case1 => simp at h
  | case2 rest ih =>
    have := ih h
    simp only [List.length_cons]
    omega
  | case3 => simp at h
  | case4 c rest _ _ _ ih =>
    have := ih h
    simp only [List.length_cons]
    omega
  | case5 => simp_all

theorem length_of_readEscape {k : StringKind} {cs v r : List Char}
    (h : readEscape k cs = some (v, r)) : r.length ≤ cs.length := by
  cases cs with
  | nil => simp [readEscape] at h
  | cons c rest =>
    simp only [readEscape] at h
    split at h
    · split at h
      · obtain ⟨n, -, heq⟩ := Option.map_eq_some_iff.1 h
        simp only [Prod.mk.injEq] at heq
        obtain ⟨-, rfl⟩ := heq
        simp only [List.length_cons]
        omega
      · simp at h
    · split at h
      · split at h
        · split at h
          · simp at h
          · split at h
            · rename_i d s hd
              split at h
              · simp only [Option.some.injEq, Prod.mk.injEq] at h
                obtain ⟨-, rfl⟩ := h
                have := length_of_codePoint hd
                simp only [List.length_cons]
                omega
              · simp at h
            · simp at h
        · simp at h
      · split at h
        · obtain ⟨s, hs, heq⟩ := Option.map_eq_some_iff.1 h
          simp only [Prod.mk.injEq] at heq
          obtain ⟨-, rfl⟩ := heq
          exact length_of_skipBreak hs
        · split at h
          · simp at h
          · obtain ⟨d, -, heq⟩ := Option.map_eq_some_iff.1 h
            simp only [Prod.mk.injEq] at heq
            obtain ⟨-, rfl⟩ := heq
            simp

/-- The value of a cooked string, after its opening quote, and the rest. -/
def readCooked (k : StringKind) (cs : List Char) : Option (List Char × List Char) :=
  match cs with
  | [] => none
  | c :: rest =>
    if c = '"' then some ([], rest)
    else if c = '\\' then
      match h : readEscape k rest with
      | some (v, r) =>
        have := length_of_readEscape h
        (readCooked k r).map fun (w, r) => (v ++ w, r)
      | none => none
    else if c = '\r' then
      match rest with
      | '\n' :: r => (readCooked k r).map fun (w, r) => ('\n' :: w, r)
      | _ => none
    else if k.allows c then (readCooked k rest).map fun (w, r) => (c :: w, r)
    else none
  termination_by cs.length

/-- The content of a raw string up to a quote that `close` follows, and the rest. -/
def readRawBody (k : StringKind) (close : List Char) : List Char → Option (List Char × List Char)
  | [] => none
  | c :: rest =>
    if c = '"' && close.isPrefixOf rest then some ([], rest.drop close.length)
    else if c = '\r' then
      match rest with
      | '\n' :: r => (readRawBody k close r).map fun (w, r) => (c :: '\n' :: w, r)
      | _ => none
    else if k.allows c then (readRawBody k close rest).map fun (w, r) => (c :: w, r)
    else none

/-- A raw string, after its letters. -/
def readRaw (k : StringKind) (cs : List Char) : Option (List Char × List Char) :=
  let close := cs.takeWhile (· == '#')
  match cs.dropWhile (· == '#') with
  | '"' :: rest => if close.length ≤ 255 then readRawBody k close rest else none
  | _ => none

/-- A string of one kind, after the letter that marks its kind. -/
def readString (k : StringKind) : List Char → Option (List Char × List Char)
  | '"' :: rest => readCooked k rest
  | 'r' :: rest => readRaw k rest
  | _ => none

/-! ### Bytes and characters -/

/-- A character, or a byte, between single quotes, after the opening one. -/
def readQuoted (k : StringKind) : List Char → Option (List Char)
  | [] => none
  | c :: rest =>
    let after :=
      if c = '\\' then
        match rest with
        | '\n' :: _ | '\r' :: _ => none
        | _ => (readEscape k rest).map (·.2)
      else if k.allows c then some rest
      else none
    match after with
    | some ('\'' :: rest) => some rest
    | _ => none

/-! ### Numbers -/

def isDigitOrScore (c : Char) : Bool := c.isDigit || c == '_'

/-- What is left after the value of an exponent; a sign may stand before it. -/
def skipExponent (signed valued : Bool) : List Char → Option (List Char)
  | [] => if valued then some [] else none
  | c :: rest =>
    if c.isDigit then skipExponent signed true rest
    else if c = '_' then skipExponent signed valued rest
    else if valued then some (c :: rest)
    else if (c = '+' || c = '-') && !signed then skipExponent true valued rest
    else none

def isExponentMark (c : Char) : Bool := c == 'e' || c == 'E'

/-- What is left after the digits of a number with a point or an exponent. A point needs no
digit after it, but neither a name nor another point may follow it. -/
def skipFloat (cs : List Char) : Option (List Char) :=
  match cs with
  | [] => none
  | first :: _ =>
    if first.isDigit then
      match cs.dropWhile isDigitOrScore with
      | '.' :: rest =>
        if (rest.head?.map fun c => c == '.' || isIdentStart c).getD false then none
        else match rest.dropWhile isDigitOrScore with
          | [] => some []
          | e :: r =>
            if isExponentMark e then (skipExponent false false r).or (some (e :: r))
            else some (e :: r)
      | e :: rest => if isExponentMark e then skipExponent false false rest else none
      | [] => none
    else none

/-- What is left after the digits of an integer. -/
def skipDigits (base : Nat) (seen : Bool) : List Char → Option (List Char)
  | [] => if seen then some [] else none
  | c :: rest =>
    if c.isDigit then if c.toNat - 48 < base then skipDigits base true rest else none
    else if c = '_' then if seen || base != 10 then skipDigits base seen rest else none
    else if (hexDigit? c).any (· < base) then skipDigits base true rest
    else if seen then some (c :: rest)
    else none

def skipInteger : List Char → Option (List Char)
  | '0' :: 'x' :: rest => skipDigits 16 false rest
  | '0' :: 'o' :: rest => skipDigits 8 false rest
  | '0' :: 'b' :: rest => skipDigits 2 false rest
  | cs => skipDigits 10 false cs

/-- What is left after the suffix of a number; the number may not run on into a word. -/
def endNumber (cs : List Char) : Option (List Char) :=
  let rest := skipSuffix cs
  if (rest.head?.map isIdentContinue).getD false then none else some rest

/-! ### All literals -/

/-- The kind of the literal that `cs` starts with, and the rest. -/
def readLiteralKind (cs : List Char) : Option (LiteralKind × List Char) :=
  match cs with
  | 'b' :: '\'' :: rest => (readQuoted .bytes rest).map fun r => (.byte, skipSuffix r)
  | 'b' :: rest => (readString .bytes rest).map fun (_, r) => (.byteString, skipSuffix r)
  | 'c' :: rest => (readString .terminated rest).map fun (_, r) => (.cString, skipSuffix r)
  | '\'' :: rest => (readQuoted .text rest).map fun r => (.char, skipSuffix r)
  | _ =>
    match readString .text cs with
    | some (v, r) => some (.string (String.ofList v), skipSuffix r)
    | none =>
      match (skipFloat cs).bind endNumber with
      | some r => some (.float, r)
      | none => ((skipInteger cs).bind endNumber).map fun r => (.integer, r)

/-- The literal that `cs` starts with, and the rest. -/
def readLiteral (cs : List Char) : Option (Literal × List Char) :=
  (readLiteralKind cs).map fun (kind, rest) =>
    (⟨kind, String.ofList (cs.take (cs.length - rest.length))⟩, rest)

end EndpointRouting.Token
