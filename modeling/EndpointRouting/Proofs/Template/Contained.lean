import EndpointRouting.Proofs.Regex.Onward
import EndpointRouting.Proofs.Regex.Verbose
import EndpointRouting.Proofs.Template.Expression
import EndpointRouting.Proofs.Template.Tame

/-!
# Templates with patterns of their own

Between the variables of a contained template stands text without a meaning of its own, and the
pattern of each variable compiles by itself. Such a pattern cannot reach out of the group it stands
in, so the expression is a row of one part for each piece. A text that the row matches is the
template with what the groups captured in place of the variables.
-/

namespace EndpointRouting
namespace Template
open Regex Text

def Variable.inner (v : Variable) : List Char := (v.pattern.map expandClasses).getD segment

/-- A pattern that compiles by itself and switches verbose reading nowhere on. -/
def SelfContained (cs : List Char) : Prop :=
  ∃ re own, Regex.compile cs = .ok re ∧ Pattern.read cs = .ok own ∧ own.pattern.turnsVerbose = false

/-- Literal text that means nothing to an expression, and variables with the names of groups, whose
patterns are self-contained. -/
structure Contained (ps : List Piece) : Prop where
  ordinary : ∀ c, .literal c ∈ ps → c ∉ special
  valid : ∀ v, .var v ∈ ps → ValidName v.name
  patterns : ∀ v p, .var v ∈ ps → v.pattern = some p → SelfContained (expandClasses p)

variable {v : Variable} {p : Piece} {ps : List Piece}

theorem Contained.tail (contained : Contained (p :: ps)) : Contained ps where
  ordinary c member := contained.ordinary c (List.mem_cons_of_mem _ member)
  valid v member := contained.valid v (List.mem_cons_of_mem _ member)
  patterns v p member := contained.patterns v p (List.mem_cons_of_mem _ member)

theorem selfContained_of_eval {cs : List Char} (compiles : (Regex.compile cs).toOption.isSome)
    (off : (Pattern.read cs).toOption.map (·.pattern.turnsVerbose) = some false) :
    SelfContained cs := by
  obtain ⟨re, compiled⟩ := ok_of_isSome compiles
  obtain ⟨own, -, read, -, -⟩ := compile_ok compiled
  rw [read] at off
  exact ⟨re, own, compiled, read, Option.some.inj off⟩

theorem selfContained_segment : SelfContained segment :=
  selfContained_of_eval (by decide +kernel) (by decide +kernel)

theorem Contained.inner (contained : Contained ps) (member : .var v ∈ ps) :
    SelfContained v.inner := by
  unfold Variable.inner
  cases own : v.pattern with
  | none =>
    rw [Option.map_none, Option.getD_none]
    exact selfContained_segment
  | some p =>
    rw [Option.map_some, Option.getD_some]
    exact contained.patterns v p member own

theorem unended_of_valid {name : List Char} (valid : ValidName name) : '>' ∉ name := by
  intro member
  have continues := valid.continues '>' member
  exact (ne_of_continuesName continues).2.2.2 rfl

theorem body_of_valid (valid : ValidName v.name) : v.groupName = v.name ∧ v.body = v.inner := by
  have unended := unended_of_valid valid
  obtain ⟨-, left⟩ := upTo_append unended (.inr ⟨v.inner, rfl⟩)
  constructor
  · refine List.takeWhile_eq_self_iff.mpr fun c member => ?_
    rw [bne_iff_ne]
    rintro rfl
    exact unended member
  · change ((v.name ++ '>' :: v.inner).dropWhile (· != '>')).drop 1 = _
    rw [left]
    rfl

theorem group_of_valid (valid : ValidName v.name) :
    v.group = '(' :: '?' :: '<' :: (v.name ++ '>' :: (v.inner ++ [')'])) := by
  obtain ⟨name, body⟩ := body_of_valid valid
  rw [group_eq, name, body]

end Template

namespace Regex
open Template Text

/-! ### Reading -/

/-- One part for each piece, `k` groups after the start. The part of a variable holds its pattern,
with the groups counted on, and its index is `named`. -/
inductive Parts (named : List (List Char × Nat)) : Nat → List Piece → List Pattern → Prop
  | nil (k : Nat) : Parts named k [] []
  | literal {k : Nat} {ps : List Piece} {qs : List Pattern} (c : Char)
      (rest : Parts named k ps qs) : Parts named k (.literal c :: ps) (.char c :: qs)
  | var {k k' : Nat} {ps : List Piece} {qs : List Pattern} {v : Variable} {own : NamedPattern}
      {body : Pattern} (alone : Pattern.read v.inner = .ok own)
      (moved : body.bare 0 = own.pattern.bare (k + 1)) (known : (v.name, k + 1) ∈ named)
      (later : k < k') (rest : Parts named k' ps qs) :
      Parts named k (.var v :: ps) (.capture (k + 1) body :: qs)

namespace Reader

variable {r rf : Reader} {t : List Char} {ps : List Piece}

theorem run_pieces (contained : Contained ps) (calm : r.Calm) {n : Nat} {p : Pattern}
    (h : run n r (ps.flatMap Piece.expression ++ t) = .ok rf)
    (room : (ps.flatMap Piece.expression ++ t).length ≤ n) (finished : rf.finish = .ok p) :
    ∃ l r' qs, t.length ≤ l ∧ run l r' t = .ok rf ∧ r'.Calm ∧ r'.frames = r.frames ∧
      r'.parts = qs.reverse ++ r.parts ∧
      Parts (rf.names.map (GroupName.entry 0)).reverse r.captures ps qs := by
  induction ps generalizing n r with
  | nil => exact ⟨n, r, [], room, h, calm, rfl, rfl, .nil r.captures⟩
  | cons piece ps ih =>
    have here (cs : List Char) : skip r.verbose cs = cs := by
      rw [calm.verbose]
      rfl
    cases piece with
    | literal c =>
      have ordinary := contained.ordinary c List.mem_cons_self
      obtain ⟨l, r₁, rest, rfl, step, h⟩ := run_cons (here _) room h
      have room₁ : (ps.flatMap Piece.expression ++ t).length ≤ l := Nat.le_of_succ_le_succ room
      change r.step c (ps.flatMap Piece.expression ++ t) = _ at step
      rw [step_ordinary ordinary] at step
      cases step
      obtain ⟨l, r', qs, room', h', calm', frames, parts, listed⟩ :=
        ih (r := r.push (.char c)) contained.tail ⟨calm.verbose, calm.frames⟩ h room₁
      refine ⟨l, r', .char c :: qs, room', h', calm', frames, ?_, .literal c listed⟩
      rw [parts]
      simp [push]
    | var v =>
      have valid := contained.valid v List.mem_cons_self
      obtain ⟨re, own, -, alone, off⟩ := contained.inner (v := v) List.mem_cons_self
      have text : (.var v :: ps).flatMap Piece.expression ++ t = '(' :: '?' :: '<' ::
          (v.name ++ '>' :: (v.inner ++ ')' :: (ps.flatMap Piece.expression ++ t))) := by
        rw [List.flatMap_cons, Piece.expression, group_of_valid valid]
        simp
      have quiet (s : Reader) (visited : Visits v.inner.length {} v.inner s)
          (on : s.verbose = true) : '\n' ∉ ps.flatMap Piece.expression ++ t := by
        have plain := plain_of_read alone off s visited
        exact absurd (plain.symm.trans on) (by decide)
      rw [text] at h room
      obtain ⟨l, r₁, room₁, h, passes⟩ :=
        run_group alone quiet calm (unended_of_valid valid) h room finished
      obtain ⟨l, r', qs, room', h', calm', frames, parts, listed⟩ :=
        ih contained.tail passes.calm h room₁
      obtain ⟨body, parts₁, moved⟩ := passes.parts
      have known : (v.name, r.captures + 1) ∈ (rf.names.map (GroupName.entry 0)).reverse := by
        obtain ⟨added, all⟩ := names_run h
        rw [List.mem_reverse, all, List.map_append, passes.names]
        simp
      refine ⟨l, r', .capture (r.captures + 1) body :: qs, room', h', calm',
        frames.trans passes.frames, ?_, .var alone moved known passes.captures listed⟩
      rw [parts, parts₁]
      simp

end Reader

/-! ### Compiling -/

/-- One node for each piece; the node of a variable is that of its pattern, with the groups counted
on. -/
inductive Row (named : List (List Char × Nat)) : Nat → List Piece → List Node → Prop
  | nil (k : Nat) : Row named k [] []
  | literal {k : Nat} {ps : List Piece} {ns : List Node} (c : Char) (rest : Row named k ps ns) :
      Row named k (.literal c :: ps) (.one (.char c) :: ns)
  | var {k k' : Nat} {ps : List Piece} {ns : List Node} {v : Variable} {own : Regex} {n : Node}
      (alone : compile v.inner = .ok own) (moved : n.bare 0 = own.node.bare (k + 1))
      (known : (v.name, k + 1) ∈ named) (later : k < k') (rest : Row named k' ps ns) :
      Row named k (.var v :: ps) (.capture (k + 1) n :: ns)

/-- A row whose parts leave the flags as they are resolves part by part. -/
theorem resolve_ofParts_ok {qs : List Pattern} {n : Node} {f : Flags}
    (keep : ∀ q ∈ qs, ∀ n f, q.resolve {} = .ok (n, f) → f = {})
    (h : (Pattern.ofParts qs).resolve {} = .ok (n, f)) :
    ∃ ns, n = Node.ofParts ns ∧ List.Forall₂ (fun q m => q.resolve {} = .ok (m, {})) qs ns := by
  fun_induction Pattern.ofParts qs generalizing n f with
  | case1 =>
    cases h
    exact ⟨[], rfl, .nil⟩
  | case2 q =>
    obtain rfl := keep q List.mem_cons_self n f h
    exact ⟨[n], rfl, .cons h .nil⟩
  | case3 q rest more ih =>
    obtain ⟨⟨a, f₁⟩, first, h⟩ := bind_ok h
    obtain ⟨⟨b, f₂⟩, second, h⟩ := bind_ok h
    cases h
    obtain rfl := keep q List.mem_cons_self a f₁ first
    obtain ⟨ns, rfl, related⟩ := ih (fun q member => keep q (List.mem_cons_of_mem _ member)) second
    have some_node : ns ≠ [] := by
      rintro rfl
      exact more (List.forall₂_nil_right_iff.mp related)
    obtain ⟨m, ns, rfl⟩ := List.exists_cons_of_ne_nil some_node
    exact ⟨a :: m :: ns, rfl, .cons first related⟩

variable {named : List (List Char × Nat)} {k : Nat} {ps : List Piece} {re : Regex}

theorem Parts.keep {qs : List Pattern} (parts : Parts named k ps qs) :
    ∀ q ∈ qs, ∀ n f, q.resolve {} = .ok (n, f) → f = {} := by
  induction parts with
  | nil => simp
  | literal c _ ih =>
    refine List.forall_mem_cons.mpr ⟨fun n f h => ?_, ih⟩
    cases h
    rfl
  | var _ _ _ _ _ ih =>
    refine List.forall_mem_cons.mpr ⟨fun n f h => ?_, ih⟩
    obtain ⟨⟨b, f₁⟩, -, h⟩ := bind_ok h
    cases h
    rfl

theorem Parts.row {qs : List Pattern} {ns : List Node} (contained : Contained ps)
    (parts : Parts named k ps qs)
    (related : List.Forall₂ (fun q m => q.resolve {} = .ok (m, {})) qs ns) : Row named k ps ns := by
  induction parts generalizing ns with
  | nil k =>
    cases related
    exact .nil k
  | literal c _ ih =>
    cases related with
    | cons first rest =>
      cases first
      exact .literal c (ih contained.tail rest)
  | @var k k' ps qs v own body alone moved known later _ ih =>
    cases related with
    | @cons _ m _ _ first rest =>
      obtain ⟨⟨n, f⟩, resolved, same⟩ := bind_ok first
      cases same
      obtain ⟨compiled, own', compiles, read, -⟩ := contained.inner (v := v) List.mem_cons_self
      obtain ⟨own'', f', read', resolved', -⟩ := compile_ok compiles
      cases alone.symm.trans read'
      -- both trees are the same apart from the counting, so both resolve to the same node
      have here := bare_resolve 0 resolved
      have there := bare_resolve (k + 1) resolved'
      rw [moved, there] at here
      obtain ⟨nodes, -⟩ := Prod.mk.inj (Except.ok.inj here)
      exact .var compiles nodes.symm known later (ih contained.tail rest)

theorem row_of_compile (contained : Contained ps)
    (compiled : compile (anchor (ps.flatMap Piece.expression)) = .ok re) :
    ∃ ns, re.node = .seq (.place .textStart) (.seq (Node.ofParts ns) (.place .textEnd)) ∧
      Row re.names 0 ps ns := by
  obtain ⟨read, f, hread, resolved, names⟩ := compile_ok compiled
  obtain ⟨n, span, rf, room, run, finish, names'⟩ := read_anchor_ok hread
  obtain ⟨l, r, qs, room, run, calm, frames, parts, listed⟩ :=
    Reader.run_pieces contained (Reader.calm_wrapped span) run room finish
  have row : r.row = .ofParts qs := by
    rw [Reader.row, parts]
    simp [Reader.wrapped]
  have plain : skip r.verbose [')', '$'] = [')', '$'] := by
    rw [calm.verbose]
    rfl
  obtain ⟨l, r₁, rest, rfl, step, run⟩ := Reader.run_cons plain room run
  obtain ⟨r₂, closes, step⟩ := bind_ok step
  cases step
  unfold Reader.closeParenthesis at closes
  rw [frames, row] at closes
  cases closes
  -- nothing but the dollar is left, and the tree is complete with it
  have dollar := Reader.run_dollar (Nat.le_of_succ_le_succ room) run
  rw [dollar] at finish
  have pattern : read.pattern = .seq (.anchor .lineStart)
      (.seq (.group [] (.ofParts qs)) (.anchor .lineEnd)) := (Except.ok.inj finish).symm
  rw [pattern] at resolved
  obtain ⟨⟨start, f₁⟩, hstart, resolved⟩ := bind_ok resolved
  obtain ⟨⟨second, f₂⟩, hsecond, resolved⟩ := bind_ok resolved
  obtain ⟨⟨group, f₃⟩, hgroup, hsecond⟩ := bind_ok hsecond
  obtain ⟨⟨inner, f₄⟩, hinner, hgroup⟩ := bind_ok hgroup
  obtain ⟨⟨stop, f₅⟩, hstop, hsecond⟩ := bind_ok hsecond
  cases hstart
  cases hgroup
  cases hstop
  cases hsecond
  obtain ⟨ns, rfl, related⟩ := resolve_ofParts_ok listed.keep hinner
  refine ⟨ns, (Prod.mk.inj (Except.ok.inj resolved)).1.symm, ?_⟩
  rw [names, names']
  exact listed.row contained related

/-! ### Matching -/

theorem mem_ends_of_search {n : Node} (starts : re.node = .seq (.place .textStart) n)
    {text : List Char} {found : Cursor} (hit : re.search? text = some found) :
    found ∈ n.ends ⟨[], text, []⟩ := by
  have first : (re.node.ends ⟨[], text, []⟩).head? = some found := by
    unfold search? at hit
    cases text with
    | nil => exact hit
    | cons c rest =>
      rw [Node.searchFrom] at hit
      split at hit
      · rename_i s here
        rw [here, hit]
      · -- the anchor lets no search begin behind the start
        rw [starts, searchFrom_textStart] at hit
        cases hit
  rw [starts] at first
  obtain ⟨s, start, found_there⟩ :=
    List.mem_flatMap.mp (mem_of_mem_distinct (List.mem_of_mem_head? first))
  rw [List.mem_singleton.mp start] at found_there
  exact found_there

end Regex

namespace Template
open Regex Text

/-- The pattern of the variable matches the value somewhere; where its groups count from does not
matter. -/
def Variable.Takes (v : Variable) (value : List Char) : Prop :=
  ∃ (own : Regex) (n : Node) (k : Nat) (s u : Cursor), Regex.compile v.inner = .ok own ∧
    n.bare 0 = own.node.bare k ∧ u ∈ n.ends s ∧ s.after = value ++ u.after

/-- The piece with what its group captured in place of a variable. -/
def Piece.captured (re : Regex) (found : Cursor) : Piece → List Char
  | .literal c => [c]
  | .var v => (re.captured? found v.name).getD []

variable {re : Regex} {k : Nat} {ps : List Piece} {ns : List Node} {s u : Cursor}

/-- A row passes the pieces with what the groups captured in place of the variables. -/
theorem captured_of_row (distinct : (re.names.map (·.1)).Nodup) (row : Row re.names k ps ns)
    (member : u ∈ (Node.ofParts ns).ends s) :
    Onward k (ps.flatMap (Piece.captured re u)) s u ∧
      ∀ v, .var v ∈ ps → ∃ value, re.captured? u v.name = some value ∧ v.Takes value := by
  induction row generalizing s with
  | nil k =>
    obtain rfl := List.mem_singleton.mp member
    exact ⟨.refl k u, by simp⟩
  | @literal k ps ns c _ ih =>
    obtain ⟨w, first, rest⟩ := mem_ends_ofParts member
    obtain ⟨onward, values⟩ := ih rest
    have here : Onward k [c] s w := by
      rw [Node.ends] at first
      split at first
      · rename_i d left after
        split at first
        · rename_i same
          obtain rfl := List.mem_singleton.mp first
          obtain rfl : c = d := by simpa [Test.accepts] using same
          exact ⟨after, [], rfl, by simp⟩
        · cases first
      · cases first
    refine ⟨here.trans onward, fun v listed => ?_⟩
    rcases List.mem_cons.mp listed with same | later
    · cases same
    · exact values v later
  | @var k k' ps ns v own n alone moved known higher _ ih =>
    obtain ⟨w, first, rest⟩ := mem_ends_ofParts member
    obtain ⟨onward, values⟩ := ih rest
    obtain ⟨w', inside, rfl⟩ := List.mem_map.mp first
    have above : n.Above k := by
      rw [← above_bare_zero, moved]
      exact above_bare_succ k own.node
    obtain ⟨text, passed⟩ := onward_ends above inside
    have recorded : (w'.capture (k + 1) s).captures = (k + 1, text) :: w'.captures :=
      passed.capture (k + 1)
    have value : re.captured? u v.name = some text := by
      have group := find?_of_nodup distinct known
      unfold captured?
      rw [group, Option.bind_some]
      change u.captured? (k + 1) = _
      -- what comes after has higher indices, so it cannot take the capture away
      rw [onward.captured? higher, Cursor.captured?, recorded]
      simp
    have here : Onward k text s (w'.capture (k + 1) s) := by
      obtain ⟨after, added, captures, groups⟩ := passed
      refine ⟨after, (k + 1, text) :: added, ?_, ?_⟩
      · rw [recorded, captures, List.cons_append]
      · exact List.forall_mem_cons.mpr ⟨Nat.lt_succ_self k, groups⟩
    have piece : Piece.captured re u (.var v) = text := by
      rw [Piece.captured, value, Option.getD_some]
    refine ⟨?_, fun v' listed => ?_⟩
    · rw [List.flatMap_cons, piece]
      exact here.trans (onward.mono (Nat.le_of_lt higher))
    · rcases List.mem_cons.mp listed with same | later
      · cases same
        exact ⟨text, value, own, n, k + 1, s, w', alone, moved, inside, passed.after⟩
      · exact values v' later

/-- What an anchored expression finds in a text is the template with what the groups captured in
place of the variables, and every variable has captured a text that its pattern matches. -/
theorem captured_of_search (contained : Contained ps)
    (compiled : Regex.compile (anchor (ps.flatMap Piece.expression)) = .ok re) {text : List Char}
    {found : Cursor} (hit : re.search? text = some found) :
    text = ps.flatMap (Piece.captured re found) ∧
      ∀ v, .var v ∈ ps → ∃ value, re.captured? found v.name = some value ∧ v.Takes value := by
  obtain ⟨read, -, hread, -, names⟩ := compile_ok compiled
  have distinct := (read_names_ordered hread).1
  rw [← names] at distinct
  obtain ⟨ns, starts, row⟩ := row_of_compile contained compiled
  obtain ⟨u, whole, last⟩ :=
    List.mem_flatMap.mp (mem_of_mem_distinct (mem_ends_of_search starts hit))
  have ended : found = u ∧ u.after = [] := by
    rw [Node.ends] at last
    split at last
    · rename_i holds
      exact ⟨List.mem_singleton.mp last, List.isEmpty_iff.mp holds⟩
    · cases last
  obtain ⟨rfl, nothing⟩ := ended
  obtain ⟨onward, values⟩ := captured_of_row distinct row whole
  have all := onward.after
  rw [nothing, List.append_nil] at all
  exact ⟨all, values⟩

end Template
end EndpointRouting
