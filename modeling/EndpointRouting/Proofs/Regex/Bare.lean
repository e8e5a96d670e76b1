import EndpointRouting.Proofs.Outcome
import EndpointRouting.Regex.Reader
import EndpointRouting.Regex.Match

/-!
# Patterns without positions

A tree remembers where its parts are written, for errors only. `bare k` forgets the positions and
moves the indices of the groups up by `k`, so that a pattern can be compared with the same pattern
read inside another one.
-/

namespace EndpointRouting.Regex

/-! ### Sets -/

def CharSet.bare : CharSet → CharSet
  | .nothing => .nothing
  | .range first last => .range first last
  | .ascii kind => .ascii kind
  | .shorthand kind negated => .shorthand kind negated
  | .property name _ => .property name ⟨0, 0⟩
  | .bracket negated body => .bracket negated body.bare
  | .union left right => .union left.bare right.bare
  | .inter left right => .inter left.bare right.bare
  | .diff left right => .diff left.bare right.bare
  | .symm left right => .symm left.bare right.bare

theorem bare_holds (m : Mode) (s : CharSet) : s.bare.holds m = s.holds m := by
  induction s with
  | nothing | range | ascii | shorthand => rfl
  | property name span => rfl
  | bracket negated body ih => funext c; simp only [CharSet.bare, CharSet.holds, ih]
  | union left right ihl ihr | inter left right ihl ihr | diff left right ihl ihr
  | symm left right ihl ihr => funext c; simp only [CharSet.bare, CharSet.holds, ihl, ihr]

theorem bare_closed (m : Mode) (s : CharSet) (c : Char) : s.bare.closed m c = s.closed m c := by
  unfold CharSet.closed
  rw [bare_holds]

theorem bare_fault_isSome (m : Mode) (s : CharSet) :
    (s.bare.fault? m).isSome = (s.fault? m).isSome := by
  induction s with
  | nothing | range | ascii | shorthand => rfl
  | property name span =>
    unfold CharSet.bare CharSet.fault?
    split
    · cases name.ranges <;> rfl
    · rfl
  | bracket negated body ih =>
    simp only [CharSet.bare, CharSet.fault?]
    cases hb : body.bare.fault? m <;> cases h : body.fault? m <;> simp_all
  | union left right ihl ihr | inter left right ihl ihr | diff left right ihl ihr
  | symm left right ihl ihr =>
    simp only [CharSet.bare, CharSet.fault?, Option.isSome_or, ihl, ihr]

theorem bare_fault_eq_none {m : Mode} {s : CharSet} :
    s.bare.fault? m = none ↔ s.fault? m = none := by
  rw [← Option.isNone_iff_eq_none, ← Option.isNone_iff_eq_none, ← Option.not_isSome,
    ← Option.not_isSome, bare_fault_isSome]

/-! ### Patterns -/

def Pattern.bare (k : Nat) : Pattern → Pattern
  | .empty => .empty
  | .char c => .char c
  | .byte c _ => .byte c ⟨0, 0⟩
  | .dot => .dot
  | .anchor a => .anchor a
  | .set s _ => .set s.bare ⟨0, 0⟩
  | .settings s => .settings s
  | .capture index body => .capture (index + k) (body.bare k)
  | .group s body => .group s (body.bare k)
  | .seq first second => .seq (first.bare k) (second.bare k)
  | .alt first second => .alt (first.bare k) (second.bare k)
  | .repeat body count greedy => .repeat (body.bare k) count greedy

theorem bare_ofParts (k : Nat) (ps : List Pattern) :
    (Pattern.ofParts ps).bare k = .ofParts (ps.map (Pattern.bare k)) := by
  fun_induction Pattern.ofParts ps with
  | case1 => rfl
  | case2 p => rfl
  | case3 p rest hne ih =>
    obtain ⟨q, rest, rfl⟩ := List.exists_cons_of_ne_nil hne
    simp only [Pattern.bare, ih, List.map_cons, Pattern.ofParts]

theorem bare_ofBranches (k : Nat) (ps : List Pattern) :
    (Pattern.ofBranches ps).bare k = .ofBranches (ps.map (Pattern.bare k)) := by
  fun_induction Pattern.ofBranches ps with
  | case1 => rfl
  | case2 p => rfl
  | case3 p rest hne ih =>
    obtain ⟨q, rest, rfl⟩ := List.exists_cons_of_ne_nil hne
    simp only [Pattern.bare, ih, List.map_cons, Pattern.ofBranches]

/-! ### Nodes -/

def Test.bare : Test → Test
  | .set m s => .set m s.bare
  | t => t

theorem bare_accepts (t : Test) : t.bare.accepts = t.accepts := by
  funext c
  cases t with
  | set m s => exact bare_closed m s c
  | _ => rfl

def Node.bare (k : Nat) : Node → Node
  | .empty => .empty
  | .one t => .one t.bare
  | .place p => .place p
  | .capture index body => .capture (index + k) (body.bare k)
  | .seq first second => .seq (first.bare k) (second.bare k)
  | .alt first second => .alt (first.bare k) (second.bare k)
  | .repeat body count greedy => .repeat (body.bare k) count greedy

/-- Positions play no part in matching. -/
theorem bare_ends (n : Node) : (n.bare 0).ends = n.ends := by
  induction n with
  | empty | place => rfl
  | one t => funext s; simp only [Node.bare, Node.ends, bare_accepts]
  | capture index body ih => funext s; simp only [Node.bare, Node.ends, ih, Nat.add_zero]
  | seq first second ihf ihs | alt first second ihf ihs =>
    funext s; simp only [Node.bare, Node.ends, ihf, ihs]
  | «repeat» body count greedy ih => funext s; simp only [Node.bare, Node.ends, ih]

theorem bare_literal (f : Flags) (c : Char) (k : Nat) : (f.literal c).bare k = f.literal c := by
  unfold Flags.literal
  split <;> rfl

theorem bare_dot (f : Flags) : f.dot.bare = f.dot := by
  unfold Flags.dot
  split
  · rfl
  · split <;> rfl

/-- A pattern resolves as before once its positions are gone. -/
theorem bare_resolve {p : Pattern} {f f' : Flags} {n : Node} (k : Nat)
    (h : p.resolve f = .ok (n, f')) : (p.bare k).resolve f = .ok (n.bare k, f') := by
  induction p generalizing f f' n with
  | empty | anchor | settings => cases h; rfl
  | char c =>
    cases h
    simp only [Pattern.bare, Pattern.resolve, bare_literal]
  | byte c span =>
    simp only [Pattern.resolve] at h
    split at h
    · rename_i fine
      cases h
      simp only [Pattern.bare, Pattern.resolve, if_pos fine, bare_literal]
    · cases h
  | dot =>
    simp only [Pattern.resolve] at h
    split at h
    · rename_i fine
      cases h
      simp only [Pattern.bare, Pattern.resolve, if_pos fine, Node.bare, bare_dot]
    · cases h
  | set s span =>
    simp only [Pattern.resolve] at h
    split at h
    · cases h
    · rename_i fine
      cases h
      simp only [Pattern.bare, Pattern.resolve, bare_fault_eq_none.2 fine, Node.bare, Test.bare]
  | capture index body ih =>
    obtain ⟨⟨b, f₁⟩, hb, h⟩ := bind_ok h
    cases h
    simp only [Pattern.bare, Pattern.resolve, ih hb]
    rfl
  | group s body ih =>
    obtain ⟨⟨b, f₁⟩, hb, h⟩ := bind_ok h
    cases h
    simp only [Pattern.bare, Pattern.resolve, ih hb]
    rfl
  | seq first second ihf ihs | alt first second ihf ihs =>
    obtain ⟨⟨a, f₁⟩, ha, h⟩ := bind_ok h
    obtain ⟨⟨b, f₂⟩, hb, h⟩ := bind_ok h
    cases h
    simp only [Pattern.bare, Pattern.resolve, ihf ha, bind, Except.bind, ihs hb]
    rfl
  | «repeat» body count greedy ih =>
    obtain ⟨⟨b, f₁⟩, hb, h⟩ := bind_ok h
    cases h
    simp only [Pattern.bare, Pattern.resolve, ih hb]
    rfl

end EndpointRouting.Regex
