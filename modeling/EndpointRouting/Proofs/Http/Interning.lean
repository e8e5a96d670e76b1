import Mathlib.Data.List.Nodup
import Mathlib.Data.List.Perm.Basic
import EndpointRouting.Http.Registry
import EndpointRouting.Proofs.Outcome

/-!
# Registered names over whole runs

However header names and media types are asked for, one after the other, the first spelling of a
header name stays, and a media type is its own spelling.
-/

namespace EndpointRouting.Http
open Text

inductive Call where
  | header (name : String)
  | mediaType (value : String)
  deriving DecidableEq, Repr

namespace Call

def argument : Call → String
  | header name => name
  | mediaType value => value

/-- The header name of a call that is not refused. -/
def headerName? : Call → Option String
  | header name => if isBlank name then none else some name
  | mediaType _ => none

/-- The media type of a call that is not refused. -/
def mediaValue? : Call → Option String
  | header _ => none
  | mediaType value => if isBlank value then none else some value

end Call

def headerNames (cs : List Call) : List String := cs.filterMap Call.headerName?

def mediaValues (cs : List Call) : List String := cs.filterMap Call.mediaValue?

/-- The spellings of the header names that are always registered. -/
def knownNames : List String := Header.wellKnown.map (·.2.spelling)

/-- The spellings of the media types that are always registered. -/
def knownValues : List String := MediaType.wellKnown.map (·.2.spelling)

namespace Registry

/-- What a call gives: the spelling that is registered, and the registry with it. -/
def call (r : Registry) : Call → Except Failure (String × Registry)
  | .header name => (r.header name).map fun (h, r') => (h.spelling, r')
  | .mediaType value => (r.mediaType value).map fun (m, r') => (m.spelling, r')

def after (r : Registry) (c : Call) : Registry :=
  match r.call c with
  | .ok (_, r') => r'
  | .error _ => r

def run (r : Registry) (cs : List Call) : Registry := cs.foldl after r

theorem run_append (r : Registry) (cs cs' : List Call) : r.run (cs ++ cs') = (r.run cs).run cs' :=
  List.foldl_append

end Registry

section Interned

variable {α : Type} {key : String → String} {make : String → α} {names : List String}
  {entries : List (String × α)}

/-- The entries of these names, each under its key: of the names with one key the first is
kept. -/
structure Interns (key : String → String) (make : String → α) (names : List String)
    (entries : List (String × α)) : Prop where
  lookup : ∀ k, entries.lookup k = (names.find? (key · == k)).map make
  keyed : ∀ e ∈ entries, ∃ n ∈ names, e = (key n, make n)
  nodup : (entries.map (·.1)).Nodup

theorem lookup_eq_none_iff_keys {k : String} :
    entries.lookup k = none ↔ k ∉ entries.map (·.1) := by
  rw [List.lookup_eq_none_iff, List.mem_map, not_exists]
  refine forall_congr' fun e => ?_
  rw [bne_iff_ne, not_and, ne_comm]

theorem lookup_singleton (k k' : String) (a : α) :
    [(k', a)].lookup k = if k == k' then some a else none := by
  rw [List.lookup_cons]
  cases k == k' <;> rfl

theorem Interns.of_nodup (distinct : (names.map key).Nodup) :
    Interns key make names (names.map fun n => (key n, make n)) where
  lookup k := by
    clear distinct
    induction names with
    | nil => rfl
    | cons n names ih =>
      rw [List.map_cons, List.lookup_cons, List.find?_cons, Bool.beq_comm]
      cases key n == k with
      | true => rfl
      | false => exact ih
  keyed e member := by
    obtain ⟨n, present, rfl⟩ := List.mem_map.mp member
    exact ⟨n, present, rfl⟩
  nodup := by simpa [List.map_map, Function.comp_def] using distinct

/-- One more name: it is kept only under a new key, and what is found is the first of its key. -/
theorem Interns.step (h : Interns key make names entries) (name : String) :
    Interns key make (names ++ [name]) (intern (key name) (make name) entries).2 ∧
      some (intern (key name) (make name) entries).1 =
        ((names ++ [name]).find? (key · == key name)).map make := by
  have found := h.lookup (key name)
  unfold intern
  cases kept : entries.lookup (key name) with
  | some a =>
    rw [kept] at found
    obtain ⟨first, isFirst, rfl⟩ := Option.map_eq_some_iff.mp found.symm
    refine ⟨⟨fun k => ?_, fun e member => ?_, h.nodup⟩, ?_⟩
    · rw [h.lookup k, List.find?_append]
      cases earlier : names.find? (key · == k) with
      | some n => rfl
      | none =>
        -- a name with this key would have been found among the earlier ones
        have other : (key name == k) = false := by
          rw [Bool.eq_false_iff]
          intro same
          rw [beq_iff_eq] at same
          rw [← same, isFirst] at earlier
          cases earlier
        simp [other]
    · obtain ⟨n, present, same⟩ := h.keyed e member
      exact ⟨n, List.mem_append_left _ present, same⟩
    · rw [List.find?_append, isFirst]
      rfl
  | none =>
    rw [kept] at found
    have unseen := Option.map_eq_none_iff.mp found.symm
    refine ⟨⟨fun k => ?_, fun e member => ?_, ?_⟩, ?_⟩
    · rw [List.lookup_append, h.lookup k, List.find?_append, lookup_singleton]
      cases names.find? (key · == k) with
      | some n => rfl
      | none =>
        rw [Bool.beq_comm]
        cases same : key name == k <;> simp [same]
    · rcases List.mem_append.mp member with old | new
      · obtain ⟨n, present, same⟩ := h.keyed e old
        exact ⟨n, List.mem_append_left _ present, same⟩
      · rw [List.mem_singleton.mp new]
        exact ⟨name, by simp, rfl⟩
    · rw [List.map_append, List.nodup_append]
      refine ⟨h.nodup, List.nodup_singleton _, ?_⟩
      rintro k old k' new rfl
      rw [List.map_singleton, List.mem_singleton] at new
      rw [new] at old
      exact lookup_eq_none_iff_keys.mp kept old
    · rw [List.find?_append, unseen]
      simp

theorem Interns.mem_keys (h : Interns key make names entries) {k : String} :
    k ∈ entries.map (·.1) ↔ ∃ n ∈ names, key n = k := by
  constructor
  · intro member
    obtain ⟨e, present, rfl⟩ := List.mem_map.mp member
    obtain ⟨n, named, rfl⟩ := h.keyed e present
    exact ⟨n, named, rfl⟩
  · rintro ⟨n, named, rfl⟩
    by_contra missing
    have unseen := lookup_eq_none_iff_keys.mpr missing
    rw [h.lookup, Option.map_eq_none_iff, List.find?_eq_none] at unseen
    exact unseen n named (beq_self_eq_true _)

theorem Interns.keys_perm {names' : List String} {entries' : List (String × α)}
    (h : Interns key make names entries) (h' : Interns key make names' entries')
    (order : names.Perm names') :
    (entries.map (·.1)).Perm (entries'.map (·.1)) := by
  rw [List.perm_ext_iff_of_nodup h.nodup h'.nodup]
  intro k
  rw [h.mem_keys, h'.mem_keys]
  simp only [order.mem_iff]

end Interned

theorem sameName_iff {a b : String} : sameName a b = true ↔ caseKey a = caseKey b := beq_iff_eq

theorem headerNames_concat (cs : List Call) (c : Call) :
    headerNames (cs ++ [c]) = headerNames cs ++ c.headerName?.toList := by
  rw [headerNames, List.filterMap_append, List.filterMap_cons]
  cases c.headerName? <;> rfl

theorem mediaValues_concat (cs : List Call) (c : Call) :
    mediaValues (cs ++ [c]) = mediaValues cs ++ c.mediaValue?.toList := by
  rw [mediaValues, List.filterMap_append, List.filterMap_cons]
  cases c.mediaValue? <;> rfl

namespace Registry

variable {r r' : Registry} {cs : List Call} {name value : String} {h : Header} {m : MediaType}

theorem header_of_blank (blank : isBlank name = true) :
    r.header name = .error (.invalidHeader name) :=
  if_pos blank

theorem header_of_written (written : isBlank name = false) :
    r.header name = .ok ((intern (caseKey name) ⟨name⟩ r.headers).1,
      { r with headers := (intern (caseKey name) ⟨name⟩ r.headers).2 }) :=
  if_neg (Bool.eq_false_iff.mp written)

theorem mediaType_of_blank (blank : isBlank value = true) :
    r.mediaType value = .error (.invalidMediaType value) :=
  if_pos blank

theorem mediaType_of_written (written : isBlank value = false) :
    r.mediaType value = .ok ((intern value ⟨value⟩ r.mediaTypes).1,
      { r with mediaTypes := (intern value ⟨value⟩ r.mediaTypes).2 }) :=
  if_neg (Bool.eq_false_iff.mp written)

theorem written_of_header (asked : r.header name = .ok (h, r')) : isBlank name = false := by
  cases blank : isBlank name with
  | false => rfl
  | true =>
    rw [header_of_blank blank] at asked
    cases asked

theorem written_of_mediaType (asked : r.mediaType value = .ok (m, r')) :
    isBlank value = false := by
  cases blank : isBlank value with
  | false => rfl
  | true =>
    rw [mediaType_of_blank blank] at asked
    cases asked

theorem call_error_iff {c : Call} :
    (∃ e, r.call c = .error e) ↔ isBlank c.argument = true := by
  cases c with
  | header name =>
    rw [Call.argument, call]
    cases blank : isBlank name with
    | true => simp [header_of_blank blank, Except.map]
    | false => simp [header_of_written blank, Except.map]
  | mediaType value =>
    rw [Call.argument, call]
    cases blank : isBlank value with
    | true => simp [mediaType_of_blank blank, Except.map]
    | false => simp [mediaType_of_written blank, Except.map]

theorem unregistered_of_blank {c : Call} (blank : isBlank c.argument = true) :
    c.headerName? = none ∧ c.mediaValue? = none := by
  cases c with
  | header name => exact ⟨if_pos blank, rfl⟩
  | mediaType value => exact ⟨rfl, if_pos blank⟩

theorem after_of_error {c : Call} {e : Failure} (refused : r.call c = .error e) :
    r.after c = r := by
  rw [after, refused]

theorem after_of_header (asked : r.header name = .ok (h, r')) : r.after (.header name) = r' := by
  rw [after, call, asked]
  rfl

theorem after_of_mediaType (asked : r.mediaType value = .ok (m, r')) :
    r.after (.mediaType value) = r' := by
  rw [after, call, asked]
  rfl

/-- The registry holds what is always registered and what these calls have asked for. -/
structure Holds (cs : List Call) (r : Registry) : Prop where
  headers : Interns caseKey Header.mk (knownNames ++ headerNames cs) r.headers
  mediaTypes : Interns id MediaType.mk (knownValues ++ mediaValues cs) r.mediaTypes

theorem holds_start : Holds [] {} where
  headers := Interns.of_nodup (by decide +kernel)
  mediaTypes := Interns.of_nodup (by decide +kernel)

/-- A call adds its argument to what is held, or nothing if it is refused. -/
theorem Holds.after (held : Holds cs r) (c : Call) : Holds (cs ++ [c]) (r.after c) := by
  cases blank : isBlank c.argument with
  | true =>
    obtain ⟨e, refused⟩ := call_error_iff.mpr blank
    obtain ⟨noName, noValue⟩ := unregistered_of_blank blank
    rw [after_of_error refused]
    exact ⟨by simpa [headerNames_concat, noName] using held.headers,
      by simpa [mediaValues_concat, noValue] using held.mediaTypes⟩
  | false =>
    cases c with
    | header name =>
      rw [Call.argument] at blank
      rw [after_of_header (header_of_written blank)]
      have kept := (held.headers.step name).1
      exact ⟨by simpa [headerNames_concat, Call.headerName?, blank] using kept,
        by simpa [mediaValues_concat, Call.mediaValue?] using held.mediaTypes⟩
    | mediaType value =>
      rw [Call.argument] at blank
      rw [after_of_mediaType (mediaType_of_written blank)]
      have kept := (held.mediaTypes.step value).1
      exact ⟨by simpa [headerNames_concat, Call.headerName?] using held.headers,
        by simpa [mediaValues_concat, Call.mediaValue?, blank] using kept⟩

theorem Holds.run (held : Holds cs r) (cs' : List Call) : Holds (cs ++ cs') (r.run cs') := by
  induction cs' generalizing cs r with
  | nil => simpa [Registry.run] using held
  | cons c cs' ih =>
    have next := ih (held.after c)
    rwa [List.append_assoc] at next

theorem holds_run (cs : List Call) : Holds cs (Registry.run {} cs) := holds_start.run cs

/-- The header of a name is the first that was asked for under its key, itself included. -/
theorem Holds.header (held : Holds cs r) (asked : r.header name = .ok (h, r')) :
    some h = ((knownNames ++ headerNames (cs ++ [.header name])).find? (sameName · name)).map
      Header.mk := by
  have written := written_of_header asked
  rw [header_of_written written] at asked
  obtain ⟨rfl, -⟩ := Prod.mk.inj (Except.ok.inj asked)
  have found := (held.headers.step name).2
  rw [found, headerNames_concat, ← List.append_assoc]
  simp [Call.headerName?, written, sameName]

theorem Holds.mediaType (held : Holds cs r) (asked : r.mediaType value = .ok (m, r')) :
    m.spelling = value := by
  have written := written_of_mediaType asked
  rw [mediaType_of_written written] at asked
  obtain ⟨rfl, -⟩ := Prod.mk.inj (Except.ok.inj asked)
  have found := (held.mediaTypes.step value).2
  obtain ⟨first, isFirst, same⟩ := Option.map_eq_some_iff.mp found.symm
  have keyed := List.find?_some isFirst
  rw [id, id, beq_iff_eq] at keyed
  rw [id] at same
  rw [← same, keyed]

theorem Holds.sameName_header (held : Holds cs r) (asked : r.header name = .ok (h, r')) :
    sameName h.spelling name = true := by
  obtain ⟨first, isFirst, rfl⟩ := Option.map_eq_some_iff.mp (held.header asked).symm
  have same := List.find?_some isFirst
  exact same

theorem Holds.header_known (held : Holds cs r) (asked : r.header name = .ok (h, r'))
    {known : String × Header} (always : known ∈ Header.wellKnown)
    (same : sameName known.2.spelling name = true) : h = known.2 := by
  have distinct : (knownNames.map caseKey).Nodup := by decide +kernel
  have member : known.2.spelling ∈ knownNames := List.mem_map_of_mem always
  have found : knownNames.find? (sameName · name) = some known.2.spelling := by
    cases first : knownNames.find? (sameName · name) with
    | none => exact absurd same (List.find?_eq_none.mp first _ member)
    | some n =>
      have sameFirst := List.find?_some first
      have keys : caseKey n = caseKey known.2.spelling :=
        (sameName_iff.mp sameFirst).trans (sameName_iff.mp same).symm
      rw [List.inj_on_of_nodup_map distinct (List.mem_of_find?_eq_some first) member keys]
  have kept := held.header asked
  rw [List.find?_append, found] at kept
  exact Option.some.inj kept

theorem Holds.header_custom (held : Holds cs r) (asked : r.header name = .ok (h, r'))
    (custom : ∀ known ∈ Header.wellKnown, ¬ sameName known.2.spelling name = true) :
    (headerNames (cs ++ [.header name])).find? (sameName · name) = some h.spelling := by
  have missed : knownNames.find? (sameName · name) = none := by
    rw [List.find?_eq_none]
    intro n member
    obtain ⟨known, always, rfl⟩ := List.mem_map.mp member
    exact custom known always
  have kept := held.header asked
  rw [List.find?_append, missed, Option.none_or] at kept
  obtain ⟨first, isFirst, rfl⟩ := Option.map_eq_some_iff.mp kept.symm
  exact isFirst

theorem header_eq_iff {later : List Call} {name' : String} {h' : Header} {s s' : Registry}
    (held : Holds cs r) (asked : r.header name = .ok (h, r'))
    (held' : Holds (cs ++ .header name :: later) s) (asked' : s.header name' = .ok (h', s')) :
    h = h' ↔ sameName name name' = true := by
  have same := sameName_iff.mp (held.sameName_header asked)
  have same' := sameName_iff.mp (held'.sameName_header asked')
  constructor
  · rintro rfl
    exact sameName_iff.mpr (same.symm.trans same')
  · intro names
    have keys := sameName_iff.mp names
    obtain ⟨first, isFirst, made⟩ := Option.map_eq_some_iff.mp (held.header asked).symm
    have kept := held'.header asked'
    -- what was found earlier is found first again
    have longer : headerNames (cs ++ .header name :: later ++ [.header name']) =
        headerNames (cs ++ [.header name]) ++ headerNames (later ++ [.header name']) := by
      rw [headerNames, headerNames, headerNames, ← List.filterMap_append]
      simp
    have test : (sameName · name') = (sameName · name) := by
      funext n
      rw [sameName, sameName, keys]
    rw [longer, test, ← List.append_assoc, List.find?_append, isFirst] at kept
    rw [← made]
    exact (Option.some.inj kept).symm

/-- A media type is its own key, so the registered ones do not depend on the order. -/
theorem mediaTypes_perm {cs' : List Call} {s : Registry} (held : Holds cs r) (held' : Holds cs' s)
    (order : cs.Perm cs') : r.mediaTypes.Perm s.mediaTypes := by
  have keys : (r.mediaTypes.map (·.1)).Perm (s.mediaTypes.map (·.1)) :=
    held.mediaTypes.keys_perm held'.mediaTypes
      ((order.filterMap Call.mediaValue?).append_left knownValues)
  have rebuilt {names : List String} {entries : List (String × MediaType)}
      (interned : Interns id MediaType.mk names entries) :
      entries = (entries.map (·.1)).map fun value => (value, ⟨value⟩) := by
    have same : ∀ e ∈ entries, (e.1, MediaType.mk e.1) = id e := by
      intro e member
      obtain ⟨n, -, rfl⟩ := interned.keyed e member
      rfl
    rw [List.map_map]
    exact ((List.map_congr_left same).trans (List.map_id entries)).symm
  rw [rebuilt held.mediaTypes, rebuilt held'.mediaTypes]
  exact keys.map _

/-- Over any run of calls: a call is refused just if its argument is blank, and then registers
nothing. A header name has the spelling that is always registered, else the one it was first
asked for with, and keeps it; a media type has its own. In another order the same header names
and media types are registered, and only the spelling of a header name that is not always
registered can differ. -/
theorem registered_over_runs (cs : List Call) :
    (∀ c, ((∃ e, (run {} cs).call c = .error e) ↔ ∀ ch ∈ c.argument.toList, isBlankChar ch) ∧
      ∀ e, (run {} cs).call c = .error e → run {} (cs ++ [c]) = run {} cs) ∧
    (∀ name h r, (run {} cs).header name = .ok (h, r) →
      (∀ known ∈ Header.wellKnown, sameName known.2.spelling name → h = known.2) ∧
      ((∀ known ∈ Header.wellKnown, ¬ sameName known.2.spelling name) →
        (headerNames (cs ++ [.header name])).find? (sameName · name) = some h.spelling) ∧
      ∀ later name' h' r', (run {} (cs ++ .header name :: later)).header name' = .ok (h', r') →
        (h = h' ↔ sameName name name')) ∧
    (∀ value m r, (run {} cs).mediaType value = .ok (m, r) →
      m.spelling = value ∧
      ∀ later value' m' r',
        (run {} (cs ++ .mediaType value :: later)).mediaType value' = .ok (m', r') →
        (m = m' ↔ value = value')) ∧
    ∀ cs', cs.Perm cs' →
      ((run {} cs).headers.map (·.1)).Perm ((run {} cs').headers.map (·.1)) ∧
      (run {} cs).mediaTypes.Perm (run {} cs').mediaTypes ∧
      ∀ name h r h' r', (run {} cs).header name = .ok (h, r) →
        (run {} cs').header name = .ok (h', r') →
        sameName h.spelling h'.spelling ∧
        (h = h' ∨ ∀ known ∈ Header.wellKnown, ¬ sameName known.2.spelling name) := by
  have held := holds_run cs
  refine ⟨fun c => ⟨?_, fun e refused => ?_⟩, fun name h r asked => ⟨?_, ?_, ?_⟩,
    fun value m r asked => ⟨held.mediaType asked, ?_⟩, fun cs' order => ⟨?_, ?_, ?_⟩⟩
  · rw [call_error_iff, isBlank, List.all_eq_true]
  · rw [run_append]
    exact after_of_error refused
  · intro known always same
    exact held.header_known asked always same
  · exact held.header_custom asked
  · intro later name' h' r' asked'
    exact header_eq_iff held asked (holds_run _) asked'
  · intro later value' m' r' asked'
    have spelled := held.mediaType asked
    have spelled' := (holds_run _).mediaType asked'
    rw [← spelled, ← spelled']
    exact ⟨congrArg MediaType.spelling, fun same => by cases m; cases m'; cases same; rfl⟩
  · exact held.headers.keys_perm (holds_run cs').headers
      ((order.filterMap Call.headerName?).append_left knownNames)
  · exact mediaTypes_perm held (holds_run cs') order
  · intro name h r h' r' asked asked'
    have same := sameName_iff.mp (held.sameName_header asked)
    have same' := sameName_iff.mp ((holds_run cs').sameName_header asked')
    refine ⟨sameName_iff.mpr (same.trans same'.symm), ?_⟩
    by_cases custom : ∀ known ∈ Header.wellKnown, ¬ sameName known.2.spelling name = true
    · exact .inr custom
    · push Not at custom
      obtain ⟨known, always, sameKnown⟩ := custom
      left
      rw [held.header_known asked always sameKnown,
        (holds_run cs').header_known asked' always sameKnown]

/-- A name of the program's own, in two spellings, and a refused name between them. -/
def traced : List Call := [.mediaType "text/csv", .header "X-Trace", .header " \u2003"]

theorem traced_keeps_first : ∃ h r, (run {} traced).header "x-trace" = .ok (h, r) ∧
    h.spelling = "X-Trace" := by
  obtain ⟨-, headers, -⟩ := registered_over_runs traced
  have asked : (run {} traced).header "x-trace" = .ok _ := header_of_written (by decide +kernel)
  have kept := (headers _ _ _ asked).2.1 (by decide +kernel)
  have first : (headerNames (traced ++ [.header "x-trace"])).find? (sameName · "x-trace") =
      some "X-Trace" := by decide +kernel
  rw [first] at kept
  exact ⟨_, _, asked, (Option.some.inj kept).symm⟩

end Registry

end EndpointRouting.Http
