import Mathlib.Data.Finset.Card
import EndpointRouting.Http.Step
import EndpointRouting.Proofs.Http.Interning

/-!
# Responses over whole runs

However a response is written, step after step, it is what the steps that were not refused have
written last: `responses_over_runs`. The registry plays no part in what a header is looked up as,
though it respells the name. A step is also carried out one write at a time, keeping what was
written before it gave up, and then too a step that gives up has written nothing.
-/

namespace EndpointRouting.Http
open Text

def Call.refusal : Call → Failure
  | header name => .invalidHeader name
  | mediaType value => .invalidMediaType value

namespace Step

/-- What a step asks the registry for. -/
def call? : Step → Option Call
  | register name | header name _ => some (.header name)
  | registerMediaType value | mediaType value | write value _ => some (.mediaType value)
  | _ => none

/-- A step is refused if it asks for a blank name or a blank media type. -/
def isRefused (x : Step) : Bool := x.call?.any (isBlank ·.argument)

def status? : Step → Option Status
  | status s | redirect s _ => some s
  | write .. | text _ | html _ | json _ => some .ok
  | notFound => some .notFound
  | unprocessableEntity => some .unprocessableEntity
  | notAuthorized => some .forbidden
  | methodNotAllowed => some .methodNotAllowed
  | _ => none

/-- The headers that a step writes, under the names that it is given. -/
def headers : Step → List (String × String)
  | header name value | rawHeader name value => [(name, value)]
  | mediaType value | write value _ => [("Content-Type", value)]
  | text _ => [("Content-Type", "text/plain")]
  | html _ => [("Content-Type", "text/html")]
  | json _ => [("Content-Type", "application/json")]
  | redirect _ location => [("Location", location), ("Connection", "close")]
  | _ => []

def body? : Step → Option String
  | rawBody body | write _ body | text body | html body | json body => some body
  | _ => none

end Step

def performed (steps : List Step) : List Step := steps.filter (!·.isRefused)

/-- The headers that have been written, in order. -/
def written (steps : List Step) : List (String × String) := (performed steps).flatMap Step.headers

/-- The last value under a name, in whatever ASCII case it was written. -/
def lastWritten? (ws : List (String × String)) (name : String) : Option String :=
  (ws.reverse.find? (sameName ·.1 name)).map (·.2)

/-! ### Headers written one after the other -/

def Fields.writeAll (fs : Fields) (ws : List (String × String)) : Fields :=
  ws.foldl (fun fs w => fs.set (caseKey w.1) w.2) fs

theorem get?_writeAll (fs : Fields) (ws : List (String × String)) (name : String) :
    (fs.writeAll ws).get? (caseKey name) = (lastWritten? ws name).or (fs.get? (caseKey name)) := by
  induction ws generalizing fs with
  | nil => rfl
  | cons w ws ih =>
    change ((fs.set (caseKey w.1) w.2).writeAll ws).get? _ = _
    rw [ih, Fields.get?_set]
    simp only [lastWritten?, List.reverse_cons, List.find?_append, List.find?_singleton]
    cases later : ws.reverse.find? (sameName ·.1 name) with
    | some last => simp
    | none =>
      by_cases same : caseKey name = caseKey w.1
      · simp [sameName, same]
      · have differs : sameName w.1 name = false := by simpa [sameName] using Ne.symm same
        simp [differs, same]

theorem names_writeAll (fs : Fields) (ws : List (String × String)) (key : String) :
    key ∈ (fs.writeAll ws).names ↔ key ∈ ws.map (caseKey ·.1) ∨ key ∈ fs.names := by
  induction ws generalizing fs with
  | nil => simp [Fields.writeAll]
  | cons w ws ih =>
    change key ∈ ((fs.set (caseKey w.1) w.2).writeAll ws).names ↔ _
    rw [ih, Fields.mem_names_set, List.map_cons, List.mem_cons, or_left_comm, or_assoc]

theorem nodup_names_writeAll {fs : Fields} (distinct : fs.names.Nodup)
    (ws : List (String × String)) : (fs.writeAll ws).names.Nodup := by
  induction ws generalizing fs with
  | nil => exact distinct
  | cons w ws ih => exact ih (Fields.nodup_names_set distinct _ _)

/-- As many headers as there are different names, up to ASCII case. -/
theorem size_writeAll (ws : List (String × String)) :
    (Fields.writeAll {} ws).size = (ws.map (caseKey ·.1)).toFinset.card := by
  have none_before : (Fields.names {}).Nodup := List.nodup_nil
  have distinct : (Fields.writeAll {} ws).names.Nodup := nodup_names_writeAll none_before ws
  have same : (Fields.writeAll {} ws).names.toFinset = (ws.map (caseKey ·.1)).toFinset := by
    ext key
    rw [List.mem_toFinset, List.mem_toFinset, names_writeAll]
    exact or_iff_left List.not_mem_nil
  rw [← same, List.toFinset_card_of_nodup distinct, Fields.names, List.length_map, Fields.size]

/-! ### One step -/

namespace Session

/-- The session after a step that is not refused. -/
def performedBy (x : Step) (s : Session) : Session where
  response := {
    status := x.status?.getD s.response.status
    headers := s.response.headers.writeAll x.headers
    body := x.body?.or s.response.body }
  registry := (x.call?.map s.registry.after).getD s.registry

variable {cs : List Call} {s : Session} {name value : String}

theorem setHeader_of_header {h : Header} {registry : Registry} (held : s.registry.Holds cs)
    (asked : s.registry.header name = .ok (h, registry)) (r : Response) :
    r.setHeader h value = { r with headers := r.headers.writeAll [(name, value)] } := by
  have same := sameName_iff.mp (held.sameName_header asked)
  simp [Response.setHeader, Response.setRawHeader, Fields.writeAll, same]

theorem setMediaType_of_mediaType {m : MediaType} {registry : Registry}
    (held : s.registry.Holds cs) (asked : s.registry.mediaType value = .ok (m, registry))
    (r : Response) :
    r.setMediaType m = { r with headers := r.headers.writeAll [("Content-Type", value)] } := by
  rw [Response.setMediaType, held.mediaType asked]
  rfl

theorem step_of_refused {x : Step} (refused : x.isRefused = true) :
    ∃ c, x.call? = some c ∧ isBlank c.argument = true ∧ s.step x = .error c.refusal := by
  cases x with
  | register name | header name _ =>
    have blank : isBlank name = true := refused
    exact ⟨.header name, rfl, blank, by rw [step, Registry.header_of_blank blank]; rfl⟩
  | registerMediaType value | mediaType value | write value _ =>
    have blank : isBlank value = true := refused
    exact ⟨.mediaType value, rfl, blank, by rw [step, Registry.mediaType_of_blank blank]; rfl⟩
  | _ => cases refused

theorem step_of_performed (held : s.registry.Holds cs) {x : Step} (performed : x.isRefused = false) :
    ∃ report, s.step x = .ok (report, performedBy x s) := by
  cases x with
  | register name =>
    have written : isBlank name = false := performed
    have asked := Registry.header_of_written (r := s.registry) written
    simp only [step, asked, performedBy, Step.call?, Option.map_some, Registry.after_of_header asked]
    exact ⟨_, rfl⟩
  | registerMediaType value =>
    have written : isBlank value = false := performed
    have asked := Registry.mediaType_of_written (r := s.registry) written
    simp only [step, asked, performedBy, Step.call?, Option.map_some,
      Registry.after_of_mediaType asked]
    exact ⟨_, rfl⟩
  | header name value =>
    have written : isBlank name = false := performed
    have asked := Registry.header_of_written (r := s.registry) written
    simp only [step, asked, performedBy, Step.call?, Option.map_some, Registry.after_of_header asked]
    refine ⟨none, ?_⟩
    change Except.ok (none, Session.mk (s.response.setHeader _ value) _) = _
    rw [setHeader_of_header held asked]
    rfl
  | mediaType value =>
    have written : isBlank value = false := performed
    have asked := Registry.mediaType_of_written (r := s.registry) written
    simp only [step, asked, performedBy, Step.call?, Option.map_some,
      Registry.after_of_mediaType asked]
    refine ⟨none, ?_⟩
    change Except.ok (none, Session.mk (s.response.setMediaType _) _) = _
    rw [setMediaType_of_mediaType held asked]
    rfl
  | write value body =>
    have written : isBlank value = false := performed
    have asked := Registry.mediaType_of_written (r := s.registry) written
    simp only [step, asked, performedBy, Step.call?, Option.map_some,
      Registry.after_of_mediaType asked]
    refine ⟨none, ?_⟩
    change Except.ok (none, Session.mk (((s.response.setStatus .ok).setMediaType _).setBody body) _) =
      _
    rw [setMediaType_of_mediaType held asked]
    rfl
  | _ => exact ⟨_, rfl⟩

theorem advance_of_refused {x : Step} (refused : x.isRefused = true) : s.advance x = s := by
  obtain ⟨c, -, -, stopped⟩ := step_of_refused (s := s) refused
  rw [advance, stopped]

theorem advance_of_performed (held : s.registry.Holds cs) {x : Step}
    (performed : x.isRefused = false) : s.advance x = performedBy x s := by
  obtain ⟨report, done⟩ := step_of_performed held performed
  rw [advance, done]

/-! ### Runs -/

theorem run_concat (s : Session) (steps : List Step) (x : Step) :
    s.run (steps ++ [x]) = (s.run steps).advance x := by
  rw [run, List.foldl_append]
  rfl

end Session

theorem performed_concat (steps : List Step) (x : Step) :
    performed (steps ++ [x]) = performed steps ++ if x.isRefused then [] else [x] := by
  cases refused : x.isRefused <;> simp [performed, refused]

theorem writeAll_append (fs : Fields) (ws ws' : List (String × String)) :
    fs.writeAll (ws ++ ws') = (fs.writeAll ws).writeAll ws' := List.foldl_append

/-- What a run leaves behind: of each part the last that was set, of the headers all that were
written, and in the registry all that was asked for. -/
def outcome (calls : List Call) (steps : List Step) : Session where
  response := {
    status := ((performed steps).filterMap Step.status?).getLast?.getD .ok
    headers := Fields.writeAll {} (written steps)
    body := ((performed steps).filterMap Step.body?).getLast? }
  registry := Registry.run {} (calls ++ steps.filterMap Step.call?)

variable {calls : List Call}

theorem holds_outcome (calls : List Call) (steps : List Step) :
    (outcome calls steps).registry.Holds (calls ++ steps.filterMap Step.call?) :=
  Registry.holds_run _

theorem outcome_of_refused {x : Step} (refused : x.isRefused = true) (steps : List Step) :
    outcome calls (steps ++ [x]) = outcome calls steps := by
  have same : performed (steps ++ [x]) = performed steps := by simp [performed_concat, refused]
  obtain ⟨c, asks, blank, -⟩ := Session.step_of_refused (s := {}) refused
  have kept : Registry.run {} (calls ++ (steps ++ [x]).filterMap Step.call?) =
      Registry.run {} (calls ++ steps.filterMap Step.call?) := by
    obtain ⟨e, stopped⟩ := Registry.call_error_iff.mpr blank
    have last : [x].filterMap Step.call? = [c] := by simp [asks]
    rw [List.filterMap_append, last, ← List.append_assoc, Registry.run_append]
    exact Registry.after_of_error stopped
  simp only [outcome, written, same, kept]

theorem outcome_of_performed {x : Step} (stays : x.isRefused = false) (steps : List Step) :
    outcome calls (steps ++ [x]) = Session.performedBy x (outcome calls steps) := by
  have same : performed (steps ++ [x]) = performed steps ++ [x] := by
    simp [performed_concat, stays]
  have last {α : Type} (f : Step → Option α) :
      ((performed steps ++ [x]).filterMap f).getLast? =
        (f x).or ((performed steps).filterMap f).getLast? := by
    cases here : f x <;> simp [here]
  have grown : Registry.run {} (calls ++ (steps ++ [x]).filterMap Step.call?) =
      (x.call?.map (Registry.run {} (calls ++ steps.filterMap Step.call?)).after).getD
        (Registry.run {} (calls ++ steps.filterMap Step.call?)) := by
    rw [List.filterMap_append, ← List.append_assoc, Registry.run_append]
    cases asks : x.call? with
    | none => simp [asks, Registry.run]
    | some c => simp [asks, Registry.run]
  have more : Fields.writeAll {} (written (steps ++ [x])) =
      (Fields.writeAll {} (written steps)).writeAll x.headers := by
    rw [← writeAll_append, written, same, List.flatMap_append, List.flatMap_singleton]
    rfl
  simp only [outcome, Session.performedBy, same, last, grown, more]
  cases x.status? <;> rfl

theorem run_eq_outcome (calls : List Call) (steps : List Step) :
    Session.run { registry := Registry.run {} calls } steps = outcome calls steps := by
  induction steps using List.reverseRecOn with
  | nil => simp [Session.run, outcome, performed, written, Fields.writeAll]
  | append_singleton steps x ih =>
    rw [Session.run_concat, ih]
    cases refused : x.isRefused with
    | true => rw [Session.advance_of_refused refused, outcome_of_refused refused]
    | false =>
      rw [Session.advance_of_performed (holds_outcome calls steps) refused,
        outcome_of_performed refused]

/-! ### One write at a time -/

/-- A computation on a session that may give up. What it has done by then is kept. -/
abbrev Effect := ExceptT Failure (StateM Session)

namespace Effect

def respond (f : Response → Response) : Effect Unit :=
  modify fun s => { s with response := f s.response }

def header (name : String) : Effect Header := do
  if isBlank name then
    throw (.invalidHeader name)
  let (h, headers) := intern (caseKey name) ⟨name⟩ (← get).registry.headers
  modify fun s => { s with registry := { s.registry with headers } }
  return h

def mediaType (value : String) : Effect MediaType := do
  if isBlank value then
    throw (.invalidMediaType value)
  let (m, mediaTypes) := intern value ⟨value⟩ (← get).registry.mediaTypes
  modify fun s => { s with registry := { s.registry with mediaTypes } }
  return m

def setHeader (h : Header) (value : String) : Effect Unit := respond (·.setRawHeader h.spelling value)

def setMediaType (m : MediaType) : Effect Unit := setHeader .contentType m.spelling

def redirect (s : Status) (location : String) : Effect Unit := do
  respond (·.setStatus s)
  setHeader .location location
  setHeader .connection "close"

def write (m : MediaType) (body : String) : Effect Unit := do
  respond (·.setStatus .ok)
  setMediaType m
  respond (·.setBody body)

def perform : Step → Effect (Option String)
  | .status code => do respond (·.setStatus code); return none
  | .register name => do return some (← header name).spelling
  | .registerMediaType value => do return some (← mediaType value).spelling
  | .header name value => do setHeader (← header name) value; return none
  | .rawHeader name value => do respond (·.setRawHeader name value); return none
  | .rawBody body => do respond (·.setBody body); return none
  | .mediaType value => do setMediaType (← mediaType value); return none
  | .write value body => do write (← mediaType value) body; return none
  | .text body => do write .text body; return none
  | .html body => do write .html body; return none
  | .json body => do write .json body; return none
  | .notFound => do respond (·.setStatus .notFound); return none
  | .unprocessableEntity => do respond (·.setStatus .unprocessableEntity); return none
  | .notAuthorized => do respond (·.setStatus .forbidden); return none
  | .methodNotAllowed => do respond (·.setStatus .methodNotAllowed); return none
  | .redirect code location => do redirect code location; return none
  | .lookUp name => do return (← get).response.header? name

end Effect

/-- A step carried out one write at a time: how it ended, and the session as it was left. -/
def Session.stepwise (s : Session) (x : Step) : Except Failure (Option String) × Session :=
  (Effect.perform x).run.run s

/-- Written one by one or at once, the outcome is the same, and giving up leaves nothing. -/
theorem stepwise_eq (s : Session) (x : Step) :
    s.stepwise x = match s.step x with
      | .ok (report, next) => (.ok report, next)
      | .error e => (.error e, s) := by
  cases x with
  | register name | header name _ =>
    cases blank : isBlank name with
    | true =>
      simp only [Session.step, Registry.header_of_blank blank, Session.stepwise, Effect.perform,
        Effect.header, blank, if_true]
      rfl
    | false =>
      simp only [Session.step, Registry.header_of_written blank, Session.stepwise, Effect.perform,
        Effect.header, blank, Bool.false_eq_true, if_false]
      rfl
  | registerMediaType value | mediaType value | write value _ =>
    cases blank : isBlank value with
    | true =>
      simp only [Session.step, Registry.mediaType_of_blank blank, Session.stepwise, Effect.perform,
        Effect.mediaType, blank, if_true]
      rfl
    | false =>
      simp only [Session.step, Registry.mediaType_of_written blank, Session.stepwise,
        Effect.perform, Effect.mediaType, blank, Bool.false_eq_true, if_false]
      rfl
  | _ => rfl

theorem stepwise_error {s next : Session} {x : Step} {e : Failure}
    (stopped : s.stepwise x = (.error e, next)) : next = s ∧ s.advance x = s := by
  rw [stepwise_eq] at stopped
  cases done : s.step x with
  | ok _ =>
    rw [done] at stopped
    cases stopped
  | error _ =>
    rw [done] at stopped
    cases stopped
    exact ⟨rfl, by rw [Session.advance, done]⟩

theorem stepwise_ok {s next : Session} {x : Step} {report : Option String}
    (ended : s.stepwise x = (.ok report, next)) : s.advance x = next := by
  rw [stepwise_eq] at ended
  cases done : s.step x with
  | ok _ =>
    rw [done] at ended
    cases ended
    rw [Session.advance, done]
  | error _ =>
    rw [done] at ended
    cases ended

/-! ### Whole runs -/

/-- A step touches only the parts that it sets. -/
structure Session.Keeps (x : Step) (s next : Session) : Prop where
  status : x.status? = none → next.response.status = s.response.status
  headers : x.headers = [] → next.response.headers = s.response.headers
  others : ∀ name, (∀ w ∈ x.headers, ¬ sameName w.1 name) →
    next.response.header? name = s.response.header? name
  body : x.body? = none → next.response.body = s.response.body
  registry : x.call? = none → next.registry = s.registry

theorem lastWritten?_eq_none_iff {ws : List (String × String)} {name : String} :
    lastWritten? ws name = none ↔ ∀ w ∈ ws, ¬ sameName w.1 name := by
  simp [lastWritten?]

theorem keeps_performedBy (x : Step) (s : Session) : Session.Keeps x s (s.performedBy x) where
  status nothing := by simp [Session.performedBy, nothing]
  headers nothing := by simp [Session.performedBy, nothing, Fields.writeAll]
  others name apart := by
    change (s.response.headers.writeAll x.headers).get? (caseKey name) = _
    rw [get?_writeAll, lastWritten?_eq_none_iff.mpr apart]
    rfl
  body nothing := by simp [Session.performedBy, nothing]
  registry nothing := by simp [Session.performedBy, nothing]

theorem keeps_advance {cs : List Call} {s : Session} (held : s.registry.Holds cs) (x : Step) :
    Session.Keeps x s (s.advance x) := by
  cases refused : x.isRefused with
  | true =>
    rw [Session.advance_of_refused refused]
    exact ⟨fun _ => rfl, fun _ => rfl, fun _ _ => rfl, fun _ => rfl, fun _ => rfl⟩
  | false =>
    rw [Session.advance_of_performed held refused]
    exact keeps_performedBy x s

theorem step_error_iff {cs : List Call} {s : Session} (held : s.registry.Holds cs) {x : Step} :
    (∃ e, s.step x = .error e) ↔ ∃ c, x.call? = some c ∧ isBlank c.argument := by
  constructor
  · rintro ⟨e, stopped⟩
    cases refused : x.isRefused with
    | true =>
      obtain ⟨c, asks, blank, -⟩ := Session.step_of_refused (s := s) refused
      exact ⟨c, asks, blank⟩
    | false =>
      obtain ⟨report, done⟩ := Session.step_of_performed held refused
      rw [done] at stopped
      cases stopped
  · rintro ⟨c, asks, blank⟩
    have refused : x.isRefused = true := by simp [Step.isRefused, asks, blank]
    obtain ⟨_, -, -, stopped⟩ := Session.step_of_refused (s := s) refused
    exact ⟨_, stopped⟩

/-- After any run of steps, whatever was registered before it: a step is refused just if it asks
for a blank name or media type, and leaves all as it was, also when it is carried out one write at
a time. A header has the value that was written last under its name, in whatever ASCII case, and
there are as many headers as different names were written. Status and body are the last that were
set, and the registry is what was asked for. A step touches only what it sets. -/
theorem responses_over_runs (calls : List Call) (steps : List Step) :
    let s := Session.run { registry := Registry.run {} calls } steps
    (∀ x, ((∃ e, s.step x = .error e) ↔ ∃ c, x.call? = some c ∧ isBlank c.argument) ∧
      (∀ e next, s.stepwise x = (.error e, next) → next = s ∧ s.advance x = s) ∧
      (∀ report next, s.stepwise x = (.ok report, next) → s.advance x = next) ∧
      Session.Keeps x s (s.advance x)) ∧
    (∀ name, s.response.header? name = lastWritten? (written steps) name ∧
      s.step (.lookUp name) = .ok (lastWritten? (written steps) name, s) ∧
      (s.response.header? name = none ↔ ∀ w ∈ written steps, ¬ sameName w.1 name)) ∧
    s.response.headerCount = ((written steps).map (caseKey ·.1)).toFinset.card ∧
    s.response.status = ((performed steps).filterMap Step.status?).getLast?.getD .ok ∧
    s.response.body = ((performed steps).filterMap Step.body?).getLast? ∧
    s.registry = Registry.run {} (calls ++ steps.filterMap Step.call?) := by
  intro s
  have closed : s = outcome calls steps := run_eq_outcome calls steps
  have held : s.registry.Holds (calls ++ steps.filterMap Step.call?) := by
    rw [closed]
    exact holds_outcome calls steps
  have looked (name : String) : s.response.header? name = lastWritten? (written steps) name := by
    rw [closed]
    change (Fields.writeAll {} (written steps)).get? (caseKey name) = _
    rw [get?_writeAll, Fields.get?_empty, Option.or_none]
  refine ⟨fun x => ⟨step_error_iff held, ?_, ?_, keeps_advance held x⟩,
    fun name => ⟨looked name, ?_, ?_⟩, ?_, ?_, ?_, ?_⟩
  · intro e next stopped
    exact stepwise_error stopped
  · intro report next ended
    exact stepwise_ok ended
  · rw [← looked]
    rfl
  · rw [looked, lastWritten?_eq_none_iff]
  · rw [closed]
    exact size_writeAll (written steps)
  · rw [closed]
    rfl
  · rw [closed]
    rfl
  · rw [closed]
    rfl

/-- A name of the program's own in two spellings, a refused step, and a redirect over a write. -/
def rewritten : List Step :=
  [.header "X-Trace" "1", .write "text/csv" "a,b", .header "  " "2", .header "x-trace" "3",
    .rawHeader "LOCATION" "/a", .redirect .seeOther "/b"]

theorem responses_over_runs_rewritten :
    (Session.run {} rewritten).response.header? "X-TRACE" = some "3" ∧
    (Session.run {} rewritten).response.header? "Location" = some "/b" ∧
    (Session.run {} rewritten).response.headerCount = 4 ∧
    (Session.run {} rewritten).response.status = .seeOther ∧
    (Session.run {} rewritten).response.body = some "a,b" ∧
    (Session.run {} rewritten).advance (.write " " "c") = Session.run {} rewritten := by
  obtain ⟨steps, looked, count, status, body, -⟩ := responses_over_runs [] rewritten
  obtain ⟨refused, kept, -, -⟩ := steps (.write " " "c")
  obtain ⟨e, stopped⟩ := refused.mpr ⟨.mediaType " ", rfl, by decide +kernel⟩
  refine ⟨?_, ?_, ?_, ?_, ?_, ?_⟩
  · rw [← show lastWritten? (written rewritten) "X-TRACE" = some "3" by decide +kernel]
    exact (looked _).1
  · rw [← show lastWritten? (written rewritten) "Location" = some "/b" by decide +kernel]
    exact (looked _).1
  · rw [← show ((written rewritten).map (caseKey ·.1)).toFinset.card = 4 by decide +kernel]
    exact count
  · exact status
  · exact body
  · exact (kept e _ (by rw [stepwise_eq, stopped])).2

end EndpointRouting.Http
