/-!
# Named fields

Text values under names, at most one under each, in the order in which the names first came.
-/

namespace EndpointRouting.Http

/-- Values under names. -/
structure Fields where
  entries : List (String × String) := []
  deriving DecidableEq, Repr

namespace Fields

/-- Puts a value under a name, in place of the one that was there. -/
def put (name value : String) : List (String × String) → List (String × String)
  | [] => [(name, value)]
  | (n, v) :: rest => if n = name then (n, value) :: rest else (n, v) :: put name value rest

def get? (fs : Fields) (name : String) : Option String := fs.entries.lookup name

def set (fs : Fields) (name value : String) : Fields := ⟨put name value fs.entries⟩

def names (fs : Fields) : List String := fs.entries.map (·.1)

def size (fs : Fields) : Nat := fs.entries.length

@[simp] theorem get?_empty (name : String) : get? {} name = none := rfl

theorem lookup_put (name value other : String) (es : List (String × String)) :
    (put name value es).lookup other = if other = name then some value else es.lookup other := by
  induction es with
  | nil => by_cases h : other = name <;> simp [put, h]
  | cons e es ih =>
    obtain ⟨n, v⟩ := e
    by_cases h : n = name
    · subst h
      by_cases h' : other = n
      · simp [put, h']
      · have : (other == n) = false := by simpa using h'
        simp [put, List.lookup_cons, this, h']
    · by_cases h' : other = n
      · subst h'
        simp [put, h]
      · have : (other == n) = false := by simpa using h'
        simp [put, h, List.lookup_cons, this, ih]

theorem get?_set (fs : Fields) (name value other : String) :
    (fs.set name value).get? other = if other = name then some value else fs.get? other :=
  lookup_put name value other fs.entries

theorem mem_names_set (fs : Fields) (name value n : String) :
    n ∈ (fs.set name value).names ↔ n = name ∨ n ∈ fs.names := by
  obtain ⟨es⟩ := fs
  simp only [names, set]
  induction es with
  | nil => simp [put]
  | cons e es ih =>
    obtain ⟨m, v⟩ := e
    by_cases h : m = name
    · subst h
      simp [put]
    · simp only [put, h, if_false, List.map_cons, List.mem_cons, ih]
      exact or_left_comm

theorem nodup_names_set {fs : Fields} (h : fs.names.Nodup) (name value : String) :
    (fs.set name value).names.Nodup := by
  obtain ⟨es⟩ := fs
  induction es with
  | nil => simp [set, put, names]
  | cons e es ih =>
    obtain ⟨m, v⟩ := e
    obtain ⟨fresh, rest⟩ := List.nodup_cons.1 h
    by_cases eq : m = name
    · subst eq
      rw [show (set ⟨(m, v) :: es⟩ m value).names = (m, v).1 :: es.map (·.1) by
        simp [set, put, names]]
      exact List.nodup_cons.2 ⟨fresh, rest⟩
    · have absent : m ∉ (set ⟨es⟩ name value).names := by
        rw [mem_names_set]
        rintro (same | member)
        · exact eq same
        · exact fresh member
      rw [show (set ⟨(m, v) :: es⟩ name value).names = m :: (set ⟨es⟩ name value).names by
        simp [set, put, eq, names]]
      exact List.nodup_cons.2 ⟨absent, ih rest⟩

end Fields

end EndpointRouting.Http
