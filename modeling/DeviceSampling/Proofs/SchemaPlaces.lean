/-
# Violations, place by place

A schema is a tree, and a check goes down the tree and the value together.  Told from the places of
the schema, that is: for each place in order, take the value at its path, and if there is one, list
what is wrong with it at this place alone.  So a violation is found at one place for one reason, and
which ones there are can be read off the list of places.

* `Schema.places`: the places of a schema with their paths; `Value.at?`: the value at a path;
* `violations_eq`: **the violations are those of the places,** one after the other;
* `nodup_violations`: no constraint of a place is reported twice.
-/
import Mathlib.Data.List.Nodup
import DeviceSampling.Config.Schema

namespace DeviceSampling

/-! ## 1. Places -/

/-- The value at a path of names, if there is one. -/
def Value.at? : List String → Value → Option Value
  | [], v => some v
  | name :: path, v => (v.entries?.bind (Value.lookup name)).bind (Value.at? path)

namespace Schema

mutual

/-- The places of a schema: the schema itself, and the places under its names. -/
def places : Schema → List (List String × Schema)
  | field constraints => [([], field constraints)]
  | object fields => ([], object fields) :: fieldPlaces fields

/-- The places under names. -/
def fieldPlaces : List (String × Schema) → List (List String × Schema)
  | [] => []
  | (name, schema) :: rest => (places schema).map (fun q => (name :: q.1, q.2)) ++ fieldPlaces rest

end

/-- What is wrong with a value at its own place. -/
def violationsHere (path : List String) (v : Value) : Schema → List Violation
  | field constraints =>
    (constraints.filter fun c => !c.holds v).map fun c => ⟨path, .broken c v⟩
  | object fields =>
    match v.entries? with
    | none => [⟨path, .broken (.kinds [.object]) v⟩]
    | some entries =>
      let unknown := unknownNames (fields.map Prod.fst) entries
      if unknown.isEmpty then [] else [⟨path, .unknown unknown⟩]

/-- What is wrong at a place, if there is a value at it. -/
def violationsAt (path : List String) (v : Value) (place : List String × Schema) :
    List Violation :=
  (v.at? place.1).toList.flatMap fun w => violationsHere (path ++ place.1) w place.2

end Schema

/-! ## 2. The violations are those of the places -/

namespace Schema

variable {v : Value}

@[simp] theorem violationsAt_here (path : List String) (v : Value) (s : Schema) :
    violationsAt path v ([], s) = violationsHere path v s := by
  simp [violationsAt, Value.at?]

/-- The places under names have nothing at them if there are no names. -/
theorem violationsAt_of_no_entries (path : List String) (h : v.entries? = none) :
    ∀ fields : List (String × Schema),
      (fieldPlaces fields).flatMap (violationsAt path v) = []
  | [] => rfl
  | (name, s) :: rest => by
    have ih := violationsAt_of_no_entries path h rest
    simp [fieldPlaces, List.flatMap_map, violationsAt, Value.at?, h] at ih ⊢
    exact ih

mutual

/-- **The violations of a value are those of the places of its schema,** in order. -/
theorem violations_eq (path : List String) (v : Value) :
    ∀ s : Schema, s.violations path v = s.places.flatMap (violationsAt path v)
  | field constraints => by simp [violations, places, violationsHere]
  | object fields => by
    rw [violations, places, List.flatMap_cons, violationsAt_here, violationsHere]
    match h : v.entries? with
    | none => rw [violationsAt_of_no_entries path h, List.append_nil]
    | some entries => exact congrArg _ (fieldViolations_eq path v entries h fields)

theorem fieldViolations_eq (path : List String) (v : Value) (entries : List (Value × Value))
    (h : v.entries? = some entries) : ∀ fields : List (String × Schema),
      fieldViolations path entries fields = (fieldPlaces fields).flatMap (violationsAt path v)
  | [] => rfl
  | (name, s) :: rest => by
    have hunder : ∀ q, violationsAt path v (name :: q.1, q.2) =
        ((Value.lookup name entries).toList.flatMap fun w =>
          violationsAt (path ++ [name]) w q) := by
      intro q
      cases hl : Value.lookup name entries with
      | none => simp [violationsAt, Value.at?, h, hl]
      | some w => simp [violationsAt, Value.at?, h, hl]
    rw [fieldViolations, fieldPlaces, List.flatMap_append, List.flatMap_map,
      fieldViolations_eq path v entries h rest]
    congr 1
    simp only [hunder]
    cases Value.lookup name entries with
    | none => simp
    | some w => simp [violations_eq]

end

/-- A violation is found at one place. -/
theorem mem_violations {s : Schema} {x : Violation} :
    x ∈ s.violations [] v ↔
      ∃ q ∈ s.places, ∃ w, v.at? q.1 = some w ∧ x ∈ violationsHere q.1 w q.2 := by
  simp [violations_eq, violationsAt]

theorem mem_violationsHere_field {path : List String} {constraints : List Constraint}
    {x : Violation} :
    x ∈ violationsHere path v (.field constraints) ↔
      ∃ c ∈ constraints, c.holds v = false ∧ x = ⟨path, .broken c v⟩ := by
  rw [violationsHere, List.mem_map]
  constructor
  · rintro ⟨c, hc, rfl⟩
    rw [List.mem_filter, Bool.not_eq_true'] at hc
    exact ⟨c, hc.1, hc.2, rfl⟩
  · rintro ⟨c, hc, hbroken, rfl⟩
    exact ⟨c, List.mem_filter.2 ⟨hc, by rw [hbroken]; rfl⟩, rfl⟩

theorem mem_violationsHere_object {path : List String} {fields : List (String × Schema)}
    {x : Violation} :
    x ∈ violationsHere path v (.object fields) ↔
      (v.entries? = none ∧ x = ⟨path, .broken (.kinds [.object]) v⟩) ∨
        ∃ entries, v.entries? = some entries ∧ unknownNames (fields.map Prod.fst) entries ≠ [] ∧
          x = ⟨path, .unknown (unknownNames (fields.map Prod.fst) entries)⟩ := by
  rw [violationsHere]
  cases v.entries? with
  | none => simp
  | some entries =>
    by_cases hu : unknownNames (fields.map Prod.fst) entries = []
    · simp [hu]
    · simp [hu]

end Schema

/-! ## 3. No constraint is reported twice -/

/-- The constraint that is broken; none if names are unknown. -/
def Problem.constraint? : Problem → Option Constraint
  | .broken c _ => some c
  | .unknown _ => none

/-- What a violation is about: its place, and the constraint of it. -/
def Violation.about (x : Violation) : List String × Option Constraint :=
  (x.path, x.problem.constraint?)

namespace Schema

theorem path_of_mem_violationsHere {path : List String} {w : Value} {s : Schema} {x : Violation}
    (h : x ∈ violationsHere path w s) : x.path = path := by
  cases s with
  | field constraints =>
    obtain ⟨c, -, -, rfl⟩ := mem_violationsHere_field.1 h
    rfl
  | object fields =>
    rcases mem_violationsHere_object.1 h with ⟨-, rfl⟩ | ⟨entries, -, -, rfl⟩
    · rfl
    · rfl

/-- The constraints of a field come once each. -/
def OnceEach : Schema → Prop
  | field constraints => constraints.Nodup
  | object _ => True

instance : DecidablePred OnceEach
  | field constraints => inferInstanceAs (Decidable constraints.Nodup)
  | object _ => inferInstanceAs (Decidable True)

theorem nodup_violationsHere {s : Schema} (h : s.OnceEach) (path : List String) (w : Value) :
    ((violationsHere path w s).map Violation.about).Nodup := by
  cases s with
  | field constraints =>
    have hinj : Function.Injective fun c : Constraint => (path, some c) := by
      intro c d hcd
      simpa using hcd
    rw [violationsHere, List.map_map]
    exact (List.Nodup.filter _ h).map hinj
  | object fields =>
    rw [violationsHere]
    cases w.entries? with
    | none => simp
    | some entries =>
      dsimp only
      split
      · simp
      · simp

/-- **No constraint of a place is reported twice,** if the places have different paths. -/
theorem nodup_violations {s : Schema} (hpaths : (s.places.map Prod.fst).Nodup)
    (honce : ∀ q ∈ s.places, q.2.OnceEach) (v : Value) :
    ((s.violations [] v).map Violation.about).Nodup := by
  have hpath : ∀ q : List String × Schema, ∀ a ∈ (violationsAt [] v q).map Violation.about,
      a.1 = q.1 := by
    intro q a ha
    obtain ⟨x, hx, rfl⟩ := List.mem_map.1 ha
    obtain ⟨w, -, hx⟩ := List.mem_flatMap.1 hx
    exact path_of_mem_violationsHere hx
  rw [violations_eq, List.map_flatMap, List.nodup_flatMap]
  constructor
  · intro q hq
    unfold violationsAt
    cases v.at? q.1 with
    | none => simp
    | some w => simpa using nodup_violationsHere (honce q hq) q.1 w
  · refine (List.pairwise_map.1 hpaths).imp fun {q q'} hne a ha ha' => ?_
    exact hne ((hpath q a ha).symm.trans (hpath q' a ha'))

end Schema
end DeviceSampling
