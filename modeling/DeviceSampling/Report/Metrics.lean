/-
# Metrics

The figures gathered from a report, as text by key.  A key names an event and a process, and a
symbol where the figure is the symbol's share of the event.

* `metricKey` joins the names;
* `Metrics` keeps one value per key, in the order in which the keys first came;
* `get?_insert` says what a lookup finds after a write.
-/
namespace DeviceSampling

/-! ## 1. Keys -/

/-- The key of an event's total for a process, or of a symbol's share of it. -/
def metricKey (event process : String) (symbol : Option String) : String :=
  match symbol with
  | none => event ++ "-" ++ process
  | some s => event ++ "-" ++ process ++ "-" ++ s

/-! ## 2. The mapping -/

/-- A mapping from keys to values, both text. -/
structure Metrics where
  entries : List (String × String) := []
  deriving DecidableEq, Repr

namespace Metrics

/-- No figures. -/
def empty : Metrics := ⟨[]⟩

/-- The value under a key. -/
def get? (m : Metrics) (key : String) : Option String := m.entries.lookup key

/-- The keys, in order. -/
def keys (m : Metrics) : List String := m.entries.map Prod.fst

/-- Writes in place, or at the end if the key is new. -/
def insertEntry (key value : String) : List (String × String) → List (String × String)
  | [] => [(key, value)]
  | (k, v) :: rest => if key == k then (k, value) :: rest else (k, v) :: insertEntry key value rest

/-- The mapping with a value written under a key. -/
def insert (m : Metrics) (key value : String) : Metrics := ⟨insertEntry key value m.entries⟩

/-- The union of two mappings; where both have a key, the second has the say. -/
def merge (m n : Metrics) : Metrics := n.entries.foldl (fun acc e => acc.insert e.1 e.2) m

/-! ## 3. Lookups -/

@[simp] theorem get?_empty (key : String) : empty.get? key = none := rfl

theorem lookup_insertEntry (key value k : String) : ∀ entries : List (String × String),
    (insertEntry key value entries).lookup k = if k = key then some value else entries.lookup k
  | [] => by
    by_cases h : k = key
    · simp [insertEntry, h]
    · have : (k == key) = false := by simpa using h
      simp [insertEntry, List.lookup_cons, h, this]
  | (k', v') :: rest => by
    have ih := lookup_insertEntry key value k rest
    by_cases hk : key = k'
    · subst hk
      by_cases h : k = key
      · simp [insertEntry, h]
      · have : (k == key) = false := by simpa using h
        simp [insertEntry, List.lookup_cons, h, this]
    · have hne : (key == k') = false := by simpa using hk
      by_cases h : k = k'
      · subst h
        have : ¬ k = key := fun e => hk e.symm
        simp [insertEntry, hne, this]
      · have h' : (k == k') = false := by simpa using h
        simp [insertEntry, hne, List.lookup_cons, h', ih]

/-- **A write is found under its own key,** and all other keys keep their values. -/
theorem get?_insert (m : Metrics) (key value k : String) :
    (m.insert key value).get? k = if k = key then some value else m.get? k :=
  lookup_insertEntry key value k m.entries

end Metrics
end DeviceSampling
