/-
# What a key tells

A key joins its names with dashes, and the names may hold dashes themselves, so a key can be read
in more than one way: `a-b-c` is the total of `a-b` for the process `c`, and the share of the
symbol `c` in the event `a` for the process `b`.  A key tells its event and its symbol if the
process has no dash and is none of the pieces of the event.  Where several processes are about, it
tells the process too, if the event is apart from all of them.

* `pieces`: the pieces of a name between dashes;
* `Apart`: an event that can be told from the process;
* `metricKey_inj`: **a key with such an event is read in one way;**
* `ApartFromAll`, `metricKey_inj_of_mem`: **and so are the keys of several processes.**
-/
import DeviceSampling.Report.Metrics

namespace DeviceSampling

/-! ## 1. Pieces -/

/-- The pieces of a name between its dashes. -/
def pieces (name : String) : List (List Char) := name.toList.splitOn '-'

theorem pieces_inj {a b : String} (h : pieces a = pieces b) : a = b := by
  have hjoin := congrArg (List.intercalate ['-']) h
  unfold pieces at hjoin
  rw [List.intercalate_splitOn, List.intercalate_splitOn] at hjoin
  exact String.toList_inj.1 hjoin

theorem pieces_ne_nil (name : String) : pieces name ≠ [] := List.splitOn_ne_nil _ _

/-- The pieces of names with a dash between them are those of both. -/
theorem pieces_join (a b : String) : pieces (a ++ "-" ++ b) = pieces a ++ pieces b := by
  have hlist : (a ++ "-" ++ b).toList = a.toList ++ '-' :: b.toList := by
    rw [String.toList_append, String.toList_append, List.append_assoc]
    rfl
  unfold pieces
  rw [hlist, List.splitOn_append_cons_self]

/-- A name without a dash is one piece. -/
theorem pieces_of_not_mem {name : String} (h : '-' ∉ name.toList) : pieces name = [name.toList] :=
  List.splitOn_eq_singleton h

/-! ## 2. Keys -/

/-- **An event apart from the process:** the process is none of its pieces. -/
def Apart (process event : String) : Prop := process.toList ∉ pieces event

instance (process event : String) : Decidable (Apart process event) :=
  inferInstanceAs (Decidable (_ ∉ _))

/-- The pieces after those of the process. -/
def symbolPieces : Option String → List (List Char)
  | none => []
  | some symbol => pieces symbol

theorem symbolPieces_inj {a b : Option String} (h : symbolPieces a = symbolPieces b) : a = b := by
  match a, b with
  | none, none => rfl
  | none, some b => exact absurd h.symm (pieces_ne_nil b)
  | some a, none => exact absurd h (pieces_ne_nil a)
  | some a, some b => exact congrArg some (pieces_inj h)

theorem pieces_metricKey {process : String} (hp : '-' ∉ process.toList) (event : String)
    (symbol : Option String) :
    pieces (metricKey event process symbol) =
      pieces event ++ process.toList :: symbolPieces symbol := by
  cases symbol with
  | none =>
    rw [metricKey, pieces_join, pieces_of_not_mem hp]
    rfl
  | some symbol =>
    rw [metricKey, pieces_join, pieces_join, pieces_of_not_mem hp, List.append_assoc]
    rfl

/-! ## 3. Keys of several processes -/

/-- **An event that can be told from several processes:** it is apart from all of them, or it has no
name. -/
def ApartFromAll (processes : List String) (event : String) : Prop :=
  event = "" ∨ ∀ process ∈ processes, Apart process event

/-- The first member with a property parts a list in one way. -/
theorem parts_eq_of_first {α : Type} {P : α → Prop} {a a' b b' : List α} {x x' : α}
    (ha : ∀ y ∈ a, ¬ P y) (hx : P x) (ha' : ∀ y ∈ a', ¬ P y) (hx' : P x')
    (h : a ++ x :: b = a' ++ x' :: b') : a = a' ∧ x = x' ∧ b = b' := by
  induction a generalizing a' with
  | nil =>
    cases a' with
    | nil => simpa using h
    | cons y a' =>
      obtain ⟨rfl, -⟩ := List.cons.inj h
      exact absurd hx (ha' x List.mem_cons_self)
  | cons y a ih =>
    cases a' with
    | nil =>
      obtain ⟨rfl, -⟩ := List.cons.inj h
      exact absurd hx' (ha y List.mem_cons_self)
    | cons y' a' =>
      obtain ⟨rfl, hrest⟩ := List.cons.inj h
      obtain ⟨rfl, rfl, rfl⟩ := ih (fun z hz => ha z (List.mem_cons_of_mem _ hz))
        (fun z hz => ha' z (List.mem_cons_of_mem _ hz)) hrest
      exact ⟨rfl, rfl, rfl⟩

section Processes

variable {processes : List String} {process process' event event' : String}
variable {symbol symbol' : Option String}

/-- If a list of pieces with those of an event in front starts with an empty piece, then so does the
event, and no process that the event is apart from is without a name. -/
theorem apart_empty_of_pieces {rest rest' : List (List Char)}
    (ha : ∀ p ∈ processes, Apart p event) (h : pieces "" ++ rest = pieces event ++ rest') :
    ∀ p ∈ processes, Apart p "" := by
  intro p hp hm
  obtain ⟨c, cs, hc⟩ := List.exists_cons_of_ne_nil (pieces_ne_nil event)
  rw [hc] at h
  obtain ⟨hempty, -⟩ := List.cons.inj h
  refine ha p hp ?_
  rw [hc, List.mem_singleton.1 hm, hempty]
  exact List.mem_cons_self

/-- **The keys of several processes tell the event, the process and the symbol:** the process is
the first piece that is one of them. -/
theorem metricKey_inj_of_mem (hdash : ∀ p ∈ processes, '-' ∉ p.toList) (hp : process ∈ processes)
    (hp' : process' ∈ processes) (he : ApartFromAll processes event)
    (he' : ApartFromAll processes event')
    (h : metricKey event process symbol = metricKey event' process' symbol') :
    event = event' ∧ process = process' ∧ symbol = symbol' := by
  have hpieces := congrArg pieces h
  rw [pieces_metricKey (hdash _ hp), pieces_metricKey (hdash _ hp')] at hpieces
  have happart : (∀ p ∈ processes, Apart p event) → (∀ p ∈ processes, Apart p event') →
      event = event' ∧ process = process' ∧ symbol = symbol' := by
    intro ha ha'
    obtain ⟨hev, hpr, hsy⟩ := parts_eq_of_first (P := fun y => ∃ p ∈ processes, p.toList = y)
      (fun y hy ⟨p, hp, heq⟩ => ha p hp (heq ▸ hy)) ⟨process, hp, rfl⟩
      (fun y hy ⟨p, hp, heq⟩ => ha' p hp (heq ▸ hy)) ⟨process', hp', rfl⟩ hpieces
    exact ⟨pieces_inj hev, String.toList_inj.1 hpr, symbolPieces_inj hsy⟩
  rcases he with rfl | ha <;> rcases he' with rfl | ha'
  · obtain ⟨hpr, hsy⟩ := List.cons.inj (List.append_cancel_left hpieces)
    exact ⟨rfl, String.toList_inj.1 hpr, symbolPieces_inj hsy⟩
  · exact happart (apart_empty_of_pieces ha' hpieces) ha'
  · exact happart ha (apart_empty_of_pieces ha hpieces.symm)
  · exact happart ha ha'

/-- **A key tells its event and its symbol:** the process is the first of its pieces that is equal
to it. -/
theorem metricKey_inj (hp : '-' ∉ process.toList) (he : Apart process event)
    (he' : Apart process event')
    (h : metricKey event process symbol = metricKey event' process symbol') :
    event = event' ∧ symbol = symbol' := by
  have hall : ∀ {e}, Apart process e → ApartFromAll [process] e := by
    intro e ha
    exact Or.inr fun p hmem => List.mem_singleton.1 hmem ▸ ha
  obtain ⟨hevent, -, hsymbol⟩ := metricKey_inj_of_mem
    (fun p (hmem : p ∈ [process]) => List.mem_singleton.1 hmem ▸ hp) List.mem_cons_self
    List.mem_cons_self (hall he) (hall he') h
  exact ⟨hevent, hsymbol⟩

end Processes

/-- Without such a condition two figures may share a key. -/
example : metricKey "cycles" "sf" (some "sf") = metricKey "cycles-sf" "sf" none := by decide

end DeviceSampling
