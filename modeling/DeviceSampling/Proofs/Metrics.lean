/-
# Metrics as a mapping

`Metrics` keeps its entries in a list.  Here it is read as a mapping: its keys are those that a
lookup finds, no key comes twice, and a union looks into its second part first.

* `mem_keys_iff`: the keys are those with a value;
* `nodup_keys_insert`, `nodup_keys_merge`, `nodup_keys_unionAll`: no key comes twice;
* `get?_merge`: what a lookup finds in a union of two;
* `merge_insert`: a write to the second part of a union is a write to the union;
* `get?_unionAll`: **what a lookup finds in a union of many;**
* `unionAll_of_disjoint`: **a union of mappings that share no key is all of their entries.**
-/
import Mathlib.Data.List.Nodup
import DeviceSampling.Report.Metrics

namespace DeviceSampling
namespace Metrics

theorem lookup_cons_eq (key : String) (e : String × String) (rest : List (String × String)) :
    (e :: rest).lookup key = if key = e.1 then some e.2 else rest.lookup key := by
  obtain ⟨k, v⟩ := e
  rw [List.lookup_cons]
  by_cases h : key = k
  · rw [beq_iff_eq.2 h, if_pos h]
  · rw [beq_false_of_ne h, if_neg h]

theorem mem_keys_iff {m : Metrics} {key : String} :
    key ∈ m.keys ↔ ∃ value, m.get? key = some value := by
  unfold keys get?
  induction m.entries with
  | nil =>
    constructor
    · intro h
      exact absurd h List.not_mem_nil
    · rintro ⟨value, h⟩
      cases h
  | cons e rest ih =>
    rw [List.map_cons, List.mem_cons, ih]
    by_cases h : key = e.1
    · rw [lookup_cons_eq, if_pos h]
      exact iff_of_true (Or.inl h) ⟨e.2, rfl⟩
    · rw [lookup_cons_eq, if_neg h]
      exact or_iff_right h

theorem keys_insertEntry (key value : String) : ∀ entries : List (String × String),
    (insertEntry key value entries).map Prod.fst =
      if key ∈ entries.map Prod.fst then entries.map Prod.fst else entries.map Prod.fst ++ [key]
  | [] => rfl
  | (k, v) :: rest => by
    have ih := keys_insertEntry key value rest
    unfold insertEntry
    by_cases h : key = k
    · rw [if_pos (beq_iff_eq.2 h), if_pos (by rw [h]; exact List.mem_cons_self)]
      rfl
    · have hm : key ∈ k :: rest.map Prod.fst ↔ key ∈ rest.map Prod.fst :=
        List.mem_cons.trans (or_iff_right h)
      rw [if_neg (by rw [beq_iff_eq]; exact h), List.map_cons, ih, List.map_cons]
      by_cases hr : key ∈ rest.map Prod.fst
      · rw [if_pos hr, if_pos (hm.2 hr)]
      · rw [if_neg hr, if_neg (mt hm.1 hr)]
        rfl

/-- A write makes no key come twice. -/
theorem nodup_keys_insert {m : Metrics} (h : m.keys.Nodup) (key value : String) :
    (m.insert key value).keys.Nodup := by
  unfold keys insert
  rw [keys_insertEntry]
  split
  · exact h
  · next hk =>
    refine List.nodup_append.2 ⟨h, List.pairwise_singleton _ key, fun a ha b hb => ?_⟩
    rw [List.mem_singleton.1 hb]
    rintro rfl
    exact hk ha

/-- A union makes no key come twice. -/
theorem nodup_keys_merge {m n : Metrics} (h : m.keys.Nodup) : (m.merge n).keys.Nodup := by
  unfold merge
  induction n.entries generalizing m with
  | nil => exact h
  | cons e rest ih => exact ih (nodup_keys_insert h e.1 e.2)

/-- **A lookup in a union** finds the second value of a key, if it has one, and else the
first. -/
theorem get?_merge {m n : Metrics} (h : n.keys.Nodup) (key : String) :
    (m.merge n).get? key = (n.get? key).or (m.get? key) := by
  obtain ⟨entries⟩ := n
  unfold merge
  induction entries generalizing m with
  | nil => rfl
  | cons e rest ih =>
    obtain ⟨hnot, hrest⟩ := List.nodup_cons.1 h
    rw [List.foldl_cons, ih hrest, get?_insert]
    by_cases hk : key = e.1
    · -- the rest has no value of its own that could come after this one
      have hr : get? ⟨rest⟩ key = none := by
        rw [Option.eq_none_iff_forall_ne_some]
        intro value hv
        exact hnot (hk ▸ mem_keys_iff.2 ⟨value, hv⟩)
      rw [hr, if_pos hk]
      unfold get?
      rw [lookup_cons_eq, if_pos hk]
      rfl
    · rw [if_neg hk]
      unfold get?
      rw [lookup_cons_eq, if_neg hk]

/-! A write to the second part of a union. -/

theorem insert_insert (m : Metrics) (key value value' : String) :
    (m.insert key value).insert key value' = m.insert key value' := by
  obtain ⟨entries⟩ := m
  refine congrArg Metrics.mk ?_
  show insertEntry key value' (insertEntry key value entries) = insertEntry key value' entries
  induction entries with
  | nil => simp [insertEntry]
  | cons e rest ih =>
    obtain ⟨k, v⟩ := e
    by_cases hk : key = k
    · simp [insertEntry, hk]
    · simp [insertEntry, hk, ih]

/-- Writes under two keys can change places, if the mapping has the first of them already. -/
theorem insert_comm {m : Metrics} {key : String} (hm : key ∈ m.keys) (value : String)
    {key' : String} (hne : key ≠ key') (value' : String) :
    (m.insert key value).insert key' value' = (m.insert key' value').insert key value := by
  obtain ⟨entries⟩ := m
  refine congrArg Metrics.mk ?_
  show insertEntry key' value' (insertEntry key value entries) =
    insertEntry key value (insertEntry key' value' entries)
  change key ∈ entries.map Prod.fst at hm
  induction entries with
  | nil => exact absurd hm List.not_mem_nil
  | cons e rest ih =>
    obtain ⟨k, v⟩ := e
    rcases List.mem_cons.1 hm with rfl | hrest
    · simp [insertEntry, Ne.symm hne]
    · by_cases hk : key = k
      · simp [insertEntry, hk, hk ▸ Ne.symm hne]
      · by_cases hk' : key' = k
        · simp [insertEntry, hk, hk']
        · simp [insertEntry, hk, hk', ih hrest]

theorem mem_keys_insert {m : Metrics} {key key' value : String} :
    key ∈ (m.insert key' value).keys ↔ key = key' ∨ key ∈ m.keys := by
  rw [mem_keys_iff, mem_keys_iff]
  simp only [get?_insert]
  by_cases h : key = key'
  · simp [h]
  · simp [h]

/-- A write under a key that comes no more can be made after those that come. -/
theorem foldl_insert {key : String} (value : String) {entries : List (String × String)}
    (hnot : key ∉ entries.map Prod.fst) {m : Metrics} (hm : key ∈ m.keys) :
    entries.foldl (fun acc e => acc.insert e.1 e.2) (m.insert key value) =
      (entries.foldl (fun acc e => acc.insert e.1 e.2) m).insert key value := by
  induction entries generalizing m with
  | nil => rfl
  | cons e rest ih =>
    obtain ⟨hne, hrest⟩ := not_or.1 (mt List.mem_cons.2 hnot)
    rw [List.foldl_cons, List.foldl_cons, insert_comm hm value hne e.2,
      ih hrest (mem_keys_insert.2 (Or.inr hm))]

/-- **A write to the second part of a union** is a write to the union. -/
theorem merge_insert {m n : Metrics} (h : n.keys.Nodup) (key value : String) :
    m.merge (n.insert key value) = (m.merge n).insert key value := by
  obtain ⟨entries⟩ := n
  show (insertEntry key value entries).foldl (fun acc e => acc.insert e.1 e.2) m =
    (entries.foldl (fun acc e => acc.insert e.1 e.2) m).insert key value
  induction entries generalizing m with
  | nil => rfl
  | cons e rest ih =>
    obtain ⟨hfresh, hrest⟩ := List.nodup_cons.1 h
    unfold insertEntry
    by_cases hk : key = e.1
    · subst hk
      have hkey : e.1 ∈ (m.insert e.1 e.2).keys := mem_keys_insert.2 (Or.inl rfl)
      rw [if_pos (beq_self_eq_true _), List.foldl_cons, List.foldl_cons,
        ← foldl_insert value hfresh hkey, insert_insert]
    · rw [if_neg (by simpa using hk), List.foldl_cons, List.foldl_cons, ih hrest]

/-! Unions of many. -/

/-- The union of mappings, from left to right. -/
def unionAll (parts : List Metrics) : Metrics := parts.foldl merge {}

/-- A union of many makes no key come twice. -/
theorem nodup_keys_unionAll (parts : List Metrics) : (unionAll parts).keys.Nodup := by
  suffices hall : ∀ acc : Metrics, acc.keys.Nodup → (parts.foldl merge acc).keys.Nodup by
    exact hall {} List.nodup_nil
  induction parts with
  | nil => exact fun acc h => h
  | cons m rest ih => exact fun acc h => ih _ (nodup_keys_merge h)

/-- **A lookup in a union of many** finds what the last of them with the key has. -/
theorem get?_unionAll {parts : List Metrics} (h : ∀ m ∈ parts, m.keys.Nodup) (key : String) :
    (unionAll parts).get? key = parts.reverse.findSome? (·.get? key) := by
  suffices hall : ∀ acc : Metrics, (parts.foldl merge acc).get? key =
      (parts.reverse.findSome? (·.get? key)).or (acc.get? key) by
    rw [unionAll, hall]
    exact Option.or_none
  induction parts with
  | nil => exact fun acc => rfl
  | cons m rest ih =>
    intro acc
    have hrest := ih (fun n hn => h n (List.mem_cons_of_mem _ hn)) (acc.merge m)
    rw [List.foldl_cons, hrest, get?_merge (h m List.mem_cons_self), List.reverse_cons,
      List.findSome?_append, List.findSome?_singleton, Option.or_assoc]

/-! Mappings without a common key lose nothing in a union. -/

/-- With no key twice, a lookup finds an entry. -/
theorem get?_eq_some_iff {m : Metrics} (h : m.keys.Nodup) {key value : String} :
    m.get? key = some value ↔ (key, value) ∈ m.entries := by
  obtain ⟨entries⟩ := m
  unfold get?
  induction entries with
  | nil => simp
  | cons e rest ih =>
    obtain ⟨hfresh, hrest⟩ := List.nodup_cons.1 h
    rw [lookup_cons_eq, List.mem_cons]
    by_cases hk : key = e.1
    · have hno : (key, value) ∉ rest := fun hm => hfresh (hk ▸ List.mem_map_of_mem hm)
      rw [if_pos hk, or_iff_left hno, hk, Option.some.injEq, Prod.ext_iff]
      simp [eq_comm]
    · have hne : (key, value) ≠ e := fun he => hk (congrArg Prod.fst he)
      rw [if_neg hk, or_iff_right hne, ih hrest]

/-- Mappings with the same entries in another order have the same values. -/
theorem get?_of_perm {m m' : Metrics} (hm : m.keys.Nodup)
    (hp : m.entries.Perm m'.entries) (key : String) : m.get? key = m'.get? key := by
  have hm' : m'.keys.Nodup := (hp.map Prod.fst).nodup_iff.1 hm
  refine Option.ext fun value => ?_
  rw [get?_eq_some_iff hm, get?_eq_some_iff hm', hp.mem_iff]

theorem insertEntry_of_not_mem {key : String} (value : String) :
    ∀ {entries : List (String × String)}, key ∉ entries.map Prod.fst →
      insertEntry key value entries = entries ++ [(key, value)]
  | [], _ => rfl
  | (k, v) :: rest, h => by
    obtain ⟨hk, hrest⟩ := not_or.1 (mt List.mem_cons.2 h)
    rw [insertEntry, if_neg (by simpa using hk), insertEntry_of_not_mem value hrest]
    rfl

theorem keys_append {m n r : Metrics} (h : r.entries = m.entries ++ n.entries) :
    r.keys = m.keys ++ n.keys := by
  simp [keys, h]

/-- **A union of two mappings that share no key** is the entries of both, in order. -/
theorem merge_of_disjoint {m n : Metrics} (hn : n.keys.Nodup) (h : List.Disjoint m.keys n.keys) :
    (m.merge n).entries = m.entries ++ n.entries := by
  obtain ⟨entries⟩ := n
  unfold merge
  induction entries generalizing m with
  | nil => simp
  | cons e rest ih =>
    obtain ⟨hfresh, hrest⟩ := List.nodup_cons.1 hn
    have hnew : e.1 ∉ m.keys := fun hm => h hm List.mem_cons_self
    have hinsert : (m.insert e.1 e.2).entries = m.entries ++ [e] := insertEntry_of_not_mem e.2 hnew
    have hdisjoint : List.Disjoint (m.insert e.1 e.2).keys (keys ⟨rest⟩) := by
      intro key hkey hr
      rw [keys_append (n := ⟨[e]⟩) hinsert] at hkey
      rcases List.mem_append.1 hkey with hm | he
      · exact h hm (List.mem_cons_of_mem _ hr)
      · exact hfresh (List.mem_singleton.1 he ▸ hr)
    rw [List.foldl_cons, ih hrest hdisjoint, hinsert, List.append_assoc]
    rfl

/-- **A union of mappings that share no key is all of their entries,** in order. -/
theorem unionAll_of_disjoint {parts : List Metrics} (hn : ∀ m ∈ parts, m.keys.Nodup)
    (h : parts.Pairwise fun m n => List.Disjoint m.keys n.keys) :
    (unionAll parts).entries = parts.flatMap entries := by
  suffices hall : ∀ acc : Metrics, (∀ m ∈ parts, List.Disjoint acc.keys m.keys) →
      (parts.foldl merge acc).entries = acc.entries ++ parts.flatMap entries by
    exact hall {} fun m _ => List.disjoint_nil_left _
  induction parts with
  | nil => exact fun acc _ => (List.append_nil _).symm
  | cons m rest ih =>
    intro acc hacc
    obtain ⟨hm, hrest⟩ := List.pairwise_cons.1 h
    have hmerge := merge_of_disjoint (hn m List.mem_cons_self) (hacc m List.mem_cons_self)
    have hdisjoint : ∀ n ∈ rest, List.Disjoint (acc.merge m).keys n.keys := by
      intro n hmem key hkey hkn
      rw [keys_append hmerge] at hkey
      rcases List.mem_append.1 hkey with hk | hk
      · exact hacc n (List.mem_cons_of_mem _ hmem) hk hkn
      · exact hm n hmem hk hkn
    rw [List.foldl_cons, ih (fun n hmem => hn n (List.mem_cons_of_mem _ hmem)) hrest _ hdisjoint,
      hmerge, List.flatMap_cons, List.append_assoc]

/-- The keys of such a union are those of its parts, none of them twice. -/
theorem keys_unionAll_of_disjoint {parts : List Metrics} (hn : ∀ m ∈ parts, m.keys.Nodup)
    (h : parts.Pairwise fun m n => List.Disjoint m.keys n.keys) :
    (unionAll parts).keys = parts.flatMap keys ∧ (unionAll parts).keys.Nodup := by
  have hkeys : (unionAll parts).keys = parts.flatMap keys := by
    unfold keys
    rw [unionAll_of_disjoint hn h, List.map_flatMap]
  refine ⟨hkeys, ?_⟩
  rw [hkeys, List.nodup_flatMap]
  exact ⟨hn, h⟩

/-- **A lookup in such a union** finds what the part with the key has. -/
theorem get?_unionAll_of_disjoint {parts : List Metrics} (hn : ∀ m ∈ parts, m.keys.Nodup)
    (h : parts.Pairwise fun m n => List.Disjoint m.keys n.keys) {m : Metrics} (hm : m ∈ parts)
    {key : String} (hkey : key ∈ m.keys) : (unionAll parts).get? key = m.get? key := by
  obtain ⟨value, hv⟩ := mem_keys_iff.1 hkey
  have hentry : (key, value) ∈ (unionAll parts).entries := by
    rw [unionAll_of_disjoint hn h]
    exact List.mem_flatMap.2 ⟨m, hm, (get?_eq_some_iff (hn m hm)).1 hv⟩
  rw [hv, get?_eq_some_iff (keys_unionAll_of_disjoint hn h).2]
  exact hentry

end Metrics
end DeviceSampling
