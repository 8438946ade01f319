/-
# Mappings that leave fields out

A configuration can be written out in full, as a mapping with two sections.  Of that mapping any keys
may be left out whose values are those of the defaults: single fields, numbers of a policy, policies
and sections.  The other keys may come in any order, in each mapping.  What is read is the same
configuration.

* `Config.toValue`: the full mapping of a configuration;
* `Omits`: a value without the keys at some paths, in any order; `Omits.at?`: **what is at a path of it;**
* `Omits.no_mistake`: no mistake comes from leaving keys out;
* `Omits.read`: a field that is left out is read as its default;
* `ofEntries_omitting`: **a configuration is read from each such mapping.**
-/
import Mathlib.Data.List.Nodup
import Mathlib.Data.Option.Basic
import Mathlib.Data.Set.Basic
import DeviceSampling.Proofs.ConfigReading

namespace DeviceSampling

/-! ## 1. The full mapping -/

/-- A number as a value. -/
def Quantity.toValue : Quantity → Value
  | .int n => .int n
  | .double x => .double x

/-- A policy in full. -/
def PollingPolicy.toValue (p : PollingPolicy) : Value :=
  .mapping [(.text "max_retries", .int p.maxRetries), (.text "delay_s", .double p.delay)]

/-- The section on the bridge in full. -/
def AdbConfig.toValue (adb : AdbConfig) : Value :=
  .mapping [(.text "adb_path", .text adb.adbPath),
    (.text "serial", (adb.serial.map Value.text).getD .null),
    (.text "timeout_s", adb.timeout.toValue)]

/-- The section on the sampler in full. -/
def SamplerConfig.toValue (sampler : SamplerConfig) : Value :=
  .mapping [(.text "binary", .text sampler.binary),
    (.text "tmp_output_path", .text sampler.recordPath),
    (.text "record_timeout_s", (sampler.recordTimeout.map Quantity.toValue).getD .null),
    (.text "start_wait", sampler.startWait.toValue),
    (.text "stop_wait", sampler.stopWait.toValue)]

/-- **A configuration in full.** -/
def Config.toValue (c : Config) : Value :=
  .mapping [(.text "adb", c.adb.toValue), (.text "simpleperf", c.sampler.toValue)]

/-! ## 2. Leaving keys out -/

/-- The keys of each mapping are distinct. -/
inductive DistinctKeys : Value → Prop
  | leaf {v} : v.entries? = none → DistinctKeys v
  | mapping {es} : (es.map Prod.fst).Nodup → (∀ e ∈ es, DistinctKeys e.2) →
      DistinctKeys (.mapping es)

mutual

/-- **A value without the keys at some paths,** in any order.  The value itself is at the path
`base`. -/
inductive Omits (dropped : Set (List String)) : List String → Value → Value → Prop
  | leaf {base v} : v.entries? = none → Omits dropped base v v
  | mapping {base es kept es'} : OmitsFrom dropped base es kept → kept.Perm es' →
      Omits dropped base (.mapping es) (.mapping es')

/-- Entries without the keys at some paths, in their order. -/
inductive OmitsFrom (dropped : Set (List String)) :
    List String → List (Value × Value) → List (Value × Value) → Prop
  | nil {base} : OmitsFrom dropped base [] []
  | drop {base name v es kept} : base ++ [name] ∈ dropped → OmitsFrom dropped base es kept →
      OmitsFrom dropped base ((.text name, v) :: es) kept
  | keep {base name v w es kept} : base ++ [name] ∉ dropped → Omits dropped (base ++ [name]) v w →
      OmitsFrom dropped base es kept →
      OmitsFrom dropped base ((.text name, v) :: es) ((.text name, w) :: kept)

end

namespace Value

/-- What is at a path in two parts is what is at the second part of what is at the first. -/
theorem at?_append (v : Value) (p q : List String) : v.at? (p ++ q) = (v.at? p).bind (at? q) := by
  induction p generalizing v with
  | nil => rfl
  | cons name p ih => simp only [List.cons_append, at?, Option.bind_assoc, ih]

/-- An entry under a key that comes once is what is found under it. -/
theorem lookup_of_mem {name : String} {v : Value} {es : List (Value × Value)}
    (hkeys : (es.map Prod.fst).Nodup) (h : (text name, v) ∈ es) : lookup name es = some v := by
  induction es with
  | nil => cases h
  | cons e rest ih =>
    obtain ⟨hnew, hrest⟩ := List.nodup_cons.1 hkeys
    rcases List.mem_cons.1 h with rfl | hmem
    · simp [lookup]
    · obtain ⟨key, w⟩ := e
      have hne : key ≠ text name := fun hk => hnew (List.mem_map.2 ⟨_, hmem, hk.symm⟩)
      cases key with
      | text k =>
        rw [lookup, if_neg fun hk => hne (congrArg text hk)]
        exact ih hrest hmem
      | _ => exact ih hrest hmem

/-- **The order of distinct keys does not count.** -/
theorem lookup_of_perm {name : String} {es es' : List (Value × Value)}
    (hkeys : (es.map Prod.fst).Nodup) (h : es.Perm es') : lookup name es' = lookup name es := by
  have hkeys' : (es'.map Prod.fst).Nodup := (h.map Prod.fst).nodup_iff.1 hkeys
  ext v
  exact ⟨fun hv => lookup_of_mem hkeys (h.mem_iff.2 (mem_of_lookup hv)),
    fun hv => lookup_of_mem hkeys' (h.mem_iff.1 (mem_of_lookup hv))⟩

end Value

section Omissions

variable {dropped : Set (List String)} {base : List String}

/-- The keys that are kept are some of the keys. -/
theorem OmitsFrom.keys_sublist {es kept : List (Value × Value)} (h : OmitsFrom dropped base es kept) :
    (kept.map Prod.fst).Sublist (es.map Prod.fst) := by
  induction es generalizing kept with
  | nil =>
    cases h
    exact List.Sublist.refl []
  | cons e rest ih =>
    cases h with
    | drop _ hrest => exact (ih hrest).cons _
    | keep _ _ hrest => exact (ih hrest).cons_cons _

/-- Nothing is found under a key that is left out. -/
theorem OmitsFrom.lookup_dropped {es kept : List (Value × Value)} {name : String}
    (h : OmitsFrom dropped base es kept) (hname : base ++ [name] ∈ dropped) :
    Value.lookup name kept = none := by
  induction es generalizing kept with
  | nil =>
    cases h
    rfl
  | cons e rest ih =>
    cases h with
    | drop _ hrest => exact ih hrest
    | @keep _ key _ _ _ _ hkey _ hrest =>
      rw [Value.lookup, if_neg (by rintro rfl; exact hkey hname)]
      exact ih hrest

/-- Under a key that is kept the value is found without what is left out of it. -/
theorem OmitsFrom.lookup_kept {es kept : List (Value × Value)} {name : String}
    (h : OmitsFrom dropped base es kept) (hname : base ++ [name] ∉ dropped) :
    Option.Rel (Omits dropped (base ++ [name])) (Value.lookup name es)
      (Value.lookup name kept) := by
  induction es generalizing kept with
  | nil =>
    cases h
    exact .none
  | cons e rest ih =>
    cases h with
    | @drop _ key _ _ _ hkey hrest =>
      rw [Value.lookup, if_neg (by rintro rfl; exact hname hkey)]
      exact ih hrest
    | @keep _ key _ _ _ _ _ hv hrest =>
      rw [Value.lookup, Value.lookup]
      by_cases hk : key = name
      · subst hk
        rw [if_pos rfl, if_pos rfl]
        exact .some hv
      · rw [if_neg hk, if_neg hk]
        exact ih hrest

/-- What stands under a key of distinct keys has distinct keys. -/
theorem DistinctKeys.of_lookup {es : List (Value × Value)} {name : String} {v : Value}
    (h : DistinctKeys (.mapping es)) (hv : Value.lookup name es = some v) : DistinctKeys v := by
  cases h with
  | leaf hnone => cases hnone
  | mapping _ hall => exact hall _ (Value.mem_of_lookup hv)

/-- **What is at a path of a value without some keys:** nothing, if a key on the way is left out, and
else what was there before, without what is left out of it. -/
theorem Omits.at? {v w : Value} (h : Omits dropped base v w) (hv : DistinctKeys v)
    (path : List String) :
    (w.at? path = none ∧ ∃ front, front <+: path ∧ base ++ front ∈ dropped) ∨
      Option.Rel (Omits dropped (base ++ path)) (v.at? path) (w.at? path) := by
  induction path generalizing base v w with
  | nil =>
    rw [List.append_nil]
    exact Or.inr (.some h)
  | cons name path ih =>
    cases h with
    | leaf hnone =>
      have hat : v.at? (name :: path) = none := by rw [Value.at?, hnone]; rfl
      rw [hat]
      exact Or.inr .none
    | @mapping _ es kept es' hfrom hperm =>
      have hkeys : (kept.map Prod.fst).Nodup := by
        cases hv with
        | leaf hnone => cases hnone
        | mapping hkeys _ => exact hkeys.sublist hfrom.keys_sublist
      have hat : ∀ l : List (Value × Value),
          (Value.mapping l).at? (name :: path) = (Value.lookup name l).bind (Value.at? path) :=
        fun l => rfl
      rw [hat, hat, Value.lookup_of_perm hkeys hperm]
      -- the first key of the path is left out, or the rest of the path is looked up below it
      by_cases hname : base ++ [name] ∈ dropped
      · rw [hfrom.lookup_dropped hname]
        exact Or.inl ⟨rfl, [name], ⟨path, rfl⟩, hname⟩
      · have hrel := hfrom.lookup_kept hname
        generalize hes : Value.lookup name es = found at hrel ⊢
        generalize Value.lookup name kept = left at hrel ⊢
        cases hrel with
        | none => exact Or.inr .none
        | some hxy =>
          rcases ih hxy (hv.of_lookup hes) with ⟨hnone, front, hfront, hmem⟩ | hrest
          · rw [List.append_assoc] at hmem
            exact Or.inl ⟨hnone, name :: front, (List.prefix_cons_inj name).2 hfront, hmem⟩
          · rw [List.append_assoc] at hrest
            exact Or.inr hrest

/-- What is at a path of a value without some keys was there before, without what is left out of it. -/
theorem Omits.exists_at? {v w y : Value} (h : Omits dropped base v w) (hv : DistinctKeys v)
    {path : List String} (hy : w.at? path = some y) :
    ∃ x, v.at? path = some x ∧ Omits dropped (base ++ path) x y := by
  rcases h.at? hv path with ⟨hnone, -⟩ | hrel
  · rw [hy] at hnone
    cases hnone
  · rw [hy] at hrel
    generalize v.at? path = found at hrel ⊢
    cases hrel with
    | some hxy => exact ⟨_, rfl, hxy⟩

/-! ## 3. No mistake comes from it -/

/-- No constraint looks into a mapping. -/
theorem broken_mapping_iff (c : Constraint) (es es' : List (Value × Value)) :
    c.Broken (.mapping es) ↔ c.Broken (.mapping es') := by
  have hkind : ∀ k : Kind, k.Is (.mapping es) ↔ k.Is (.mapping es') := by
    intro k
    cases k <;> simp [Kind.Is, Value.entries?]
  cases c with
  | kinds allowed => exact forall₂_congr fun k _ => not_congr (hkind k)
  | nonEmpty => simp [Constraint.Broken]
  | notNegative => simp [Constraint.Broken]
  | positive => simp [Constraint.Broken]

/-- **No mistake comes from leaving keys out,** and none from another order. -/
theorem Omits.no_mistake {v w : Value} (h : Omits dropped [] v w) (hv : DistinctKeys v)
    (hclear : ∀ path problem, ¬ Mistake v path problem) (path : List String) (problem : Problem) :
    ¬ Mistake w path problem := by
  intro hm
  cases hm with
  | noObject hplace hy hno =>
    obtain ⟨x, hx, hxy⟩ := h.exists_at? hv hy
    cases hxy with
    | leaf => exact hclear _ _ (.noObject hplace hx hno)
    | mapping => exact hno ⟨_, rfl⟩
  | unknown hplace hy hentries hmem hother =>
    obtain ⟨x, hx, hxy⟩ := h.exists_at? hv hy
    cases hxy with
    | leaf hnone =>
      rw [hnone] at hentries
      cases hentries
    | mapping hfrom hperm =>
      cases hentries
      have hkey := hfrom.keys_sublist.subset (List.mem_map_of_mem (hperm.mem_iff.2 hmem))
      obtain ⟨⟨key, value⟩, hmem', rfl⟩ := List.mem_map.1 hkey
      exact hclear _ _ (.unknown hplace hx rfl hmem' hother)
  | field hplace hy hc hbroken =>
    obtain ⟨x, hx, hxy⟩ := h.exists_at? hv hy
    cases hxy with
    | leaf => exact hclear _ _ (.field hplace hx hc hbroken)
    | mapping => exact hclear _ _ (.field hplace hx hc ((broken_mapping_iff _ _ _).1 hbroken))

/-! ## 4. What is read of it -/

/-- **A field that is left out is read as its default.**  Let the values of the keys that are left out
be those of `d`, and let `read` take a value that is missing for that of `d`.  Then it reads the same
at the path of a leaf, whether that is left out or not. -/
theorem Omits.read {v w d x x₀ : Value} (h : Omits dropped [] v w) (hv : DistinctKeys v)
    (hdropped : ∀ path ∈ dropped, v.at? path = d.at? path) {α : Type} (read : Option Value → α)
    {path : List String} (hx : v.at? path = some x) (hleaf : x.entries? = none)
    (hd : d.at? path = some x₀) (hdefault : read none = read (some x₀)) :
    read (w.at? path) = read (some x) := by
  rcases h.at? hv path with ⟨hnone, front, ⟨rest, rfl⟩, hmem⟩ | hrel
  · -- what is left out above the leaf is that of `d`, so the leaf is that of `d` as well
    have hsame : v.at? (front ++ rest) = d.at? (front ++ rest) := by
      rw [Value.at?_append, Value.at?_append, hdropped front hmem]
    rw [hx, hd] at hsame
    rw [hnone, hdefault, hsame]
  · rw [hx] at hrel
    generalize w.at? path = found at hrel ⊢
    cases hrel with
    | some hxy =>
      cases hxy with
      | leaf => rfl
      | mapping => cases hleaf

/-- A text that is left out is read as its default. -/
theorem Omits.read_text {v w d : Value} (h : Omits dropped [] v w) (hv : DistinctKeys v)
    (hdropped : ∀ path ∈ dropped, v.at? path = d.at? path) {path : List String} {s s₀ : String}
    (hs : v.at? path = some (.text s)) (hd : d.at? path = some (.text s₀)) :
    ((w.at? path).bind Value.text?).getD s₀ = s :=
  h.read hv hdropped (fun x => (x.bind Value.text?).getD s₀) hs rfl hd rfl

/-- The numbers of a policy in full. -/
theorem at?_policy {v : Value} {path : List String} {p : PollingPolicy}
    (h : v.at? path = some p.toValue) :
    v.at? (path ++ ["max_retries"]) = some (.int p.maxRetries) ∧
      v.at? (path ++ ["delay_s"]) = some (.double p.delay) := by
  rw [Value.at?_append, Value.at?_append, h]
  exact ⟨rfl, rfl⟩

/-- **A policy is read number by number,** whether one of them, both or all of it is left out. -/
theorem Omits.readsPolicy {v w d : Value} (h : Omits dropped [] v w) (hv : DistinctKeys v)
    (hdropped : ∀ path ∈ dropped, v.at? path = d.at? path) {path : List String}
    {p p₀ : PollingPolicy} (hp : v.at? path = some p.toValue) (hd : d.at? path = some p₀.toValue) :
    ReadsPolicy w path p₀ p := by
  obtain ⟨hretries, hdelay⟩ := at?_policy hp
  obtain ⟨hretries₀, hdelay₀⟩ := at?_policy hd
  constructor
  · exact (h.read hv hdropped (fun x => (x.bind Value.integer?).getD p₀.maxRetries) hretries rfl
      hretries₀ rfl).symm
  · exact h.read hv hdropped (fun x => ((x.bind Value.quantity?).getD (.double p₀.delay)).toDouble?)
      hdelay rfl hdelay₀ rfl

end Omissions

/-! ## 5. Configurations in full -/

theorem entries?_quantity (q : Quantity) : q.toValue.entries? = none := by
  cases q <;> rfl

theorem entries?_optional {α : Type} (f : α → Value) (hf : ∀ a, (f a).entries? = none)
    (o : Option α) : ((o.map f).getD .null).entries? = none := by
  cases o with
  | none => rfl
  | some a => exact hf a

/-- The keys of a configuration in full are distinct. -/
theorem distinctKeys_toValue (c : Config) : DistinctKeys c.toValue := by
  have hserial : DistinctKeys ((c.adb.serial.map Value.text).getD .null) :=
    .leaf (entries?_optional _ (fun _ => rfl) _)
  have hrecord : DistinctKeys ((c.sampler.recordTimeout.map Quantity.toValue).getD .null) :=
    .leaf (entries?_optional _ entries?_quantity _)
  have hpolicy : ∀ p : PollingPolicy, DistinctKeys p.toValue := by
    intro p
    refine .mapping (by simp) ?_
    simp only [List.forall_mem_cons]
    exact ⟨.leaf rfl, .leaf rfl, List.forall_mem_nil _⟩
  have hadb : DistinctKeys c.adb.toValue := by
    refine .mapping (by simp) ?_
    simp only [List.forall_mem_cons]
    exact ⟨.leaf rfl, hserial, .leaf (entries?_quantity _), List.forall_mem_nil _⟩
  have hsampler : DistinctKeys c.sampler.toValue := by
    refine .mapping (by simp) ?_
    simp only [List.forall_mem_cons]
    exact ⟨.leaf rfl, .leaf rfl, hrecord, hpolicy _, hpolicy _, List.forall_mem_nil _⟩
  refine .mapping (by simp) ?_
  simp only [List.forall_mem_cons]
  exact ⟨hadb, hsampler, List.forall_mem_nil _⟩

/-- A mapping violates nothing if its keys are names of the object and no field does. -/
theorem violations_object {path : List String} {fields : List (String × Schema)}
    {es : List (Value × Value)} (hknown : unknownNames (fields.map Prod.fst) es = [])
    (hfields : ∀ q ∈ fields, ∀ v, Value.lookup q.1 es = some v →
      q.2.violations (path ++ [q.1]) v = []) :
    (Schema.object fields).violations path (.mapping es) = [] := by
  have hnone : Schema.fieldViolations path es fields = [] := by
    clear hknown
    induction fields with
    | nil => rfl
    | cons q rest ih =>
      obtain ⟨hq, hrest⟩ := List.forall_mem_cons.1 hfields
      rw [Schema.fieldViolations, ih hrest, List.append_nil]
      split
      · rfl
      · next v hv => exact hq v hv
  simp [Schema.violations, Value.entries?, hknown, hnone]

theorem violations_namedText {s : String} (hs : s ≠ "") (path : List String) :
    namedText.violations path (.text s) = [] := by
  simp [namedText, Schema.violations, Constraint.holds, Kind.admits, hs]

theorem violations_positive {q : Quantity} (hq : q.isNonPositive = false) (path : List String) :
    (Schema.field [.kinds [.number], .positive]).violations path q.toValue = [] := by
  have hbound : q.toValue.isNotAboveZero = false := by
    cases q <;> exact hq
  have hkind : Kind.number.admits q.toValue = true := by
    cases q <;> rfl
  simp [Schema.violations, Constraint.holds, hkind, hbound]

/-- A policy in full violates nothing: it was made of numbers that are not negative. -/
theorem violations_policy (p : PollingPolicy) (path : List String) :
    policySchema.violations path p.toValue = [] := by
  refine violations_object rfl ?_
  simp only [List.forall_mem_cons]
  refine ⟨?_, ?_, List.forall_mem_nil _⟩
  · rintro _ ⟨⟩
    simp [Schema.violations, Constraint.holds, Kind.admits, Value.isBelowZero]
  · rintro _ ⟨⟩
    simp [Schema.violations, Constraint.holds, Kind.admits, Value.isBelowZero, p.delay_nonneg]

/-- A configuration in full has no mistake, if its texts have a character and its time limit is not
zero or below. -/
theorem no_mistake_toValue {c : Config} (hadb : c.adb.adbPath ≠ "")
    (htimeout : c.adb.timeout.isNonPositive = false) (hbinary : c.sampler.binary ≠ "")
    (hpath : c.sampler.recordPath ≠ "") (path : List String) (problem : Problem) :
    ¬ Mistake c.toValue path problem := by
  have hserial : ∀ p, (Schema.field [.kinds [.text, .null]]).violations p
      ((c.adb.serial.map Value.text).getD .null) = [] := by
    intro p
    cases c.adb.serial <;> rfl
  have hrecord : ∀ p, (Schema.field [.kinds [.number, .null]]).violations p
      ((c.sampler.recordTimeout.map Quantity.toValue).getD .null) = [] := by
    intro p
    rcases c.sampler.recordTimeout with _ | _ | _ <;> rfl
  refine no_mistake_iff.2 (violations_object rfl ?_) path problem
  simp only [List.forall_mem_cons]
  refine ⟨?_, ?_, List.forall_mem_nil _⟩
  · rintro _ ⟨⟩
    refine violations_object rfl ?_
    simp only [List.forall_mem_cons]
    refine ⟨?_, ?_, ?_, List.forall_mem_nil _⟩
    · rintro _ ⟨⟩
      exact violations_namedText hadb _
    · rintro _ ⟨⟩
      exact hserial _
    · rintro _ ⟨⟩
      exact violations_positive htimeout _
  · rintro _ ⟨⟩
    refine violations_object rfl ?_
    simp only [List.forall_mem_cons]
    refine ⟨?_, ?_, ?_, ?_, ?_, List.forall_mem_nil _⟩
    · rintro _ ⟨⟩
      exact violations_namedText hbinary _
    · rintro _ ⟨⟩
      exact violations_namedText hpath _
    · rintro _ ⟨⟩
      exact hrecord _
    · rintro _ ⟨⟩
      exact violations_policy _ _
    · rintro _ ⟨⟩
      exact violations_policy _ _

/-- **A configuration is read from each mapping that says as much of it as differs from the defaults.**
Let its texts have a character and its time limit not be zero or below; let keys be left out of its
full mapping whose values are those of the defaults, and let the other keys come in any order in each
mapping.  Then what is left is a mapping of that configuration. -/
theorem ofEntries_omitting {c : Config} {dropped : Set (List String)}
    {entries : List (Value × Value)} (hadb : c.adb.adbPath ≠ "")
    (htimeout : c.adb.timeout.isNonPositive = false) (hbinary : c.sampler.binary ≠ "")
    (hpath : c.sampler.recordPath ≠ "")
    (hdropped : ∀ path ∈ dropped, c.toValue.at? path = ({} : Config).toValue.at? path)
    (h : Omits dropped [] c.toValue (.mapping entries)) : Config.ofEntries entries = .ok c := by
  have hkeys := distinctKeys_toValue c
  have hclear := h.no_mistake hkeys (no_mistake_toValue hadb htimeout hbinary hpath)
  refine ofEntries_eq_ok_iff.2 ⟨hclear, ?_⟩
  constructor
  case adbPath => exact (h.read_text hkeys hdropped rfl rfl).symm
  case serial =>
    rw [h.read hkeys hdropped (fun v => v.bind Value.text?)
      (x := (c.adb.serial.map Value.text).getD .null) rfl (entries?_optional _ (fun _ => rfl) _)
      rfl rfl]
    cases c.adb.serial <;> rfl
  case timeout =>
    rw [h.read hkeys hdropped (fun v => (v.bind Value.quantity?).getD ({} : AdbConfig).timeout)
      (x := c.adb.timeout.toValue) rfl (entries?_quantity _) rfl rfl]
    cases c.adb.timeout <;> rfl
  case binary => exact (h.read_text hkeys hdropped rfl rfl).symm
  case recordPath => exact (h.read_text hkeys hdropped rfl rfl).symm
  case recordTimeout =>
    rw [h.read hkeys hdropped (fun v => v.bind Value.quantity?)
      (x := (c.sampler.recordTimeout.map Quantity.toValue).getD .null) rfl
      (entries?_optional _ entries?_quantity _) rfl rfl]
    rcases c.sampler.recordTimeout with _ | _ | _ <;> rfl
  case startWait => exact h.readsPolicy hkeys hdropped rfl rfl
  case stopWait => exact h.readsPolicy hkeys hdropped rfl rfl

/-- A device by its serial number, a shorter time limit and a longer pause. -/
def emulatorConfig : Config where
  adb := { serial := some "emulator-5554", timeout := .double (.ofNat 10) }
  sampler := { startWait := ⟨3, .ofNat 2, by decide +kernel⟩ }

/-- What is left out of its full mapping: two fields, a number of a policy and a policy. -/
def emulatorDropped : List (List String) :=
  [["adb", "adb_path"], ["simpleperf", "binary"], ["simpleperf", "start_wait", "max_retries"],
    ["simpleperf", "stop_wait"]]

/-- What is left of it, from its end to its beginning. -/
def emulatorEntries : List (Value × Value) :=
  [(.text "simpleperf", .mapping
      [(.text "start_wait", .mapping [(.text "delay_s", .double (.ofNat 2))]),
        (.text "record_timeout_s", .null),
        (.text "tmp_output_path", .text "/data/local/tmp/perf.data")]),
    (.text "adb", .mapping
      [(.text "timeout_s", .double (.ofNat 10)), (.text "serial", .text "emulator-5554")])]

/-- The configuration is read from what is left. -/
theorem ofEntries_omitting_emulator : Config.ofEntries emulatorEntries = .ok emulatorConfig := by
  have htwo : ∀ a b : Value × Value, [a, b].Perm [b, a] := fun a b => List.Perm.swap b a []
  have hthree : ∀ a b c : Value × Value, [a, b, c].Perm [c, b, a] :=
    fun a b c => (List.reverse_perm [a, b, c]).symm
  have hadb : Omits {path | path ∈ emulatorDropped} ["adb"] emulatorConfig.adb.toValue
      (.mapping [(.text "timeout_s", .double (.ofNat 10)),
        (.text "serial", .text "emulator-5554")]) :=
    .mapping (.drop (by decide) (.keep (by decide) (.leaf rfl) (.keep (by decide) (.leaf rfl) .nil)))
      (htwo _ _)
  have hstart : Omits {path | path ∈ emulatorDropped} ["simpleperf", "start_wait"]
      emulatorConfig.sampler.startWait.toValue
      (.mapping [(.text "delay_s", .double (.ofNat 2))]) := by
    simp only [emulatorConfig, PollingPolicy.toValue]
    exact .mapping (.drop (by decide) (.keep (by decide) (.leaf rfl) .nil)) (List.Perm.refl _)
  have hsampler : Omits {path | path ∈ emulatorDropped} ["simpleperf"]
      emulatorConfig.sampler.toValue
      (.mapping [(.text "start_wait", .mapping [(.text "delay_s", .double (.ofNat 2))]),
        (.text "record_timeout_s", .null),
        (.text "tmp_output_path", .text "/data/local/tmp/perf.data")]) :=
    .mapping (.drop (by decide) (.keep (by decide) (.leaf rfl) (.keep (by decide) (.leaf rfl)
      (.keep (by decide) hstart (.drop (by decide) .nil))))) (hthree _ _ _)
  have hall : Omits {path | path ∈ emulatorDropped} [] emulatorConfig.toValue
      (.mapping emulatorEntries) :=
    .mapping (.keep (by decide) hadb (.keep (by decide) hsampler .nil)) (htwo _ _)
  refine ofEntries_omitting (by decide) (by decide +kernel) (by decide) (by decide) ?_ hall
  intro path hpath
  simp only [Set.mem_ofPred_eq, emulatorDropped, List.mem_cons, List.not_mem_nil, or_false] at hpath
  rcases hpath with rfl | rfl | rfl | rfl <;>
    simp [Value.at?, Value.entries?, Value.lookup, Config.toValue, AdbConfig.toValue,
      SamplerConfig.toValue, PollingPolicy.toValue, emulatorConfig, defaultStartWait]

end DeviceSampling
