/-
# Asking for fewer symbols

Two readings of one report that ask for different symbols part at each row that only one of them
wants.  The one that asks for more computes a share there, so it may stop where the other goes on,
and writes a metric that the other has not.  It does nothing else: both see the same events and
totals, and no share takes the place of a figure that both have, if keys tell their figures.

* `FailsAt`: the line at which a reading fails, with an error or by an overflow;
* `EventIn`, `KeyFor`: the keys of totals and of the shares of some symbols;
* `step_narrows`, `stateAfter?_narrows`: the reading for fewer symbols follows the one for more;
* `parseReport_fewer`: **fewer symbols fail no earlier, and only hide the metrics of the others.**
-/
import DeviceSampling.Proofs.RunFigures

namespace DeviceSampling

open Text

/-! ## 1. Failures -/

/-- **The line at which a reading fails:** the malformed one that it reports, or the one whose
figure is beyond the doubles. -/
inductive FailsAt (text process : String) (wanted : List String) : Nat → Prop
  | malformed {m fault} : parseReport text process wanted = .ok ⟨m, some fault⟩ →
      FailsAt text process wanted fault.number
  | overflowing {front line rest s cause} : lines text.toList = front ++ line :: rest →
      stateAfter? process wanted {} front = some s →
      s.step process wanted (ReportLine.read line) = .error (.overflow cause) →
      FailsAt text process wanted (front.length + 1)

section Failures

variable {text process : String} {wanted : List String}

/-- **A reading fails at the line that stops it.** -/
theorem failsAt_iff {k : Nat} : FailsAt text process wanted k ↔
    ∃ front line rest s stop, lines text.toList = front ++ line :: rest ∧
      stateAfter? process wanted {} front = some s ∧
      s.step process wanted (ReportLine.read line) = .error stop ∧ k = front.length + 1 := by
  constructor
  · intro h
    cases h with
    | malformed h =>
      rcases parseReport_cases text process wanted with
        ⟨s, -, hp⟩ | ⟨front, line, rest, s, stop, hl, hs, hstop, hp⟩
      · rw [h] at hp
        cases hp
      · rw [h] at hp
        cases stop with
        | overflow => cases hp
        | malformed cause =>
          cases hp
          exact ⟨front, line, rest, s, _, hl, hs, hstop, rfl⟩
    | overflowing hl hs hstop => exact ⟨_, _, _, _, _, hl, hs, hstop, rfl⟩
  · rintro ⟨front, line, rest, s, stop, hl, hs, hstop, rfl⟩
    cases stop with
    | overflow cause => exact .overflowing hl hs hstop
    | malformed cause =>
      have hp : parseReport text process wanted =
          .ok ⟨s.metrics, some ⟨front.length + 1, String.ofList line, cause⟩⟩ := by
        unfold parseReport
        rw [hl, readLines_stop hs hstop, Nat.zero_add]
        rfl
      exact .malformed hp

/-- A reading that is not complete fails at some line. -/
theorem exists_failsAt_iff : (∃ k, FailsAt text process wanted k) ↔
    ¬ ∃ m, parseReport text process wanted = .ok ⟨m, none⟩ := by
  constructor
  · rintro ⟨k, hk⟩ ⟨m, hm⟩
    obtain ⟨front, line, rest, s, stop, hl, hs, hstop, -⟩ := failsAt_iff.1 hk
    unfold parseReport at hm
    rw [hl, readLines_stop hs hstop] at hm
    cases stop <;> cases hm
  · intro hno
    rcases parseReport_cases text process wanted with
      ⟨s, -, hp⟩ | ⟨front, line, rest, s, stop, hl, hs, hstop, -⟩
    · exact absurd ⟨s.metrics, hp⟩ hno
    · exact ⟨_, failsAt_iff.2 ⟨front, line, rest, s, stop, hl, hs, hstop, rfl⟩⟩

end Failures

/-! ## 2. Keys -/

/-- An event of the text, or none. -/
inductive EventIn (text : String) : String → Prop
  | unnamed : EventIn text ""
  | named {line value} : line ∈ lines text.toList → Header line "Event".toList value →
      EventIn text (eventName value)

theorem eventIn_iff {text event : String} : EventIn text event ↔
    event = "" ∨ ∃ line ∈ lines text.toList, ReportLine.read line = .event event := by
  constructor
  · intro h
    cases h with
    | unnamed => exact Or.inl rfl
    | named hl hh => exact Or.inr ⟨_, hl, (ReadsAs.event hh).read_eq⟩
  · rintro (rfl | ⟨line, hl, hr⟩)
    · exact .unnamed
    · obtain ⟨value, hh, rfl⟩ := read_eq_event_iff.1 hr
      exact .named hl hh

instance (text event : String) : Decidable (EventIn text event) := decidable_of_iff' _ eventIn_iff

/-- **The keys of the totals** of a text's events, and of the shares of some symbols in them. -/
inductive KeyFor (process text : String) (symbols : List String) : String → Prop
  | total {event} : EventIn text event → KeyFor process text symbols (metricKey event process none)
  | share {event symbol} : EventIn text event → symbol ∈ symbols →
      KeyFor process text symbols (metricKey event process (some symbol))

section Keys

variable {process text : String} {symbols : List String} {ls : List (List Char)}
variable {event symbol : String}

theorem EventOf.eventIn (h : EventOf ls event) (hls : ls ⊆ lines text.toList) :
    EventIn text event := by
  cases h with
  | unnamed => exact .unnamed
  | named hlast =>
    obtain ⟨front, line, rest, rfl, hh, -⟩ := hlast
    exact .named (hls (List.mem_append_right _ List.mem_cons_self)) hh

theorem EventIn.apartFromAll {processes : List String} (h : EventIn text event)
    (hn : NamesApart processes text) : ApartFromAll processes event := by
  cases h with
  | unnamed => exact Or.inl rfl
  | named hl hh => exact Or.inr (hn _ hl _ hh)

/-- **A share has the key of none of the others,** if the events can be told from the process. -/
theorem not_keyFor_share (hdash : '-' ∉ process.toList) (hn : NamesApart [process] text)
    (he : EventIn text event) (hs : symbol ∉ symbols) :
    ¬ KeyFor process text symbols (metricKey event process (some symbol)) := by
  have hinj : ∀ {event' symbol'}, EventIn text event' →
      metricKey event process (some symbol) = metricKey event' process symbol' →
      some symbol = symbol' := by
    intro event' symbol' he' hkey
    exact (metricKey_inj_of_mem (List.forall_mem_singleton.2 hdash) (List.mem_singleton_self _)
      (List.mem_singleton_self _) (he.apartFromAll hn) (he'.apartFromAll hn) hkey).2.2
  intro h
  generalize hk : metricKey event process (some symbol) = key at h
  cases h with
  | total he' => cases hinj he' hk
  | share he' hs' =>
    cases hinj he' hk
    exact hs hs'

end Keys

/-! ## 3. Entries left out -/

/-- **Entries without those under other keys,** in order. -/
inductive Hides (keep : String → Prop) : List (String × String) → List (String × String) → Prop
  | nil : Hides keep [] []
  | kept {e es es'} : keep e.1 → Hides keep es es' → Hides keep (e :: es) (e :: es')
  | hidden {e es es'} : ¬ keep e.1 → Hides keep es es' → Hides keep (e :: es) es'

namespace Hides

variable {keep : String → Prop} {es es' : List (String × String)} {key : String}

theorem sublist (h : Hides keep es es') : es'.Sublist es := by
  induction h with
  | nil => exact List.Sublist.refl []
  | kept _ _ ih => exact ih.cons_cons _
  | hidden _ _ ih => exact ih.cons _

theorem mem_iff (h : Hides keep es es') {e : String × String} : e ∈ es' ↔ e ∈ es ∧ keep e.1 := by
  induction h with
  | nil => exact ⟨fun he => absurd he List.not_mem_nil, fun he => he.1⟩
  | kept hk _ ih =>
    rw [List.mem_cons, List.mem_cons, ih]
    constructor
    · rintro (rfl | ⟨he, hke⟩)
      · exact ⟨Or.inl rfl, hk⟩
      · exact ⟨Or.inr he, hke⟩
    · rintro ⟨rfl | he, hke⟩
      · exact Or.inl rfl
      · exact Or.inr ⟨he, hke⟩
  | hidden hk _ ih =>
    rw [List.mem_cons, ih]
    constructor
    · exact fun ⟨he, hke⟩ => ⟨Or.inr he, hke⟩
    · rintro ⟨rfl | he, hke⟩
      · exact absurd hke hk
      · exact ⟨he, hke⟩

/-- A write under a key that is kept is made to both. -/
theorem insert_kept (h : Hides keep es es') (hk : keep key) (value : String) :
    Hides keep (Metrics.insertEntry key value es) (Metrics.insertEntry key value es') := by
  induction h with
  | nil => exact .kept hk .nil
  | @kept e es es' he hrest ih =>
    unfold Metrics.insertEntry
    by_cases hkey : (key == e.1) = true
    · rw [if_pos hkey, if_pos hkey]
      exact .kept he hrest
    · rw [if_neg hkey, if_neg hkey]
      exact .kept he ih
  | @hidden e es es' he hrest ih =>
    have hkey : ¬ (key == e.1) = true := fun hkey => he (beq_iff_eq.1 hkey ▸ hk)
    rw [Metrics.insertEntry, if_neg hkey]
    exact .hidden he ih

/-- A write under another key does not show. -/
theorem insert_hidden (h : Hides keep es es') (hk : ¬ keep key) (value : String) :
    Hides keep (Metrics.insertEntry key value es) es' := by
  induction h with
  | nil => exact .hidden hk .nil
  | @kept e es es' he hrest ih =>
    have hkey : ¬ (key == e.1) = true := fun hkey => hk (beq_iff_eq.1 hkey ▸ he)
    rw [Metrics.insertEntry, if_neg hkey]
    exact .kept he ih
  | @hidden e es es' he hrest ih =>
    unfold Metrics.insertEntry
    by_cases hkey : (key == e.1) = true
    · rw [if_pos hkey]
      exact .hidden he hrest
    · rw [if_neg hkey]
      exact .hidden he ih

end Hides

/-! ## 4. The reading for fewer symbols -/

/-- **What a reading for some symbols has of one for more,** if keys tell their figures: the event,
the total and the metrics without those of the other symbols. -/
structure Narrows (process text : String) (few : List String) (s s' : ReportState) : Prop where
  event : s'.event = s.event
  total : s'.total = s.total
  entries : '-' ∉ process.toList → NamesApart [process] text →
    Hides (KeyFor process text few) s.metrics.entries s'.metrics.entries

section Readings

variable {process text : String} {few many : List String} {s s' t : ReportState}

/-- Both readings write under a key that is kept. -/
theorem Narrows.write (h : Narrows process text few s s') {key : String}
    (hk : KeyFor process text few key) (value : String) :
    Narrows process text few { s with metrics := s.metrics.insert key value }
      { s' with metrics := s'.metrics.insert key value } where
  event := h.event
  total := h.total
  entries := fun hdash hn => (h.entries hdash hn).insert_kept hk value

/-- The reading for more symbols writes a share of another symbol. -/
theorem Narrows.hide (h : Narrows process text few s s') (he : EventIn text s.event)
    {symbol : String} (hs : symbol ∉ few) (value : String) :
    Narrows process text few { s with
      metrics := s.metrics.insert (metricKey s.event process (some symbol)) value } s' where
  event := h.event
  total := h.total
  entries := fun hdash hn =>
    (h.entries hdash hn).insert_hidden (not_keyFor_share hdash hn he hs) value

theorem rowShare_of {percentage : String} {total n : Int} {x : Binary64}
    (hx : Numeral.readDouble (withoutPercentSign percentage) = .ok x) (hn : share x total = .ok n) :
    rowShare percentage total = .ok n := by
  unfold rowShare
  rw [hx]
  dsimp only
  rw [hn]

/-- **The step:** a line that the reading for more symbols goes past, the one for fewer goes past
too. -/
theorem step_narrows (hsub : few ⊆ many) (h : Narrows process text few s s')
    (he : EventIn text s.event) {what : ReportLine} (hs : s.step process many what = .ok t) :
    ∃ t', s'.step process few what = .ok t' ∧ Narrows process text few t t' := by
  have hp := step_passes hs
  cases hp with
  | event name => exact ⟨_, rfl, rfl, h.total, h.entries⟩
  | @total value n hn =>
    have hkey : metricKey s'.event process none = metricKey s.event process none := by rw [h.event]
    have hwrite := h.write (.total he) value
    simp only [ReportState.step, hn]
    rw [hkey]
    exact ⟨_, rfl, hwrite.event, rfl, hwrite.entries⟩
  | @row percentage symbol x n hw hx hn =>
    by_cases hf : symbol ∈ few
    · have hshare : rowShare percentage s'.total = .ok n := by rw [h.total, rowShare_of hx hn]
      have hkey : metricKey s'.event process (some symbol) =
          metricKey s.event process (some symbol) := by rw [h.event]
      simp only [ReportState.step]
      rw [if_pos (List.contains_iff_mem.2 hf), hshare, hkey]
      exact ⟨_, rfl, h.write (.share he hf) _⟩
    · -- only the reading for more symbols takes the row
      exact ⟨s', if_neg (mt List.contains_iff_mem.1 hf), h.hide he hf _⟩
  | @unwanted percentage symbol hw =>
    exact ⟨s', if_neg (mt List.contains_iff_mem.1 fun hf => hw (hsub hf)), h⟩
  | other => exact ⟨s', rfl, h⟩

/-- **The run:** lines that the reading for more symbols goes past, the one for fewer goes past. -/
theorem stateAfter?_narrows (hsub : few ⊆ many) {ls : List (List Char)}
    (hls : ls ⊆ lines text.toList) (h : stateAfter? process many {} ls = some s) :
    ∃ s', stateAfter? process few {} ls = some s' ∧ Narrows process text few s s' := by
  have hboth := stateAfter?_induct (P := fun ls s => EventOf ls s.event ∧
    (ls ⊆ lines text.toList →
      ∃ s', stateAfter? process few {} ls = some s' ∧ Narrows process text few s s')) ?_ ?_ h
  · exact hboth.2 hls
  · exact ⟨.unnamed (noHeader_nil _), fun _ => ⟨{}, rfl, rfl, rfl, fun _ _ => .nil⟩⟩
  · rintro ls s line t ⟨he, ih⟩ hstep
    refine ⟨step_event he hstep, fun hall => ?_⟩
    have hls : ls ⊆ lines text.toList := List.Subset.trans (List.subset_append_left ls [line]) hall
    obtain ⟨s', hs', hn⟩ := ih hls
    obtain ⟨t', ht', hn'⟩ := step_narrows hsub hn (he.eventIn hls) hstep
    refine ⟨t', ?_, hn'⟩
    rw [stateAfter?_append [line] hs', stateAfter?, ht']
    rfl

end Readings

/-! ## 5. Texts -/

section Texts

variable {text process : String} {few many : List String}

/-- **A reading for more symbols fails no later.** -/
theorem failsAt_of_fewer (hsub : few ⊆ many) {k : Nat} (h : FailsAt text process few k) :
    ∃ k' ≤ k, FailsAt text process many k' := by
  obtain ⟨front, line, rest, s, stop, hl, hs, hstop, rfl⟩ := failsAt_iff.1 h
  have hsubset : front ⊆ lines text.toList := by
    rw [hl]
    exact List.subset_append_left _ _
  have hcases := @stateAfter?_cases process many (front ++ [line]) {}
  rcases hcases with
    ⟨t, ht⟩ | ⟨front', line', rest', t, stop', hf, ht, hstop'⟩
  · -- past the line, the other reading would have gone past it as well
    have hall : front ++ [line] ⊆ lines text.toList := by
      rw [hl, List.append_cons front line rest]
      exact List.subset_append_left _ _
    obtain ⟨s', hs', -⟩ := stateAfter?_narrows hsub hall ht
    rw [stateAfter?_append [line] hs, stateAfter?, hstop] at hs'
    cases hs'
  · have hlen := congrArg List.length hf
    simp only [List.length_append, List.length_cons, List.length_nil] at hlen
    refine ⟨front'.length + 1, by omega, failsAt_iff.2 ⟨front', line', rest' ++ rest, t, stop', ?_,
      ht, hstop', rfl⟩⟩
    rw [hl, List.append_cons, hf, List.append_assoc]
    rfl

/-- With no symbols the keys are those of the totals. -/
theorem keyFor_nil_iff {key : String} :
    KeyFor process text [] key ↔
      ∃ event, EventIn text event ∧ key = metricKey event process none := by
  constructor
  · intro h
    cases h with
    | total he => exact ⟨_, he, rfl⟩
    | share _ hs => exact absurd hs List.not_mem_nil
  · rintro ⟨event, he, rfl⟩
    exact .total he

/-- **Asking for fewer symbols.**  A reading that is not complete fails at some line.  If the reading
for some symbols fails, the one for more fails at that line or before it.  If the reading for more
is complete, so is the one for fewer; and if the process has no dash and is no piece of an event
that the text names, its metrics are those of the other, in order, under the keys of the totals and
of its own symbols. -/
theorem parseReport_fewer (text process : String) (few many : List String) (hsub : few ⊆ many) :
    (∀ wanted, (∃ k, FailsAt text process wanted k) ↔
      ¬ ∃ m, parseReport text process wanted = .ok ⟨m, none⟩) ∧
    (∀ k, FailsAt text process few k → ∃ k' ≤ k, FailsAt text process many k') ∧
    (∀ m, parseReport text process many = .ok ⟨m, none⟩ →
      ∃ m', parseReport text process few = .ok ⟨m', none⟩ ∧
        ('-' ∉ process.toList → NamesApart [process] text →
          m'.entries.Sublist m.entries ∧
          (∀ key value, m'.get? key = some value ↔
            m.get? key = some value ∧ KeyFor process text few key) ∧
          (few = [] → ∀ key value, m'.get? key = some value ↔
            m.get? key = some value ∧
              ∃ event, EventIn text event ∧ key = metricKey event process none))) := by
  refine ⟨fun wanted => exists_failsAt_iff, fun k => failsAt_of_fewer hsub, fun m hm => ?_⟩
  obtain ⟨s, hs, rfl⟩ := stateAfter?_of_complete hm
  obtain ⟨s', hs', hn⟩ := stateAfter?_narrows hsub (List.Subset.refl _) hs
  have hm' : parseReport text process few = .ok ⟨s'.metrics, none⟩ := readLines_complete hs'
  refine ⟨s'.metrics, hm', fun hdash hapart => ?_⟩
  have hhides := hn.entries hdash hapart
  have hget : ∀ key value, s'.metrics.get? key = some value ↔
      s.metrics.get? key = some value ∧ KeyFor process text few key := by
    intro key value
    rw [Metrics.get?_eq_some_iff (nodup_keys_of_parseReport hm'),
      Metrics.get?_eq_some_iff (nodup_keys_of_parseReport hm)]
    exact hhides.mem_iff
  refine ⟨hhides.sublist, hget, ?_⟩
  rintro rfl key value
  rw [hget, keyFor_nil_iff]

end Texts

/-- A report with a row that is no number, and after it one that is infinite. -/
def unsoundReport : String :=
  "Event: cycles\nEvent count: 200\nx%  12  bar-sf\ninf%  12  foo()\n"

/-- A report with a row of each of two symbols, one of them with the process in it. -/
def soundReport : String :=
  "Event: cycles\nEvent count: 200\n50%  12  foo()\n25%  12  bar-sf\n"

/-- For one symbol the first report overflows in its last line, and fails earlier for both; of the
second report the share of the other symbol is left out. -/
theorem parseReport_fewer_soundReport :
    ["foo()"] ⊆ ["foo()", "bar-sf"] ∧
    FailsAt unsoundReport "sf" ["foo()"] 4 ∧
    (∃ k' ≤ 4, FailsAt unsoundReport "sf" ["foo()", "bar-sf"] k') ∧
    NamesApart ["sf"] soundReport ∧
    ∃ m m' : Metrics,
      parseReport soundReport "sf" ["foo()", "bar-sf"] = .ok ⟨m, none⟩ ∧
      parseReport soundReport "sf" ["foo()"] = .ok ⟨m', none⟩ ∧
      m.get? "cycles-sf-foo()" = some "100" ∧ m'.get? "cycles-sf-foo()" = some "100" ∧
      m.get? "cycles-sf-bar-sf" = some "50" ∧ m'.get? "cycles-sf-bar-sf" ≠ some "50" := by
  have hsub : ["foo()"] ⊆ ["foo()", "bar-sf"] := by decide
  have hdash : '-' ∉ "sf".toList := by decide
  have hapart : NamesApart ["sf"] soundReport := by decide +kernel
  have hcycles : EventIn soundReport "cycles" := by decide +kernel
  have hfails : FailsAt unsoundReport "sf" ["foo()"] 4 :=
    failsAt_iff.2 ⟨["Event: cycles".toList, "Event count: 200".toList, "x%  12  bar-sf".toList],
      "inf%  12  foo()".toList, [], ⟨"cycles", 200, ⟨[("cycles-sf", "200")]⟩⟩,
      .overflow .infiniteShare, by decide +kernel, by decide +kernel, by decide +kernel, rfl⟩
  have hm : parseReport soundReport "sf" ["foo()", "bar-sf"] = .ok
      ⟨⟨[("cycles-sf", "200"), ("cycles-sf-foo()", "100"), ("cycles-sf-bar-sf", "50")]⟩, none⟩ := by
    decide +kernel
  obtain ⟨-, hfirst, -⟩ := parseReport_fewer unsoundReport "sf" _ _ hsub
  obtain ⟨m', hm', hrest⟩ := (parseReport_fewer soundReport "sf" _ _ hsub).2.2 _ hm
  obtain ⟨-, hget, -⟩ := hrest hdash hapart
  have hshown : m'.get? "cycles-sf-foo()" = some "100" :=
    (hget _ _).2 ⟨rfl, .share hcycles (List.mem_singleton_self "foo()")⟩
  have hhidden : ¬ KeyFor "sf" soundReport ["foo()"] "cycles-sf-bar-sf" :=
    not_keyFor_share hdash hapart hcycles (by decide : "bar-sf" ∉ ["foo()"])
  exact ⟨hsub, hfails, hfirst 4 hfails, hapart, _, m', hm, hm', rfl, hshown, rfl,
    fun h => hhidden ((hget _ _).1 h).2⟩

end DeviceSampling
