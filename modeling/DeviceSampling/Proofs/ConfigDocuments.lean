/-
# Files that hold no mapping

A configuration file holds one value, and a value other than a mapping is no configuration.  JSON keeps
to that.  In YAML a value with nothing in it counts as an empty mapping, and so as the configuration
of all defaults; that is meant for the empty file, whose value is null, and takes in false, zero, and
empty texts and lists as well.

* `Void`: the values with nothing in them; `isEmptyValue_iff`: what the reading of YAML makes of them;
* `Holds`: the value that a text holds in a format;
* `load_of_noMapping`: **what is loaded from a file that holds no mapping;**
* `load_voidList`: an empty list is no mapping, and is loaded all the same.
-/
import DeviceSampling.Proofs.ConfigReading

namespace DeviceSampling

/-! ## 1. Values with nothing in them -/

/-- **The values with nothing in them:** null, false, zero, and what is empty. -/
inductive Void : Value → Prop
  | null : Void .null
  | no : Void (.bool false)
  | zero : Void (.int 0)
  /-- Zero of either sign. -/
  | zeroDouble {negative h} : Void (.double (.finite negative 0 h))
  | text : Void (.text "")
  | bytes : Void (.bytes [])
  | list : Void (.list [])
  | set : Void (.set [])

/-- A double is at most zero and at least zero if it has no units. -/
theorem isZero_iff (x : Binary64) :
    (x.le Binary64.zero && Binary64.zero.le x) = true ↔ ∃ s h, x = .finite s 0 h := by
  obtain ⟨hz, hzero⟩ := Binary64.exists_zero_eq
  rw [hzero]
  cases x with
  | nan => simp [Binary64.le]
  | infinite s => cases s <;> simp [Binary64.le]
  | finite s u hu =>
    have hunits : (Binary64.signedUnits s u ≤ 0 ∧ 0 ≤ Binary64.signedUnits s u) ↔ u = 0 := by
      cases s with
      | false => simp [Binary64.signedUnits]
      | true => simp [Binary64.signedUnits]
    have hsigned : Binary64.signedUnits false 0 = 0 := rfl
    simp only [Binary64.le, hsigned, Bool.and_eq_true, decide_eq_true_eq, hunits]
    constructor
    · rintro rfl
      exact ⟨s, hu, rfl⟩
    · rintro ⟨s', h, hx⟩
      cases hx
      rfl

/-- **Which values count as empty:** those with nothing in them, and the empty mapping. -/
theorem isEmptyValue_iff (v : Value) : v.isEmptyValue = true ↔ Void v ∨ v = .mapping [] := by
  constructor
  · intro h
    cases v with
    | null => exact Or.inl .null
    | bool b =>
      cases b with
      | false => exact Or.inl .no
      | true => cases h
    | int n =>
      obtain rfl : n = 0 := by simpa [Value.isEmptyValue] using h
      exact Or.inl .zero
    | double x =>
      obtain ⟨s, hx, rfl⟩ := (isZero_iff x).1 h
      exact Or.inl .zeroDouble
    | text s =>
      by_cases hs : s = ""
      · rw [hs]
        exact Or.inl .text
      · simp [Value.isEmptyValue, hs] at h
    | bytes bs =>
      cases bs with
      | nil => exact Or.inl .bytes
      | cons => cases h
    | list items =>
      cases items with
      | nil => exact Or.inl .list
      | cons => cases h
    | set members =>
      cases members with
      | nil => exact Or.inl .set
      | cons => cases h
    | mapping entries =>
      cases entries with
      | nil => exact Or.inr rfl
      | cons => cases h
    | _ => cases h
  · rintro (h | rfl)
    · cases h with
      | @zeroDouble s hu => exact (isZero_iff (.finite s 0 hu)).2 ⟨s, hu, rfl⟩
      | _ => rfl
    · rfl

/-! ## 2. Files -/

/-- The value that a text holds in a format. -/
inductive Holds : ConfigFormat → List Char → Value → Prop
  | json {text v} : Json.readChars text = .ok v → Holds .json text v
  | yaml {text v} : Yaml.readChars text = .ok v → Holds .yaml text v

section Loading

variable {files : FileTree} {path : HostPath} {format : ConfigFormat} {text : List Char} {v : Value}

/-- A value that is no mapping is no configuration. -/
theorem ofValue_of_noMapping (h : ¬ Kind.object.Is v) :
    Config.ofValue path v = .error (.notMapping path) := by
  cases v with
  | mapping entries => exact absurd ⟨entries, rfl⟩ h
  | _ => rfl

/-- **What is loaded from a file that holds no mapping.**  The fault is that there is none, with the
path in its message, except that the defaults are loaded from a YAML file with nothing in its value.
So the formats differ on such values alone, and on each of them. -/
theorem load_of_noMapping (htext : HasText files path text)
    (hformat : ConfigFormat.ofPath? path = some format) (hholds : Holds format text v)
    (hv : ¬ Kind.object.Is v) :
    (format = .yaml ∧ Void v ∧ Config.load files path = .ok {}) ∨
      ((format = .json ∨ ¬ Void v) ∧ Config.load files path = .error (.notMapping path) ∧
        (ConfigFileFault.notMapping path).message =
          "Collector config must be a mapping: " ++ path.text) := by
  have hload := load_of_hasText htext
  rw [hformat] at hload
  cases hholds with
  | json hread =>
    refine Or.inr ⟨Or.inl rfl, ?_, rfl⟩
    simpa only [ConfigFormat.decode, hread, ofValue_of_noMapping hv] using hload
  | yaml hread =>
    have hmapping : v ≠ .mapping [] := fun h => hv ⟨[], by rw [h]; rfl⟩
    by_cases hvoid : Void v
    · have hempty := (isEmptyValue_iff v).2 (Or.inl hvoid)
      refine Or.inl ⟨rfl, hvoid, ?_⟩
      simpa only [ConfigFormat.decode, hread, hempty, if_true, Config.ofValue, ofEntries_nil]
        using hload
    · have hfull : v.isEmptyValue = false := by
        rw [← Bool.not_eq_true, isEmptyValue_iff]
        exact not_or.2 ⟨hvoid, hmapping⟩
      refine Or.inr ⟨Or.inr hvoid, ?_, rfl⟩
      simpa only [ConfigFormat.decode, hread, hfull, Bool.false_eq_true, if_false,
        ofValue_of_noMapping hv] using hload

end Loading

/-- A tree with one file, `c.JSON`, that holds `[]`. -/
def soleJson : FileTree := ⟨[(["c.JSON"], .file [91, 93])]⟩

/-- Of an empty list in a JSON file it is told that it is no mapping; the ending may be in any case. -/
theorem load_of_noMapping_emptyList :
    HasText soleJson ⟨"", ["c.JSON"]⟩ ['[', ']'] ∧
      ConfigFormat.ofPath? ⟨"", ["c.JSON"]⟩ = some .json ∧ Holds .json ['[', ']'] (.list []) ∧
      ¬ Kind.object.Is (.list []) ∧
      Config.load soleJson ⟨"", ["c.JSON"]⟩ = .error (.notMapping ⟨"", ["c.JSON"]⟩) := by
  have htext : HasText soleJson ⟨"", ["c.JSON"]⟩ ['[', ']'] := ⟨_, _, _, rfl, rfl, rfl⟩
  have hformat : ConfigFormat.ofPath? ⟨"", ["c.JSON"]⟩ = some .json := by decide
  have hholds : Holds .json ['[', ']'] (.list []) := .json rfl
  have hlist : ¬ Kind.object.Is (.list []) := by
    rintro ⟨entries, h⟩
    cases h
  refine ⟨htext, hformat, hholds, hlist, ?_⟩
  rcases load_of_noMapping htext hformat hholds hlist with ⟨h, -⟩ | ⟨-, hload, -⟩
  · cases h
  · exact hload

/-- Null is not the only value other than a mapping that YAML lets pass: a list of nothing is loaded as
the defaults, and JSON does not agree. -/
theorem load_voidList :
    HasText (soleYaml [91, 93, 10]) ⟨"", ["c.yaml"]⟩ ['[', ']', '\n'] ∧
      Holds .yaml ['[', ']', '\n'] (.list []) ∧ ¬ Kind.object.Is (.list []) ∧
      Config.load (soleYaml [91, 93, 10]) ⟨"", ["c.yaml"]⟩ = .ok {} ∧
      Config.load soleJson ⟨"", ["c.JSON"]⟩ = .error (.notMapping ⟨"", ["c.JSON"]⟩) := by
  have htext : HasText (soleYaml [91, 93, 10]) ⟨"", ["c.yaml"]⟩ ['[', ']', '\n'] :=
    ⟨_, _, _, rfl, rfl, rfl⟩
  refine ⟨htext, .yaml rfl, ?_, ?_, rfl⟩
  · rintro ⟨entries, h⟩
    cases h
  · have hformat : ConfigFormat.ofPath? ⟨"", ["c.yaml"]⟩ = some .yaml := by decide
    have hread : Yaml.readChars ['[', ']', '\n'] = .ok (.list []) := rfl
    simp only [load_of_hasText htext, hformat, ConfigFormat.decode, hread, Value.isEmptyValue,
      if_true, Config.ofValue, ofEntries_nil]

end DeviceSampling
