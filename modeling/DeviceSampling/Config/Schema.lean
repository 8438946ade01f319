/-
# What a configuration must look like

A schema says which names a mapping may have and what may stand under each.  Checking a value
against it gives every violation, with the path to the place: at most one for each constraint of
a place, and one for all unknown names of a mapping together.

* `Schema.violations` lists the violations in the order of the schema, `configViolations` those
  of a configuration in the order of their paths;
* `Violation.line` is the line of a message.

A truth value is no number, and a double without a fraction is an integer.
-/
import DeviceSampling.Document.Plain

namespace DeviceSampling

/-! ## 1. Constraints -/

/-- A kind of value. -/
inductive Kind where
  | text
  | number
  | integer
  | object
  | null
  deriving DecidableEq, Repr

namespace Kind

/-- The name of a kind. -/
def name : Kind → String
  | text => "string"
  | number => "number"
  | integer => "integer"
  | object => "object"
  | null => "null"

/-- Whether a value is of a kind. -/
def admits : Kind → Value → Bool
  | text, .text _ => true
  | number, .int _ | number, .double _ | integer, .int _ => true
  | integer, .double x => x.isWhole
  | object, .mapping _ | object, .cycle true => true
  | null, .null => true
  | _, _ => false

end Kind

/-- A constraint on a value. -/
inductive Constraint where
  /-- The value is of one of the kinds. -/
  | kinds (allowed : List Kind)
  /-- A text has a character at least. -/
  | nonEmpty
  /-- A number is not below zero. -/
  | notNegative
  /-- A number is above zero. -/
  | positive
  deriving DecidableEq, Repr

/-- Whether a number is below zero. -/
def Value.isBelowZero : Value → Bool
  | .int n => n < 0
  | .double x => x.lt Binary64.zero
  | _ => false

/-- Whether a number is zero or below it. -/
def Value.isNotAboveZero : Value → Bool
  | .int n => n ≤ 0
  | .double x => x.le Binary64.zero
  | _ => false

/-- Whether a constraint holds.  One on texts or numbers holds of all other values. -/
def Constraint.holds : Constraint → Value → Bool
  | .kinds allowed, v => allowed.any (·.admits v)
  | .nonEmpty, .text s => !s.isEmpty
  | .nonEmpty, _ => true
  | .notNegative, v => !v.isBelowZero
  | .positive, v => !v.isNotAboveZero

/-! ## 2. Schemas -/

/-- What may stand at a place. -/
inductive Schema where
  /-- A value under constraints. -/
  | field (constraints : List Constraint)
  /-- A mapping with these names only, none of which must be there. -/
  | object (fields : List (String × Schema))

/-- What is wrong at a place. -/
inductive Problem where
  | broken (constraint : Constraint) (value : Value)
  /-- Names that are not allowed. -/
  | unknown (names : List Value)

/-- A problem and the path to its place. -/
structure Violation where
  path : List String
  problem : Problem

/-- The names of a mapping that are not among the allowed ones. -/
def unknownNames (allowed : List String) (entries : List (Value × Value)) : List Value :=
  (entries.map Prod.fst).filter fun k =>
    match k with
    | .text s => !allowed.contains s
    | _ => true

/-- The entries of a mapping. -/
def Value.entries? : Value → Option (List (Value × Value))
  | .mapping entries => some entries
  | .cycle true => some []
  | _ => none

namespace Schema

mutual

/-- The violations of a value, in the order of the schema. -/
def violations (path : List String) (v : Value) : Schema → List Violation
  | field constraints =>
    (constraints.filter fun c => !c.holds v).map fun c => ⟨path, .broken c v⟩
  | object fields =>
    match v.entries? with
    | none => [⟨path, .broken (.kinds [.object]) v⟩]
    | some entries =>
      let unknown := unknownNames (fields.map Prod.fst) entries
      (if unknown.isEmpty then [] else [⟨path, .unknown unknown⟩]) ++
        fieldViolations path entries fields

/-- The violations under the names of a mapping. -/
def fieldViolations (path : List String) (entries : List (Value × Value)) :
    List (String × Schema) → List Violation
  | [] => []
  | (name, schema) :: rest =>
    (match Value.lookup name entries with
      | none => []
      | some v => violations (path ++ [name]) v schema) ++ fieldViolations path entries rest

end

end Schema

/-! ## 3. Configurations -/

/-- A text with a character at least. -/
def namedText : Schema := .field [.kinds [.text], .nonEmpty]

/-- A polling policy. -/
def policySchema : Schema := .object
  [("max_retries", .field [.kinds [.integer], .notNegative]),
    ("delay_s", .field [.kinds [.number], .notNegative])]

/-- A configuration. -/
def configSchema : Schema := .object
  [("adb", .object
      [("adb_path", namedText),
        ("serial", .field [.kinds [.text, .null]]),
        ("timeout_s", .field [.kinds [.number], .positive])]),
    ("simpleperf", .object
      [("binary", namedText),
        ("tmp_output_path", namedText),
        ("record_timeout_s", .field [.kinds [.number, .null]]),
        ("start_wait", policySchema),
        ("stop_wait", policySchema)])]

/-- The violations of a configuration, in the order of their paths; those of one place keep the
order of the schema. -/
def configViolations (v : Value) : List Violation :=
  (configSchema.violations [] v).mergeSort fun a b => !decide (b.path < a.path)

/-! ## 4. Messages -/

/-- The unknown names in the order of their plain texts. -/
def sortedNames (names : List Value) : List Value :=
  names.mergeSort fun a b => decide (a.plain ≤ b.plain)

/-- The wording of a problem. -/
def Problem.wording : Problem → String
  | .broken (.kinds allowed) v =>
    v.shown ++ " is not of type " ++ ", ".intercalate (allowed.map fun k => Text.quote k.name)
  | .broken .nonEmpty v => v.shown ++ " should be non-empty"
  | .broken .notNegative v => v.shown ++ " is less than the minimum of 0"
  | .broken .positive v => v.shown ++ " is less than or equal to the minimum of 0"
  | .unknown names =>
    "Additional properties are not allowed (" ++
      ", ".intercalate ((sortedNames names).map Value.shown) ++
      (if names.length = 1 then " was" else " were") ++ " unexpected)"

/-- Whether the wording would need an integer with more digits than are converted. -/
def Problem.overlong : Problem → Bool
  | .broken _ v => v.overlong
  | .unknown names => names.any Value.overlong

/-- The line of a violation. -/
def Violation.line (v : Violation) : String :=
  "- config:" ++ "/".intercalate v.path ++ ": " ++ v.problem.wording

end DeviceSampling
