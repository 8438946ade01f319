/-
# The grammar of command lines

A command line is a list of words.  A word that begins with a dash names an option, in full or by
an abbreviation that fits only one; its value follows after an equals sign or as the next word.
The other words are operands.  After two dashes alone all words are operands, and what looks like
a negative number or holds a space is an operand too, unless it fits an option.

* `classify` says what one word is taken for;
* `scan` goes through a command line from left to right.  Options that the grammar does not know
  and operands that it has no place for are left over; every other fault ends the scan.
-/
import DeviceSampling.Text.Digit
import DeviceSampling.Text.Quoted

namespace DeviceSampling
namespace CommandLine

/-! ## 1. Faults -/

/-- Why a command line cannot be followed. -/
inductive UsageFault where
  /-- An abbreviation fits several options. -/
  | ambiguous (word : String) (options : List String)
  /-- The value of an option is missing. -/
  | noValue (option : String)
  /-- An option that takes no value has one. -/
  | unwantedValue (option value : String)
  /-- The value of an option is no number. -/
  | notNumber (option value : String)
  /-- An operand is not one of those that may stand there. -/
  | badChoice (operand value : String) (choices : List String)
  /-- Options or operands that must be there are not. -/
  | missing (names : List String)
  | leftOver (words : List String)
  deriving DecidableEq, Repr

/-- The message of a usage fault. -/
def UsageFault.message : UsageFault → String
  | .ambiguous word options =>
    "ambiguous option: " ++ word ++ " could match " ++ ", ".intercalate options
  | .noValue option => "argument " ++ option ++ ": expected one argument"
  | .unwantedValue option value =>
    "argument " ++ option ++ ": ignored explicit argument " ++ Text.quote value
  | .notNumber option value =>
    "argument " ++ option ++ ": invalid float value: " ++ Text.quote value
  | .badChoice operand value choices =>
    "argument " ++ operand ++ ": invalid choice: " ++ Text.quote value ++ " (choose from " ++
      ", ".intercalate (choices.map Text.quote) ++ ")"
  | .missing names => "the following arguments are required: " ++ ", ".intercalate names
  | .leftOver words => "unrecognized arguments: " ++ " ".intercalate words

/-! ## 2. Options -/

/-- What comes with an option. -/
inductive OptionKind where
  | value
  | flag
  /-- A flag that asks for help, and for nothing else. -/
  | help
  deriving DecidableEq, Repr

/-- An option: its spellings, what it stands for, and what comes with it. -/
structure OptionRule (κ : Type) where
  spellings : List String
  key : κ
  kind : OptionKind := .value
  required : Bool := false
  /-- What is wrong with a value. -/
  problem : String → Option UsageFault := fun _ => none

/-- The name of an option in messages. -/
def OptionRule.name {κ : Type} (r : OptionRule κ) : String := "/".intercalate r.spellings

/-- A value that stands in the same word as its option: after an equals sign, or right after the
letter of a short option. -/
inductive Attached where
  | afterEquals (value : String)
  | afterLetter (value : String)
  deriving DecidableEq, Repr

/-- The text of an attached value. -/
def Attached.value : Attached → String
  | .afterEquals v | .afterLetter v => v

/-- What a word is taken for. -/
inductive Role (κ : Type) where
  | operand
  /-- Two dashes alone. -/
  | divider
  /-- An option under one of its spellings. -/
  | option (rule : OptionRule κ) (spelling : String) (attached : Option Attached)
  /-- An option that the grammar does not know. -/
  | unknown

variable {κ : Type}

/-- All spellings, in order. -/
def spellings (rules : List (OptionRule κ)) : List (String × OptionRule κ) :=
  rules.flatMap fun r => r.spellings.map (·, r)

/-- Splits a word at its first equals sign. -/
def splitEquals? (word : List Char) : Option (List Char × List Char) :=
  if '=' ∈ word then
    some (word.takeWhile (· ≠ '='), (word.dropWhile (· ≠ '=')).drop 1)
  else none

/-- The options that a word may abbreviate.  After two dashes it is what stands before an equals
sign; after one dash the first letter may be a short option, with a value right after it. -/
def candidates (rules : List (OptionRule κ)) (word : List Char) :
    List (OptionRule κ × String × Option Attached) :=
  match word with
  | '-' :: '-' :: _ =>
    let (stem, attached) := match splitEquals? word with
      | some (stem, value) => (stem, some (Attached.afterEquals (String.ofList value)))
      | none => (word, none)
    (spellings rules).filterMap fun (s, r) =>
      if stem.isPrefixOf s.toList then some (r, s, attached) else none
  | _ =>
    (spellings rules).filterMap fun (s, r) =>
      if s.toList = word.take 2 then
        some (r, s, some (.afterLetter (String.ofList (word.drop 2))))
      else if word.isPrefixOf s.toList then some (r, s, none)
      else none

/-- Whether a word is a negative number: digits, with a point in front of the last ones or
without.  A line feed at the end does not count. -/
def isNegativeNumber (word : List Char) : Bool :=
  let cs := match word.reverse with
    | '\n' :: rest => rest.reverse
    | _ => word
  match cs with
  | '-' :: body =>
    match body.dropWhile Text.isDigit with
    | [] => !body.isEmpty
    | '.' :: fraction => !fraction.isEmpty && fraction.all Text.isDigit
    | _ => false
  | _ => false

/-- What a word is taken for, before any divider. -/
def classify (rules : List (OptionRule κ)) (word : String) : Except UsageFault (Role κ) :=
  let cs := word.toList
  let find (name : String) := (spellings rules).find? fun e => e.1 = name
  if cs.head? ≠ some '-' then .ok .operand
  else match find word with
    | some (s, r) => .ok (.option r s none)
    | none =>
      if cs.length = 1 then .ok .operand
      else match (splitEquals? cs).bind fun (stem, value) =>
          (find (String.ofList stem)).map fun e => (e, String.ofList value) with
        | some ((s, r), value) => .ok (.option r s (some (.afterEquals value)))
        | none =>
          match candidates rules cs with
          | [(r, s, attached)] => .ok (.option r s attached)
          | [] =>
            if isNegativeNumber cs || ' ' ∈ cs then .ok .operand else .ok .unknown
          | several => .error (.ambiguous word (several.map fun c => c.2.1))

/-- What the words of a command line are taken for. -/
def classifyAll (rules : List (OptionRule κ)) :
    List String → Except UsageFault (List (String × Role κ))
  | [] => .ok []
  | word :: rest =>
    if word = "--" then .ok ((word, .divider) :: rest.map (·, .operand))
    else do
      let role ← classify rules word
      return (word, role) :: (← classifyAll rules rest)

/-! ## 3. Going through a command line -/

/-- Which operands there is a place for. -/
inductive Operands where
  | none
  /-- One operand. -/
  | one (name : String)
  /-- A command, with all that follows it. -/
  | command (name : String)
  deriving DecidableEq, Repr

/-- A grammar. -/
structure Grammar (κ : Type) where
  options : List (OptionRule κ)
  operands : Operands := .none

/-- What was found on a command line. -/
structure Findings (κ : Type) where
  /-- The options with their values, in order; one without a value has the empty text. -/
  options : List (κ × String) := []
  /-- The operands that were taken, once they were. -/
  operands : Option (List String) := none
  leftOver : List String := []

/-- Whether a scan is cut short. -/
inductive Stop where
  /-- An option asked for help. -/
  | help
  | fault (f : UsageFault)
  deriving DecidableEq, Repr

/-- Whether a word is the divider. -/
def Role.isDivider : Role κ → Bool
  | .divider => true
  | _ => false

/-- Whether a word is an option, known or not. -/
def Role.isOption : Role κ → Bool
  | .option .. | .unknown => true
  | _ => false

/-- How many words are taken as operands at a place: dividers around one operand, or, after a
command, all. -/
def operandCount (operands : Operands) (words : List (String × Role κ)) : Nat :=
  let before := (words.takeWhile fun w => w.2.isDivider).length
  match operands, words.drop before with
  | .one _, (_, .operand) :: rest => before + 1 + (rest.takeWhile fun w => w.2.isDivider).length
  | .command _, (_, .operand) :: rest => before + 1 + rest.length
  | _, _ => 0

/-- The operand among the words taken for it, which may be led by a divider. -/
def withoutDivider (words : List String) : List String := words.erase "--"

/-- The findings with the operands at a place taken, and how many words they are. -/
def takeOperands (operands : Operands) (found : Findings κ) (words : List (String × Role κ)) :
    Findings κ × Nat :=
  match found.operands with
  | some _ => (found, 0)
  | none =>
    let count := operandCount operands words
    if count = 0 then (found, 0)
    else
      let taken := (words.take count).map (·.1)
      let kept := match operands with
        | .command _ => taken
        | _ => withoutDivider taken
      ({ found with operands := some kept }, count)

/-- What follows the letter of a short option that has no value: letters of further options, but
no value. -/
def checkLetters (rule : OptionRule κ) (rules : List (OptionRule κ)) :
    List Char → Except Stop Unit
  | [] => .ok ()
  | c :: rest =>
    if c = '-' then .error (.fault (.unwantedValue rule.name (String.ofList (c :: rest))))
    else if c = '=' then .error (.fault (.unwantedValue rule.name (String.ofList rest)))
    else if ((spellings rules).find? fun e => e.1 = String.ofList ['-', c]).isSome then
      checkLetters rule rules rest
    else .ok ()

/-- An option, with the words after it: the findings, and the words left. -/
def takeOption (g : Grammar κ) (found : Findings κ) (rule : OptionRule κ)
    (spelling : String) (attached : Option Attached) (rest : List (String × Role κ)) :
    Except Stop (Findings κ × List (String × Role κ)) :=
  let noted (value : String) := { found with options := found.options ++ [(rule.key, value)] }
  if rule.kind = .value then
    let checked (value : String) (rest : List (String × Role κ)) :=
      match rule.problem value with
      | some f => Except.error (Stop.fault f)
      | none => .ok (noted value, rest)
    match attached, rest with
    | some a, _ => checked a.value rest
    | none, (value, .operand) :: rest' => checked value rest'
    | none, _ => .error (.fault (.noValue rule.name))
  else
    let go : Except Stop (Findings κ × List (String × Role κ)) :=
      if rule.kind = .help then .error .help else .ok (noted "", rest)
    match attached with
    | none => go
    | some (.afterEquals value) => .error (.fault (.unwantedValue rule.name value))
    | some (.afterLetter value) =>
      if spelling.length ≠ 2 || value.isEmpty then
        .error (.fault (.unwantedValue rule.name value))
      else match value.toList with
        | '=' :: _ => .error (.fault (.unwantedValue rule.name value))
        | cs => do
          checkLetters rule g.options cs
          go

/-- Goes through the words.  Every step takes one word at least. -/
def scanFrom (g : Grammar κ) :
    Nat → Findings κ → List (String × Role κ) → Except Stop (Findings κ)
  | 0, found, _ => .ok found
  | steps + 1, found, words =>
    if !words.any fun w => w.2.isOption then
      let (found', count) := takeOperands g.operands found words
      .ok { found' with leftOver := found'.leftOver ++ (words.drop count).map (·.1) }
    else match words with
      | (_, .option rule spelling attached) :: rest =>
        match takeOption g found rule spelling attached rest with
        | .error stop => .error stop
        | .ok (found', rest') => scanFrom g steps found' rest'
      | (word, .unknown) :: rest =>
        scanFrom g steps { found with leftOver := found.leftOver ++ [word] } rest
      | _ =>
        let (found', count) := takeOperands g.operands found words
        let skipped := if count ≠ 0 then 0 else (words.takeWhile fun w => !w.2.isOption).length
        scanFrom g steps
          { found' with leftOver := found'.leftOver ++ (words.take skipped).map (·.1) }
          (words.drop (count + skipped))

/-- The value of an option; if it comes several times, the last. -/
def Findings.last? [DecidableEq κ] (found : Findings κ) (key : κ) : Option String :=
  (found.options.reverse.find? fun o => o.1 = key).map (·.2)

/-- All values of an option, in order. -/
def Findings.all [DecidableEq κ] (found : Findings κ) (key : κ) : List String :=
  (found.options.filter fun o => o.1 = key).map (·.2)

/-- The names of what must be there and is not. -/
def missingNames [DecidableEq κ] (g : Grammar κ) (found : Findings κ) : List String :=
  let options := g.options.filterMap fun r =>
    if r.required && !found.options.any (·.1 = r.key) then some r.name else none
  match g.operands, found.operands with
  | .one name, none | .command name, none => options ++ [name]
  | _, _ => options

/-- Goes through a command line. -/
def scan [DecidableEq κ] (g : Grammar κ) (words : List String) : Except Stop (Findings κ) :=
  match classifyAll g.options words with
  | .error f => .error (.fault f)
  | .ok roles =>
    match scanFrom g (roles.length + 1) {} roles with
    | .error stop => .error stop
    | .ok found =>
      match missingNames g found with
      | [] => .ok found
      | names => .error (.fault (.missing names))

end CommandLine
end DeviceSampling
