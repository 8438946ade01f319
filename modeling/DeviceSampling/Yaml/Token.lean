/-
# YAML tokens

The lexemes of a YAML text, with the marks that indentation puts between them: where a block
collection starts and ends, and which entries are keys.

A text that cannot be cut further ends in a token that carries the fault, so that what stands
before it can still be looked at.
-/
import DeviceSampling.Number.Numeral
import DeviceSampling.Yaml.Cursor

namespace DeviceSampling
namespace Yaml

/-- Why a text cannot be cut into tokens. -/
inductive ScanFault where
  /-- The text is not YAML. -/
  | malformed
  /-- An escape is for a number that no character has. -/
  | noCharacter
  /-- An escape is for a number of more than 31 bits. -/
  | hugeCharacter
  /-- A version number has too many digits. -/
  | version (fault : Numeral.IntegerFault)
  deriving DecidableEq, Repr

/-- What scanning gives: as a rule a pair with the place after it. -/
abbrev Scan (α : Type) : Type := Except ScanFault α

/-- A directive in front of a document. -/
inductive Directive where
  | version (major : Int)
  /-- A handle, and what tags with that handle begin with. -/
  | handle (handle stem : String)
  | other
  deriving DecidableEq, Repr

/-- A tag as written: a handle, unless the tag is verbatim, and the rest. -/
structure TagName where
  handle : Option String
  suffix : String
  deriving DecidableEq, Repr

/-- A lexeme or a mark. -/
inductive Token where
  | directive (d : Directive)
  | documentStart
  | documentEnd
  | blockSequence
  | blockMapping
  | blockEnd
  | flowSequence
  | flowSequenceEnd
  | flowMapping
  | flowMappingEnd
  /-- The dash of an entry. -/
  | entry
  | comma
  | key
  | value
  | alias (name : String)
  | anchor (name : String)
  | tag (name : TagName)
  | scalar (text : String) (plain : Bool)
  | streamEnd
  | fault (f : ScanFault)
  deriving DecidableEq, Repr

/-- A line break between words: one alone is a space, and of several the first is dropped, unless
it separates lines or paragraphs by its own right. -/
def foldBreaks (first more : List Char) : List Char :=
  if first ≠ ['\n'] then first ++ more else if more.isEmpty then [' '] else more

end Yaml
end DeviceSampling
