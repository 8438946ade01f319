/-
# Writing JSON

A text is written in ASCII between double quotes: what is outside `U+0020 .. U+007E` becomes a
short escape or code units of four hexadecimal digits each, two of them beyond `U+FFFF`.  A
mapping of texts is written as an object, one entry to a line, its names in increasing order.

* `quoteText` writes a text, `writeMetrics` a mapping.
-/
import DeviceSampling.Report.Metrics
import DeviceSampling.Text.Quoted

namespace DeviceSampling
namespace Json

/-! ## 1. Texts -/

/-- A code unit as an escape. -/
def unitEscape (unit : Nat) : List Char := '\\' :: 'u' :: Text.hexDigits 4 unit

/-- One character between double quotes. -/
def writeChar (c : Char) : List Char :=
  if c = '"' then ['\\', '"']
  else if c = '\\' then ['\\', '\\']
  else if c = '\n' then ['\\', 'n']
  else if c = '\r' then ['\\', 'r']
  else if c = '\t' then ['\\', 't']
  else if c = '\x0c' then ['\\', 'f']
  else if c = '\x08' then ['\\', 'b']
  else if 0x20 ≤ c.toNat ∧ c.toNat ≤ 0x7E then [c]
  else if c.toNat < 0x10000 then unitEscape c.toNat
  else
    unitEscape (0xD800 + (c.toNat - 0x10000) / 0x400) ++
      unitEscape (0xDC00 + (c.toNat - 0x10000) % 0x400)

/-- A text between double quotes. -/
def quoteText (s : String) : List Char := '"' :: (s.toList.flatMap writeChar ++ ['"'])

/-! ## 2. Mappings -/

/-- The entries in the order of their keys. -/
def sortedEntries (m : Metrics) : List (String × String) :=
  m.entries.mergeSort fun a b => decide (a.1 ≤ b.1)

/-- One entry on a line of its own. -/
def writeEntry (e : String × String) : List Char :=
  '\n' :: ' ' :: ' ' :: (quoteText e.1 ++ ':' :: ' ' :: quoteText e.2)

/-- A mapping of texts. -/
def writeMetrics (m : Metrics) : String :=
  if m.entries.isEmpty then "\x7b\x7d"
  else
    String.ofList ('\x7b' ::
      (List.intercalate [','] ((sortedEntries m).map writeEntry) ++ ['\n', '\x7d']))

end Json
end DeviceSampling
