/-
# Words of a shell command

A command line is text for a shell, so an argument is quoted: a text of safe characters stands
as it is, the empty text is a pair of single quotes, and any other text stands between single
quotes, where a single quote is taken out and put between double quotes.

* `quoteWord` writes one argument.
-/
namespace DeviceSampling.Shell

/-- Whether a character means itself wherever it stands in a command. -/
def isSafe (c : Char) : Bool :=
  c.isAlphanum || c ∈ ['_', '@', '%', '+', '=', ':', ',', '.', '/', '-']

/-- One character between single quotes. -/
def quoteChar (c : Char) : List Char :=
  if c = '\'' then ['\'', '"', '\'', '"', '\''] else [c]

/-- One argument of a command. -/
def quoteChars (cs : List Char) : List Char :=
  if cs.isEmpty then ['\'', '\'']
  else if cs.all isSafe then cs
  else '\'' :: (cs.flatMap quoteChar ++ ['\''])

/-- One argument of a command. -/
def quoteWord (s : String) : String := String.ofList (quoteChars s.toList)

end DeviceSampling.Shell
