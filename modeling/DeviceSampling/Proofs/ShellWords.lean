/-
# Reading a command as the shell does

The shell cuts a command line into words at the blanks outside quotes.  Between single quotes
every character stands for itself, and between double quotes all but four do.  The reader here
is a strict one.  Outside quotes it takes only characters that mean nothing but themselves, so a
line in which the shell would expand, redirect, comment or start a second command has no words.
What it does read, every shell reads in the same way.

* `argv`: the words of a command line;
* `spell`: words written as arguments, with a blank between two of them;
* `argv_spell`: **words that are spelled are read back,** whatever characters they have.
-/
import DeviceSampling.Shell.Word

namespace DeviceSampling
namespace Shell

/-! ## 1. The reader -/

/-- Whether a character separates words. -/
def isSeparator (c : Char) : Bool := c = ' ' || c = '\t'

/-- The printable characters that mean something to the shell outside quotes: they join, cut or
redirect commands, expand, quote, or start a comment. -/
def operators : List Char := "|&;<>()$\x60\\\"'*?[]#~!^\x7b\x7d".toList

/-- Whether a character means nothing but itself outside quotes. -/
def isPlain (c : Char) : Bool := '!' ≤ c && c ≤ '~' && c ∉ operators

/-- Whether a character means nothing but itself between double quotes. -/
def isLiteral (c : Char) : Bool := c ∉ ['"', '$', '\x60', '\\']

/-- Where a reader stands: between words, or in a word with what was read of it, outside quotes
or between quotes of one kind. -/
inductive Place where
  | between
  | bare (word : List Char)
  | single (word : List Char)
  | double (word : List Char)

namespace Place

/-- The next place in a word, outside quotes. -/
def inWord? (word : List Char) (c : Char) : Option Place :=
  if c = '\'' then some (single word)
  else if c = '"' then some (double word)
  else if isPlain c then some (bare (word ++ [c]))
  else none

/-- One character: the word that ends with it, if any, and the place after it. -/
def step? : Place → Char → Option (List (List Char) × Place)
  | between, c => if isSeparator c then some ([], between) else (inWord? [] c).map ([], ·)
  | bare word, c =>
    if isSeparator c then some ([word], between) else (inWord? word c).map ([], ·)
  | single word, c => some ([], if c = '\'' then bare word else single (word ++ [c]))
  | double word, c =>
    if c = '"' then some ([], bare word)
    else if isLiteral c then some ([], double (word ++ [c]))
    else none

/-- The word that the end of the line ends, if any; a line does not end between quotes. -/
def end? : Place → Option (List (List Char))
  | between => some []
  | bare word => some [word]
  | single _ | double _ => none

end Place

/-- The words from a place on. -/
def wordsFrom : Place → List Char → Option (List (List Char))
  | p, [] => p.end?
  | p, c :: cs => (p.step? c).bind fun (ended, p') => (wordsFrom p' cs).map (ended ++ ·)

/-- The words of a command line; none if it is more, or less, than a row of words. -/
def argv (line : String) : Option (List String) :=
  (wordsFrom .between line.toList).map (·.map String.ofList)

/-! ## 2. Characters -/

/-- Safe characters are ASCII. -/
theorem toNat_lt_of_isSafe {c : Char} (h : isSafe c = true) : c.toNat < 127 := by
  unfold isSafe at h
  rw [Bool.or_eq_true, decide_eq_true_eq] at h
  rcases h with h | h
  · unfold Char.isAlphanum Char.isAlpha Char.isUpper Char.isLower Char.isDigit at h
    simp only [Bool.or_eq_true, Bool.and_eq_true, decide_eq_true_eq, UInt32.le_iff_toNat_le,
      ge_iff_le] at h
    have : c.toNat = c.val.toNat := rfl
    have : 'Z'.val.toNat = 90 := rfl
    have : 'z'.val.toNat = 122 := rfl
    have : '9'.val.toNat = 57 := rfl
    omega
  · have hlisted : ['_', '@', '%', '+', '=', ':', ',', '.', '/', '-'].all (·.toNat < 127) := by
      decide
    exact of_decide_eq_true (List.all_eq_true.1 hlisted c h)

/-- Safe characters are plain. -/
theorem isPlain_of_isSafe {c : Char} (h : isSafe c = true) : isPlain c = true := by
  have hcodes : ∀ n < 127, isSafe (Char.ofNat n) = true → isPlain (Char.ofNat n) = true := by
    decide
  have hc := hcodes c.toNat (toNat_lt_of_isSafe h)
  rw [Char.ofNat_toNat] at hc
  exact hc h

/-- Plain characters do not separate words. -/
theorem isSeparator_of_isPlain {c : Char} (h : isPlain c = true) : isSeparator c = false := by
  unfold isSeparator
  rw [Bool.or_eq_false_iff, decide_eq_false_iff_not, decide_eq_false_iff_not]
  constructor
  · rintro rfl
    exact absurd h (by decide)
  · rintro rfl
    exact absurd h (by decide)

/-- Plain characters open no quotes. -/
theorem ne_quote_of_isPlain {c : Char} (h : isPlain c = true) : c ≠ '\'' ∧ c ≠ '"' := by
  constructor
  · rintro rfl
    exact absurd h (by decide)
  · rintro rfl
    exact absurd h (by decide)

/-! ## 3. What an argument is read as -/

variable {word cs rest : List Char}

/-- In a word, a plain character is the next of the word. -/
theorem wordsFrom_plain {c : Char} (h : isPlain c = true) :
    wordsFrom (.bare word) (c :: rest) = wordsFrom (.bare (word ++ [c])) rest := by
  simp [wordsFrom, Place.step?, Place.inWord?, isSeparator_of_isPlain h, ne_quote_of_isPlain h, h]

/-- Plain characters are read as they are. -/
theorem wordsFrom_plains (h : ∀ c ∈ cs, isPlain c = true) :
    wordsFrom (.bare word) (cs ++ rest) = wordsFrom (.bare (word ++ cs)) rest := by
  induction cs generalizing word with
  | nil => simp
  | cons c cs ih =>
    rw [List.forall_mem_cons] at h
    rw [List.cons_append, wordsFrom_plain h.1, ih h.2, List.append_assoc, List.singleton_append]

/-- Between single quotes a character other than the quote is read as it is, and a quote that is
taken out of them is read as a quote. -/
theorem wordsFrom_quoteChar (c : Char) :
    wordsFrom (.single word) (quoteChar c ++ rest) = wordsFrom (.single (word ++ [c])) rest := by
  by_cases hc : c = '\''
  · subst hc
    simp [quoteChar, wordsFrom, Place.step?, Place.inWord?, isSeparator, isLiteral,
      Function.comp_def]
  · simp [quoteChar, wordsFrom, Place.step?, hc]

/-- What stands between single quotes is read as it is, to the quote that ends it. -/
theorem wordsFrom_quoted :
    wordsFrom (.single word) (cs.flatMap quoteChar ++ '\'' :: rest) =
      wordsFrom (.bare (word ++ cs)) rest := by
  induction cs generalizing word with
  | nil => simp [wordsFrom, Place.step?]
  | cons c cs ih =>
    rw [List.flatMap_cons, List.append_assoc, wordsFrom_quoteChar, ih, List.append_assoc,
      List.singleton_append]

/-- The beginning of a word is a word of which nothing is read yet. -/
theorem wordsFrom_between {c : Char} (h : isSeparator c = false) :
    wordsFrom .between (c :: rest) = wordsFrom (.bare []) (c :: rest) := by
  simp [wordsFrom, Place.step?, h]

/-- **An argument is read as what was quoted,** whatever characters it has. -/
theorem wordsFrom_quoteChars (cs rest : List Char) :
    wordsFrom .between (quoteChars cs ++ rest) = wordsFrom (.bare cs) rest := by
  unfold quoteChars
  split
  · next hempty =>
    obtain rfl := List.isEmpty_iff.1 hempty
    simp [wordsFrom, Place.step?, Place.inWord?, isSeparator, Function.comp_def]
  split
  · next hne hsafe =>
    obtain ⟨c, cs, rfl⟩ := List.exists_cons_of_ne_nil (fun h => hne (List.isEmpty_iff.2 h))
    rw [List.all_eq_true] at hsafe
    have hplain : ∀ d ∈ c :: cs, isPlain d = true := fun d hd => isPlain_of_isSafe (hsafe d hd)
    have hc := isSeparator_of_isPlain (hplain c List.mem_cons_self)
    rw [List.cons_append, wordsFrom_between hc, ← List.cons_append, wordsFrom_plains hplain,
      List.nil_append]
  · rw [List.cons_append, List.append_assoc, List.singleton_append,
      wordsFrom_between (by decide)]
    have hopen : wordsFrom (.bare []) ('\'' :: (cs.flatMap quoteChar ++ '\'' :: rest)) =
        wordsFrom (.single []) (cs.flatMap quoteChar ++ '\'' :: rest) := by
      simp [wordsFrom, Place.step?, Place.inWord?, isSeparator]
    rw [hopen, wordsFrom_quoted, List.nil_append]

/-! ## 4. Rows of words -/

/-- Words as arguments, with a blank between two of them. -/
def spellChars (ws : List (List Char)) : List Char :=
  List.intercalate [' '] (ws.map quoteChars)

/-- Words as arguments, with a blank between two of them. -/
def spell (ws : List String) : String := String.ofList (spellChars (ws.map String.toList))

theorem wordsFrom_spellChars (ws : List (List Char)) :
    wordsFrom .between (spellChars ws) = some ws := by
  induction ws with
  | nil => rfl
  | cons w ws ih =>
    cases ws with
    | nil =>
      have h := wordsFrom_quoteChars w []
      rw [List.append_nil] at h
      simpa [spellChars, List.intercalate, wordsFrom, Place.end?] using h
    | cons w' ws =>
      have hcut : spellChars (w :: w' :: ws) = quoteChars w ++ ' ' :: spellChars (w' :: ws) := by
        simp [spellChars, List.intercalate]
      rw [hcut, wordsFrom_quoteChars]
      simp [wordsFrom, Place.step?, isSeparator, ih]

/-- **Words that are spelled are read back,** each as it was, and no other. -/
theorem argv_spell (ws : List String) : argv (spell ws) = some ws := by
  simp [argv, spell, wordsFrom_spellChars]

/-- Quotes, blanks, a line feed, a variable, a home directory and no character at all. -/
example : argv (spell ["it's", " a\tb ", "\n", "$x; $(y)", "~", ""]) =
    some ["it's", " a\tb ", "\n", "$x; $(y)", "~", ""] := by decide

end Shell
end DeviceSampling
