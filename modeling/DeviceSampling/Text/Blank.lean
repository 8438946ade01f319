/-
# Blank characters

Blanks separate words and are trimmed from the ends of a text: the white space of Unicode and
the four separators `U+001C` to `U+001F`.

* `trim` cuts a text at its ends, `words` at every run of blanks.
-/
namespace DeviceSampling.Text

/-! ## 1. The class -/

/-- Whether the character is blank. -/
def isBlank (c : Char) : Bool :=
  let n := c.toNat
  (0x09 ≤ n && n ≤ 0x0D) || (0x1C ≤ n && n ≤ 0x20) || n == 0x85 || n == 0xA0 || n == 0x1680 ||
    (0x2000 ≤ n && n ≤ 0x200A) || n == 0x2028 || n == 0x2029 || n == 0x202F || n == 0x205F ||
    n == 0x3000

/-! ## 2. Trimming -/

/-- Drops the blanks in front. -/
def trimLeft (cs : List Char) : List Char := cs.dropWhile isBlank

/-- Drops the blanks at the end. -/
def trimRight (cs : List Char) : List Char := (cs.reverse.dropWhile isBlank).reverse

/-- Drops the blanks at both ends. -/
def trim (cs : List Char) : List Char := trimRight (trimLeft cs)

/-- A text without the blanks at its ends. -/
def strip (s : String) : String := String.ofList (trim s.toList)

/-- Whether the text consists of blanks only. -/
def isBlankText (s : String) : Bool := s.toList.all isBlank

/-! ## 3. Words -/

/-- The first word and what follows it. -/
def nextWord (cs : List Char) : List Char × List Char :=
  ((trimLeft cs).takeWhile (!isBlank ·), (trimLeft cs).dropWhile (!isBlank ·))

theorem nextWord_rest_length_lt {cs : List Char} (h : (nextWord cs).1 ≠ []) :
    (nextWord cs).2.length < cs.length := by
  have hl : (trimLeft cs).length ≤ cs.length := (List.dropWhile_sublist _).length_le
  have := congrArg List.length (List.takeWhile_append_dropWhile (p := (!isBlank ·)) (l := trimLeft cs))
  have hp := List.length_pos_iff.2 h
  simp only [nextWord, List.length_append] at *
  omega

/-- The words of a text: the runs of characters between blanks. -/
def words (cs : List Char) : List (List Char) :=
  if _h : (nextWord cs).1 = [] then [] else (nextWord cs).1 :: words (nextWord cs).2
termination_by cs.length
decreasing_by exact nextWord_rest_length_lt _h

end DeviceSampling.Text
