/-
# Lines

A text is cut into lines at every line boundary of Unicode; a carriage return with a line feed
after it is one boundary.  A boundary at the very end starts no further line.

* `lines` gives the lines without their boundaries;
* `not_isBoundary_of_mem_lines`: no line holds a boundary character.
-/
namespace DeviceSampling.Text

/-- Whether the character ends a line. -/
def isBoundary (c : Char) : Bool :=
  let n := c.toNat
  (0x0A ≤ n && n ≤ 0x0D) || (0x1C ≤ n && n ≤ 0x1E) || n == 0x85 || n == 0x2028 || n == 0x2029

/-- Puts a character in front of the first line. -/
def consFirst (c : Char) : List (List Char) → List (List Char)
  | [] => [[c]]
  | l :: ls => (c :: l) :: ls

/-- The lines of a text. -/
def lines : List Char → List (List Char)
  | [] => []
  | '\r' :: '\n' :: rest => [] :: lines rest
  | c :: rest => if isBoundary c then [] :: lines rest else consFirst c (lines rest)

theorem not_isBoundary_of_mem_lines {cs l : List Char} (hl : l ∈ lines cs) {c : Char}
    (hc : c ∈ l) : isBoundary c = false := by
  fun_induction lines cs generalizing l with
  | case1 => simp at hl
  | case2 rest ih =>
    rcases List.mem_cons.1 hl with rfl | hl
    · simp at hc
    · exact ih hl hc
  | case3 d rest _ hd ih =>
    rcases List.mem_cons.1 hl with rfl | hl
    · simp at hc
    · exact ih hl hc
  | case4 d rest _ hd ih =>
    unfold consFirst at hl
    split at hl
    · obtain rfl := List.mem_singleton.1 hl
      obtain rfl := List.mem_singleton.1 hc
      simpa using hd
    · next m ms hm =>
      rcases List.mem_cons.1 hl with rfl | hl
      · rcases List.mem_cons.1 hc with rfl | hc
        · simpa using hd
        · exact ih (hm ▸ List.mem_cons_self) hc
      · exact ih (hm ▸ List.mem_cons_of_mem _ hl) hc

end DeviceSampling.Text
