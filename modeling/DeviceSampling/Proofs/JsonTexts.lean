/-
# Metrics written in JSON read back

A mapping of texts that is written in JSON is read back as it was, with its names in increasing
order, whatever characters the texts hold.  The reader takes the text apart as the writer put it
together: code units, texts, tokens, entries.

* `hexNumber?_hexDigits`: hexadecimal digits of fixed width;
* `unitsOf`, `scanUnits_writeChar`, `joinUnits_unitsOf`: one character, as code units;
* `scanText_writeChars`: a text in quotes;
* `Lexes`: a text that is cut into these tokens; `lexes_entries`: the entries of an object;
* `Reads`: tokens that the machine reads as this value; `reads_rest`: those of entries;
* `sortedEntries_increasing`: the names in increasing order;
* `read_writeMetrics`: **metrics that are written are read back.**
-/
import Mathlib.Data.String.Basic
import DeviceSampling.Json.Reader
import DeviceSampling.Json.Writer
import DeviceSampling.Proofs.Metrics

namespace DeviceSampling

/-! ## 1. Hexadecimal digits -/

namespace Text

theorem hexValue?_hexDigit : ∀ d < 16, hexValue? (hexDigit d) = some d := by decide

/-- One more digit. -/
theorem hexNumber?_concat (ds : List Char) (c : Char) :
    hexNumber? (ds ++ [c]) = (hexNumber? ds).bind fun n => (hexValue? c).map (n * 16 + ·) := by
  unfold hexNumber?
  rw [List.foldl_append]
  rfl

/-- **The last digits of a number** stand for what they leave of it. -/
theorem hexNumber?_hexDigits (width n : Nat) :
    hexNumber? (hexDigits width n) = some (n % 16 ^ width) := by
  induction width generalizing n with
  | zero => simp [hexDigits, hexNumber?, Nat.mod_one]
  | succ width ih =>
    rw [hexDigits, hexNumber?_concat, ih, hexValue?_hexDigit _ (Nat.mod_lt n (by decide)),
      Nat.pow_succ, Nat.mul_comm (16 ^ width), Nat.mod_mul]
    simp only [Option.bind_some, Option.map_some, Option.some.injEq]
    omega

end Text

namespace Json

/-! ## 2. One character -/

/-- The code units of a character. -/
def unitsOf (c : Char) : List Nat :=
  if c.toNat < 0x10000 then [c.toNat]
  else [0xD800 + (c.toNat - 0x10000) / 0x400, 0xDC00 + (c.toNat - 0x10000) % 0x400]

theorem toNat_lt (c : Char) : c.toNat < 0x110000 := by
  rcases c.valid with h | h
  · exact Nat.lt_trans h (by decide)
  · exact h.2

/-- A character is no surrogate. -/
theorem not_surrogate (c : Char) : ¬ (0xD800 ≤ c.toNat ∧ c.toNat < 0xE000) := by
  rcases c.valid with h | h
  · have : c.toNat < 0xD800 := h
    omega
  · have : 0xDFFF < c.toNat := h.1
    omega

/-- **Code units join to their character.** -/
theorem joinUnits_unitsOf (c : Char) (units : List Nat) :
    joinUnits (unitsOf c ++ units) = c :: joinUnits units := by
  have hnot := not_surrogate c
  have hone : joinUnits.oneUnit c.toNat = c := by
    rw [joinUnits.oneUnit, if_neg hnot, Char.ofNat_toNat]
  unfold unitsOf
  split
  · match units with
    | [] =>
      show [joinUnits.oneUnit c.toNat] = [c]
      rw [hone]
    | low :: rest =>
      have hhigh : ¬ (0xD800 ≤ c.toNat ∧ c.toNat < 0xDC00 ∧ 0xDC00 ≤ low ∧ low < 0xE000) := by omega
      rw [List.singleton_append, joinUnits, if_neg hhigh, hone]
  · next hbig =>
    have hlt := toNat_lt c
    have hpair : 0xD800 ≤ 0xD800 + (c.toNat - 0x10000) / 0x400 ∧
        0xD800 + (c.toNat - 0x10000) / 0x400 < 0xDC00 ∧
        0xDC00 ≤ 0xDC00 + (c.toNat - 0x10000) % 0x400 ∧
        0xDC00 + (c.toNat - 0x10000) % 0x400 < 0xE000 := by omega
    have hsum : 0x10000 + (0xD800 + (c.toNat - 0x10000) / 0x400 - 0xD800) * 0x400 +
        (0xDC00 + (c.toNat - 0x10000) % 0x400 - 0xDC00) = c.toNat := by omega
    show joinUnits (_ :: _ :: units) = _
    rw [joinUnits, if_pos hpair, hsum, Char.ofNat_toNat]

/-- What an escape of four digits is read as. -/
theorem scanUnits_unitEscape {unit : Nat} (h : unit < 0x10000) {rest : List Char}
    (hrest : rest ≠ []) :
    scanUnits (unitEscape unit ++ rest) =
      (scanUnits rest).map fun p => (unit :: p.1, p.2) := by
  have hdigits : Text.hexDigits 4 unit = [Text.hexDigit (unit / 16 / 16 / 16 % 16),
      Text.hexDigit (unit / 16 / 16 % 16), Text.hexDigit (unit / 16 % 16),
      Text.hexDigit (unit % 16)] := rfl
  have hnumber := Text.hexNumber?_hexDigits 4 unit
  rw [Nat.mod_eq_of_lt h, hdigits] at hnumber
  have hempty : rest.isEmpty = false := by
    rw [List.isEmpty_eq_false_iff]
    exact hrest
  unfold unitEscape
  rw [hdigits]
  simp only [List.cons_append, List.nil_append]
  rw [scanUnits, hnumber, hempty]

/-- What an escape of one letter is read as. -/
theorem scanUnits_simpleEscape {letter c : Char} (h : simpleEscape? letter = some c)
    (hu : letter ≠ 'u') (rest : List Char) :
    scanUnits ('\\' :: letter :: rest) =
      (scanUnits rest).map fun p => (c.toNat :: p.1, p.2) := by
  rw [scanUnits, h]
  · exact fun _ _ _ _ _ h _ => hu h
  · exact hu

/-- A character that is neither quote nor backslash nor control is read as it is. -/
theorem scanUnits_plain {c : Char} (hquote : c ≠ '"') (hslash : c ≠ '\\') (h : 0x20 ≤ c.toNat)
    (rest : List Char) :
    scanUnits (c :: rest) = (scanUnits rest).map fun p => (c.toNat :: p.1, p.2) := by
  rw [scanUnits, if_neg (Nat.not_lt.2 h)]
  · exact hquote
  · exact fun h _ => hslash h
  · exact fun _ _ _ _ _ h _ => hslash h
  · exact fun _ h _ => hslash h
  · exact fun _ _ h _ => hslash h

/-- **A written character is read as its code units.** -/
theorem scanUnits_writeChar (c : Char) {rest : List Char} (hrest : rest ≠ []) :
    scanUnits (writeChar c ++ rest) =
      (scanUnits rest).map fun p => (unitsOf c ++ p.1, p.2) := by
  have hsimple : ∀ {letter : Char} {c : Char}, simpleEscape? letter = some c → letter ≠ 'u' →
      c.toNat < 0x10000 → scanUnits (['\\', letter] ++ rest) =
        (scanUnits rest).map fun p => (unitsOf c ++ p.1, p.2) := by
    intro letter c h hu hc
    unfold unitsOf
    rw [if_pos hc]
    exact scanUnits_simpleEscape h hu rest
  unfold writeChar
  split
  · next h => rw [h]; exact hsimple rfl (by decide) (by decide)
  split
  · next h => rw [h]; exact hsimple rfl (by decide) (by decide)
  split
  · next h => rw [h]; exact hsimple rfl (by decide) (by decide)
  split
  · next h => rw [h]; exact hsimple rfl (by decide) (by decide)
  split
  · next h => rw [h]; exact hsimple rfl (by decide) (by decide)
  split
  · next h => rw [h]; exact hsimple rfl (by decide) (by decide)
  split
  · next h => rw [h]; exact hsimple rfl (by decide) (by decide)
  split
  · next hquote hslash _ _ _ _ _ h =>
    unfold unitsOf
    rw [if_pos (by omega)]
    exact scanUnits_plain hquote hslash h.1 rest
  split
  · next h =>
    unfold unitsOf
    rw [if_pos h]
    exact scanUnits_unitEscape h hrest
  · next h =>
    have hlt := toNat_lt c
    have htwo : unitEscape (0xDC00 + (c.toNat - 0x10000) % 0x400) ++ rest ≠ [] := by
      simp [unitEscape]
    unfold unitsOf
    rw [if_neg h, List.append_assoc, scanUnits_unitEscape (by omega) htwo,
      scanUnits_unitEscape (by omega) hrest]
    cases scanUnits rest <;> rfl

/-! ## 3. Texts -/

/-- The code units of a written text. -/
theorem scanUnits_writeChars (cs rest : List Char) :
    scanUnits (cs.flatMap writeChar ++ '"' :: rest) = .ok (cs.flatMap unitsOf, rest) := by
  induction cs with
  | nil => rfl
  | cons c cs ih =>
    rw [List.flatMap_cons, List.append_assoc,
      scanUnits_writeChar c (List.append_ne_nil_of_right_ne_nil _ (List.cons_ne_nil _ _)), ih]
    rfl

theorem joinUnits_flatMap (cs : List Char) : joinUnits (cs.flatMap unitsOf) = cs := by
  induction cs with
  | nil => rfl
  | cons c cs ih => rw [List.flatMap_cons, joinUnits_unitsOf, ih]

/-- **A written text is read as it was.** -/
theorem scanText_writeChars (s : String) (rest : List Char) :
    scanText (s.toList.flatMap writeChar ++ '"' :: rest) = .ok (s, rest) := by
  unfold scanText
  rw [scanUnits_writeChars]
  simp only [Except.map, joinUnits_flatMap, String.ofList_toList]

/-! ## 4. Tokens -/

/-- **The text is cut into these tokens,** however many steps are left beyond its length. -/
def Lexes (cs : List Char) (ts : List Token) : Prop :=
  ∀ steps, cs.length ≤ steps → (tokensWithin steps cs).map PlacedToken.token = ts

theorem lexes_nil : Lexes [] [] := by
  intro steps _
  cases steps <;> rfl

/-- A space is passed over. -/
theorem Lexes.space {c : Char} {cs : List Char} {ts : List Token} (h : Lexes cs ts)
    (hc : isSpace c = true) : Lexes (c :: cs) ts := by
  intro steps hsteps
  match steps with
  | 0 => exact absurd hsteps (Nat.not_succ_le_zero _)
  | steps + 1 =>
    rw [tokensWithin]
    dsimp only
    rw [if_pos hc]
    exact h steps (Nat.le_of_succ_le_succ hsteps)

/-- A token is cut off the front. -/
theorem Lexes.token {c : Char} {rest tail : List Char} {t : Token} {ts : List Token}
    (h : Lexes tail ts) (hc : isSpace c = false) (ht : scanToken c rest = (t, tail))
    (hlen : tail.length ≤ rest.length) : Lexes (c :: rest) (t :: ts) := by
  intro steps hsteps
  match steps with
  | 0 => exact absurd hsteps (Nat.not_succ_le_zero _)
  | steps + 1 =>
    rw [tokensWithin]
    dsimp only
    rw [hc, if_neg Bool.false_ne_true, ht]
    have hrest := h steps (Nat.le_trans hlen (Nat.le_of_succ_le_succ hsteps))
    rw [List.map_cons, hrest]

/-- A bracket, a brace, a comma or a colon. -/
theorem Lexes.mark {c : Char} {cs : List Char} {ts : List Token} (h : Lexes cs ts)
    (hc : c ∈ ['[', ']', '\x7b', '\x7d', ',', ':']) : Lexes (c :: cs) (.mark c :: ts) := by
  have hspace : isSpace c = false := by
    simp only [List.mem_cons, List.not_mem_nil, or_false] at hc
    rcases hc with rfl | rfl | rfl | rfl | rfl | rfl <;> rfl
  refine h.token hspace ?_ (Nat.le_refl _)
  unfold scanToken
  rw [if_pos hc]

/-- A text in quotes. -/
theorem Lexes.quoted {cs : List Char} {ts : List Token} (h : Lexes cs ts) (s : String) :
    Lexes (quoteText s ++ cs) (.text s :: ts) := by
  have hsplit : quoteText s ++ cs = '"' :: (s.toList.flatMap writeChar ++ '"' :: cs) := by
    simp [quoteText]
  rw [hsplit]
  refine h.token (by decide) ?_ ?_
  · unfold scanToken
    rw [if_neg (by decide), if_pos rfl, scanText_writeChars]
  · rw [List.length_append, List.length_cons]
    omega

/-- The tokens of an entry. -/
def entryTokens (e : String × String) : List Token := [.text e.1, .mark ':', .text e.2]

theorem Lexes.entry {cs : List Char} {ts : List Token} (h : Lexes cs ts) (e : String × String) :
    Lexes (writeEntry e ++ cs) (entryTokens e ++ ts) := by
  have hsplit : writeEntry e ++ cs =
      '\n' :: ' ' :: ' ' :: (quoteText e.1 ++ ':' :: ' ' :: (quoteText e.2 ++ cs)) := by
    simp [writeEntry]
  rw [hsplit]
  have hvalue := (h.quoted e.2).space (c := ' ') rfl
  have hname := (hvalue.mark (c := ':') (by decide)).quoted e.1
  exact ((hname.space rfl).space rfl).space rfl

/-- The tokens of the entries that come after another one, up to the end of the object. -/
def restTokens : List (String × String) → List Token
  | [] => [.mark '\x7d']
  | e :: rest => .mark ',' :: (entryTokens e ++ restTokens rest)

/-- **Entries are cut into their tokens.** -/
theorem lexes_entries (e : String × String) (rest : List (String × String)) :
    Lexes (List.intercalate [','] ((e :: rest).map writeEntry) ++ ['\n', '\x7d'])
      (entryTokens e ++ restTokens rest) := by
  induction rest generalizing e with
  | nil =>
    have hend := (lexes_nil.mark (c := '\x7d') (by decide)).space (c := '\n') rfl
    have hone : List.intercalate [','] ([e].map writeEntry) = writeEntry e := by
      simp [List.intercalate]
    rw [hone]
    exact hend.entry e
  | cons e' rest ih =>
    have hsplit : List.intercalate [','] ((e :: e' :: rest).map writeEntry) ++ ['\n', '\x7d'] =
        writeEntry e ++ ',' ::
          (List.intercalate [','] ((e' :: rest).map writeEntry) ++ ['\n', '\x7d']) := by
      simp [List.intercalate]
    rw [hsplit]
    exact ((ih e').mark (by decide)).entry e

/-! ## 5. The machine -/

/-- **The machine reads these tokens as this value,** wherever they stand. -/
def Reads (mode : Mode) (stack : List Frame) (ts : List Token) (v : Value) : Prop :=
  ∀ total placed, placed.map PlacedToken.token = ts → run total mode stack placed = .ok v

theorem reads_end (v : Value) : Reads (.after v) [] [] v := by
  intro total placed hplaced
  rw [List.map_eq_nil_iff.1 hplaced]
  rfl

/-- One step of the machine. -/
theorem Reads.step {mode mode' : Mode} {stack stack' : List Frame} {token : Token}
    {ts : List Token} {v : Value} (h : Reads mode' stack' ts v)
    (hstep : ∀ position left, step position mode stack ⟨token, left⟩ = .ok (mode', stack')) :
    Reads mode stack (token :: ts) v := by
  intro total placed hplaced
  match placed with
  | [] => cases hplaced
  | t :: placed =>
    obtain ⟨rfl, hrest⟩ := List.cons.inj hplaced
    rw [run, hstep]
    exact h total placed hrest

/-- An entry of an object, up to its value. -/
theorem Reads.entry {mode : Mode} {entries : List (Value × Value)} {e : String × String}
    {ts : List Token} {v : Value} (h : Reads (.after (.text e.2)) [.object entries e.1] ts v)
    (hmode : mode = .name entries ∨ mode = .firstName ∧ entries = []) :
    Reads mode [] (entryTokens e ++ ts) v := by
  have hvalue : Reads (.colon entries e.1) [] (.mark ':' :: .text e.2 :: ts) v :=
    (h.step fun _ _ => rfl).step fun _ _ => rfl
  refine hvalue.step fun position left => ?_
  rcases hmode with rfl | ⟨rfl, rfl⟩ <;> rfl

/-- An entry as the values of a mapping. -/
def asValues (e : String × String) : Value × Value := (.text e.1, .text e.2)

/-- A new name is put at the end. -/
theorem put_of_not_mem {e : String × String} {entries : List (String × String)}
    (h : e.1 ∉ entries.map Prod.fst) :
    Value.put (.text e.1) (.text e.2) (entries.map asValues) =
      (entries ++ [e]).map asValues := by
  induction entries with
  | nil => rfl
  | cons e' rest ih =>
    obtain ⟨hne, hrest⟩ := not_or.1 (mt List.mem_cons.2 h)
    have hkey : (Value.text e'.1).sameKey (.text e.1) = false := by
      simpa [Value.sameKey] using Ne.symm hne
    rw [List.map_cons, asValues, Value.put, hkey, if_neg Bool.false_ne_true, ih hrest]
    rfl

/-- **Entries with different names** are read one after the other. -/
theorem reads_rest {before rest : List (String × String)} {e : String × String}
    (h : ((before ++ e :: rest).map Prod.fst).Nodup) :
    Reads (.after (.text e.2)) [.object (before.map asValues) e.1] (restTokens rest)
      (.mapping ((before ++ e :: rest).map asValues)) := by
  induction rest generalizing before e with
  | nil =>
    have hnew : e.1 ∉ before.map Prod.fst := by
      rw [List.map_append, List.nodup_append] at h
      exact fun hmem => h.2.2 _ hmem _ List.mem_cons_self rfl
    refine (reads_end _).step fun position left => ?_
    rw [← put_of_not_mem hnew]
    rfl
  | cons e' rest ih =>
    have hnew : e.1 ∉ before.map Prod.fst := by
      rw [List.map_append, List.nodup_append] at h
      exact fun hmem => h.2.2 _ hmem _ List.mem_cons_self rfl
    have hsplit : before ++ e :: e' :: rest = (before ++ [e]) ++ e' :: rest := by
      rw [List.append_assoc]
      rfl
    rw [hsplit] at h ⊢
    have hname : Reads (.name ((before ++ [e]).map asValues)) [] (entryTokens e' ++ restTokens rest)
        (.mapping (((before ++ [e]) ++ e' :: rest).map asValues)) := (ih h).entry (Or.inl rfl)
    refine hname.step fun position left => ?_
    rw [← put_of_not_mem hnew]
    rfl

/-! ## 6. Metrics -/

/-- The entries are only put in order. -/
theorem sortedEntries_perm (m : Metrics) : (sortedEntries m).Perm m.entries :=
  List.mergeSort_perm m.entries _

theorem nodup_sortedEntries {m : Metrics} (h : m.keys.Nodup) :
    ((sortedEntries m).map Prod.fst).Nodup :=
  ((sortedEntries_perm m).map Prod.fst).nodup_iff.2 h

/-- **The names come in increasing order.** -/
theorem sortedEntries_increasing {m : Metrics} (h : m.keys.Nodup) :
    ((sortedEntries m).map Prod.fst).Pairwise (· < ·) := by
  have hsorted : (sortedEntries m).Pairwise fun a b => decide (a.1 ≤ b.1) = true := by
    refine List.pairwise_mergeSort (fun a b c hab hbc => ?_) (fun a b => ?_) m.entries
    · exact decide_eq_true ((of_decide_eq_true hab).trans (of_decide_eq_true hbc))
    · rw [Bool.or_eq_true, decide_eq_true_iff, decide_eq_true_iff]
      exact le_total a.1 b.1
  have hle : ((sortedEntries m).map Prod.fst).Pairwise (· ≤ ·) :=
    List.pairwise_map.2 (hsorted.imp of_decide_eq_true)
  exact hle.imp₂ (fun _ _ hab hne => lt_of_le_of_ne hab hne) (nodup_sortedEntries h)

/-- **Metrics that are written are read back:** an object whose entries are those of the metrics, in
the order of their names. -/
theorem read_writeMetrics {m : Metrics} (h : m.keys.Nodup) :
    read (writeMetrics m) = .ok (.mapping ((sortedEntries m).map asValues)) := by
  have hperm := sortedEntries_perm m
  have hnodup := nodup_sortedEntries h
  -- what is written starts with a brace, so it has no mark of the byte order
  have hread : ∀ {cs : List Char} {ts : List Token} {v : Value}, Lexes ('\x7b' :: cs) ts →
      Reads .value [] ts v → read (String.ofList ('\x7b' :: cs)) = .ok v := by
    intro cs ts v hlex hreads
    have hmark : ('\x7b' :: cs).head? ≠ some '\uFEFF' := by
      rw [List.head?_cons]
      decide
    unfold read readChars
    rw [String.toList_ofList, if_neg hmark]
    exact hreads _ _ (hlex _ (Nat.le_refl _))
  unfold writeMetrics
  cases hentries : sortedEntries m with
  | nil =>
    rw [hentries] at hperm
    rw [hperm.symm.eq_nil]
    have hlex : Lexes ['\x7b', '\x7d'] [.mark '\x7b', .mark '\x7d'] :=
      (lexes_nil.mark (c := '\x7d') (by decide)).mark (c := '\x7b') (by decide)
    refine hread hlex ?_
    exact ((reads_end _).step fun _ _ => rfl).step fun _ _ => rfl
  | cons e rest =>
    have hne : m.entries.isEmpty = false := by
      rw [List.isEmpty_eq_false_iff]
      intro hnil
      rw [hnil, hentries] at hperm
      exact List.cons_ne_nil e rest hperm.eq_nil
    rw [hentries] at hnodup
    rw [hne, if_neg Bool.false_ne_true]
    refine hread ((lexes_entries e rest).mark (c := '\x7b') (by decide)) ?_
    have hall : (([] ++ e :: rest).map Prod.fst).Nodup := hnodup
    have hfirst : Reads .firstName [] (entryTokens e ++ restTokens rest)
        (.mapping ((e :: rest).map asValues)) := (reads_rest hall).entry (Or.inr ⟨rfl, rfl⟩)
    exact hfirst.step fun _ _ => rfl

end Json
end DeviceSampling
