import WebTerminal.Json.Parser
import WebTerminal.Json.Values

/-!
# The parser stays inside its buffers

For every text the parser reads nothing outside the text and its NUL, writes nothing outside
the buffers it allocates for strings, and ends.  The reads rest on the offset, which every
part moves forward and none moves past the end (`Moves`).

The writes rest on the first loop of `parse_string`, which counts the bytes that start an
escape and leaves them out of the allocation.  The second loop need not agree with it on where
an escape starts: a malformed `\u` takes six bytes, and the last of them may be a backslash.
What the two loops have in common is that of two neighbouring bytes at most one starts an
escape of the first loop, so an escape of the second that takes `2 * m` bytes has room for `m`
(`room_add_two_mul`).
-/

set_option autoImplicit false

namespace WebTerminal

open JsonText (hexValue)

variable {content : List UInt8}

/-! ## Escapes of the first loop -/

/-- For each byte before the closing quote, whether an escape of the first loop starts there. -/
def escapeStarts : List UInt8 → List Bool
  | [] => []
  | c :: rest =>
      if c = 34 then []
      else if c = 92 then
        match rest with
        | [] => []
        | _ :: rest => true :: false :: escapeStarts rest
      else false :: escapeStarts rest

/-- The bytes from the `k`-th on for which there is room in the output. -/
def room (starts : List Bool) (k : ℕ) : ℕ := (starts.drop k).count false

theorem escapeStarts_quote (rest : List UInt8) : escapeStarts (34 :: rest) = [] := by
  rw [escapeStarts.eq_def]
  exact if_pos rfl

theorem escapeStarts_backslash (c : UInt8) (rest : List UInt8) :
    escapeStarts (92 :: c :: rest) = true :: false :: escapeStarts rest := by
  rw [escapeStarts.eq_def]
  rfl

theorem escapeStarts_plain {c : UInt8} (hquote : c ≠ 34) (hbackslash : c ≠ 92)
    (rest : List UInt8) : escapeStarts (c :: rest) = false :: escapeStarts rest := by
  rw [escapeStarts.eq_def]
  simp [hquote, hbackslash]

theorem closingQuote_eq_some {text : List UInt8} : ∀ {n skipped : ℕ},
    closingQuote text = some (n, skipped) →
      (escapeStarts text).length = n ∧ (escapeStarts text).count true = skipped ∧
        n < text.length := by
  fun_induction closingQuote text with
  | case1 => intro n skipped h; cases h
  | case2 rest =>
      intro n skipped h
      cases h
      simp [escapeStarts_quote]
  | case3 => intro n skipped h; cases h
  | case4 d rest hquote ih =>
      intro n skipped h
      obtain ⟨⟨n', skipped'⟩, hclose, heq⟩ := Option.map_eq_some_iff.mp h
      cases heq
      obtain ⟨hlength, hcount, hlt⟩ := ih hclose
      simp [escapeStarts_backslash, hlength, hcount]
      omega
  | case5 c rest hquote hbackslash ih =>
      intro n skipped h
      obtain ⟨⟨n', skipped'⟩, hclose, heq⟩ := Option.map_eq_some_iff.mp h
      cases heq
      obtain ⟨hlength, hcount, hlt⟩ := ih hclose
      simp [escapeStarts_plain hquote hbackslash, hlength, hcount]
      omega

/-- An escape starts with a backslash, and none starts at the byte behind. -/
theorem escapeStarts_true {text : List UInt8} : ∀ {k : ℕ}, (escapeStarts text)[k]? = some true →
    text[k]? = some 92 ∧ (escapeStarts text)[k + 1]? = some false := by
  fun_induction escapeStarts text with
  | case1 => intro k h; simp at h
  | case2 => intro k h; simp at h
  | case3 => intro k h; simp at h
  | case4 d rest hquote ih =>
      intro k h
      match k with
      | 0 => simp
      | 1 => simp at h
      | k + 2 => exact ih h
  | case5 c rest hquote hbackslash ih =>
      intro k h
      cases k with
      | zero => simp at h
      | succ k => exact ih h

theorem room_zero (starts : List Bool) :
    room starts 0 + starts.count true = starts.length := by
  unfold room
  induction starts with
  | nil => rfl
  | cons b starts ih =>
      rw [List.drop_zero] at ih ⊢
      cases b with
      | false =>
          rw [List.count_cons_self, List.count_cons_of_ne (by decide), List.length_cons]
          omega
      | true =>
          rw [List.count_cons_self, List.count_cons_of_ne (by decide), List.length_cons]
          omega

theorem room_le_succ {starts : List Bool} {k : ℕ} : room starts (k + 1) ≤ room starts k := by
  unfold room
  exact (List.drop_sublist_drop_left starts (Nat.le_succ k)).count_le false

theorem room_succ_lt {starts : List Bool} {k : ℕ} (h : starts[k]? = some false) :
    room starts (k + 1) + 1 = room starts k := by
  obtain ⟨hk, heq⟩ := List.getElem?_eq_some_iff.mp h
  unfold room
  rw [List.drop_eq_getElem_cons hk, heq, List.count_cons_self]

/-- A byte that is no backslash has room in the output. -/
theorem room_plain (text : List UInt8) {k : ℕ} (hk : k < (escapeStarts text).length)
    (hc : text[k]? ≠ some 92) :
    room (escapeStarts text) (k + 1) + 1 = room (escapeStarts text) k := by
  refine room_succ_lt ?_
  have hget := List.getElem?_eq_getElem hk
  cases hb : (escapeStarts text)[k] with
  | false => rw [hget, hb]
  | true => exact absurd (escapeStarts_true (hget.trans (congrArg some hb))).1 hc

/-- Of two neighbouring bytes one has room in the output. -/
theorem room_add_two {text : List UInt8} {k : ℕ} (hk : k < (escapeStarts text).length) :
    room (escapeStarts text) (k + 2) + 1 ≤ room (escapeStarts text) k := by
  have hget := List.getElem?_eq_getElem hk
  cases hb : (escapeStarts text)[k] with
  | false =>
      have hfirst := room_succ_lt (hget.trans (congrArg some hb))
      have hle : room (escapeStarts text) (k + 2) ≤ room (escapeStarts text) (k + 1) := room_le_succ
      omega
  | true =>
      have hsecond : room (escapeStarts text) (k + 2) + 1 = room (escapeStarts text) (k + 1) :=
        room_succ_lt (escapeStarts_true (hget.trans (congrArg some hb))).2
      have hle : room (escapeStarts text) (k + 1) ≤ room (escapeStarts text) k := room_le_succ
      omega

/-- An escape of the second loop that takes `2 * m` bytes has room for `m`. -/
theorem room_add_two_mul (text : List UInt8) {k : ℕ} : ∀ {m : ℕ},
    k + 2 * m ≤ (escapeStarts text).length + 1 →
      room (escapeStarts text) (k + 2 * m) + m ≤ room (escapeStarts text) k := by
  intro m
  induction m with
  | zero => simp
  | succ m ih =>
      intro h
      have hrest := ih (by omega)
      have htwo : room (escapeStarts text) (k + 2 * m + 2) + 1 ≤
          room (escapeStarts text) (k + 2 * m) := room_add_two (by omega)
      rw [show k + 2 * (m + 1) = k + 2 * m + 2 by omega]
      omega

/-! ## One escape -/

/-- A bound for the number when so many digits are left: each multiplies it by 16. -/
def hexBound : ℕ → ℕ → ℕ
  | 0, bound => bound
  | n + 1, bound => hexBound n (bound * 16)

theorem hexBound_pos {n : ℕ} : ∀ {bound : ℕ}, 0 < bound → 0 < hexBound n bound := by
  induction n with
  | zero => exact id
  | succ n ih => exact fun h => ih (by omega)

theorem parseHex4Loop_holds :
    ∀ (n : ℕ) {input h : ℕ} (bound : ℕ), input + (n + 1) ≤ content.length →
    h + 16 ≤ bound →
      (parseHex4Loop content (n + 1) input h).Holds fun code => code < hexBound n bound := by
  intro n
  induction n with
  | zero =>
      intro input h bound hinput hh
      unfold parseHex4Loop
      refine (Checked.holds_load (by omega)).bind fun c hc => ?_
      cases hdigit : hexValue c with
      | none => exact hexBound_pos (by omega)
      | some digit =>
          have := JsonText.hexValue_lt hdigit
          show h + digit < bound
          omega
  | succ n ih =>
      intro input h bound hinput hh
      unfold parseHex4Loop
      refine (Checked.holds_load (by omega)).bind fun c hc => ?_
      cases hdigit : hexValue c with
      | none => exact hexBound_pos (by omega)
      | some digit =>
          have := JsonText.hexValue_lt hdigit
          have hshift : (h + digit) <<< 4 = (h + digit) * 16 := Nat.shiftLeft_eq _ _
          dsimp only
          rw [if_neg (Nat.succ_ne_zero n)]
          exact ih (bound * 16) (by omega) (by omega)

theorem parseHex4_holds {input : ℕ} (h : input + 4 ≤ content.length) :
    (parseHex4 content input).Holds fun code => code < 0x10000 := by
  exact parseHex4Loop_holds 3 16 h (Nat.le_refl 16)

theorem length_utf8Tail (n codepoint : ℕ) : (utf8Tail n codepoint).2.length = n := by
  induction n generalizing codepoint with
  | zero => rfl
  | succ n ih => simp [utf8Tail, ih]

theorem length_encodeWith (n mark codepoint : ℕ) :
    (encodeWith (n + 1) mark codepoint).length = n + 1 := by
  unfold encodeWith
  dsimp only
  split
  · rw [List.length_cons, length_utf8Tail, Nat.add_sub_cancel]
  · rw [List.length_singleton]
    omega

theorem length_encodeUtf8_le (codepoint : ℕ) : (encodeUtf8 codepoint).length ≤ 4 ∧
    (codepoint < 0x10000 → (encodeUtf8 codepoint).length ≤ 3) := by
  unfold encodeUtf8
  split
  · simp [length_encodeWith 0]
  · split
    · simp [length_encodeWith 1]
    · split
      · simp [length_encodeWith 2]
      · simp [length_encodeWith 3]
        omega

/-- What an escape sequence takes and gives: half as many bytes at most. -/
structure EscapeFits (input inputEnd : ℕ) (r : ℕ × List UInt8) : Prop where
  half : ∃ m, r.1 = 2 * m ∧ 1 ≤ m ∧ r.2.length ≤ m
  inside : input + r.1 ≤ inputEnd + 1

theorem utf16LiteralToUtf8_holds {input inputEnd : ℕ} (hend : inputEnd < content.length) :
    (utf16LiteralToUtf8 content input inputEnd).Holds (EscapeFits input inputEnd) := by
  unfold utf16LiteralToUtf8
  split
  · trivial
  · refine (parseHex4_holds (by omega)).bind fun firstCode hfirst => ?_
    split
    · trivial
    · split
      · dsimp only
        split
        · trivial
        · refine (Checked.holds_load (by omega)).bind fun backslash _ => ?_
          split
          · trivial
          · refine (Checked.holds_load (by omega)).bind fun letter _ => ?_
            split
            · trivial
            · refine (parseHex4_holds (by omega)).bind fun secondCode _ => ?_
              split
              · trivial
              · split
                · have := (length_encodeUtf8_le (0x10000 +
                    (((firstCode &&& 0x3FF) <<< 10) ||| (secondCode &&& 0x3FF)))).1
                  exact ⟨⟨6, rfl, by omega, by dsimp only; omega⟩, by dsimp only; omega⟩
                · trivial
      · have := (length_encodeUtf8_le firstCode).2 hfirst
        exact ⟨⟨3, rfl, by omega, by dsimp only; omega⟩, by dsimp only; omega⟩

theorem escapeSequence_holds {input inputEnd : ℕ} (hinput : input < inputEnd)
    (hend : inputEnd < content.length) :
    (escapeSequence content input inputEnd).Holds (EscapeFits input inputEnd) := by
  unfold escapeSequence
  refine (Checked.holds_load (by omega)).bind fun letter _ => ?_
  split
  · exact ⟨⟨1, rfl, by omega, by simp⟩, by dsimp only; omega⟩
  · split
    · exact utf16LiteralToUtf8_holds hend
    · trivial

/-! ## One string -/

/-- The second loop, `k` bytes into the string: what it has written and what it may still
write fit the buffer. -/
theorem unescape_holds {offset n capacity : ℕ} {starts : List Bool}
    (hstarts : escapeStarts (content.drop (offset + 1)) = starts) (hn : starts.length = n)
    (hend : offset + 1 + n < content.length) : ∀ {rounds k : ℕ} {output : List UInt8}, k ≤ n + 1 →
      n ≤ k + rounds → output.length + room starts k + 1 ≤ capacity →
        (unescape content (offset + 1 + n) capacity rounds (offset + 1 + k) output).Holds
          fun output => output.length ≤ capacity := by
  intro rounds
  induction rounds with
  | zero =>
      intro k output hk hrounds hcapacity
      unfold unescape
      rw [if_neg (by omega), Checked.append_of_le (by simp; omega)]
      simp
      omega
  | succ rounds ih =>
      intro k output hk hrounds hcapacity
      unfold unescape
      by_cases hinside : offset + 1 + k < offset + 1 + n
      · rw [if_pos hinside]
        refine (Checked.holds_load (by omega)).bind fun c hc => ?_
        have hkth : (content.drop (offset + 1))[k]? = some c := by rw [List.getElem?_drop, hc]
        subst hstarts
        by_cases hplain : c ≠ 92
        · rw [if_pos hplain]
          have hroom := room_plain (content.drop (offset + 1)) (k := k) (by omega)
            (by simpa [hkth] using hplain)
          rw [Checked.append_of_le (by simp; omega)]
          exact ih (k := k + 1) (by omega) (by omega) (by simp; omega)
        · rw [if_neg hplain]
          refine (escapeSequence_holds hinside hend).bind ?_
          rintro ⟨length, bytes⟩ ⟨⟨m, hlength, hm, hbytes⟩, hlast⟩
          dsimp only at hlength hbytes hlast ⊢
          subst hlength
          have hroom := room_add_two_mul (content.drop (offset + 1)) (k := k) (m := m) (by omega)
          rw [Checked.append_of_le (by omega)]
          rw [Nat.add_assoc (offset + 1)]
          exact ih (k := k + 2 * m) (by omega) (by omega) (by simp; omega)
      · rw [if_neg hinside, Checked.append_of_le (by simp; omega)]
        simp
        omega

/-- The offset moves forward inside the buffer. -/
def Moves {α : Type} (content : List UInt8) (offset : ℕ) (P : α → Prop) (r : α × ℕ) : Prop :=
  offset < r.2 ∧ r.2 ≤ content.length ∧ P r.1

/-- `parse_string` stays inside the text and the buffer it allocates. -/
theorem parseStringBuffer_holds {offset : ℕ} (h : offset < content.length) :
    (parseStringBuffer content offset).Holds (Moves content offset fun _ => True) := by
  unfold parseStringBuffer
  refine (Checked.holds_load h).bind fun quote _ => ?_
  split
  · trivial
  · split
    · trivial
    · next n skipped hclose =>
        obtain ⟨hlength, hcount, hlt⟩ := closingQuote_eq_some hclose
        rw [List.length_drop] at hlt
        have hroom := room_zero (escapeStarts (content.drop (offset + 1)))
        refine (unescape_holds rfl hlength (by omega) (k := 0) (by omega) (by omega) ?_).bind
          fun output _ => ?_
        · simp only [List.length_nil]
          omega
        · exact ⟨by dsimp only; omega, by dsimp only; omega, trivial⟩

theorem parseString_holds {offset : ℕ} (h : offset < content.length) :
    (parseString content offset).Holds (Moves content offset fun s => (0 : UInt8) ∉ s) := by
  unfold parseString
  refine (parseStringBuffer_holds h).bind ?_
  rintro ⟨output, next⟩ ⟨hlt, hle, -⟩
  exact ⟨hlt, hle, notMem_ofBuffer output⟩

/-! ## Numbers and blanks -/

theorem length_takeWhile_le (p : UInt8 → Bool) (text : List UInt8) :
    (text.takeWhile p).length ≤ text.length :=
  (List.takeWhile_prefix p).length_le

theorem one_le_of_head? {text : List UInt8} {c : UInt8} (h : text.head? = some c) :
    1 ≤ text.length := by
  cases text with
  | nil => cases h
  | cons d text => simp

theorem sign_le (text : List UInt8) :
    (if text.head? == some 43 || text.head? == some 45 then 1 else 0) ≤ text.length := by
  split
  next h =>
    rw [Bool.or_eq_true, beq_iff_eq, beq_iff_eq] at h
    exact h.elim one_le_of_head? one_le_of_head?
  next => exact Nat.zero_le _

theorem exponentLength_le (text : List UInt8) : exponentLength text ≤ text.length := by
  cases text with
  | nil => exact Nat.le_refl 0
  | cons e rest =>
      have hsign := sign_le rest
      unfold exponentLength
      dsimp only
      generalize (if rest.head? == some 43 || rest.head? == some 45 then 1 else 0) = sign at *
      have hdigits := length_takeWhile_le JsonText.isDigit (rest.drop sign)
      rw [List.length_drop] at hdigits
      rw [List.length_cons]
      split
      · split
        · omega
        · omega
      · omega

theorem point_le (rest : List UInt8) :
    (if rest.head? == some 46 then 1 else 0) +
      (if rest.head? == some 46 then ((rest.drop 1).takeWhile JsonText.isDigit).length else 0) ≤
        rest.length := by
  split
  next h =>
    have hpoint := one_le_of_head? (eq_of_beq h)
    have hdigits := length_takeWhile_le JsonText.isDigit (rest.drop 1)
    rw [List.length_drop] at hdigits
    omega
  next => omega

theorem strtodLength_le (text : List UInt8) : strtodLength text ≤ text.length := by
  have hsign := sign_le text
  unfold strtodLength
  dsimp only
  generalize (if text.head? == some 43 || text.head? == some 45 then 1 else 0) = sign at *
  have hint := length_takeWhile_le JsonText.isDigit (text.drop sign)
  rw [List.length_drop] at hint
  generalize ((text.drop sign).takeWhile JsonText.isDigit).length = int at *
  have hpoint := point_le (text.drop (sign + int))
  generalize (if (text.drop (sign + int)).head? == some 46 then 1 else 0) = point at *
  generalize (if (text.drop (sign + int)).head? == some 46 then
    (((text.drop (sign + int)).drop 1).takeWhile JsonText.isDigit).length else 0) = frac at *
  have hexp := exponentLength_le ((text.drop (sign + int)).drop (point + frac))
  simp only [List.length_drop] at hpoint hexp
  split
  · exact Nat.zero_le _
  · omega

theorem le_skipWhitespace (content : List UInt8) (offset : ℕ) :
    offset ≤ skipWhitespace content offset := by
  unfold skipWhitespace
  split
  · exact Nat.le_refl _
  · dsimp only
    split
    · omega
    · omega

theorem skipWhitespace_le {offset : ℕ} (h : offset ≤ content.length) :
    skipWhitespace content offset ≤ content.length := by
  have := length_takeWhile_le (· ≤ 32) (content.drop offset)
  rw [List.length_drop] at this
  unfold skipWhitespace
  split
  · exact h
  · dsimp only
    split
    · omega
    · omega

/-- White space up to the end is left by one byte. -/
theorem skipWhitespace_lt {offset : ℕ} (h : offset < content.length) :
    skipWhitespace content offset < content.length := by
  have hle := skipWhitespace_le (Nat.le_of_lt h)
  unfold skipWhitespace at hle ⊢
  rw [if_neg (by omega)] at hle ⊢
  dsimp only at hle ⊢
  split
  · omega
  next hne =>
    rw [if_neg hne] at hle
    omega

theorem comesNext_lt {offset : ℕ} {c : UInt8} (h : comesNext content offset c = true) :
    offset < content.length := by
  have hget : content[offset]? = some c := eq_of_beq h
  exact (List.getElem?_eq_some_iff.mp hget).1

theorem startsWith_le {offset : ℕ} {literal : List UInt8} (hne : literal ≠ [])
    (h : startsWith content offset literal = true) : offset + literal.length ≤ content.length := by
  have htake : (content.drop offset).take literal.length = literal := eq_of_beq h
  have hlength := congrArg List.length htake
  have hpos := List.length_pos_iff.mpr hne
  rw [List.length_take, List.length_drop] at hlength
  omega

/-! ## Values -/

/-- A value that nests no deeper and has C strings only. -/
def ShallowClean (levels : ℕ) (v : CJson) : Prop := v.nesting ≤ levels ∧ v.Clean

variable {strtod : List UInt8 → Double} {α : Type}

theorem proper_scalar {levels : ℕ} {v : CJson} (hnesting : v.nesting = 0) (hclean : v.Clean) :
    ShallowClean levels v := ⟨by omega, hclean⟩

theorem parseNumber_holds {levels offset : ℕ} :
    (parseNumber content strtod offset).Holds (Moves content offset (ShallowClean levels)) := by
  have hbytes := length_takeWhile_le numberByte (content.drop offset)
  have htaken := strtodLength_le ((content.drop offset).takeWhile numberByte)
  rw [List.length_drop] at hbytes
  unfold parseNumber
  dsimp only
  split
  · trivial
  · refine ⟨by dsimp only; omega, by dsimp only; omega, proper_scalar rfl ?_⟩
    exact fun s hs => by cases hs

/-- What `parse_value` needs of what it calls. -/
theorem parseValueWith_holds {levels offset : ℕ} {array object : ℕ → Checked (CJson × ℕ)}
    (harray : offset < content.length →
      (array offset).Holds (Moves content offset (ShallowClean levels)))
    (hobject : offset < content.length →
      (object offset).Holds (Moves content offset (ShallowClean levels))) :
    (parseValueWith content strtod array object offset).Holds
      (Moves content offset (ShallowClean levels)) := by
  have hscalar : ∀ {v : CJson}, v.nesting = 0 → v.strings = [] → ShallowClean levels v := by
    intro v hnesting hstrings
    exact proper_scalar hnesting fun s hs => by simp [hstrings] at hs
  unfold parseValueWith
  split
  next h => exact ⟨by dsimp only; omega, startsWith_le (by decide) h, hscalar rfl rfl⟩
  next =>
    split
    next h => exact ⟨by dsimp only; omega, startsWith_le (by decide) h, hscalar rfl rfl⟩
    next =>
      split
      next h => exact ⟨by dsimp only; omega, startsWith_le (by decide) h, hscalar rfl rfl⟩
      next =>
        split
        next => trivial
        next c hc =>
          have hlt : offset < content.length := (List.getElem?_eq_some_iff.mp hc).1
          split
          · refine (parseString_holds hlt).bind ?_
            rintro ⟨s, next⟩ ⟨hlt, hle, hclean⟩
            refine ⟨hlt, hle, proper_scalar rfl fun t ht => ?_⟩
            obtain rfl := List.mem_singleton.mp ht
            exact hclean
          · split
            · exact parseNumber_holds
            · split
              · exact harray hlt
              · split
                · exact hobject hlt
                · trivial

/-- A round of a loop over items, which starts at the byte in front of the item. -/
def RoundHolds (content : List UInt8) (item : ℕ → Checked (α × ℕ)) (P : α → Prop) : Prop :=
  ∀ offset, offset < content.length → (item offset).Holds (Moves content offset P)

theorem parseItems_holds {item : ℕ → Checked (α × ℕ)} {P : α → Prop}
    (hitem : RoundHolds content item P) : ∀ {rounds offset : ℕ}, offset < content.length →
      content.length ≤ offset + rounds →
        (parseItems content item rounds offset).Holds
          (Moves content offset fun as => ∀ a ∈ as, P a) := by
  intro rounds
  induction rounds with
  | zero =>
      intro offset hlt hrounds
      omega
  | succ rounds ih =>
      intro offset hlt hrounds
      unfold parseItems
      refine (hitem offset hlt).bind ?_
      rintro ⟨a, next⟩ ⟨hnext, hle, ha⟩
      dsimp only at hnext hle ha ⊢
      have hskip := le_skipWhitespace content next
      split
      next hcomma =>
        refine (ih (comesNext_lt hcomma) (by omega)).bind ?_
        rintro ⟨as, last⟩ ⟨hlast, hend, has⟩
        exact ⟨by dsimp only at hlast ⊢; omega, hend, List.forall_mem_cons.mpr ⟨ha, has⟩⟩
      next =>
        exact ⟨by dsimp only; omega, skipWhitespace_le hle, by simpa using ha⟩

theorem parseBetween_holds {item : ℕ → Checked (α × ℕ)} {P : α → Prop} {close : UInt8}
    (hitem : RoundHolds content item P) {offset : ℕ} :
    (parseBetween content item close offset).Holds
      (Moves content offset fun as => ∀ a ∈ as, P a) := by
  have hskip := le_skipWhitespace content (offset + 1)
  unfold parseBetween
  dsimp only
  split
  next hclose =>
    have := comesNext_lt hclose
    exact ⟨by dsimp only; omega, by dsimp only; omega, fun a ha => by cases ha⟩
  next =>
    split
    next => trivial
    next hlt =>
      refine (parseItems_holds hitem (by omega) (by omega)).bind ?_
      rintro ⟨as, next⟩ ⟨hnext, hle, has⟩
      dsimp only at hnext hle has ⊢
      split
      next hclose =>
        have := comesNext_lt hclose
        exact ⟨by dsimp only; omega, by dsimp only; omega, has⟩
      next => trivial

/-- What `parse_value` does wherever it is called. -/
def ValueHolds (content : List UInt8) (value : ℕ → Checked (CJson × ℕ)) (levels : ℕ) : Prop :=
  ∀ offset, offset ≤ content.length →
    (value offset).Holds (Moves content offset (ShallowClean levels))

variable {value : ℕ → Checked (CJson × ℕ)} {levels : ℕ}

theorem parseElement_holds (hvalue : ValueHolds content value levels) :
    RoundHolds content (parseElement content value) (ShallowClean levels) := by
  intro offset hlt
  have hskip := le_skipWhitespace content (offset + 1)
  refine (hvalue _ (skipWhitespace_le (by omega))).mono ?_
  rintro ⟨v, next⟩ ⟨hnext, hle, hv⟩
  exact ⟨by dsimp only at hnext ⊢; omega, hle, hv⟩

theorem parseMember_holds (hvalue : ValueHolds content value levels) :
    RoundHolds content (parseMember content value)
      fun m => (0 : UInt8) ∉ m.1 ∧ ShallowClean levels m.2 := by
  intro offset hlt
  have hskip := le_skipWhitespace content (offset + 1)
  unfold parseMember
  split
  · trivial
  · refine (parseString_holds (skipWhitespace_lt (by omega))).bind ?_
    rintro ⟨name, afterName⟩ ⟨hname, hle, hclean⟩
    dsimp only at hname hle ⊢
    have hskip' := le_skipWhitespace content afterName
    split
    next hcolon =>
      have hcolonlt := comesNext_lt hcolon
      have hskip'' := le_skipWhitespace content (skipWhitespace content afterName + 1)
      refine (hvalue _ (skipWhitespace_le (by omega))).bind ?_
      rintro ⟨v, next⟩ ⟨hnext, hle', hv⟩
      exact ⟨by dsimp only at hnext ⊢; omega, hle', hclean, hv⟩
    next => trivial

theorem parseArray_holds (hvalue : ValueHolds content value levels) {offset : ℕ}
    (h : offset < content.length) :
    (parseArray content value offset).Holds (Moves content offset (ShallowClean (levels + 1))) := by
  unfold parseArray
  refine (Checked.holds_load h).bind fun bracket _ => ?_
  split
  · trivial
  · refine (parseBetween_holds (parseElement_holds hvalue)).bind ?_
    rintro ⟨items, next⟩ ⟨hnext, hle, hitems⟩
    exact ⟨hnext, hle, CJson.nesting_array.mpr fun v hv => (hitems v hv).1,
      CJson.clean_array.mpr fun v hv => (hitems v hv).2⟩

theorem parseObject_holds (hvalue : ValueHolds content value levels) {offset : ℕ} :
    (parseObject content value offset).Holds
      (Moves content offset (ShallowClean (levels + 1))) := by
  unfold parseObject
  split
  · refine (parseBetween_holds (parseMember_holds hvalue)).bind ?_
    rintro ⟨members, next⟩ ⟨hnext, hle, hmembers⟩
    exact ⟨hnext, hle, CJson.nesting_object.mpr fun m hm => (hmembers m hm).2.1,
      CJson.clean_object.mpr fun m hm => ⟨(hmembers m hm).1, (hmembers m hm).2.2⟩⟩
  · trivial

theorem parseValue_holds (strtod : List UInt8 → Double) (levels : ℕ) :
    ValueHolds content (parseValue content strtod levels) levels := by
  induction levels with
  | zero =>
      intro offset _
      exact parseValueWith_holds (fun _ => trivial) fun _ => trivial
  | succ levels ih =>
      intro offset _
      exact parseValueWith_holds (parseArray_holds ih) fun _ => parseObject_holds ih

theorem skipUtf8Bom_le (content : List UInt8) : skipUtf8Bom content ≤ content.length := by
  unfold skipUtf8Bom
  split
  · omega
  · exact Nat.zero_le _

theorem cjsonParseRun_holds (strtod : List UInt8 → Double) (value : CString) :
    (cjsonParseRun strtod value).Holds
      (fun r => r.2 ≤ (value ++ [0]).length ∧ ShallowClean cjsonNestingLimit r.1) := by
  unfold cjsonParseRun
  have hstart := skipWhitespace_le (skipUtf8Bom_le (value ++ [0]))
  refine (parseValue_holds strtod cjsonNestingLimit _ hstart).mono ?_
  rintro ⟨v, next⟩ ⟨-, hle, hproper⟩
  exact ⟨hle, hproper⟩

/-- On every text `cJSON_Parse`, its allocations granted, ends without an access outside the
text, its NUL and the strings it allocates: it gives up, or it returns a value of C strings
that nests at most `CJSON_NESTING_LIMIT` deep. -/
theorem cjsonParse_stays_inside (strtod : List UInt8 → Double) (value : CString) :
    cjsonParseRun strtod value = .failed ∨
      ∃ v offset, cjsonParseRun strtod value = .done (v, offset) ∧ offset ≤ value.length + 1 ∧
        v.nesting ≤ cjsonNestingLimit ∧ v.Clean := by
  rcases (cjsonParseRun_holds strtod value).cases with h | ⟨⟨v, offset⟩, h, hle, hnesting, hclean⟩
  · exact .inl h
  · rw [List.length_append] at hle
    exact .inr ⟨v, offset, h, hle, hnesting, hclean⟩

end WebTerminal
