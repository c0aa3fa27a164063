import WebTerminal.Json.Parser
import WebTerminal.Json.Values

/-!
# The parser reads every JSON text

A text of the grammar that nests at most `CJSON_NESTING_LIMIT` deep is parsed to its value,
whatever follows it (`cjsonParse_text`).  The proof goes through the parts of the parser with
the text they find at the offset, `content.drop offset = text ++ rest`.  For a number `rest`
must not go on with a byte that could belong to it (`NumberEnds`), which blanks, commas, brackets
and the NUL behind the text do not.
-/

set_option autoImplicit false

namespace WebTerminal

open JsonText

variable {content rest : List UInt8} {offset : ℕ}

/-! ## What stands at an offset -/

theorem getElem?_of_drop {c : UInt8} (h : content.drop offset = c :: rest) :
    content[offset]? = some c := by
  rw [← List.head?_drop, h]
  rfl

theorem drop_of_drop (text : List UInt8) (h : content.drop offset = text ++ rest) :
    content.drop (offset + text.length) = rest := by
  rw [← List.drop_drop, h, List.drop_left]

theorem load_of_drop {c : UInt8} (h : content.drop offset = c :: rest) :
    Checked.load content offset = .done c := Checked.load_of_getElem? (getElem?_of_drop h)

theorem drop_succ_of_drop {c : UInt8} (h : content.drop offset = c :: rest) :
    content.drop (offset + 1) = rest := drop_of_drop [c] h

/-- Blanks up to a byte that is none. -/
theorem skipWhitespace_blank {blank : List UInt8} {c : UInt8} (hblank : Blank blank) (hc : 32 < c)
    (h : content.drop offset = blank ++ c :: rest) :
    skipWhitespace content offset = offset + blank.length := by
  have hlength := congrArg List.length h
  simp only [List.length_drop, List.length_append, List.length_cons] at hlength
  have htake : (content.drop offset).takeWhile (· ≤ 32) = blank := by
    rw [h, List.takeWhile_append_of_pos fun d hd => decide_eq_true (hblank d hd),
      List.takeWhile_cons_of_neg,
      List.append_nil]
    simpa using hc
  unfold skipWhitespace
  rw [if_neg (by omega)]
  dsimp only
  rw [htake, if_neg (by omega)]

/-! ## Code points -/

/-- A byte behind the first of an encoding. -/
theorem utf8Byte (n : ℕ) : UInt8.ofNat ((n ||| 0x80) &&& 0xBF) = UInt8.ofNat (n % 0x40 + 0x80) := by
  have hall : ∀ k : Fin 256,
      (UInt8.ofNat k.val ||| 0x80) &&& 0xBF = UInt8.ofNat (k.val % 0x40 + 0x80) := by decide +kernel
  have hn : UInt8.ofNat (n % 256) = UInt8.ofNat n := by
    apply UInt8.toNat_inj.mp
    simp
  have hmod : n % 256 % 0x40 = n % 0x40 := by omega
  have h := hall ⟨n % 256, by omega⟩
  rw [hn, hmod] at h
  rw [UInt8.ofNat_and, UInt8.ofNat_or]
  exact h

/-- The first byte of an encoding. -/
theorem utf8First (bits : ℕ) {left mark : ℕ} (hleft : left < bits)
    (hmark : (bits, mark) ∈ [(0x20, 0xC0), (0x10, 0xE0), (0x08, 0xF0)]) :
    UInt8.ofNat ((left ||| mark) &&& 0xFF) = UInt8.ofNat (left % bits + mark) := by
  simp only [List.mem_cons, List.not_mem_nil, or_false, Prod.mk.injEq] at hmark
  rcases hmark with ⟨rfl, rfl⟩ | ⟨rfl, rfl⟩ | ⟨rfl, rfl⟩
  · have hall : ∀ k : Fin 0x20,
        UInt8.ofNat ((k.val ||| 0xC0) &&& 0xFF) = UInt8.ofNat (k.val % 0x20 + 0xC0) := by
          decide +kernel
    exact hall ⟨left, hleft⟩
  · have hall : ∀ k : Fin 0x10,
        UInt8.ofNat ((k.val ||| 0xE0) &&& 0xFF) = UInt8.ofNat (k.val % 0x10 + 0xE0) := by
          decide +kernel
    exact hall ⟨left, hleft⟩
  · have hall : ∀ k : Fin 0x08,
        UInt8.ofNat ((k.val ||| 0xF0) &&& 0xFF) = UInt8.ofNat (k.val % 0x08 + 0xF0) := by
          decide +kernel
    exact hall ⟨left, hleft⟩

theorem shiftRight_six (n : ℕ) : n >>> 6 = n / 64 := Nat.shiftRight_eq_div_pow n 6

theorem encodeWith_one {n : ℕ} (h : n < 0x80) : encodeWith 1 0 n = [UInt8.ofNat n] := by
  have hall : ∀ k : Fin 128, UInt8.ofNat (k.val &&& 0x7F) = UInt8.ofNat k.val := by decide +kernel
  exact congrArg (fun b => [b]) (hall ⟨n, h⟩)

theorem encodeWith_two {n : ℕ} (h : n < 0x800) : encodeWith 2 0xC0 n =
    [UInt8.ofNat (n / 64 % 0x20 + 0xC0), UInt8.ofNat (n % 0x40 + 0x80)] := by
  show [UInt8.ofNat ((n >>> 6 ||| 0xC0) &&& 0xFF), UInt8.ofNat ((n ||| 0x80) &&& 0xBF)] = _
  rw [shiftRight_six, utf8Byte, utf8First 0x20 (by omega) (by decide)]

theorem encodeWith_three {n : ℕ} (h : n < 0x10000) : encodeWith 3 0xE0 n =
    [UInt8.ofNat (n / 4096 % 0x10 + 0xE0), UInt8.ofNat (n / 64 % 0x40 + 0x80),
      UInt8.ofNat (n % 0x40 + 0x80)] := by
  show [UInt8.ofNat ((n >>> 6 >>> 6 ||| 0xE0) &&& 0xFF), UInt8.ofNat ((n >>> 6 ||| 0x80) &&& 0xBF),
    UInt8.ofNat ((n ||| 0x80) &&& 0xBF)] = _
  rw [shiftRight_six, shiftRight_six, utf8Byte, utf8Byte, Nat.div_div_eq_div_mul,
    utf8First 0x10 (by omega) (by decide)]

theorem encodeWith_four {n : ℕ} (h : n < 0x110000) : encodeWith 4 0xF0 n =
    [UInt8.ofNat (n / 262144 % 0x08 + 0xF0), UInt8.ofNat (n / 4096 % 0x40 + 0x80),
      UInt8.ofNat (n / 64 % 0x40 + 0x80), UInt8.ofNat (n % 0x40 + 0x80)] := by
  show [UInt8.ofNat ((n >>> 6 >>> 6 >>> 6 ||| 0xF0) &&& 0xFF),
    UInt8.ofNat ((n >>> 6 >>> 6 ||| 0x80) &&& 0xBF), UInt8.ofNat ((n >>> 6 ||| 0x80) &&& 0xBF),
    UInt8.ofNat ((n ||| 0x80) &&& 0xBF)] = _
  rw [shiftRight_six, shiftRight_six, shiftRight_six, utf8Byte, utf8Byte, utf8Byte,
    Nat.div_div_eq_div_mul n 64 64, Nat.div_div_eq_div_mul,
    utf8First 0x08 (by omega) (by decide)]

/-- The encoding of a code point is that of UTF-8. -/
theorem encodeUtf8_toNat (c : Char) : encodeUtf8 c.toNat = String.utf8EncodeChar c := by
  have hlarge : c.toNat < 0x110000 := by
    rcases c.valid with h | h
    · exact Nat.lt_trans h (by decide)
    · exact h.2
  unfold encodeUtf8 String.utf8EncodeChar
  dsimp only
  rw [show c.val.toNat = c.toNat from rfl]
  by_cases h1 : c.toNat < 0x80
  · rw [if_pos h1, if_pos (Nat.le_of_lt_succ h1), encodeWith_one h1]
  rw [if_neg h1, if_neg fun h => h1 (Nat.lt_succ_of_le h)]
  by_cases h2 : c.toNat < 0x800
  · rw [if_pos h2, if_pos (Nat.le_of_lt_succ h2), encodeWith_two h2]
  rw [if_neg h2, if_neg fun h => h2 (Nat.lt_succ_of_le h)]
  by_cases h3 : c.toNat < 0x10000
  · rw [if_pos h3, if_pos (Nat.le_of_lt_succ h3), encodeWith_three h3]
  rw [if_neg h3, if_neg fun h => h3 (Nat.lt_succ_of_le h), encodeWith_four hlarge]

/-! ## Escape sequences -/

theorem not_special_of_hexValue {c : UInt8} {n : ℕ} (h : hexValue c = some n) : ¬Special c := by
  rintro (rfl | rfl)
  · cases h
  · cases h

/-- Four hexadecimal digits, one by one. -/
theorem hex4_cases {hex : List UInt8} {n : ℕ} (h : hex4 hex = some n) :
    ∃ a b c d va vb vc vd, hex = [a, b, c, d] ∧ hexValue a = some va ∧ hexValue b = some vb ∧
      hexValue c = some vc ∧ hexValue d = some vd ∧ ((va * 16 + vb) * 16 + vc) * 16 + vd = n := by
  unfold hex4 at h
  split at h
  next a b c d =>
    simp only [Option.bind_eq_bind, Option.bind_eq_some_iff, Option.pure_def,
      Option.some.injEq] at h
    obtain ⟨va, ha, vb, hb, vc, hc, vd, hd, hn⟩ := h
    exact ⟨a, b, c, d, va, vb, vc, vd, rfl, ha, hb, hc, hd, hn⟩
  next => cases h

theorem parseHex4_of_drop {input n : ℕ} {hex : List UInt8} (hhex : hex4 hex = some n)
    (h : content.drop input = hex ++ rest) : parseHex4 content input = .done n := by
  obtain ⟨a, b, c, d, va, vb, vc, vd, rfl, ha, hb, hc, hd, hn⟩ := hex4_cases hhex
  have h1 := drop_succ_of_drop h
  have h2 := drop_succ_of_drop h1
  have h3 := drop_succ_of_drop h2
  have hshift : ∀ k : ℕ, k <<< 4 = k * 16 := fun k => Nat.shiftLeft_eq k 4
  unfold parseHex4
  simp only [parseHex4Loop, load_of_drop h, load_of_drop h1, load_of_drop h2, load_of_drop h3,
    Checked.done_bind, ha, hb, hc, hd, hshift, Nat.zero_add, Nat.succ_ne_zero, if_true, if_false,
    Checked.pure_eq, hn]

/-- The code point of a surrogate pair. -/
theorem surrogates {h l : ℕ} (hh : 0xD800 ≤ h ∧ h ≤ 0xDBFF) (hl : 0xDC00 ≤ l ∧ l ≤ 0xDFFF) :
    0x10000 + (((h &&& 0x3FF) <<< 10) ||| (l &&& 0x3FF)) =
      0x10000 + (h - 0xD800) * 0x400 + (l - 0xDC00) := by
  have hhigh : h &&& 0x3FF = h - 0xD800 := by
    rw [show (0x3FF : ℕ) = 2 ^ 10 - 1 from rfl, Nat.and_two_pow_sub_one_eq_mod]
    omega
  have hlow : l &&& 0x3FF = l - 0xDC00 := by
    rw [show (0x3FF : ℕ) = 2 ^ 10 - 1 from rfl, Nat.and_two_pow_sub_one_eq_mod]
    omega
  rw [hhigh, hlow, ← Nat.shiftLeft_add_eq_or_of_lt (by omega : l - 0xDC00 < 2 ^ 10),
    Nat.shiftLeft_eq]
  omega

theorem escapeLetter_of_byteOf {d c : UInt8} (h : byteOf d = some c) : escapeLetter d = some c := by
  obtain ⟨entry, hfind, rfl⟩ := Option.map_eq_some_iff.mp h
  have hd : entry.1 = d := by simpa using List.find?_some hfind
  have hall : letters.all (fun entry => decide (escapeLetter entry.1 = some entry.2)) = true := by
    decide
  rw [← hd]
  exact of_decide_eq_true (List.all_eq_true.mp hall entry (List.mem_of_find?_eq_some hfind))

/-- An escape sequence is read with its length, if the literal has not ended before. -/
theorem escapeSequence_of_drop {input inputEnd : ℕ} {seq char : List UInt8}
    (hseq : Escaped seq char) (h : content.drop input = 92 :: (seq ++ rest))
    (hend : input + (seq.length + 1) ≤ inputEnd) :
    escapeSequence content input inputEnd = .done (seq.length + 1, char) := by
  have hnext := drop_succ_of_drop h
  unfold escapeSequence
  cases hseq with
  | slash => rw [load_of_drop hnext]; rfl
  | @letter d c hbyte =>
      rw [load_of_drop hnext, Checked.done_bind, escapeLetter_of_byteOf hbyte]
      rfl
  | @unicode hex c hhex =>
      have hlength := (hex4_some hhex).1
      have hvalid := c.valid
      rw [List.length_cons, hlength] at hend
      rw [load_of_drop hnext, Checked.done_bind]
      show (if (117 : UInt8) = 117 then utf16LiteralToUtf8 content input inputEnd else .failed) = _
      rw [if_pos rfl]
      unfold utf16LiteralToUtf8
      -- a scalar value is no surrogate, so the four digits are all there is
      rw [if_neg (by omega), parseHex4_of_drop hhex (drop_succ_of_drop hnext), Checked.done_bind,
        if_neg ?_, if_neg ?_, encodeUtf8_toNat, List.length_cons, hlength, Checked.pure_eq]
      · rcases hvalid with h | h
        · have : c.toNat < 0xD800 := h
          omega
        · have : 0xDFFF < c.toNat := h.1
          omega
      · rcases hvalid with h | h
        · have : c.toNat < 0xD800 := h
          omega
        · have : 0xDFFF < c.toNat := h.1
          omega
  | @pair high low h' l c hhigh hlow hh hl hc =>
      have hlengthHigh := (hex4_some hhigh).1
      have hlengthLow := (hex4_some hlow).1
      rw [List.length_cons, List.length_append, List.length_cons, List.length_cons, hlengthHigh,
        hlengthLow] at hend ⊢
      rw [load_of_drop hnext, Checked.done_bind]
      show (if (117 : UInt8) = 117 then utf16LiteralToUtf8 content input inputEnd else .failed) = _
      rw [if_pos rfl]
      -- the second escape stands right behind the first
      have hfirst : content.drop (input + 2) = high ++ (92 :: 117 :: (low ++ rest)) := by
        rw [drop_succ_of_drop hnext]
        simp
      have hsecond := drop_of_drop high hfirst
      rw [hlengthHigh] at hsecond
      -- the two halves are the bits of the scalar value
      have hcode : 0x10000 + (((h' &&& 0x3FF) <<< 10) ||| (l &&& 0x3FF)) = c.toNat := by
        rw [surrogates hh hl, hc]
      unfold utf16LiteralToUtf8
      rw [if_neg (by omega), parseHex4_of_drop hhigh hfirst, Checked.done_bind, if_neg (by omega),
        if_pos hh]
      dsimp only
      rw [if_neg (by omega), load_of_drop hsecond, Checked.done_bind, if_neg (by decide),
        load_of_drop (drop_succ_of_drop hsecond), Checked.done_bind, if_neg (by decide),
        parseHex4_of_drop hlow (drop_succ_of_drop (drop_succ_of_drop hsecond)), Checked.done_bind,
        if_neg (by omega), hcode, if_pos (by omega), encodeUtf8_toNat, Checked.pure_eq]

/-! ## Strings -/

theorem closingQuote_quote (rest : List UInt8) : closingQuote (34 :: rest) = some (0, 0) := by
  rw [closingQuote.eq_def]
  exact if_pos rfl

theorem closingQuote_plain {c : UInt8} (hc : ¬Special c) (text : List UInt8) :
    closingQuote (c :: text) = (closingQuote text).map fun r => (r.1 + 1, r.2) := by
  rw [closingQuote.eq_def]
  dsimp only
  rw [if_neg fun h => hc (.inl h), if_neg fun h => hc (.inr h)]

theorem closingQuote_backslash (c : UInt8) (text : List UInt8) :
    closingQuote (92 :: c :: text) = (closingQuote text).map fun r => (r.1 + 2, r.2 + 1) := by
  rw [closingQuote.eq_def]
  rfl

theorem closingQuote_hex {hex text : List UInt8} {n : ℕ} (h : hex4 hex = some n) :
    closingQuote (hex ++ text) = (closingQuote text).map fun r => (r.1 + 4, r.2) := by
  obtain ⟨a, b, c, d, va, vb, vc, vd, rfl, ha, hb, hc, hd, -⟩ := hex4_cases h
  simp only [List.cons_append, List.nil_append]
  rw [closingQuote_plain (not_special_of_hexValue ha),
    closingQuote_plain (not_special_of_hexValue hb),
    closingQuote_plain (not_special_of_hexValue hc),
    closingQuote_plain (not_special_of_hexValue hd)]
  simp only [Option.map_map]
  rfl

/-- The first loop passes an escape sequence, and leaves room for what it stands for. -/
theorem closingQuote_escaped {seq char : List UInt8} (text : List UInt8)
    (hseq : Escaped seq char) :
    ∃ skipped, closingQuote (92 :: (seq ++ text)) =
        (closingQuote text).map (fun r => (r.1 + (seq.length + 1), r.2 + skipped)) ∧
      skipped + char.length ≤ seq.length + 1 := by
  cases hseq with
  | slash => exact ⟨1, closingQuote_backslash 47 text, by decide⟩
  | @letter d c hbyte => exact ⟨1, closingQuote_backslash d text, by simp⟩
  | @unicode hex c hhex =>
      obtain ⟨hlength, hsmall⟩ := hex4_some hhex
      have hchar := length_utf8EncodeChar_le hsmall
      refine ⟨1, ?_, ?_⟩
      · rw [List.cons_append, closingQuote_backslash, closingQuote_hex hhex, Option.map_map,
          List.length_cons, hlength]
        rfl
      · rw [List.length_cons, hlength]
        omega
  | @pair high low h' l c hhigh hlow hh hl hc =>
      have hchar : (String.utf8EncodeChar c).length ≤ 4 := by
        rw [String.length_utf8EncodeChar]
        exact c.utf8Size_le_four
      have hlengthHigh := (hex4_some hhigh).1
      have hlengthLow := (hex4_some hlow).1
      refine ⟨2, ?_, ?_⟩
      · rw [List.cons_append, closingQuote_backslash, List.append_assoc, closingQuote_hex hhigh,
          List.cons_append, List.cons_append, closingQuote_backslash, closingQuote_hex hlow,
          Option.map_map, Option.map_map, Option.map_map, List.length_cons, List.length_append,
          List.length_cons, List.length_cons, hlengthHigh, hlengthLow]
        rfl
      · rw [List.length_cons, List.length_append, List.length_cons, List.length_cons, hlengthHigh,
          hlengthLow]
        omega

theorem closingQuote_stringText {text bytes : List UInt8} (h : StringText text bytes)
    (rest : List UInt8) :
    ∃ skipped, closingQuote (text ++ 34 :: rest) = some (text.length, skipped) ∧
      skipped + bytes.length ≤ text.length := by
  induction h with
  | nil => exact ⟨0, closingQuote_quote rest, Nat.le_refl 0⟩
  | @plain c text bytes hc h ih =>
      obtain ⟨skipped, hclose, hle⟩ := ih
      refine ⟨skipped, ?_, ?_⟩
      · rw [List.cons_append, closingQuote_plain hc, hclose]
        rfl
      · simp only [List.length_cons]
        omega
  | @escape seq char text bytes hseq h ih =>
      obtain ⟨skipped, hclose, hle⟩ := ih
      obtain ⟨skipped', hseq', hle'⟩ := closingQuote_escaped (text ++ 34 :: rest) hseq
      refine ⟨skipped + skipped', ?_, ?_⟩
      · rw [List.cons_append, List.append_assoc, hseq', hclose, Option.map_some, List.length_cons,
          List.length_append]
        congr 2
        omega
      · simp only [List.length_cons, List.length_append]
        omega

/-- The second loop writes the bytes of the literal. -/
theorem unescape_stringText {inputEnd capacity : ℕ} {text bytes : List UInt8}
    (h : StringText text bytes) : ∀ {rounds input : ℕ} {output rest : List UInt8},
      content.drop input = text ++ 34 :: rest → inputEnd = input + text.length →
        text.length ≤ rounds → output.length + bytes.length + 1 ≤ capacity →
          unescape content inputEnd capacity rounds input output =
            .done (output ++ bytes ++ [0]) := by
  induction h with
  | nil =>
      intro rounds input output rest hdrop hend hrounds hcapacity
      rw [List.length_nil] at hend hcapacity
      unfold unescape
      rw [if_neg (by omega), Checked.append_of_le (by simp; omega), List.append_nil]
  | @plain c text bytes hc h ih =>
      intro rounds input output rest hdrop hend hrounds hcapacity
      rw [List.length_cons] at hend hrounds hcapacity
      obtain ⟨rounds, rfl⟩ := Nat.exists_eq_succ_of_ne_zero (by omega : rounds ≠ 0)
      unfold unescape
      rw [if_pos (by omega)]
      dsimp only
      rw [load_of_drop hdrop, Checked.done_bind, if_pos fun heq => hc (.inr heq),
        Checked.append_of_le (by simp; omega), Checked.done_bind,
        ih (drop_succ_of_drop hdrop) (by omega) (by omega) (by simp; omega)]
      simp
  | @escape seq char text bytes hseq h ih =>
      intro rounds input output rest hdrop hend hrounds hcapacity
      rw [List.length_cons, List.length_append] at hend hrounds
      rw [List.length_append] at hcapacity
      obtain ⟨rounds, rfl⟩ := Nat.exists_eq_succ_of_ne_zero (by omega : rounds ≠ 0)
      rw [List.cons_append, List.append_assoc] at hdrop
      have hrest : content.drop (input + (seq.length + 1)) = text ++ 34 :: rest := by
        have hcons : content.drop input = (92 :: seq) ++ (text ++ 34 :: rest) := hdrop
        exact drop_of_drop (92 :: seq) hcons
      unfold unescape
      rw [if_pos (by omega)]
      dsimp only
      rw [load_of_drop hdrop, Checked.done_bind, if_neg fun hne => hne rfl,
        escapeSequence_of_drop hseq hdrop (by omega), Checked.done_bind]
      dsimp only
      rw [Checked.append_of_le (by omega), Checked.done_bind,
        ih hrest (by omega) (by omega) (by simp; omega)]
      simp

theorem ofBuffer_append_zero (bytes : List UInt8) : ofBuffer (bytes ++ [0]) = ofBuffer bytes := by
  unfold ofBuffer
  induction bytes with
  | nil => rfl
  | cons c bytes ih => simp only [List.cons_append, List.takeWhile_cons, ih]

/-- `parse_string` reads a literal. -/
theorem parseString_of_drop {text bytes : List UInt8} (h : StringText text bytes)
    (hdrop : content.drop offset = quoted text ++ rest) :
    parseString content offset = .done (ofBuffer bytes, offset + (quoted text).length) := by
  have hcons : content.drop offset = 34 :: (text ++ 34 :: rest) := by
    rw [hdrop]
    simp [quoted]
  have hinside := drop_succ_of_drop hcons
  obtain ⟨skipped, hclose, hle⟩ := closingQuote_stringText h rest
  unfold parseString parseStringBuffer
  rw [load_of_drop hcons, Checked.done_bind, if_neg fun hne => hne rfl, hinside, hclose]
  dsimp only
  rw [unescape_stringText h hinside rfl (Nat.le_refl _) (by simp; omega), Checked.done_bind,
    Checked.pure_eq, Checked.done_bind, Checked.pure_eq, List.nil_append, ofBuffer_append_zero,
    length_quoted]
  congr 2
  omega

/-! ## Numbers -/

/-- No byte of a number comes next. -/
def NumberEnds (rest : List UInt8) : Prop := ∀ c, rest.head? = some c → numberByte c = false

theorem takeWhile_of_ends {p : UInt8 → Bool} {text rest : List UInt8}
    (htext : ∀ c ∈ text, p c = true)
    (hrest : ∀ c, rest.head? = some c → p c = false) : (text ++ rest).takeWhile p = text := by
  rw [List.takeWhile_append_of_pos htext]
  cases rest with
  | nil => simp
  | cons c rest =>
      have hc := hrest c rfl
      rw [List.takeWhile_cons_of_neg (by simp [hc]), List.append_nil]

theorem head?_append_of_ne_nil {text rest : List UInt8} (h : text ≠ []) :
    (text ++ rest).head? = text.head? := by
  rw [List.head?_append_of_ne_nil _ h]

theorem head?_of_digits {ds : List UInt8} (h : Digits ds) :
    ∃ c, ds.head? = some c ∧ isDigit c = true := by
  obtain ⟨c, ds, rfl⟩ := List.exists_cons_of_ne_nil h.1
  exact ⟨c, rfl, h.2 c (by simp)⟩

theorem ne_of_isDigit {c d : UInt8} (hc : isDigit c = true) (hd : isDigit d = false) : c ≠ d := by
  rintro rfl
  rw [hc] at hd
  cases hd

/-- Whether a text starts with a sign. -/
theorem sign_of_digits {sign ds : List UInt8} (rest : List UInt8) (hds : Digits ds)
    (hsign : sign = [] ∨ sign = [43] ∨ sign = [45]) :
    (if (sign ++ ds ++ rest).head? == some 43 || (sign ++ ds ++ rest).head? == some 45 then 1
      else 0) =
      sign.length := by
  obtain ⟨c, hhead, hc⟩ := head?_of_digits hds
  rcases hsign with rfl | rfl | rfl
  · have hplus : c ≠ 43 := ne_of_isDigit hc rfl
    have hminus : c ≠ 45 := ne_of_isDigit hc rfl
    rw [List.nil_append, head?_append_of_ne_nil hds.1, hhead]
    simp [hplus, hminus]
  · rfl
  · rfl

theorem exponentLength_of_exponent {exp : List UInt8} (h : Exponent exp) :
    exponentLength exp = exp.length := by
  rcases h with rfl | ⟨e, sign, ds, he, hsign, hds, rfl⟩
  · rfl
  · have hletter : (e == 101 || e == 69) = true := by
      rcases he with rfl | rfl
      · rfl
      · rfl
    have hlength := sign_of_digits [] hds hsign
    rw [List.append_nil] at hlength
    have htake : (((sign ++ ds).drop sign.length).takeWhile isDigit) = ds := by
      rw [List.drop_left]
      exact List.takeWhile_eq_self_iff.mpr hds.2
    have hpos := List.length_pos_iff.mpr hds.1
    unfold exponentLength
    rw [List.cons_append]
    dsimp only
    rw [if_pos hletter, hlength, htake, if_neg (by omega), List.length_cons, List.length_append]
    omega

theorem ends_exponent {exp : List UInt8} (h : Exponent exp) :
    ∀ c, exp.head? = some c → isDigit c = false ∧ c ≠ 46 := by
  intro c hc
  rcases h with rfl | ⟨e, sign, ds, he, hsign, hds, rfl⟩
  · cases hc
  · cases hc
    rcases he with rfl | rfl
    · decide
    · decide

theorem numberByte_of_isDigit {c : UInt8} (h : isDigit c = true) : numberByte c = true := by
  simp [numberByte, h]

theorem numberByte_of_numberText {text : List UInt8} (h : NumberText text) :
    ∀ c ∈ text, numberByte c = true := by
  obtain ⟨hsign, hint, hfrac, hexp⟩ := h
  intro c hc
  simp only [List.mem_append] at hc
  rcases hc with ((hc | hc) | hc) | hc
  · rcases hsign with rfl | rfl
    · cases hc
    · obtain rfl := List.mem_singleton.mp hc
      rfl
  · exact numberByte_of_isDigit (hint.2 c hc)
  · rcases hfrac with rfl | ⟨ds, hds, rfl⟩
    · cases hc
    · rcases List.mem_cons.mp hc with rfl | hc
      · rfl
      · exact numberByte_of_isDigit (hds.2 c hc)
  · rcases hexp with rfl | ⟨e, sign, ds, he, hsign, hds, rfl⟩
    · cases hc
    · rcases List.mem_append.mp hc with hc | hc
      · rcases List.mem_cons.mp hc with rfl | hc
        · rcases he with rfl | rfl
          · rfl
          · rfl
        · rcases hsign with rfl | rfl | rfl
          · cases hc
          · obtain rfl := List.mem_singleton.mp hc
            rfl
          · obtain rfl := List.mem_singleton.mp hc
            rfl
      · exact numberByte_of_isDigit (hds.2 c hc)

/-- `strtod` takes a number whole. -/
theorem strtodLength_of_numberText {text : List UInt8} (h : NumberText text) :
    strtodLength text = text.length := by
  obtain @⟨sign, int, frac, exp, hsign, hint, hfrac, hexp⟩ := h
  have hends := ends_exponent hexp
  have hlength : (if (sign ++ int ++ frac ++ exp).head? == some 43 ||
      (sign ++ int ++ frac ++ exp).head? == some 45 then 1 else 0) = sign.length := by
    rw [List.append_assoc (sign ++ int)]
    exact sign_of_digits _ hint (hsign.imp_right .inr)
  have hafter : ∀ c, (frac ++ exp).head? = some c → isDigit c = false := by
    intro c hc
    rcases hfrac with rfl | ⟨ds, hds, rfl⟩
    · exact (hends c hc).1
    · cases hc
      rfl
  have hint' : ((sign ++ int ++ frac ++ exp).drop sign.length).takeWhile isDigit = int := by
    rw [List.append_assoc, List.append_assoc, List.drop_left, takeWhile_of_ends hint.2 hafter]
  have hrest : (sign ++ int ++ frac ++ exp).drop (sign.length + int.length) = frac ++ exp := by
    rw [← List.length_append, List.append_assoc (sign ++ int), List.drop_left]
  have hpos := List.length_pos_iff.mpr hint.1
  unfold strtodLength
  dsimp only
  rw [hlength, hint', hrest]
  rcases hfrac with rfl | ⟨ds, hds, rfl⟩
  · have hpoint : (exp.head? == some 46) = false := by
      rw [beq_eq_false_iff_ne]
      exact fun hc => (hends 46 hc).2 rfl
    rw [List.nil_append, hpoint]
    simp only [Bool.false_eq_true, if_false, Nat.add_zero, List.drop_zero]
    rw [if_neg (by omega), exponentLength_of_exponent hexp]
    simp only [List.length_append, List.length_nil]
    omega
  · have htake : (ds ++ exp).takeWhile isDigit = ds :=
      takeWhile_of_ends hds.2 fun c hc => (hends c hc).1
    simp only [List.cons_append, List.head?_cons, beq_self_eq_true, if_true, List.drop_succ_cons,
      List.drop_zero, htake]
    rw [if_neg (by omega), Nat.add_comm 1, List.drop_succ_cons, List.drop_left,
      exponentLength_of_exponent hexp]
    simp only [List.length_append, List.length_cons]
    omega

variable {strtod : List UInt8 → Double}

theorem parseNumber_of_drop {text : List UInt8} (h : NumberText text) (hrest : NumberEnds rest)
    (hdrop : content.drop offset = text ++ rest) :
    parseNumber content strtod offset = .done (.number (strtod text), offset + text.length) := by
  have hlength := strtodLength_of_numberText h
  have hpos : text.length ≠ 0 := by
    obtain ⟨-, hint, -, -⟩ := h
    have := List.length_pos_iff.mpr hint.1
    simp only [List.length_append]
    omega
  unfold parseNumber
  rw [hdrop, takeWhile_of_ends (numberByte_of_numberText h) hrest]
  dsimp only
  rw [hlength, if_neg hpos, List.take_length]
  rfl

/-! ## Scalars -/

theorem startsWith_of_drop {text : List UInt8} (h : content.drop offset = text ++ rest) :
    startsWith content offset text = true := by
  unfold startsWith
  rw [h, List.take_left]
  exact beq_self_eq_true text

theorem startsWith_of_ne {c d : UInt8} {literal : List UInt8} (h : content.drop offset = c :: rest)
    (hne : c ≠ d) : startsWith content offset (d :: literal) = false := by
  unfold startsWith
  rw [h, List.length_cons, List.take_succ_cons]
  exact beq_eq_false_iff_ne.mpr fun heq => hne (List.cons.inj heq).1

section Value

variable {array object : ℕ → Checked (CJson × ℕ)}

/-- A value that is no word is decided by its first byte. -/
theorem parseValueWith_of_drop {c : UInt8} (h : content.drop offset = c :: rest)
    (hc : c ≠ 110 ∧ c ≠ 102 ∧ c ≠ 116) : parseValueWith content strtod array object offset =
      if c = 34 then do
        let (s, offset) ← parseString content offset
        return (.string s, offset)
      else if c = 45 ∨ isDigit c = true then parseNumber content strtod offset
      else if c = 91 then array offset
      else if c = 123 then object offset
      else .failed := by
  unfold parseValueWith nullText falseText trueText
  rw [startsWith_of_ne h hc.1, startsWith_of_ne h hc.2.1, startsWith_of_ne h hc.2.2,
    getElem?_of_drop h]
  rfl

theorem parseValueWith_scalar {text : List UInt8} {tree : Tree} (h : ScalarText text tree)
    (hrest : NumberEnds rest) (hdrop : content.drop offset = text ++ rest) :
    parseValueWith content strtod array object offset =
      .done (CJson.ofTree strtod tree, offset + text.length) := by
  cases h with
  | null =>
      unfold parseValueWith
      rw [startsWith_of_drop hdrop]
      rfl
  | bool value =>
      cases value with
      | false =>
          have hcons : content.drop offset = 102 :: ([97, 108, 115, 101] ++ rest) := hdrop
          have hword : startsWith content offset falseText = true := startsWith_of_drop hdrop
          unfold parseValueWith nullText
          rw [startsWith_of_ne hcons (by decide), hword]
          rfl
      | true =>
          have hcons : content.drop offset = 116 :: ([114, 117, 101] ++ rest) := hdrop
          have hword : startsWith content offset trueText = true := startsWith_of_drop hdrop
          unfold parseValueWith nullText falseText
          rw [startsWith_of_ne hcons (by decide), startsWith_of_ne hcons (by decide), hword]
          rfl
  | number hnumber =>
      have hfirst : ∃ c tail, text = c :: tail ∧ (c = 45 ∨ isDigit c = true) := by
        obtain ⟨hsign, hint, -, -⟩ := hnumber
        rcases hsign with rfl | rfl
        · obtain ⟨c, int, rfl⟩ := List.exists_cons_of_ne_nil hint.1
          exact ⟨c, _, rfl, .inr (hint.2 c (by simp))⟩
        · exact ⟨45, _, rfl, .inl rfl⟩
      obtain ⟨c, tail, rfl, hc⟩ := hfirst
      have hother : ∀ d, d ≠ 45 → isDigit d = false → c ≠ d := by
        intro d hminus hdigit
        rcases hc with rfl | hc
        · exact hminus.symm
        · exact ne_of_isDigit hc hdigit
      rw [parseValueWith_of_drop hdrop ⟨hother 110 (by decide) rfl, hother 102 (by decide) rfl,
        hother 116 (by decide) rfl⟩, if_neg (hother 34 (by decide) rfl), if_pos hc,
        parseNumber_of_drop hnumber hrest hdrop]
      rfl
  | string hstring =>
      rw [parseValueWith_of_drop hdrop (by decide), if_pos rfl, parseString_of_drop hstring hdrop]
      rfl

end Value

/-! ## Items -/

/-- Starts with an ASCII character that is no blank and closes nothing. -/
def Opens (text : List UInt8) : Prop :=
  ∃ c tail, text = c :: tail ∧ 32 < c ∧ c ≠ 93 ∧ c ≠ 125 ∧ c < 128

theorem opens_text {n : ℕ} {text : List UInt8} {tree : Tree} (h : Text n text tree) :
    Opens text := by
  have hscalar : ScalarText text tree → Opens text := by
    intro hscalar
    cases hscalar with
    | null => exact ⟨110, _, rfl, by decide⟩
    | bool value =>
        cases value with
        | false => exact ⟨102, _, rfl, by decide⟩
        | true => exact ⟨116, _, rfl, by decide⟩
    | number hnumber =>
        obtain ⟨hsign, hint, -, -⟩ := hnumber
        rcases hsign with rfl | rfl
        · obtain ⟨c, int, rfl⟩ := List.exists_cons_of_ne_nil hint.1
          have hc : isDigit c = true := hint.2 c (by simp)
          obtain ⟨hlow, hhigh⟩ : 48 ≤ c ∧ c ≤ 57 := by
            simpa only [isDigit, Bool.and_eq_true, decide_eq_true_eq] using hc
          exact ⟨c, _, rfl, UInt8.lt_of_lt_of_le (by decide) hlow, ne_of_isDigit hc rfl,
            ne_of_isDigit hc rfl, UInt8.lt_of_le_of_lt hhigh (by decide)⟩
        · exact ⟨45, _, rfl, by decide⟩
    | string hstring => exact ⟨34, _, rfl, by decide⟩
  cases n with
  | zero => exact hscalar h
  | succ n =>
      rcases h with h | h
      · exact hscalar h
      · cases h with
        | emptyArray => exact ⟨91, _, rfl, by decide⟩
        | array => exact ⟨91, _, rfl, by decide⟩
        | emptyObject => exact ⟨123, _, rfl, by decide⟩
        | object => exact ⟨123, _, rfl, by decide⟩

theorem stops_blank {blank : List UInt8} {c : UInt8} (hblank : Blank blank)
    (hc : numberByte c = false) : NumberEnds (blank ++ c :: rest) := by
  intro d hd
  cases blank with
  | nil =>
      cases hd
      exact hc
  | cons e blank =>
      cases hd
      have hall : ∀ k : Fin 33, numberByte (UInt8.ofNat k.val) = false := by decide
      have hle : d.toNat ≤ 32 := UInt8.le_iff_toNat_le.mp (hblank d (by simp))
      have hd := hall ⟨d.toNat, by omega⟩
      rwa [UInt8.ofNat_toNat] at hd

theorem comesNext_of_drop {c : UInt8} (h : content.drop offset = c :: rest) (d : UInt8) :
    comesNext content offset d = (c == d) := by
  unfold comesNext
  rw [getElem?_of_drop h]
  rfl

section Items

variable {τ α : Type} {P : List UInt8 → τ → Prop} {item : ℕ → Checked (α × ℕ)} {f : τ → α}

/-- A round reads an item of `P` behind blanks; it starts at the byte in front of them. -/
def ReadsItem (content : List UInt8) (P : List UInt8 → τ → Prop) (item : ℕ → Checked (α × ℕ))
    (f : τ → α) : Prop :=
  ∀ (offset : ℕ) (blank text rest : List UInt8) (t : τ), P text t → Blank blank → NumberEnds rest →
    content.drop (offset + 1) = blank ++ (text ++ rest) →
      item offset = .done (f t, offset + 1 + blank.length + text.length)

/-- The loop reads items with commas between them, up to the closing bracket. -/
theorem parseItems_listed (hitem : ReadsItem content P item f)
    (hopens : ∀ text t, P text t → Opens text) {close : UInt8}
    (hclose : close = 93 ∨ close = 125) {text : List UInt8} {ts : List τ} (h : Listed P text ts) :
    ∀ {rounds offset : ℕ} {rest : List UInt8}, text.length ≤ rounds →
      content.drop (offset + 1) = text ++ close :: rest →
        parseItems content item rounds offset = .done (ts.map f, offset + 1 + text.length) := by
  have hbyte : 32 < close ∧ numberByte close = false ∧ (close == 44) = false := by
    rcases hclose with rfl | rfl
    · decide
    · decide
  induction h with
  | @one b₁ b₂ text t h₁ h₂ h =>
      intro rounds offset rest hrounds hdrop
      obtain ⟨c, tail, rfl, -⟩ := hopens text t h
      simp only [List.length_append, List.length_cons] at hrounds
      obtain ⟨rounds, rfl⟩ := Nat.exists_eq_succ_of_ne_zero (by omega : rounds ≠ 0)
      simp only [List.append_assoc] at hdrop
      -- the last item: blanks, then the closing bracket
      have hafter : content.drop (offset + 1 + b₁.length + (c :: tail).length) =
          b₂ ++ close :: rest := by
        refine drop_of_drop (c :: tail) ?_
        exact drop_of_drop b₁ hdrop
      unfold parseItems
      rw [hitem _ _ _ _ _ h h₁ (stops_blank h₂ hbyte.2.1) hdrop, Checked.done_bind]
      dsimp only
      rw [skipWhitespace_blank h₂ hbyte.1 hafter, comesNext_of_drop (drop_of_drop b₂ hafter),
        hbyte.2.2]
      simp only [List.length_append, List.length_cons, List.map_cons, List.map_nil, Checked.pure_eq,
        Nat.add_assoc]
      rfl
  | @cons b₁ b₂ text following t ts h₁ h₂ h hlisted ih =>
      intro rounds offset rest hrounds hdrop
      simp only [List.length_append, List.length_cons] at hrounds
      obtain ⟨rounds, rfl⟩ := Nat.exists_eq_succ_of_ne_zero (by omega : rounds ≠ 0)
      simp only [List.append_assoc, List.cons_append] at hdrop
      -- a comma, and the round that reads the rest has fewer bytes before it
      have hafter : content.drop (offset + 1 + b₁.length + text.length) =
          b₂ ++ 44 :: (following ++ close :: rest) := by
        refine drop_of_drop text ?_
        exact drop_of_drop b₁ hdrop
      have hcomma := drop_of_drop b₂ hafter
      unfold parseItems
      rw [hitem _ _ _ _ _ h h₁ (stops_blank h₂ rfl) hdrop, Checked.done_bind]
      dsimp only
      rw [skipWhitespace_blank h₂ (by decide) hafter, comesNext_of_drop hcomma,
        if_pos (beq_self_eq_true 44), ih (by omega) (drop_succ_of_drop hcomma), Checked.done_bind]
      simp only [List.length_append, List.length_cons, List.map_cons, Checked.pure_eq]
      congr 2
      omega

/-- Items start with blanks and an item. -/
theorem listed_unblank {text : List UInt8} {ts : List τ} (h : Listed P text ts) :
    ∃ blank first following t, text = blank ++ (first ++ following) ∧ Blank blank ∧ P first t ∧
      Listed P (first ++ following) ts := by
  cases h with
  | @one b₁ b₂ text t h₁ h₂ h =>
      exact ⟨b₁, text, b₂, t, rfl, h₁, h, Listed.one blank_nil h₂ h⟩
  | @cons b₁ b₂ text following t ts h₁ h₂ h hlisted =>
      exact ⟨b₁, text, _, t, rfl, h₁, h, Listed.cons blank_nil h₂ h hlisted⟩

variable {close : UInt8}

theorem parseBetween_blank {blank : List UInt8} (hblank : Blank blank)
    (hclose : close = 93 ∨ close = 125)
    (hdrop : content.drop (offset + 1) = blank ++ close :: rest) :
    parseBetween content item close offset = .done ([], offset + 1 + blank.length + 1) := by
  have hbyte : 32 < close := by
    rcases hclose with rfl | rfl
    · decide
    · decide
  unfold parseBetween
  dsimp only
  rw [skipWhitespace_blank hblank hbyte hdrop, comesNext_of_drop (drop_of_drop blank hdrop),
    if_pos (beq_self_eq_true close)]
  rfl

theorem parseBetween_listed (hitem : ReadsItem content P item f)
    (hopens : ∀ text t, P text t → Opens text) (hclose : close = 93 ∨ close = 125)
    {text : List UInt8} {ts : List τ} (h : Listed P text ts)
    (hdrop : content.drop (offset + 1) = text ++ close :: rest) :
    parseBetween content item close offset = .done (ts.map f, offset + 1 + text.length + 1) := by
  obtain ⟨blank, first, following, t, rfl, hblank, hfirst, hlisted⟩ := listed_unblank h
  obtain ⟨c, tail, rfl, hc, hc93, hc125, -⟩ := hopens first t hfirst
  have hlength := congrArg List.length hdrop
  simp only [List.length_drop, List.length_append, List.length_cons] at hlength
  rw [List.append_assoc] at hdrop
  have hstart := drop_of_drop blank hdrop
  have hne : (c == close) = false := by
    rw [beq_eq_false_iff_ne]
    rcases hclose with rfl | rfl
    · exact hc93
    · exact hc125
  have hback : offset + 1 + blank.length - 1 + 1 = offset + 1 + blank.length := by omega
  have hitems : parseItems content item content.length (offset + 1 + blank.length - 1) =
      .done (ts.map f, offset + 1 + blank.length - 1 + 1 + (c :: tail ++ following).length) := by
    refine parseItems_listed hitem hopens hclose hlisted ?_ (hback.symm ▸ hstart)
    simp only [List.length_append, List.length_cons]
    omega
  have hend := drop_of_drop _ hstart
  unfold parseBetween
  dsimp only
  rw [skipWhitespace_blank hblank hc hdrop, comesNext_of_drop hstart, hne,
    if_neg (by decide), if_neg (by omega), hitems, Checked.done_bind, hback]
  dsimp only
  rw [comesNext_of_drop hend, if_pos (beq_self_eq_true close), Checked.pure_eq]
  simp only [List.length_append, Nat.add_assoc]

end Items

/-! ## Values -/

theorem ofItems_eq_map (strtod : List UInt8 → Double) (items : List Tree) :
    CJson.ofItems strtod items = items.map (CJson.ofTree strtod) := by
  induction items with
  | nil => rfl
  | cons tree trees ih => rw [CJson.ofItems, List.map_cons, ih]

/-- What cJSON makes of a member. -/
def memberOfTree (strtod : List UInt8 → Double) (m : List UInt8 × Tree) : CString × CJson :=
  (ofBuffer m.1, CJson.ofTree strtod m.2)

theorem ofMembers_eq_map (strtod : List UInt8 → Double) (members : List (List UInt8 × Tree)) :
    CJson.ofMembers strtod members = members.map (memberOfTree strtod) := by
  induction members with
  | nil => rfl
  | cons m ms ih =>
      rw [CJson.ofMembers, List.map_cons, ih]
      rfl

variable {value : ℕ → Checked (CJson × ℕ)} {levels : ℕ}

/-- What `parse_value` does at the start of a text. -/
def ReadsText (content : List UInt8) (strtod : List UInt8 → Double)
    (value : ℕ → Checked (CJson × ℕ)) (levels : ℕ) : Prop :=
  ∀ (offset : ℕ) (text rest : List UInt8) (tree : Tree), Text levels text tree → NumberEnds rest →
    content.drop offset = text ++ rest →
      value offset = .done (CJson.ofTree strtod tree, offset + text.length)

theorem readsItem_parseElement (h : ReadsText content strtod value levels) :
    ReadsItem content (Text levels) (parseElement content value) (CJson.ofTree strtod) := by
  intro offset blank text rest tree htext hblank hrest hdrop
  have hvalue := h _ _ _ _ htext hrest (drop_of_drop blank hdrop)
  obtain ⟨c, tail, rfl, hc, -⟩ := opens_text htext
  unfold parseElement
  rw [skipWhitespace_blank hblank hc hdrop, hvalue]

theorem opens_named (text : List UInt8) (m : List UInt8 × Tree)
    (h : Named (Text levels) text m) : Opens text := by
  cases h with
  | mk => exact ⟨34, _, rfl, by decide⟩

theorem readsItem_parseMember (h : ReadsText content strtod value levels) :
    ReadsItem content (Named (Text levels)) (parseMember content value) (memberOfTree strtod) := by
  intro offset blank text rest m hnamed hblank hrest hdrop
  cases hnamed with
  | @mk b₁ b₂ name key text tree h₁ h₂ hname htext =>
      simp only [List.append_assoc, List.cons_append] at hdrop
      have hstart := drop_of_drop blank hdrop
      have hname' := parseString_of_drop hname hstart
      have hafter := drop_of_drop (quoted name) hstart
      have hcolon := drop_of_drop b₁ hafter
      have htext' := drop_succ_of_drop hcolon
      have hvalue := h _ _ _ _ htext hrest (drop_of_drop b₂ htext')
      obtain ⟨c, tail, rfl, hc, -⟩ := opens_text htext
      have hquote : quoted name = 34 :: (name ++ [34]) := rfl
      have hlength := congrArg List.length hdrop
      simp only [List.length_drop, List.length_append, hquote, List.length_cons] at hlength
      unfold parseMember
      rw [if_neg (by omega), skipWhitespace_blank hblank (by decide) hdrop, hname',
        Checked.done_bind]
      dsimp only
      rw [skipWhitespace_blank h₁ (by decide) hafter, comesNext_of_drop hcolon,
        if_pos (beq_self_eq_true 58), skipWhitespace_blank h₂ hc htext', hvalue, Checked.done_bind,
        Checked.pure_eq]
      simp only [List.length_append, List.length_cons]
      unfold memberOfTree
      congr 2
      omega

theorem parseArray_of_drop (h : ReadsText content strtod value levels) {text : List UInt8}
    {items : List Tree} (htext : Nested (Text levels) text (.array items))
    (hdrop : content.drop offset = text ++ rest) :
    parseArray content value offset =
      .done (.array (CJson.ofItems strtod items), offset + text.length) := by
  unfold parseArray
  cases htext with
  | @emptyArray blank hblank =>
      simp only [List.cons_append, List.append_assoc, List.nil_append] at hdrop
      rw [load_of_drop hdrop, Checked.done_bind, if_neg fun hne => hne rfl,
        parseBetween_blank hblank (.inl rfl) (drop_succ_of_drop hdrop), Checked.done_bind]
      dsimp only
      rw [Checked.pure_eq, List.length_cons, List.length_append, List.length_singleton,
        CJson.ofItems]
      congr 2
      omega
  | @array text _ hlisted =>
      simp only [List.cons_append, List.append_assoc, List.nil_append] at hdrop
      rw [load_of_drop hdrop, Checked.done_bind, if_neg fun hne => hne rfl,
        parseBetween_listed (readsItem_parseElement h) (fun _ _ => opens_text) (.inl rfl) hlisted
          (drop_succ_of_drop hdrop), Checked.done_bind]
      dsimp only
      rw [Checked.pure_eq, ofItems_eq_map, List.length_cons, List.length_append,
        List.length_singleton]
      congr 2
      omega

theorem parseObject_of_drop (h : ReadsText content strtod value levels) {text : List UInt8}
    {members : List (List UInt8 × Tree)} (htext : Nested (Text levels) text (.object members))
    (hdrop : content.drop offset = text ++ rest) :
    parseObject content value offset =
      .done (.object (CJson.ofMembers strtod members), offset + text.length) := by
  unfold parseObject
  cases htext with
  | @emptyObject blank hblank =>
      simp only [List.cons_append, List.append_assoc, List.nil_append] at hdrop
      rw [comesNext_of_drop hdrop, if_pos (beq_self_eq_true 123),
        parseBetween_blank hblank (.inr rfl) (drop_succ_of_drop hdrop), Checked.done_bind]
      dsimp only
      rw [Checked.pure_eq, List.length_cons, List.length_append, List.length_singleton,
        CJson.ofMembers]
      congr 2
      omega
  | @object text _ hlisted =>
      simp only [List.cons_append, List.append_assoc, List.nil_append] at hdrop
      rw [comesNext_of_drop hdrop, if_pos (beq_self_eq_true 123),
        parseBetween_listed (readsItem_parseMember h) opens_named (.inr rfl) hlisted
          (drop_succ_of_drop hdrop), Checked.done_bind]
      dsimp only
      rw [Checked.pure_eq, ofMembers_eq_map, List.length_cons, List.length_append,
        List.length_singleton]
      congr 2
      omega

theorem readsText_parseValue (content : List UInt8) (strtod : List UInt8 → Double) (levels : ℕ) :
    ReadsText content strtod (parseValue content strtod levels) levels := by
  induction levels with
  | zero =>
      intro offset text rest tree htext hrest hdrop
      exact parseValueWith_scalar htext hrest hdrop
  | succ levels ih =>
      intro offset text rest tree htext hrest hdrop
      rcases htext with hscalar | hnested
      · exact parseValueWith_scalar hscalar hrest hdrop
      · unfold parseValue
        have htext := hnested
        cases hnested with
        | emptyArray | array =>
            rw [parseValueWith_of_drop hdrop (by decide), if_neg (by decide), if_neg (by decide),
              if_pos rfl, parseArray_of_drop ih htext hdrop]
            rfl
        | emptyObject | object =>
            rw [parseValueWith_of_drop hdrop (by decide), if_neg (by decide), if_neg (by decide),
              if_neg (by decide), if_pos rfl, parseObject_of_drop ih htext hdrop]
            rfl

/-- A byte order mark in front of a text is skipped, and nothing else is. -/
theorem skipUtf8Bom_of_opens {bom blank text : List UInt8}
    (hbom : bom = [] ∨ bom = [0xEF, 0xBB, 0xBF])
    (hblank : Blank blank) (hopens : Opens text) (rest : List UInt8) :
    skipUtf8Bom (bom ++ (blank ++ (text ++ (rest ++ [0])))) = bom.length := by
  obtain ⟨c, tail, rfl, -, -, -, hc⟩ := hopens
  unfold skipUtf8Bom
  rcases hbom with rfl | rfl
  · refine if_neg fun h => ?_
    have hhead := congrArg List.head? h.2
    rw [List.head?_take, if_neg (by decide)] at hhead
    cases blank with
    | nil =>
        cases hhead
        exact absurd hc (by decide)
    | cons b blank =>
        cases hhead
        exact absurd (hblank 0xEF (by simp)) (by decide)
  · refine if_pos ⟨?_, rfl⟩
    simp only [List.length_append, List.length_cons, List.length_nil]
    omega

/-- `cJSON_Parse` on a text between blanks. -/
theorem cjsonParse_of_text (strtod : List UInt8 → Double) {bom blank text rest : List UInt8}
    {tree : Tree} (hbom : bom = [] ∨ bom = [0xEF, 0xBB, 0xBF]) (hblank : Blank blank)
    (h : Text cjsonNestingLimit text tree) (hrest : NumberEnds (rest ++ [0])) :
    cjsonParse strtod (bom ++ (blank ++ (text ++ rest))) = some (CJson.ofTree strtod tree) := by
  have hopens := opens_text h
  have happend : bom ++ (blank ++ (text ++ rest)) ++ [0] =
      bom ++ (blank ++ (text ++ (rest ++ [0]))) := by simp
  have hdrop : (bom ++ (blank ++ (text ++ (rest ++ [0])))).drop bom.length =
      blank ++ (text ++ (rest ++ [0])) := List.drop_left
  have hvalue := readsText_parseValue _ strtod cjsonNestingLimit _ _ _ _ h hrest
    (drop_of_drop blank hdrop)
  have hskip := skipUtf8Bom_of_opens hbom hblank hopens rest
  obtain ⟨c, tail, rfl, hc, -⟩ := hopens
  unfold cjsonParse cjsonParseRun
  dsimp only
  rw [happend, hskip, skipWhitespace_blank hblank hc hdrop, hvalue]
  rfl

/-- `cJSON_Parse`, its allocations granted, reads every JSON text that nests at most
`CJSON_NESTING_LIMIT` deep, behind a byte order mark and blanks if there are any, and whatever
follows that is no part of a number.  A string of the value is a C string and ends where the
string of the text has its first `\u0000`. -/
theorem cjsonParse_reads_json (strtod : List UInt8 → Double) (tree : Tree)
    (bom blank text rest : List UInt8) (hbom : bom = [] ∨ bom = [0xEF, 0xBB, 0xBF])
    (hblank : Blank blank) (h : Text cjsonNestingLimit text tree)
    (hrest : ∀ c, rest.head? = some c → numberByte c = false) :
    cjsonParse strtod (bom ++ (blank ++ (text ++ rest))) = some (CJson.ofTree strtod tree) := by
  refine cjsonParse_of_text strtod hbom hblank h ?_
  cases rest with
  | nil =>
      intro c hc
      cases hc
      rfl
  | cons d rest => exact hrest

/-- An array of a string with an escape and a number with an exponent. -/
def sampleTree : Tree := .array [.string [0xC3, 0xA9, 34], .number (cstr "-1.5e+3")]

theorem cjsonParse_reads_sample :
    cjsonParse (fun _ => 7) ([0xEF, 0xBB, 0xBF] ++ ([32] ++ (sampleTree.write ++ cstr ", x"))) =
      some (.array [.string [0xC3, 0xA9, 34], .number 7]) := by
  have hnumber : cstr "-1.5e+3" = [45] ++ [49] ++ [46, 53] ++ [101, 43, 51] := by decide +kernel
  refine cjsonParse_reads_json (fun _ => 7) sampleTree _ _ _ _ (.inr rfl) ?_ ?_ ?_
  · intro c hc
    obtain rfl := List.mem_singleton.mp hc
    decide
  · refine JsonText.text_write _ ?_ _ (by decide +kernel)
    intro text htext
    obtain rfl : text = cstr "-1.5e+3" := by
      simpa [sampleTree, Tree.numbers, JsonText.numbersOfItems] using htext
    rw [hnumber]
    exact .mk (.inr rfl) (digits_of_all (by simp) rfl)
      (.inr ⟨[53], digits_of_all (by simp) rfl, rfl⟩)
      (.inr ⟨101, [43], [51], .inr rfl, .inr (.inl rfl), digits_of_all (by simp) rfl, rfl⟩)
  · intro c hc
    obtain rfl : c = 44 := by
      have hcomma : (cstr ", x").head? = some 44 := by decide +kernel
      rw [hcomma] at hc
      exact (Option.some.inj hc).symm
    rfl

end WebTerminal
