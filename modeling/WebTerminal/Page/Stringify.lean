import WebTerminal.Lib.JsonScalars
import WebTerminal.Page.Text

/-!
# JSON.stringify

The page writes the bodies of its requests with `JSON.stringify`, which escapes code
units, and the browser sends the result in UTF-8.  As long as the strings are text, the
bytes that leave are those of the same object written byte by byte.
-/

set_option autoImplicit false

namespace WebTerminal

/-- An ASCII literal of the page. -/
def js (literal : String) : JsString := literal.toList.map fun c => UInt16.ofNat c.toNat

/-- The values the page puts into its requests. -/
inductive JsValue
  | string (value : JsString)
  | boolean (value : Bool)
  | number (value : ℕ)
  deriving DecidableEq

def isSurrogate (u : UInt16) : Bool := isHighSurrogate u || isLowSurrogate u

/-- The code units with an escape of two characters, each with its letter. -/
def shortEscapes : List (UInt16 × UInt16) :=
  [(8, 98), (9, 116), (10, 110), (12, 102), (13, 114), (34, 34), (92, 92)]

/-- A lower-case hexadecimal digit. -/
def hexUnit (n : UInt16) : UInt16 := if n < 10 then 48 + n else 87 + n

/-- The escape of a code unit by its number. -/
def unicodeEscape (u : UInt16) : JsString :=
  [92, 117, hexUnit (u / 4096), hexUnit (u / 256 % 16), hexUnit (u / 16 % 16), hexUnit (u % 16)]

/-- What stands for a code unit that is no half of a surrogate pair. -/
def quoteUnit (u : UInt16) : JsString :=
  match shortEscapes.find? fun entry => entry.1 == u with
  | some entry => [92, entry.2]
  | none => if u < 32 || isSurrogate u then unicodeEscape u else [u]

def quoteUnits : JsString → JsString
  | [] => []
  | [u] => quoteUnit u
  | u :: v :: rest =>
      if isHighSurrogate u && isLowSurrogate v then u :: v :: quoteUnits rest
      else quoteUnit u ++ quoteUnits (v :: rest)

/-- `JSON.stringify` of a string. -/
def quote (s : JsString) : JsString := 34 :: quoteUnits s ++ [34]

def JsValue.stringify : JsValue → JsString
  | string value => quote value
  | boolean value => if value then js "true" else js "false"
  | number value => (Nat.toDigits 10 value).map fun d => UInt16.ofNat d.toNat

def stringifyMember (m : JsString × JsValue) : JsString := quote m.1 ++ 58 :: m.2.stringify

def stringifyMembers : List (JsString × JsValue) → JsString
  | [] => []
  | [m] => stringifyMember m
  | m :: m' :: ms => stringifyMember m ++ 44 :: stringifyMembers (m' :: ms)

/-- `JSON.stringify` of an object. -/
def stringify (ms : List (JsString × JsValue)) : JsString := 123 :: stringifyMembers ms ++ [125]

/-- Text: every surrogate has its partner, and there is no NUL. -/
def JsString.isText : JsString → Bool
  | [] => true
  | [u] => u != 0 && !isSurrogate u
  | u :: v :: rest =>
      if isHighSurrogate u && isLowSurrogate v then isText rest
      else u != 0 && !isSurrogate u && isText (v :: rest)

/-! ## UTF-8 of what starts a string -/

theorem JsString.utf8_cons {u : UInt16} (hu : isSurrogate u = false) (s : JsString) :
    JsString.utf8 (u :: s) = String.utf8EncodeChar (unitChar u) ++ JsString.utf8 s := by
  have hhigh : isHighSurrogate u = false := (Bool.or_eq_false_iff.mp hu).1
  unfold JsString.utf8
  cases s with
  | nil => simp [JsString.scalars]
  | cons v rest => simp [JsString.scalars, hhigh]

theorem JsString.utf8_pair {u v : UInt16} (h : (isHighSurrogate u && isLowSurrogate v) = true)
    (s : JsString) :
    JsString.utf8 (u :: v :: s) = String.utf8EncodeChar (pairChar u v) ++ JsString.utf8 s := by
  unfold JsString.utf8
  rw [JsString.scalars, if_pos h, List.flatMap_cons]

/-- A code unit of ASCII. -/
theorem utf8_unit : ∀ n : Fin 128, isSurrogate (UInt16.ofNat n) = false ∧
    String.utf8EncodeChar (unitChar (UInt16.ofNat n)) = [UInt8.ofNat n] := by
  decide +kernel

theorem JsString.utf8_cons_ascii {u : UInt16} (hu : u.toNat < 128) (s : JsString) :
    JsString.utf8 (u :: s) = UInt8.ofNat u.toNat :: JsString.utf8 s := by
  obtain ⟨hsurrogate, hencoded⟩ := utf8_unit ⟨u.toNat, hu⟩
  rw [UInt16.ofNat_toNat] at hsurrogate hencoded
  rw [JsString.utf8_cons hsurrogate, hencoded]
  rfl

theorem JsString.utf8_append_ascii {a : JsString} (ha : ∀ u ∈ a, u.toNat < 128) (s : JsString) :
    JsString.utf8 (a ++ s) = a.map (fun u => UInt8.ofNat u.toNat) ++ JsString.utf8 s := by
  induction a with
  | nil => rfl
  | cons u a ih =>
      rw [List.cons_append, JsString.utf8_cons_ascii (ha u (by simp)),
        ih fun v hv => ha v (by simp [hv])]
      rfl

/-- A character outside ASCII is encoded in bytes outside ASCII. -/
theorem large_of_mem_utf8EncodeChar {c : Char} (hc : 128 ≤ c.toNat) {b : UInt8}
    (hb : b ∈ String.utf8EncodeChar c) : 128 ≤ b := by
  have hval : c.val.toNat = c.toNat := rfl
  unfold String.utf8EncodeChar at hb
  dsimp only at hb
  rw [UInt8.le_iff_toNat_le]
  show 128 ≤ b.toNat
  split at hb
  · omega
  · split at hb
    · simp only [List.mem_cons, List.not_mem_nil, or_false] at hb
      rcases hb with rfl | rfl <;> simp <;> omega
    · split at hb
      · simp only [List.mem_cons, List.not_mem_nil, or_false] at hb
        rcases hb with rfl | rfl | rfl <;> simp <;> omega
      · simp only [List.mem_cons, List.not_mem_nil, or_false] at hb
        rcases hb with rfl | rfl | rfl | rfl <;> simp <;> omega

/-! ## Strings -/

/-- Within ASCII the page escapes as the bytes are escaped. -/
theorem quoteUnit_ascii : ∀ n : Fin 128, quoteUnit (UInt16.ofNat n) =
    (JsonText.escapeByte (UInt8.ofNat n)).map (fun b => UInt16.ofNat b.toNat) ∧
      ∀ b ∈ JsonText.escapeByte (UInt8.ofNat n), b.toNat < 128 := by
  decide +kernel

theorem quoteUnit_of_large {u : UInt16} (hu : 128 ≤ u.toNat) (hsurrogate : isSurrogate u = false) :
    quoteUnit u = [u] := by
  have hnone : shortEscapes.find? (fun entry => entry.1 == u) = none := by
    have hall : ∀ entry ∈ shortEscapes, entry.1.toNat < 128 := by simp [shortEscapes]
    rw [List.find?_eq_none]
    intro entry hentry heq
    have := hall entry hentry
    rw [eq_of_beq heq] at this
    omega
  have hcontrol : ¬u < 32 := by
    rw [UInt16.lt_iff_toNat_lt]
    show ¬u.toNat < 32
    omega
  simp [quoteUnit, hnone, hcontrol, hsurrogate]

/-- A code unit of the basic plane is its character. -/
theorem unitChar_toNat {u : UInt16} (hu : isSurrogate u = false) :
    (unitChar u).toNat = u.toNat := by
  have hvalid : u.toNat.isValidChar := by
    simp only [isSurrogate, isHighSurrogate, isLowSurrogate, Bool.or_eq_false_iff,
      Bool.and_eq_false_iff, decide_eq_false_iff_not, UInt16.le_iff_toNat_le,
      UInt16.lt_iff_toNat_lt] at hu
    obtain ⟨hhigh, hlow⟩ := hu
    have := u.toNat_lt
    simp only [UInt16.reduceToNat] at hhigh hlow
    unfold Nat.isValidChar
    omega
  unfold unitChar
  rw [if_neg (by simpa [isSurrogate] using hu), Char.ofNat, dif_pos hvalid]
  rfl

theorem JsString.utf8_quoteUnit {u : UInt16} (hu : isSurrogate u = false) (s : JsString) :
    JsString.utf8 (quoteUnit u ++ s) =
      JsonText.escape (String.utf8EncodeChar (unitChar u)) ++ JsString.utf8 s := by
  by_cases hascii : u.toNat < 128
  · obtain ⟨hquote, hbytes⟩ := quoteUnit_ascii ⟨u.toNat, hascii⟩
    rw [UInt16.ofNat_toNat] at hquote
    have hencoded := (utf8_unit ⟨u.toNat, hascii⟩).2
    rw [UInt16.ofNat_toNat] at hencoded
    have hback : ∀ b ∈ JsonText.escapeByte (UInt8.ofNat u.toNat),
        UInt8.ofNat (UInt16.ofNat b.toNat).toNat = b := by
      intro b hb
      have := hbytes b hb
      apply UInt8.toNat_inj.mp
      simp
    rw [hquote, hencoded, JsString.utf8_append_ascii]
    · simp only [List.map_map, JsonText.escape_cons, JsonText.escape_nil, List.append_nil]
      congr 1
      exact (List.map_congr_left hback).trans (List.map_id _)
    · intro v hv
      obtain ⟨b, hb, rfl⟩ := List.mem_map.mp hv
      have := hbytes b hb
      simp
      omega
  · have hlarge : 128 ≤ (unitChar u).toNat := by
      rw [unitChar_toNat hu]
      omega
    rw [quoteUnit_of_large (by omega) hu,
      JsonText.escape_of_large fun b hb => large_of_mem_utf8EncodeChar hlarge hb]
    exact JsString.utf8_cons hu s

/-- A pair is a character outside ASCII. -/
theorem pairChar_large {u v : UInt16} (h : (isHighSurrogate u && isLowSurrogate v) = true) :
    128 ≤ (pairChar u v).toNat := by
  simp only [isHighSurrogate, isLowSurrogate, Bool.and_eq_true, decide_eq_true_eq,
    UInt16.le_iff_toNat_le, UInt16.lt_iff_toNat_lt, UInt16.reduceToNat] at h
  obtain ⟨⟨huLow, huHigh⟩, hvLow, hvHigh⟩ := h
  have hvalid : (0x10000 + (u.toNat - 0xD800) * 0x400 + (v.toNat - 0xDC00)).isValidChar := by
    unfold Nat.isValidChar
    omega
  unfold pairChar
  rw [Char.ofNat, dif_pos hvalid]
  show 128 ≤ 0x10000 + (u.toNat - 0xD800) * 0x400 + (v.toNat - 0xDC00)
  omega

/-- The string is sent as the literal of its bytes. -/
theorem JsString.utf8_quoteUnits {s : JsString} (hs : s.isText = true) (rest : JsString) :
    JsString.utf8 (quoteUnits s ++ 34 :: rest) =
      JsonText.escape s.utf8 ++ JsString.utf8 (34 :: rest) := by
  fun_induction quoteUnits s with
  | case1 => rfl
  | case2 u =>
      have hu : isSurrogate u = false := by simpa using (Bool.and_eq_true_iff.mp hs).2
      rw [JsString.utf8_quoteUnit hu, JsString.utf8_cons hu]
      simp [JsString.utf8, JsString.scalars]
  | case3 u v rest' hpair ih =>
      rw [JsString.isText, if_pos hpair] at hs
      have hlarge : JsonText.escape (String.utf8EncodeChar (pairChar u v)) =
          String.utf8EncodeChar (pairChar u v) :=
        JsonText.escape_of_large fun b hb => large_of_mem_utf8EncodeChar (pairChar_large hpair) hb
      calc JsString.utf8 (u :: v :: (quoteUnits rest' ++ 34 :: rest))
          = String.utf8EncodeChar (pairChar u v) ++
            JsString.utf8 (quoteUnits rest' ++ 34 :: rest) :=
            JsString.utf8_pair hpair _
        _ = JsonText.escape (String.utf8EncodeChar (pairChar u v)) ++
              (JsonText.escape (JsString.utf8 rest') ++ JsString.utf8 (34 :: rest)) := by
            rw [hlarge, ih hs]
        _ = JsonText.escape (JsString.utf8 (u :: v :: rest')) ++ JsString.utf8 (34 :: rest) := by
            rw [JsString.utf8_pair hpair, JsonText.escape_append, List.append_assoc]
  | case4 u v rest' hpair ih =>
      rw [JsString.isText, if_neg hpair] at hs
      obtain ⟨hunit, htext⟩ := Bool.and_eq_true_iff.mp hs
      have hu : isSurrogate u = false := by simpa using (Bool.and_eq_true_iff.mp hunit).2
      calc JsString.utf8 (quoteUnit u ++ quoteUnits (v :: rest') ++ 34 :: rest)
          = JsonText.escape (String.utf8EncodeChar (unitChar u)) ++
              JsString.utf8 (quoteUnits (v :: rest') ++ 34 :: rest) := by
            rw [List.append_assoc, JsString.utf8_quoteUnit hu]
        _ = JsonText.escape (String.utf8EncodeChar (unitChar u)) ++
              (JsonText.escape (JsString.utf8 (v :: rest')) ++ JsString.utf8 (34 :: rest)) := by
            rw [ih htext]
        _ = JsonText.escape (JsString.utf8 (u :: v :: rest')) ++ JsString.utf8 (34 :: rest) := by
            rw [JsString.utf8_cons hu, JsonText.escape_append, List.append_assoc]

/-- No byte of a text is NUL. -/
theorem JsString.notMem_utf8 {s : JsString} (hs : s.isText = true) : (0 : UInt8) ∉ s.utf8 := by
  have hencode : ∀ c : Char, c.toNat ≠ 0 → (0 : UInt8) ∉ String.utf8EncodeChar c := by
    intro c hc hmem
    by_cases hascii : c.toNat < 128
    · have hone : String.utf8EncodeChar c = [UInt8.ofNat c.toNat] := by
        unfold String.utf8EncodeChar
        exact if_pos (show c.toNat ≤ 127 by omega)
      rw [hone, List.mem_singleton] at hmem
      have := congrArg UInt8.toNat hmem
      simp at this
      omega
    · exact absurd (large_of_mem_utf8EncodeChar (not_lt.mp hascii) hmem) (by decide)
  have hunit : ∀ u : UInt16, (u != 0 && !isSurrogate u) = true →
      isSurrogate u = false ∧ (0 : UInt8) ∉ String.utf8EncodeChar (unitChar u) := by
    intro u hu
    obtain ⟨hne, hsurrogate⟩ := Bool.and_eq_true_iff.mp hu
    have hsurrogate : isSurrogate u = false := by simpa using hsurrogate
    refine ⟨hsurrogate, hencode _ ?_⟩
    rw [unitChar_toNat hsurrogate]
    intro hzero
    exact absurd (UInt16.toNat_inj.mp hzero) (by simpa using hne)
  fun_induction JsString.isText s with
  | case1 => simp [JsString.utf8, JsString.scalars]
  | case2 u =>
      obtain ⟨hsurrogate, hmem⟩ := hunit u hs
      rw [JsString.utf8_cons hsurrogate]
      simpa [JsString.utf8, JsString.scalars] using hmem
  | case3 u v rest hpair ih =>
      rw [JsString.utf8_pair hpair, List.mem_append, not_or]
      exact ⟨fun hmem => absurd (large_of_mem_utf8EncodeChar (pairChar_large hpair) hmem)
        (by decide), ih hs⟩
  | case4 u v rest hpair ih =>
      obtain ⟨hfirst, htext⟩ := Bool.and_eq_true_iff.mp hs
      obtain ⟨hsurrogate, hmem⟩ := hunit u hfirst
      rw [JsString.utf8_cons hsurrogate, List.mem_append, not_or]
      exact ⟨hmem, ih htext⟩

/-- A text takes at least as many bytes as it has code units. -/
theorem JsString.length_le_utf8 {s : JsString} (hs : s.isText = true) :
    s.length ≤ s.utf8.length := by
  have hpos : ∀ c : Char, 1 ≤ (String.utf8EncodeChar c).length :=
    fun c => List.length_pos_of_ne_nil String.utf8EncodeChar_ne_nil
  fun_induction JsString.isText s with
  | case1 => exact Nat.zero_le _
  | case2 u =>
      have hu : isSurrogate u = false := by simpa using (Bool.and_eq_true_iff.mp hs).2
      have := hpos (unitChar u)
      rw [JsString.utf8_cons hu, List.length_append, List.length_singleton]
      omega
  | case3 u v rest hpair ih =>
      have hlarge := pairChar_large hpair
      have htwo : 2 ≤ (String.utf8EncodeChar (pairChar u v)).length := by
        have hone : (pairChar u v).utf8Size ≠ 1 := by
          rw [ne_eq, Char.utf8Size_eq_one_iff, UInt32.le_iff_toNat_le]
          show ¬(pairChar u v).toNat ≤ 127
          omega
        have := hpos (pairChar u v)
        rw [String.length_utf8EncodeChar] at *
        omega
      have := ih hs
      rw [JsString.utf8_pair hpair, List.length_append, List.length_cons, List.length_cons]
      omega
  | case4 u v rest hpair ih =>
      obtain ⟨hfirst, htext⟩ := Bool.and_eq_true_iff.mp hs
      have hu : isSurrogate u = false := by simpa using (Bool.and_eq_true_iff.mp hfirst).2
      have := hpos (unitChar u)
      have := ih htext
      rw [JsString.utf8_cons hu, List.length_append, List.length_cons]
      omega

/-! ## Objects -/

def JsValue.isText : JsValue → Bool
  | string value => value.isText
  | _ => true

/-- The value in bytes. -/
def JsValue.scalar : JsValue → JsonText.Scalar
  | string value => .string value.utf8
  | boolean value => .bool value
  | number value => .number value

/-- A member in bytes. -/
def scalarOf (m : JsString × JsValue) : JsonText.Bytes × JsonText.Scalar := (m.1.utf8, m.2.scalar)

theorem JsString.utf8_quote {s : JsString} (hs : s.isText = true) (rest : JsString) :
    JsString.utf8 (quote s ++ rest) =
      JsonText.quoted (JsonText.escape s.utf8) ++ JsString.utf8 rest := by
  have htext : quote s ++ rest = 34 :: (quoteUnits s ++ 34 :: rest) := by simp [quote]
  rw [htext, JsString.utf8_cons_ascii (by decide), JsString.utf8_quoteUnits hs,
    JsString.utf8_cons_ascii (by decide)]
  simp [JsonText.quoted]

theorem JsValue.utf8_stringify {value : JsValue} (hvalue : value.isText = true) (rest : JsString) :
    JsString.utf8 (value.stringify ++ rest) = value.scalar.text ++ JsString.utf8 rest := by
  cases value with
  | string value => exact JsString.utf8_quote hvalue rest
  | boolean value =>
      cases value with
      | true => exact JsString.utf8_append_ascii (a := js "true") (by simp [js]) rest
      | false => exact JsString.utf8_append_ascii (a := js "false") (by simp [js]) rest
  | number value =>
      have hdigit : ∀ d ∈ Nat.toDigits 10 value, d.toNat ≤ 57 := by
        intro d hd
        have hdigit := Nat.isDigit_of_mem_toDigits (by decide) (by decide) hd
        simp only [Char.isDigit, Bool.and_eq_true, decide_eq_true_eq,
          UInt32.le_iff_toNat_le] at hdigit
        exact hdigit.2
      have hunit : ∀ d ∈ Nat.toDigits 10 value, (UInt16.ofNat d.toNat).toNat = d.toNat := by
        intro d hd
        have := hdigit d hd
        simp
        omega
      show JsString.utf8 ((Nat.toDigits 10 value).map _ ++ rest) = JsonText.digits value ++ _
      rw [JsString.utf8_append_ascii, List.map_map]
      · unfold JsonText.digits
        congr 1
        refine List.map_congr_left fun d hd => ?_
        show UInt8.ofNat (UInt16.ofNat d.toNat).toNat = _
        rw [hunit d hd]
      · intro u hu
        obtain ⟨d, hd, rfl⟩ := List.mem_map.mp hu
        have := hdigit d hd
        rw [hunit d hd]
        omega

theorem utf8_stringifyMember {m : JsString × JsValue} (hname : m.1.isText = true)
    (hvalue : m.2.isText = true) (rest : JsString) :
    JsString.utf8 (stringifyMember m ++ rest) =
      JsonText.scalarMember (scalarOf m) ++ JsString.utf8 rest := by
  unfold stringifyMember JsonText.scalarMember scalarOf
  rw [List.append_assoc, JsString.utf8_quote hname, List.cons_append,
    JsString.utf8_cons_ascii (by decide), JsValue.utf8_stringify hvalue]
  simp

theorem utf8_stringifyMembers {ms : List (JsString × JsValue)}
    (hms : ∀ m ∈ ms, m.1.isText = true ∧ m.2.isText = true) (rest : JsString) :
    JsString.utf8 (stringifyMembers ms ++ rest) =
      JsonText.scalarMembers (ms.map scalarOf) ++ JsString.utf8 rest := by
  induction ms with
  | nil => rfl
  | cons m ms ih =>
      obtain ⟨hname, hvalue⟩ := hms m (by simp)
      cases ms with
      | nil => exact utf8_stringifyMember hname hvalue rest
      | cons m' ms =>
          have hrest := ih fun m hm => hms m (by simp [hm])
          simp only [stringifyMembers, List.append_assoc, List.cons_append]
          rw [utf8_stringifyMember hname hvalue, JsString.utf8_cons_ascii (by decide), hrest]
          simp [JsonText.scalarMembers]

/-- What leaves the browser is the object written over bytes. -/
theorem utf8_stringify {ms : List (JsString × JsValue)}
    (hms : ∀ m ∈ ms, m.1.isText = true ∧ m.2.isText = true) :
    (stringify ms).utf8 = JsonText.writeScalars (ms.map scalarOf) := by
  unfold stringify JsonText.writeScalars
  rw [List.cons_append, JsString.utf8_cons_ascii (by decide), utf8_stringifyMembers hms]
  rfl

end WebTerminal
