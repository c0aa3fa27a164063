import Mathlib.Data.List.Basic

/-!
# JSON objects of strings as text

The grammar of string literals and of an object, up to the values that are not strings,
over the bytes of the text.  `writeObject` is the shortest text of an object of strings:
it escapes nothing but quotes and backslashes and leaves no space.  `readObject` reads it
back.
-/

set_option autoImplicit false

namespace JsonText

abbrev Bytes := List UInt8

/-! ## String literals -/

/-- `"` and `\`, which a literal cannot hold as they are. -/
abbrev Special (c : UInt8) : Prop := c = 34 ∨ c = 92

/-- The value of a hexadecimal digit. -/
def hexValue (c : UInt8) : Option ℕ :=
  if 48 ≤ c ∧ c ≤ 57 then some (c.toNat - 48)
  else if 65 ≤ c ∧ c ≤ 70 then some (c.toNat - 55)
  else if 97 ≤ c ∧ c ≤ 102 then some (c.toNat - 87)
  else none

/-- The value of four hexadecimal digits. -/
def hex4 : Bytes → Option ℕ
  | [a, b, c, d] => do
      let a ← hexValue a
      let b ← hexValue b
      let c ← hexValue c
      let d ← hexValue d
      return ((a * 16 + b) * 16 + c) * 16 + d
  | _ => none

/-- What follows the backslash of an escape sequence, and the bytes it stands for. -/
inductive Escape : Bytes → Bytes → Prop
  | quote : Escape [34] [34]
  | backslash : Escape [92] [92]
  | slash : Escape [47] [47]
  | control {letter byte : UInt8}
      (h : (letter, byte) ∈ [(98, 8), (102, 12), (110, 10), (114, 13), (116, 9)]) :
      Escape [letter] [byte]
  | unicode {digits : Bytes} {c : Char} (hdigits : hex4 digits = some c.toNat) :
      Escape (117 :: digits) (String.utf8EncodeChar c)
  | pair {high low : Bytes} {h l : ℕ} {c : Char} (hhigh : hex4 high = some h)
      (hlow : hex4 low = some l) (hc : c.toNat = 0x10000 + (h - 0xd800) * 0x400 + (l - 0xdc00)) :
      Escape (117 :: high ++ 92 :: 117 :: low) (String.utf8EncodeChar c)

/-- A text between quotes, and the bytes it stands for. -/
inductive Literal : Bytes → Bytes → Prop
  | nil : Literal [] []
  | plain {c : UInt8} {text bytes : Bytes} (hc : ¬Special c) (h : Literal text bytes) :
      Literal (c :: text) (c :: bytes)
  | escape {seq char text bytes : Bytes} (hseq : Escape seq char) (h : Literal text bytes) :
      Literal (92 :: seq ++ text) (char ++ bytes)

/-- The bytes as a literal in which only quotes and backslashes are escaped. -/
def write (bytes : Bytes) : Bytes := bytes.flatMap fun c => if Special c then [92, c] else [c]

@[simp] theorem write_nil : write [] = [] := rfl

theorem write_cons (c : UInt8) (bytes : Bytes) :
    write (c :: bytes) = (if Special c then [92, c] else [c]) ++ write bytes := List.flatMap_cons

theorem write_append (a b : Bytes) : write (a ++ b) = write a ++ write b := List.flatMap_append

theorem length_write_le_two_mul (bytes : Bytes) : (write bytes).length ≤ 2 * bytes.length := by
  induction bytes with
  | nil => simp
  | cons c bytes ih =>
      rw [write_cons, List.length_append, List.length_cons]
      split
      · simp only [List.length_cons, List.length_nil]
        omega
      · simp only [List.length_cons, List.length_nil]
        omega

theorem le_length_write (bytes : Bytes) : bytes.length ≤ (write bytes).length := by
  induction bytes with
  | nil => simp
  | cons c bytes ih =>
      rw [write_cons, List.length_append, List.length_cons]
      split
      · simp only [List.length_cons, List.length_nil]
        omega
      · simp only [List.length_cons, List.length_nil]
        omega

theorem hexValue_lt {c : UInt8} {n : ℕ} (h : hexValue c = some n) : n < 16 := by
  unfold hexValue at h
  simp only [UInt8.le_iff_toNat_le] at h
  split at h
  next hc =>
    obtain rfl := Option.some.inj h
    have : c.toNat ≤ 57 := hc.2
    omega
  next =>
    split at h
    next hc =>
      obtain rfl := Option.some.inj h
      have : c.toNat ≤ 70 := hc.2
      omega
    next =>
      split at h
      next hc =>
        obtain rfl := Option.some.inj h
        have : c.toNat ≤ 102 := hc.2
        omega
      next => cases h

theorem hex4_some {digits : Bytes} {n : ℕ} (h : hex4 digits = some n) :
    digits.length = 4 ∧ n < 0x10000 := by
  unfold hex4 at h
  split at h
  next a b c d =>
    simp only [Option.bind_eq_bind, Option.bind_eq_some_iff, Option.pure_def,
      Option.some.injEq] at h
    obtain ⟨a', ha, b', hb, c', hc, d', hd, rfl⟩ := h
    have := hexValue_lt ha
    have := hexValue_lt hb
    have := hexValue_lt hc
    have := hexValue_lt hd
    refine ⟨rfl, ?_⟩
    omega
  next => cases h

/-- A character of the basic plane takes at most three bytes. -/
theorem length_utf8EncodeChar_le {c : Char} (h : c.toNat < 0x10000) :
    (String.utf8EncodeChar c).length ≤ 3 := by
  have hsize : c.utf8Size ≠ 4 := by
    intro hfour
    have hval := UInt32.lt_iff_toNat_lt.mp (Char.utf8Size_eq_four_iff.mp hfour)
    have hlarge : 0xffff < c.toNat := hval
    omega
  have := c.utf8Size_le_four
  rw [String.length_utf8EncodeChar]
  omega

/-- An escape sequence is no shorter than the literal of its bytes. -/
theorem Escape.length_write_le {seq char : Bytes} (h : Escape seq char) :
    (write char).length ≤ seq.length + 1 := by
  cases h with
  | quote => decide
  | backslash => decide
  | slash => decide
  | @control letter byte h => exact length_write_le_two_mul [byte]
  | @unicode digits c hdigits =>
      obtain ⟨hlength, hc⟩ := hex4_some hdigits
      have := length_utf8EncodeChar_le hc
      have := length_write_le_two_mul (String.utf8EncodeChar c)
      rw [List.length_cons, hlength]
      omega
  | @pair high low _ _ c hhigh hlow _ =>
      have hbytes : (String.utf8EncodeChar c).length ≤ 4 := by
        rw [String.length_utf8EncodeChar]
        exact c.utf8Size_le_four
      have := length_write_le_two_mul (String.utf8EncodeChar c)
      simp only [List.length_append, List.length_cons, (hex4_some hhigh).1, (hex4_some hlow).1]
      omega

/-- `write` makes the shortest literal. -/
theorem Literal.length_write_le {text bytes : Bytes} (h : Literal text bytes) :
    (write bytes).length ≤ text.length := by
  induction h with
  | nil => exact Nat.le_refl 0
  | @plain c text bytes hc h ih =>
      rw [write_cons, if_neg hc]
      simpa using ih
  | @escape seq char text bytes hseq h ih =>
      have := hseq.length_write_le
      rw [write_append]
      simp only [List.length_append, List.length_cons]
      omega

/-! ## Objects -/

/-- A literal with its quotes. -/
def quoted (text : Bytes) : Bytes := 34 :: text ++ [34]

theorem length_quoted (text : Bytes) : (quoted text).length = text.length + 2 := by
  simp [quoted]

/-- White space. -/
def Blank (text : Bytes) : Prop := ∀ c ∈ text, c ≤ 32

/-- The text of a value and the bytes of a string; any other value may be any text. -/
inductive Value : Bytes → Option Bytes → Prop
  | string {text bytes : Bytes} (h : Literal text bytes) : Value (quoted text) (some bytes)
  | other {text : Bytes} : Value text none

/-- A name, a colon and a value. -/
inductive Member : Bytes → Bytes × Option Bytes → Prop
  | mk {b₁ b₂ b₃ b₄ name text key : Bytes} {value : Option Bytes} (h₁ : Blank b₁) (h₂ : Blank b₂)
      (h₃ : Blank b₃) (h₄ : Blank b₄) (hname : Literal name key) (hvalue : Value text value) :
      Member (b₁ ++ quoted name ++ b₂ ++ 58 :: (b₃ ++ text ++ b₄)) (key, value)

/-- Members with commas between them. -/
inductive Members : Bytes → List (Bytes × Option Bytes) → Prop
  | one {text : Bytes} {m : Bytes × Option Bytes} (h : Member text m) : Members text [m]
  | cons {text rest : Bytes} {m : Bytes × Option Bytes} {ms : List (Bytes × Option Bytes)}
      (h : Member text m) (hrest : Members rest ms) : Members (text ++ 44 :: rest) (m :: ms)

/-- The text of an object: the names and the bytes of the values that are strings. -/
inductive Object : Bytes → List (Bytes × Option Bytes) → Prop
  | empty {blank : Bytes} (h : Blank blank) : Object (123 :: blank ++ [125]) []
  | members {text : Bytes} {ms : List (Bytes × Option Bytes)} (h : Members text ms) :
      Object (123 :: text ++ [125]) ms

def writeMember (m : Bytes × Bytes) : Bytes := quoted (write m.1) ++ 58 :: quoted (write m.2)

def writeMembers : List (Bytes × Bytes) → Bytes
  | [] => []
  | [m] => writeMember m
  | m :: m' :: ms => writeMember m ++ 44 :: writeMembers (m' :: ms)

/-- The text of an object of strings without any space. -/
def writeObject (ms : List (Bytes × Bytes)) : Bytes := 123 :: writeMembers ms ++ [125]

/-- Strings as values. -/
def strings (ms : List (Bytes × Bytes)) : List (Bytes × Option Bytes) :=
  ms.map fun m => (m.1, some m.2)

theorem length_writeMember (m : Bytes × Bytes) :
    (writeMember m).length = (write m.1).length + (write m.2).length + 5 := by
  simp only [writeMember, List.length_append, List.length_cons, length_quoted]
  omega

theorem length_writeMembers_cons (m : Bytes × Bytes) (ms : List (Bytes × Bytes)) :
    (writeMembers (m :: ms)).length ≤ (writeMember m).length + 1 + (writeMembers ms).length := by
  cases ms with
  | nil =>
      show (writeMember m).length ≤ _
      omega
  | cons m' ms =>
      simp only [writeMembers, List.length_append, List.length_cons]
      omega

theorem Member.length_write_le {text key bytes : Bytes} (h : Member text (key, some bytes)) :
    (writeMember (key, bytes)).length ≤ text.length := by
  cases h with
  | mk _ _ _ _ hname hvalue =>
      cases hvalue with
      | string hbytes =>
          have := hname.length_write_le
          have := hbytes.length_write_le
          rw [length_writeMember]
          simp only [List.length_append, List.length_cons, length_quoted]
          omega

/-- Members among which these strings are cannot be shorter. -/
theorem Members.length_write_le {text : Bytes} {all : List (Bytes × Option Bytes)}
    (h : Members text all) : ∀ {ms : List (Bytes × Bytes)}, (strings ms).Sublist all →
      (writeMembers ms).length ≤ text.length := by
  induction h with
  | @one text m h =>
      intro ms hsub
      cases ms with
      | nil => exact Nat.zero_le _
      | cons m' ms =>
          obtain ⟨heq, hnil⟩ : (m'.1, some m'.2) = m ∧ ms = [] := by
            have hlength := hsub.length_le
            cases ms with
            | nil => exact ⟨by simpa [strings] using hsub, rfl⟩
            | cons => simp [strings] at hlength
          subst heq hnil
          exact h.length_write_le
  | @cons text rest m all h hrest ih =>
      intro ms hsub
      rw [List.length_append, List.length_cons]
      cases ms with
      | nil => exact Nat.zero_le _
      | cons m' ms =>
          cases hsub with
          | cons _ hsub =>
              have := ih hsub
              omega
          | cons_cons _ hsub =>
              have := ih hsub
              have := length_writeMembers_cons m' ms
              have hmember : (writeMember m').length ≤ text.length := h.length_write_le
              omega

/-- `writeObject` makes the shortest text of an object that has these strings. -/
theorem Object.length_write_le {text : Bytes} {all : List (Bytes × Option Bytes)}
    (h : Object text all) {ms : List (Bytes × Bytes)} (hsub : (strings ms).Sublist all) :
    (writeObject ms).length ≤ text.length := by
  cases h with
  | empty =>
      obtain rfl : ms = [] := by simpa [strings] using hsub
      simp [writeObject, writeMembers]
  | members h =>
      have := h.length_write_le hsub
      simp only [writeObject, List.length_append, List.length_cons]
      omega

/-! ## Reading -/

/-- What follows this byte. -/
def after (c : UInt8) : Bytes → Option Bytes
  | [] => none
  | d :: rest => if d = c then some rest else none

/-- The bytes up to the closing quote and what follows it. -/
def readLiteral : Bytes → Option (Bytes × Bytes)
  | [] => none
  | c :: rest =>
      if c = 34 then some ([], rest)
      else if c = 92 then
        match rest with
        | [] => none
        | d :: rest => if Special d then (readLiteral rest).map (Prod.map (d :: ·) id) else none
      else (readLiteral rest).map (Prod.map (c :: ·) id)

/-- A string and what follows it. -/
def readString (text : Bytes) : Option (Bytes × Bytes) := (after 34 text).bind readLiteral

/-- A member that is a string and what follows it. -/
def readMember (text : Bytes) : Option ((Bytes × Bytes) × Bytes) := do
  let (name, rest) ← readString text
  let rest ← after 58 rest
  let (value, rest) ← readString rest
  return ((name, value), rest)

/-- At most this many members, up to the closing brace. -/
def readMembers : ℕ → Bytes → Option (List (Bytes × Bytes))
  | 0, _ => none
  | fuel + 1, text => do
      let (m, rest) ← readMember text
      match rest with
      | [] => none
      | c :: rest =>
          if c = 125 then return [m]
          else if c = 44 then return m :: (← readMembers fuel rest)
          else none

/-- An object of strings, as `writeObject` writes it, at the start of a text. -/
def readObject (text : Bytes) : Option (List (Bytes × Bytes)) := do
  let rest ← after 123 text
  match after 125 rest with
  | some _ => return []
  | none => readMembers text.length rest

theorem after_eq_some {c : UInt8} {text rest : Bytes} :
    after c text = some rest ↔ text = c :: rest := by
  unfold after
  cases text with
  | nil => simp
  | cons d text =>
      by_cases hd : d = c
      · simp [hd]
      · simp [hd]

theorem readLiteral_sound {text : Bytes} : ∀ {bytes rest : Bytes},
    readLiteral text = some (bytes, rest) →
      ∃ literal, text = literal ++ 34 :: rest ∧ Literal literal bytes := by
  fun_induction readLiteral text with
  | case1 => intro bytes rest h; cases h
  | case2 rest' =>
      intro bytes rest h
      cases h
      exact ⟨[], rfl, .nil⟩
  | case3 => intro bytes rest h; cases h
  | case4 d rest' hspecial _ ih =>
      intro bytes rest h
      obtain ⟨⟨bytes', rest''⟩, hread, heq⟩ := Option.map_eq_some_iff.mp h
      cases heq
      obtain ⟨literal, rfl, hliteral⟩ := ih hread
      refine ⟨92 :: d :: literal, rfl, ?_⟩
      rcases hspecial with rfl | rfl
      · exact .escape .quote hliteral
      · exact .escape .backslash hliteral
  | case5 => intro bytes rest h; cases h
  | case6 c rest' hquote hbackslash ih =>
      intro bytes rest h
      obtain ⟨⟨bytes', rest''⟩, hread, heq⟩ := Option.map_eq_some_iff.mp h
      cases heq
      obtain ⟨literal, rfl, hliteral⟩ := ih hread
      exact ⟨c :: literal, rfl, .plain (not_or_intro hquote hbackslash) hliteral⟩

theorem readLiteral_write (bytes rest : Bytes) :
    readLiteral (write bytes ++ 34 :: rest) = some (bytes, rest) := by
  induction bytes with
  | nil =>
      unfold readLiteral
      exact if_pos rfl
  | cons c bytes ih =>
      rw [write_cons]
      by_cases hc : Special c
      · rw [if_pos hc]
        simp only [List.cons_append, List.nil_append]
        unfold readLiteral
        rw [if_neg (by decide), if_pos rfl]
        simp only [if_pos hc, ih]
        rfl
      · rw [if_neg hc]
        simp only [List.cons_append, List.nil_append]
        unfold readLiteral
        rw [if_neg (fun heq => hc (.inl heq)), if_neg (fun heq => hc (.inr heq)), ih]
        rfl

theorem readString_sound {text bytes rest : Bytes} (h : readString text = some (bytes, rest)) :
    ∃ literal, text = quoted literal ++ rest ∧ Literal literal bytes := by
  obtain ⟨inner, hafter, hread⟩ := Option.bind_eq_some_iff.mp h
  obtain ⟨literal, rfl, hliteral⟩ := readLiteral_sound hread
  refine ⟨literal, ?_, hliteral⟩
  rw [after_eq_some.mp hafter]
  simp [quoted]

theorem readString_quoted (bytes rest : Bytes) :
    readString (quoted (write bytes) ++ rest) = some (bytes, rest) := by
  have htext : quoted (write bytes) ++ rest = 34 :: (write bytes ++ 34 :: rest) := by simp [quoted]
  unfold readString
  rw [htext, after_eq_some.mpr rfl]
  exact readLiteral_write bytes rest

theorem readMember_sound {text rest : Bytes} {m : Bytes × Bytes}
    (h : readMember text = some (m, rest)) :
    ∃ member, text = member ++ rest ∧ Member member (m.1, some m.2) := by
  unfold readMember at h
  obtain ⟨⟨name, rest₁⟩, hname, h⟩ := Option.bind_eq_some_iff.mp h
  obtain ⟨rest₂, hcolon, h⟩ := Option.bind_eq_some_iff.mp h
  obtain ⟨⟨value, rest₃⟩, hvalue, h⟩ := Option.bind_eq_some_iff.mp h
  cases h
  obtain ⟨key, rfl, hkey⟩ := readString_sound hname
  obtain ⟨literal, hrest, hliteral⟩ := readString_sound hvalue
  obtain rfl := after_eq_some.mp hcolon
  have hblank : Blank [] := fun _ hc => by cases hc
  refine ⟨_, ?_, .mk hblank hblank hblank hblank hkey (.string hliteral)⟩
  rw [hrest]
  simp

theorem readMember_write (m : Bytes × Bytes) (rest : Bytes) :
    readMember (writeMember m ++ rest) = some (m, rest) := by
  have htext : writeMember m ++ rest =
      quoted (write m.1) ++ (58 :: (quoted (write m.2) ++ rest)) := by simp [writeMember]
  unfold readMember
  rw [htext, readString_quoted]
  simp only [Option.bind_eq_bind, Option.bind_some, after_eq_some.mpr rfl, readString_quoted]
  rfl

theorem readMembers_sound {fuel : ℕ} : ∀ {text : Bytes} {ms : List (Bytes × Bytes)},
    readMembers fuel text = some ms →
      ∃ members rest, text = members ++ 125 :: rest ∧ Members members (strings ms) := by
  induction fuel with
  | zero => intro text ms h; cases h
  | succ fuel ih =>
      intro text ms h
      unfold readMembers at h
      obtain ⟨⟨m, rest⟩, hread, hrest⟩ := Option.bind_eq_some_iff.mp h
      obtain ⟨member, htext, hmember⟩ := readMember_sound hread
      cases rest with
      | nil => cases hrest
      | cons c rest =>
          dsimp only at hrest
          split at hrest
          next hbrace =>
            cases hrest
            exact ⟨member, rest, by rw [htext, hbrace], .one hmember⟩
          next =>
            split at hrest
            next hcomma =>
              obtain ⟨ms', hread', heq⟩ := Option.bind_eq_some_iff.mp hrest
              cases heq
              obtain ⟨members, rest', rfl, hmembers⟩ := ih hread'
              refine ⟨member ++ 44 :: members, rest', ?_, .cons hmember hmembers⟩
              rw [htext, hcomma]
              simp
            next => cases hrest

theorem readMembers_write (ms : List (Bytes × Bytes)) (hne : ms ≠ []) (rest : Bytes) :
    ∀ {fuel : ℕ}, ms.length ≤ fuel →
      readMembers fuel (writeMembers ms ++ 125 :: rest) = some ms := by
  induction ms with
  | nil => exact absurd rfl hne
  | cons m ms ih =>
      intro fuel hfuel
      obtain ⟨fuel, rfl⟩ := Nat.exists_eq_succ_of_ne_zero (by simp at hfuel; omega : fuel ≠ 0)
      unfold readMembers
      cases ms with
      | nil =>
          show (readMember (writeMember m ++ 125 :: rest)).bind _ = _
          rw [readMember_write]
          rfl
      | cons m' ms =>
          have htext : writeMembers (m :: m' :: ms) ++ 125 :: rest =
              writeMember m ++ (44 :: (writeMembers (m' :: ms) ++ 125 :: rest)) := by
            simp [writeMembers]
          have hrest :
              readMembers fuel (writeMembers (m' :: ms) ++ 125 :: rest) = some (m' :: ms) :=
            ih (by simp) (by simp at hfuel ⊢; omega)
          rw [htext, readMember_write]
          simp only [Option.bind_eq_bind, Option.bind_some, hrest]
          rfl

theorem length_le_writeMembers (ms : List (Bytes × Bytes)) :
    ms.length ≤ (writeMembers ms).length := by
  induction ms with
  | nil => exact Nat.le_refl 0
  | cons m ms ih =>
      have hmember := length_writeMember m
      cases ms with
      | nil =>
          show 1 ≤ (writeMember m).length
          omega
      | cons m' ms =>
          simp only [writeMembers, List.length_append, List.length_cons] at ih ⊢
          omega

/-- What is read is spelled out in the text. -/
theorem readObject_sound {text : Bytes} {ms : List (Bytes × Bytes)}
    (h : readObject text = some ms) :
    ∃ object rest, text = object ++ rest ∧ Object object (strings ms) := by
  unfold readObject at h
  obtain ⟨inner, hopen, h⟩ := Option.bind_eq_some_iff.mp h
  obtain rfl := after_eq_some.mp hopen
  cases hclose : after 125 inner with
  | some rest =>
      rw [hclose] at h
      cases h
      obtain rfl := after_eq_some.mp hclose
      have hblank : Blank [] := fun _ hc => by cases hc
      exact ⟨[123, 125], rest, rfl, .empty hblank⟩
  | none =>
      rw [hclose] at h
      obtain ⟨members, rest, rfl, hmembers⟩ := readMembers_sound h
      exact ⟨123 :: members ++ [125], rest, by simp, .members hmembers⟩

/-- An object of strings is read back. -/
theorem readObject_write (ms : List (Bytes × Bytes)) : readObject (writeObject ms) = some ms := by
  unfold readObject
  have hopen : after 123 (writeObject ms) = some (writeMembers ms ++ [125]) := after_eq_some.mpr rfl
  rw [hopen]
  cases ms with
  | nil => rfl
  | cons m ms =>
      -- a member starts with a quote
      have hquote : ∃ text, writeMembers (m :: ms) ++ [125] = 34 :: text := by
        cases ms with
        | nil => exact ⟨_, rfl⟩
        | cons m' ms => exact ⟨_, rfl⟩
      obtain ⟨text, htext⟩ := hquote
      have hclose : after 125 (writeMembers (m :: ms) ++ [125]) = none := by
        rw [htext]
        rfl
      show (match after 125 (writeMembers (m :: ms) ++ [125]) with
        | some _ => _
        | none => _) = _
      rw [hclose]
      refine readMembers_write (m :: ms) (by simp) [] ?_
      have := length_le_writeMembers (m :: ms)
      simp only [writeObject, List.length_append, List.length_cons] at *
      omega

end JsonText
