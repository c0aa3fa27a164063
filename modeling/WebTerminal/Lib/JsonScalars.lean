import WebTerminal.Lib.JsonText

/-!
# JSON objects of scalars as text

`writeScalars` writes an object whose members are strings, booleans and natural numbers,
with the escapes every JSON writer uses: two characters for quotes, backslashes and five
control characters, six for the other control characters.  `readScalars` reads it back.
-/

set_option autoImplicit false

namespace JsonText

/-! ## Escaping -/

/-- The letters of the escapes that have one, each with its byte. -/
def letters : List (UInt8 × UInt8) :=
  [(98, 8), (116, 9), (110, 10), (102, 12), (114, 13), (34, 34), (92, 92)]

/-- The letter of a byte. -/
def letterOf (c : UInt8) : Option UInt8 := (letters.find? fun entry => entry.2 == c).map Prod.fst

/-- The byte of a letter. -/
def byteOf (letter : UInt8) : Option UInt8 :=
  (letters.find? fun entry => entry.1 == letter).map Prod.snd

/-- A lower-case hexadecimal digit. -/
def hexDigit (n : UInt8) : UInt8 := if n < 10 then 48 + n else 87 + n

def escapeByte (c : UInt8) : Bytes :=
  match letterOf c with
  | some letter => [92, letter]
  | none => if c < 32 then [92, 117, 48, 48, hexDigit (c / 16), hexDigit (c % 16)] else [c]

/-- The bytes as a literal without its quotes. -/
def escape (bytes : Bytes) : Bytes := bytes.flatMap escapeByte

@[simp] theorem escape_nil : escape [] = [] := rfl

@[simp] theorem escape_cons (c : UInt8) (bytes : Bytes) :
    escape (c :: bytes) = escapeByte c ++ escape bytes := List.flatMap_cons

@[simp] theorem escape_append (a b : Bytes) : escape (a ++ b) = escape a ++ escape b :=
  List.flatMap_append

/-- How a byte is escaped. -/
inductive EscapeCase (c : UInt8) : Prop
  | letter {d : UInt8} (hd : d ≠ 117) (hbyte : byteOf d = some c) (h : escapeByte c = [92, d])
  | unicode {high low : UInt8} {h l : ℕ} (hhigh : hexValue high = some h)
      (hlow : hexValue low = some l) (hc : UInt8.ofNat (h * 16 + l) = c)
      (h : escapeByte c = [92, 117, 48, 48, high, low])
  | plain (hc : ¬Special c) (h : escapeByte c = [c])

theorem escape_cases (c : UInt8) : EscapeCase c := by
  cases hletter : letterOf c with
  | some d =>
      have hall : letters.all (fun entry =>
          decide (entry.1 ≠ 117 ∧ byteOf entry.1 = some entry.2)) = true := by decide
      obtain ⟨entry, hfind, rfl⟩ := Option.map_eq_some_iff.mp hletter
      have hc : entry.2 = c := by simpa using List.find?_some hfind
      obtain ⟨hd, hbyte⟩ :=
        of_decide_eq_true (List.all_eq_true.mp hall entry (List.mem_of_find?_eq_some hfind))
      exact .letter hd (hc ▸ hbyte) (by simp [escapeByte, hletter])
  | none =>
      by_cases hcontrol : c < 32
      · have hdigits : ∀ n : Fin 32, hexValue (hexDigit (UInt8.ofNat n / 16)) = some (n.val / 16) ∧
            hexValue (hexDigit (UInt8.ofNat n % 16)) = some (n.val % 16) := by decide
        have hlt : c.toNat < 32 := UInt8.lt_iff_toNat_lt.mp hcontrol
        obtain ⟨hhigh, hlow⟩ := hdigits ⟨c.toNat, hlt⟩
        simp only [UInt8.ofNat_toNat] at hhigh hlow
        refine .unicode hhigh hlow ?_ (by simp [escapeByte, hletter, hcontrol])
        rw [Nat.div_add_mod']
        exact UInt8.ofNat_toNat
      · refine .plain (fun hspecial => ?_) (by simp [escapeByte, hletter, hcontrol])
        rcases hspecial with rfl | rfl
        · exact absurd hletter (by decide)
        · exact absurd hletter (by decide)

/-- A byte above the control characters that is neither quote nor backslash stays. -/
theorem escapeByte_of_large {c : UInt8} (h : 128 ≤ c) : escapeByte c = [c] := by
  have hlarge : 128 ≤ c.toNat := UInt8.le_iff_toNat_le.mp h
  have hletter : letterOf c = none := by
    unfold letterOf
    rw [Option.map_eq_none_iff, List.find?_eq_none]
    have hall : ∀ entry ∈ letters, entry.2.toNat < 128 := by simp [letters]
    intro entry hentry heq
    have := hall entry hentry
    rw [eq_of_beq heq] at this
    omega
  have hcontrol : ¬c < 32 := by
    rw [UInt8.lt_iff_toNat_lt]
    show ¬c.toNat < 32
    omega
  simp [escapeByte, hletter, hcontrol]

theorem escape_of_large {bytes : Bytes} (h : ∀ c ∈ bytes, 128 ≤ c) : escape bytes = bytes := by
  induction bytes with
  | nil => rfl
  | cons c bytes ih =>
      rw [escape_cons, escapeByte_of_large (h c (by simp)), ih fun d hd => h d (by simp [hd])]
      rfl

/-! ## Writing -/

/-- A value without parts. -/
inductive Scalar
  | string (bytes : Bytes)
  | bool (value : Bool)
  | number (n : ℕ)
  deriving DecidableEq

def trueText : Bytes := [116, 114, 117, 101]

def falseText : Bytes := [102, 97, 108, 115, 101]

/-- The digits of a number. -/
def digits (n : ℕ) : Bytes := (Nat.toDigits 10 n).map fun d => UInt8.ofNat d.toNat

def Scalar.text : Scalar → Bytes
  | string bytes => quoted (escape bytes)
  | bool value => if value then trueText else falseText
  | number n => digits n

def scalarMember (m : Bytes × Scalar) : Bytes := quoted (escape m.1) ++ 58 :: m.2.text

def scalarMembers : List (Bytes × Scalar) → Bytes
  | [] => []
  | [m] => scalarMember m
  | m :: m' :: ms => scalarMember m ++ 44 :: scalarMembers (m' :: ms)

/-- The text of an object of scalars without any space. -/
def writeScalars (ms : List (Bytes × Scalar)) : Bytes := 123 :: scalarMembers ms ++ [125]

/-! ## Reading -/

/-- The byte of two hexadecimal digits after `00`, and what follows it. -/
def readCode : Bytes → Option (UInt8 × Bytes)
  | 48 :: 48 :: high :: low :: rest => do
      let h ← hexValue high
      let l ← hexValue low
      return (UInt8.ofNat (h * 16 + l), rest)
  | _ => none

/-- A byte of a literal and what follows it. -/
def readByte : Bytes → Option (UInt8 × Bytes)
  | [] => none
  | c :: rest =>
      if c = 92 then
        match rest with
        | [] => none
        | d :: rest => if d = 117 then readCode rest else (byteOf d).map fun c => (c, rest)
      else some (c, rest)

/-- At most this many bytes, up to the closing quote, and what follows it. -/
def readEscaped : ℕ → Bytes → Option (Bytes × Bytes)
  | 0, _ => none
  | fuel + 1, text =>
      match after 34 text with
      | some rest => some ([], rest)
      | none => do
          let (c, rest) ← readByte text
          let (bytes, rest) ← readEscaped fuel rest
          return (c :: bytes, rest)

/-- A string and what follows it. -/
def readQuoted (text : Bytes) : Option (Bytes × Bytes) :=
  (after 34 text).bind (readEscaped text.length)

def isDigit (c : UInt8) : Bool := 48 ≤ c && c ≤ 57

/-- The number these digits spell. -/
def numberOf (text : Bytes) : ℕ := text.foldl (fun n c => 10 * n + (c.toNat - 48)) 0

/-- What follows a text it starts with. -/
def afterText : Bytes → Bytes → Option Bytes
  | [], text => some text
  | c :: cs, text => (after c text).bind (afterText cs)

def readScalar (text : Bytes) : Option (Scalar × Bytes) :=
  match readQuoted text with
  | some (bytes, rest) => some (.string bytes, rest)
  | none =>
      match afterText trueText text, afterText falseText text with
      | some rest, _ => some (.bool true, rest)
      | none, some rest => some (.bool false, rest)
      | none, none =>
          if text.takeWhile isDigit = [] then none
          else some (.number (numberOf (text.takeWhile isDigit)), text.dropWhile isDigit)

def readScalarMember (text : Bytes) : Option ((Bytes × Scalar) × Bytes) := do
  let (name, rest) ← readQuoted text
  let rest ← after 58 rest
  let (value, rest) ← readScalar rest
  return ((name, value), rest)

/-- At most this many members, up to the closing brace. -/
def readScalarMembers : ℕ → Bytes → Option (List (Bytes × Scalar))
  | 0, _ => none
  | fuel + 1, text => do
      let (m, rest) ← readScalarMember text
      match rest with
      | [] => none
      | c :: rest =>
          if c = 125 then return [m]
          else if c = 44 then return m :: (← readScalarMembers fuel rest)
          else none

/-- An object of scalars, as `writeScalars` writes it, at the start of a text. -/
def readScalars (text : Bytes) : Option (List (Bytes × Scalar)) := do
  let rest ← after 123 text
  match after 125 rest with
  | some _ => return []
  | none => readScalarMembers text.length rest

theorem readByte_escapeByte (c : UInt8) (rest : Bytes) :
    readByte (escapeByte c ++ rest) = some (c, rest) := by
  cases escape_cases c with
  | letter hd hbyte h =>
      rw [h]
      show (if _ = 117 then _ else (byteOf _).map _) = _
      rw [if_neg hd, hbyte]
      rfl
  | unicode hhigh hlow hc h =>
      rw [h]
      show readCode (48 :: 48 :: _ :: _ :: rest) = _
      simp [readCode, hhigh, hlow, ← hc]
  | plain hc h =>
      rw [h]
      show (if c = 92 then _ else some (c, rest)) = _
      rw [if_neg fun heq => hc (.inr heq)]

/-- An escaped byte is no closing quote. -/
theorem after_escapeByte (c : UInt8) (rest : Bytes) : after 34 (escapeByte c ++ rest) = none := by
  cases escape_cases c with
  | letter hd hbyte h => rw [h]; rfl
  | unicode hhigh hlow hc h => rw [h]; rfl
  | plain hc h =>
      rw [h]
      exact if_neg fun heq => hc (.inl heq)

theorem readEscaped_escape (bytes rest : Bytes) : ∀ {fuel : ℕ}, bytes.length < fuel →
    readEscaped fuel (escape bytes ++ 34 :: rest) = some (bytes, rest) := by
  induction bytes with
  | nil =>
      intro fuel hfuel
      obtain ⟨fuel, rfl⟩ := Nat.exists_eq_succ_of_ne_zero (by omega : fuel ≠ 0)
      rfl
  | cons c bytes ih =>
      intro fuel hfuel
      obtain ⟨fuel, rfl⟩ := Nat.exists_eq_succ_of_ne_zero (by omega : fuel ≠ 0)
      rw [escape_cons, List.append_assoc]
      unfold readEscaped
      rw [after_escapeByte]
      dsimp only
      rw [readByte_escapeByte]
      simp only [Option.bind_eq_bind, Option.bind_some, ih (by simpa using hfuel)]
      rfl

theorem length_le_escape (bytes : Bytes) : bytes.length ≤ (escape bytes).length := by
  induction bytes with
  | nil => exact Nat.le_refl 0
  | cons c bytes ih =>
      have hpos : 1 ≤ (escapeByte c).length := by
        cases escape_cases c with
        | letter hd hbyte h => simp [h]
        | unicode hhigh hlow hc h => simp [h]
        | plain hc h => simp [h]
      rw [escape_cons, List.length_append, List.length_cons]
      omega

theorem readQuoted_escape (bytes rest : Bytes) :
    readQuoted (quoted (escape bytes) ++ rest) = some (bytes, rest) := by
  have htext :
      quoted (escape bytes) ++ rest = 34 :: (escape bytes ++ 34 :: rest) := by simp [quoted]
  have := length_le_escape bytes
  unfold readQuoted
  rw [htext, after_eq_some.mpr rfl]
  refine readEscaped_escape bytes rest ?_
  simp only [List.length_cons, List.length_append]
  omega

/-! Numbers -/

theorem digits_digit {n : ℕ} : ∀ c ∈ digits n, isDigit c = true := by
  intro c hc
  obtain ⟨d, hd, rfl⟩ := List.mem_map.mp hc
  have hdigit := Nat.isDigit_of_mem_toDigits (by decide) (by decide) hd
  obtain ⟨hlow, hhigh⟩ : 48 ≤ d.toNat ∧ d.toNat ≤ 57 := by
    simpa [Char.isDigit, UInt32.le_iff_toNat_le] using hdigit
  have hbyte : (UInt8.ofNat d.toNat).toNat = d.toNat := by
    simp
    omega
  simp only [isDigit, Bool.and_eq_true, decide_eq_true_eq, UInt8.le_iff_toNat_le, hbyte]
  exact ⟨hlow, hhigh⟩

theorem digits_ne_nil (n : ℕ) : digits n ≠ [] := by
  unfold digits
  simp [Nat.toDigits_ne_nil]

theorem numberOf_digits (n : ℕ) : numberOf (digits n) = n := by
  have hfold : ∀ (ds : List Char), (∀ d ∈ ds, d.isDigit = true) → ∀ init,
      (ds.map fun d => UInt8.ofNat d.toNat).foldl (fun n c => 10 * n + (c.toNat - 48)) init =
        Nat.ofDigitChars 10 ds init := by
    intro ds
    induction ds with
    | nil => intro _ init; rfl
    | cons d ds ih =>
        intro hds init
        have hdigit : d.toNat ≤ 57 := by
          have := hds d (by simp)
          simp [Char.isDigit, UInt32.le_iff_toNat_le] at this
          exact this.2
        have hbyte : (UInt8.ofNat d.toNat).toNat = d.toNat := by
          simp
          omega
        rw [List.map_cons, List.foldl_cons, ih (fun e he => hds e (by simp [he])), hbyte,
          Nat.ofDigitChars_cons]
        rfl
  unfold numberOf digits
  rw [hfold _ fun d hd => Nat.isDigit_of_mem_toDigits (by decide) (by decide) hd]
  exact Nat.ofDigitChars_ten_toDigits

/-- No digit follows. -/
def Ends (rest : Bytes) : Prop := ∀ c, rest.head? = some c → isDigit c = false

theorem takeWhile_digits (n : ℕ) {rest : Bytes} (hrest : Ends rest) :
    (digits n ++ rest).takeWhile isDigit = digits n ∧
      (digits n ++ rest).dropWhile isDigit = rest := by
  have hends : rest.takeWhile isDigit = [] ∧ rest.dropWhile isDigit = rest := by
    cases rest with
    | nil => exact ⟨rfl, rfl⟩
    | cons c rest =>
        have hc := hrest c rfl
        simp [hc]
  rw [List.takeWhile_append_of_pos digits_digit, List.dropWhile_append_of_pos digits_digit, hends.1,
    hends.2, List.append_nil]
  exact ⟨rfl, rfl⟩

theorem readScalar_text (value : Scalar) {rest : Bytes} (hrest : Ends rest) :
    readScalar (value.text ++ rest) = some (value, rest) := by
  cases value with
  | string bytes =>
      unfold readScalar
      rw [show (Scalar.string bytes).text = quoted (escape bytes) from rfl, readQuoted_escape]
  | bool value => cases value <;> rfl
  | number n =>
      obtain ⟨c, text, htext⟩ := List.exists_cons_of_ne_nil (digits_ne_nil n)
      have hc : isDigit c = true := digits_digit (n := n) c (by simp [htext])
      have hother :
          ∀ d, isDigit d = false → ∀ cs, afterText (d :: cs) (digits n ++ rest) = none := by
        intro d hd cs
        have hne : c ≠ d := fun heq => by simp [heq, hd] at hc
        rw [htext]
        simp [afterText, after, hne]
      have hquote : readQuoted (digits n ++ rest) = none := by
        have hne : c ≠ 34 := by
          rintro rfl
          cases hc
        rw [htext]
        simp [readQuoted, after, hne]
      unfold readScalar
      rw [show (Scalar.number n).text = digits n from rfl, hquote, trueText, falseText,
        hother 116 rfl, hother 102 rfl, (takeWhile_digits n hrest).1, (takeWhile_digits n hrest).2]
      simp [digits_ne_nil, numberOf_digits]

theorem readScalarMember_write (m : Bytes × Scalar) {rest : Bytes} (hrest : Ends rest) :
    readScalarMember (scalarMember m ++ rest) = some (m, rest) := by
  have htext : scalarMember m ++ rest = quoted (escape m.1) ++ (58 :: (m.2.text ++ rest)) := by
    simp [scalarMember]
  unfold readScalarMember
  rw [htext, readQuoted_escape]
  simp only [Option.bind_eq_bind, Option.bind_some, after_eq_some.mpr rfl,
    readScalar_text m.2 hrest]
  rfl

theorem readScalarMembers_write (ms : List (Bytes × Scalar)) (hne : ms ≠ []) (rest : Bytes) :
    ∀ {fuel : ℕ}, ms.length ≤ fuel →
      readScalarMembers fuel (scalarMembers ms ++ 125 :: rest) = some ms := by
  induction ms with
  | nil => exact absurd rfl hne
  | cons m ms ih =>
      intro fuel hfuel
      obtain ⟨fuel, rfl⟩ := Nat.exists_eq_succ_of_ne_zero (by simp at hfuel; omega : fuel ≠ 0)
      have hends : ∀ c, isDigit c = false → ∀ text, Ends (c :: text) := by
        intro c hc text d hd
        cases hd
        exact hc
      unfold readScalarMembers
      cases ms with
      | nil =>
          rw [show scalarMembers [m] = scalarMember m from rfl,
            readScalarMember_write m (hends 125 rfl rest)]
          rfl
      | cons m' ms =>
          have htext : scalarMembers (m :: m' :: ms) ++ 125 :: rest =
              scalarMember m ++ (44 :: (scalarMembers (m' :: ms) ++ 125 :: rest)) := by
            simp [scalarMembers]
          have hrest : readScalarMembers fuel (scalarMembers (m' :: ms) ++ 125 :: rest) =
              some (m' :: ms) := ih (by simp) (by simp at hfuel ⊢; omega)
          rw [htext, readScalarMember_write m (hends 44 rfl _)]
          simp only [Option.bind_eq_bind, Option.bind_some, hrest]
          rfl

theorem length_le_scalarMembers (ms : List (Bytes × Scalar)) :
    ms.length ≤ (scalarMembers ms).length := by
  induction ms with
  | nil => exact Nat.le_refl 0
  | cons m ms ih =>
      cases ms with
      | nil =>
          show 1 ≤ (scalarMember m).length
          simp only [scalarMember, List.length_append, List.length_cons]
          omega
      | cons m' ms =>
          simp only [scalarMembers, List.length_append, List.length_cons] at ih ⊢
          omega

/-- An object of scalars is read back. -/
theorem readScalars_write (ms : List (Bytes × Scalar)) :
    readScalars (writeScalars ms) = some ms := by
  unfold readScalars
  have hopen : after 123 (writeScalars ms) = some (scalarMembers ms ++ [125]) :=
    after_eq_some.mpr rfl
  rw [hopen]
  cases ms with
  | nil => rfl
  | cons m ms =>
      -- a member starts with a quote
      have hquote : ∃ text, scalarMembers (m :: ms) ++ [125] = 34 :: text := by
        cases ms with
        | nil => exact ⟨_, rfl⟩
        | cons m' ms => exact ⟨_, rfl⟩
      obtain ⟨text, htext⟩ := hquote
      have hclose : after 125 (scalarMembers (m :: ms) ++ [125]) = none := by
        rw [htext]
        rfl
      show (match after 125 (scalarMembers (m :: ms) ++ [125]) with
        | some _ => _
        | none => _) = _
      rw [hclose]
      refine readScalarMembers_write (m :: ms) (by simp) [] ?_
      have := length_le_scalarMembers (m :: ms)
      simp only [writeScalars, List.length_append, List.length_cons] at *
      omega

/-! ## No byte is zero -/

theorem zero_notMem_quoted (bytes : Bytes) : 0 ∉ quoted (escape bytes) := by
  have hbyte : ∀ n : Fin 256, (0 : UInt8) ∉ escapeByte (UInt8.ofNat n) := by decide +kernel
  have hescape : 0 ∉ escape bytes := by
    induction bytes with
    | nil => simp
    | cons c bytes ih =>
        have hc := hbyte ⟨c.toNat, c.toNat_lt⟩
        rw [UInt8.ofNat_toNat] at hc
        rw [escape_cons, List.mem_append, not_or]
        exact ⟨hc, ih⟩
  simpa [quoted] using hescape

theorem zero_notMem_text (value : Scalar) : 0 ∉ value.text := by
  cases value with
  | string bytes => exact zero_notMem_quoted bytes
  | bool value => cases value <;> decide
  | number n =>
      intro hmem
      have := digits_digit 0 hmem
      cases this

theorem zero_notMem_scalarMembers (ms : List (Bytes × Scalar)) : 0 ∉ scalarMembers ms := by
  have hmember : ∀ m : Bytes × Scalar, 0 ∉ scalarMember m := by
    intro m
    simp [scalarMember, zero_notMem_quoted, zero_notMem_text]
  induction ms with
  | nil => exact List.not_mem_nil
  | cons m ms ih =>
      cases ms with
      | nil => exact hmember m
      | cons m' ms =>
          rw [scalarMembers, List.mem_append, List.mem_cons, not_or, not_or]
          exact ⟨hmember m, by decide, ih⟩

/-- Strings may hold any byte, what is written has no byte zero. -/
theorem zero_notMem_writeScalars (ms : List (Bytes × Scalar)) : 0 ∉ writeScalars ms := by
  simp [writeScalars, zero_notMem_scalarMembers]

end JsonText
