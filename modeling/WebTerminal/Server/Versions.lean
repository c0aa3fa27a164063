import Mathlib.Data.Prod.Lex
import Mathlib.Logic.Relation
import WebTerminal.Server.OtaGithub

/-!
# Versions

`semver_compare` reads up to three numbers from each string with one `sscanf` and returns
a difference.  A version string is one to three decimal numbers below `2^31` with dots
between them, and a suffix that cannot be taken for more of them.  On such strings the
scan stops where the numbers do, so that the result has the sign of the lexicographic
comparison of the triples, the missing components being zero.

`int` arithmetic that overflows has no result in C: `intSub` is that subtraction, and where
it has a result `semver_compare` orders any two strings as their numbers are ordered.  A
difference that overflows has lost its sign on the chip, so that there it orders them the
wrong way round.
-/

set_option autoImplicit false

namespace WebTerminal

/-- The subtraction of two `int`s, which have 32 bits. -/
def intSub (a b : ℤ) : Option ℤ :=
  if -2147483648 ≤ a - b ∧ a - b < 2147483648 then some (a - b) else none

/-- `semver_compare` as C defines it. -/
def semverCompareInt (pf : Platform) (a b : CString) : Option ℤ :=
  let (aMajor, aMinor, aPatch) := scanVersion pf a
  let (bMajor, bMinor, bPatch) := scanVersion pf b
  if aMajor ≠ bMajor then intSub aMajor bMajor
  else if aMinor ≠ bMinor then intSub aMinor bMinor
  else intSub aPatch bPatch

/-- The numbers in a string, in the order of versions. -/
def scannedVersion (pf : Platform) (s : CString) : Lex (ℤ × Lex (ℤ × ℤ)) :=
  toLex ((scanVersion pf s).1, toLex ((scanVersion pf s).2.1, (scanVersion pf s).2.2))

/-- The value of decimal digits. -/
def decimalValue (digits : CString) : ℕ := digits.foldl (fun n c => 10 * n + (c.toNat - 48)) 0

/-- A decimal number that an `int` can hold. -/
structure Decimal where
  digits : CString
  some_digit : digits ≠ []
  all_digits : ∀ c ∈ digits, isDigit c = true
  value_lt : decimalValue digits < 2147483648

namespace Decimal

/-- Its value. -/
def value (n : Decimal) : ℕ := decimalValue n.digits

end Decimal

/-- A version string. -/
structure VersionString where
  major : Decimal
  /-- the numbers behind the first -/
  more : List Decimal
  more_le : more.length ≤ 2
  suffix : CString
  /-- the suffix goes on neither with a digit nor with a dot -/
  suffix_start : ∀ c ∈ suffix.head?, isDigit c = false ∧ c ≠ 46

/-- Versions in their order. -/
abbrev Version := Lex (ℕ × Lex (ℕ × ℕ))

namespace VersionString

/-- The version as text. -/
def text (v : VersionString) : CString :=
  v.major.digits ++ v.more.flatMap (fun n => 46 :: n.digits) ++ v.suffix

/-- The components by number, those that are missing being zero. -/
def component (v : VersionString) (i : ℕ) : ℕ := ((v.major :: v.more)[i]?.map Decimal.value).getD 0

/-- The triple a version stands for. -/
def version (v : VersionString) : Version :=
  toLex (v.component 0, toLex (v.component 1, v.component 2))

end VersionString

/-- `ota_github_check` would offer `b` to a device that runs `a`. -/
def Offers (pf : Platform) (a b : VersionString) : Prop := 0 < semverCompare pf b.text a.text

/-! ## Reading numbers -/

section

variable {rest : CString}

/-- Digits are neither blanks nor signs. -/
theorem isDigit_start {c : UInt8} (h : isDigit c = true) :
    isSpace c = false ∧ c ≠ 45 ∧ c ≠ 43 := by
  refine ⟨?_, ?_, ?_⟩
  · cases hspace : isSpace c with
    | false => rfl
    | true =>
        simp only [isDigit, isSpace, Bool.and_eq_true, Bool.or_eq_true, decide_eq_true_eq,
          UInt8.le_iff_toNat_le] at h hspace
        rcases hspace with rfl | hblank
        · exact absurd h.1 (by decide)
        · have hlow : 48 ≤ c.toNat := h.1
          have hhigh : c.toNat ≤ 13 := hblank.2
          omega
  · rintro rfl
    exact absurd h (by decide)
  · rintro rfl
    exact absurd h (by decide)

/-- `%d` reads a number up to the first byte that is not a digit. -/
theorem scanInt_decimal (n : Decimal) (hrest : ∀ c ∈ rest.head?, isDigit c = false) :
    scanInt (n.digits ++ rest) = some ((n.value : ℤ), rest) := by
  obtain ⟨digits, hsome, hall, hlt⟩ := n
  cases digits with
  | nil => exact absurd rfl hsome
  | cons c more =>
      obtain ⟨hspace, hminus, hplus⟩ := isDigit_start (hall c List.mem_cons_self)
      have hdigits : (c :: more ++ rest).takeWhile isDigit = c :: more := by
        rw [List.takeWhile_append_of_pos hall]
        cases rest with
        | nil => simp
        | cons d rest => simp [hrest d rfl]
      have hskip : (c :: more ++ rest).dropWhile isSpace = c :: more ++ rest := by
        simp [hspace]
      have hnosign :
          ¬((c :: more ++ rest).head? = some 45 ∨ (c :: more ++ rest).head? = some 43) := by
        simp [hminus, hplus]
      have hpositive : ¬(c :: more ++ rest).head? = some 45 := fun h => hnosign (.inl h)
      unfold scanInt
      dsimp only
      rw [hskip, if_neg hnosign, hdigits, if_neg hsome, if_neg hpositive]
      simp [Decimal.value, decimalValue]

/-- A scan whose number no dot follows is over. -/
theorem scanNumbers_major {s : CString} {major : ℤ} (hscan : scanInt s = some (major, rest))
    (hrest : rest.head? ≠ some 46) : scanNumbers s = (major, 0, 0) := by
  unfold scanNumbers
  rw [hscan]
  cases rest with
  | nil => rfl
  | cons c rest =>
      split
      next h => cases h
      next h =>
        obtain ⟨-, hcons⟩ := Prod.mk.inj (Option.some.inj h)
        exact absurd (congrArg List.head? hcons) hrest
      next h => rw [(Prod.mk.inj (Option.some.inj h)).1]

theorem scanNumbers_fst {s : CString} {major : ℤ} (hscan : scanInt s = some (major, rest)) :
    (scanNumbers s).1 = major := by
  unfold scanNumbers
  rw [hscan]
  split
  next h => cases h
  next h =>
    obtain rfl := (Prod.mk.inj (Option.some.inj h)).1
    split <;> rfl
  next h => exact (Prod.mk.inj (Option.some.inj h)).1.symm

theorem scanNumbers_snd {s t : CString} {major : ℤ} (hscan : scanInt s = some (major, 46 :: t)) :
    (scanNumbers s).2.1 = atoi t := by
  unfold scanNumbers atoi
  rw [hscan]
  split
  next h => cases h
  next h =>
    obtain rfl := (List.cons.inj (Prod.mk.inj (Option.some.inj h)).2).2
    cases hminor : scanInt t with
    | none => rfl
    | some found =>
        split
        next h => cases h
        next h => rw [Option.some.inj h]
        next h => rw [Option.some.inj h]
  next hother h => exact absurd (Prod.mk.inj (Option.some.inj h)).2.symm (hother t)

/-- Behind the first dot there is a version of two numbers. -/
theorem scanNumbers_dot {s t : CString} {major : ℤ} (hscan : scanInt s = some (major, 46 :: t)) :
    scanNumbers s = (major, (scanNumbers t).1, (scanNumbers t).2.1) := by
  conv_lhs => unfold scanNumbers
  rw [hscan]
  split
  next h => cases h
  next h =>
    obtain ⟨rfl, hcons⟩ := Prod.mk.inj (Option.some.inj h)
    obtain rfl := (List.cons.inj hcons).2
    split
    next hminor => simp [scanNumbers, hminor]
    next hminor => rw [scanNumbers_fst hminor, scanNumbers_snd hminor]
    next hother hminor =>
      rw [scanNumbers_major hminor fun hdot => (List.head?_eq_some_iff.mp hdot).elim hother]
  next hother h => exact absurd (Prod.mk.inj (Option.some.inj h)).2.symm (hother t)

theorem scanNumbers_minor {s t : CString} {major minor : ℤ}
    (hscan : scanInt s = some (major, 46 :: t)) (hminor : scanInt t = some (minor, rest))
    (hrest : rest.head? ≠ some 46) : scanNumbers s = (major, minor, 0) := by
  rw [scanNumbers_dot hscan, scanNumbers_major hminor hrest]

theorem scanNumbers_patch {s t u : CString} {major minor patch : ℤ}
    (hscan : scanInt s = some (major, 46 :: t)) (hminor : scanInt t = some (minor, 46 :: u))
    (hpatch : scanInt u = some (patch, rest)) : scanNumbers s = (major, minor, patch) := by
  rw [scanNumbers_dot hscan, scanNumbers_dot hminor, scanNumbers_fst hpatch]

/-- `sscanf` finds the triple. -/
theorem scanNumbers_text (v : VersionString) : scanNumbers v.text =
    ((v.component 0 : ℤ), (v.component 1 : ℤ), (v.component 2 : ℤ)) := by
  obtain ⟨major, more, hmore, suffix, hsuffix⟩ := v
  have hdigit : ∀ c ∈ suffix.head?, isDigit c = false := fun c hc => (hsuffix c hc).1
  have hdot : suffix.head? ≠ some 46 := fun h => (hsuffix 46 h).2 rfl
  have hbefore : ∀ t : CString, ∀ c ∈ (46 :: t).head?, isDigit c = false := by
    intro t c hc
    obtain rfl := Option.some.inj hc
    decide
  unfold VersionString.text
  match more, hmore with
  | [], _ =>
      have hmajor := scanInt_decimal major hdigit
      have hscan := scanNumbers_major hmajor hdot
      simpa [VersionString.component] using hscan
  | [minor], _ =>
      have hmajor := scanInt_decimal major (hbefore (minor.digits ++ suffix))
      have hscan := scanNumbers_minor hmajor (scanInt_decimal minor hdigit) hdot
      simpa [VersionString.component] using hscan
  | [minor, patch], _ =>
      have hmajor := scanInt_decimal major
        (hbefore (minor.digits ++ 46 :: (patch.digits ++ suffix)))
      have hminor := scanInt_decimal minor (hbefore (patch.digits ++ suffix))
      have hscan := scanNumbers_patch hmajor hminor (scanInt_decimal patch hdigit)
      simpa [VersionString.component] using hscan
  | _ :: _ :: _ :: _, h => simp at h

end

/-! ## The comparison -/

/-- An `int`. -/
def IsInt (n : ℤ) : Prop := -2147483648 ≤ n ∧ n < 2147483648

theorem isInt_toInt (n : Int32) : IsInt n.toInt := ⟨n.le_toInt, n.toInt_lt⟩

/-- The difference of two `int`s keeps its sign exactly if it does not overflow. -/
theorem wrapInt_pos_iff {a b : ℤ} (ha : IsInt a) (hb : IsInt b) :
    (0 < wrapInt (a - b) ↔ b < a) ↔ (intSub a b).isSome = true := by
  obtain ⟨halow, hahigh⟩ := ha
  obtain ⟨hblow, hbhigh⟩ := hb
  unfold intSub
  split
  next hfits =>
    have hwrap : wrapInt (a - b) = a - b := Int.bmod_eq_of_le (by omega) (by omega)
    rw [hwrap]
    simp
  next hover =>
    -- the difference has come out on the other side of zero
    have hwrap : 0 < wrapInt (a - b) ↔ a < b := by
      unfold wrapInt
      rw [Int.bmod_def]
      split <;> omega
    have hne : a ≠ b := by omega
    rw [hwrap]
    simp only [Option.isSome_none, Bool.false_eq_true, iff_false]
    omega

section

variable (pf : Platform)

/-- Whatever is scanned is an `int`. -/
theorem isInt_scanVersion (s : CString) : IsInt (scanVersion pf s).1 ∧
    IsInt (scanVersion pf s).2.1 ∧ IsInt (scanVersion pf s).2.2 := by
  unfold scanVersion
  dsimp only
  split
  next hfits =>
    simp only [fitsInt, Bool.and_eq_true, decide_eq_true_eq] at hfits
    exact ⟨hfits.1.1, hfits.1.2, hfits.2⟩
  next => exact ⟨isInt_toInt _, isInt_toInt _, isInt_toInt _⟩

theorem scannedVersion_lt (s t : CString) : scannedVersion pf s < scannedVersion pf t ↔
    (scanVersion pf s).1 < (scanVersion pf t).1 ∨ (scanVersion pf s).1 = (scanVersion pf t).1 ∧
      ((scanVersion pf s).2.1 < (scanVersion pf t).2.1 ∨
        (scanVersion pf s).2.1 = (scanVersion pf t).2.1 ∧
          (scanVersion pf s).2.2 < (scanVersion pf t).2.2) := by
  unfold scannedVersion
  rw [Prod.Lex.toLex_lt_toLex, Prod.Lex.toLex_lt_toLex]

/-- The comparison is the one of the numbers exactly if no difference overflows. -/
theorem semverCompare_pos_iff (a b : CString) :
    (0 < semverCompare pf a b ↔ scannedVersion pf b < scannedVersion pf a) ↔
      (semverCompareInt pf a b).isSome = true := by
  obtain ⟨ha, ha', ha''⟩ := isInt_scanVersion pf a
  obtain ⟨hb, hb', hb''⟩ := isInt_scanVersion pf b
  rw [scannedVersion_lt]
  unfold semverCompare semverCompareInt
  dsimp only
  split
  next hmajor =>
    rw [or_iff_left fun h => hmajor h.1.symm]
    exact wrapInt_pos_iff ha hb
  next hmajor =>
    rw [not_not] at hmajor
    rw [hmajor, or_iff_right (lt_irrefl _), and_iff_right rfl]
    split
    next hminor =>
      rw [or_iff_left fun h => hminor h.1.symm]
      exact wrapInt_pos_iff ha' hb'
    next hminor =>
      rw [not_not] at hminor
      rw [hminor, or_iff_right (lt_irrefl _), and_iff_right rfl]
      exact wrapInt_pos_iff ha'' hb''

end

section

variable (pf : Platform) (a b c : VersionString)

theorem component_lt (v : VersionString) (i : ℕ) : v.component i < 2147483648 := by
  unfold VersionString.component
  cases hget : (v.major :: v.more)[i]? with
  | none => simp
  | some n => exact n.value_lt

/-- The numbers of a version fit. -/
theorem scanVersion_text (v : VersionString) : scanVersion pf v.text =
    ((v.component 0 : ℤ), (v.component 1 : ℤ), (v.component 2 : ℤ)) := by
  have hfits : ∀ i, fitsInt (v.component i : ℤ) = true := fun i => by
    have := component_lt v i
    exact decide_eq_true ⟨by omega, by omega⟩
  unfold scanVersion
  rw [scanNumbers_text]
  dsimp only
  rw [hfits, hfits, hfits]
  rfl

/-- The order of the numbers in a version is that of its components. -/
theorem scannedVersion_lt_iff : scannedVersion pf a.text < scannedVersion pf b.text ↔
    a.version < b.version := by
  rw [scannedVersion_lt, scanVersion_text, scanVersion_text]
  unfold VersionString.version
  rw [Prod.Lex.toLex_lt_toLex]
  dsimp only
  rw [Prod.Lex.toLex_lt_toLex]
  simp only [Int.ofNat_lt, Int.natCast_inj]

theorem intSub_component (i : ℕ) : intSub (a.component i) (b.component i) =
    some ((a.component i : ℤ) - b.component i) := by
  have := component_lt a i
  have := component_lt b i
  exact if_pos ⟨by omega, by omega⟩

theorem wrapInt_component (i : ℕ) : wrapInt ((a.component i : ℤ) - b.component i) =
    (a.component i : ℤ) - b.component i := by
  have := component_lt a i
  have := component_lt b i
  exact Int.bmod_eq_of_le (by omega) (by omega)

/-- The result is the difference at the first component that differs. -/
theorem semverCompare_text : semverCompare pf a.text b.text =
    if a.component 0 ≠ b.component 0 then (a.component 0 : ℤ) - b.component 0
    else if a.component 1 ≠ b.component 1 then (a.component 1 : ℤ) - b.component 1
    else (a.component 2 : ℤ) - b.component 2 := by
  unfold semverCompare
  rw [scanVersion_text, scanVersion_text]
  dsimp only
  rw [wrapInt_component, wrapInt_component, wrapInt_component]
  simp only [ne_eq, Int.natCast_inj]

/-- No subtraction overflows. -/
theorem semverCompareInt_text :
    semverCompareInt pf a.text b.text = some (semverCompare pf a.text b.text) := by
  rw [semverCompare_text]
  unfold semverCompareInt
  rw [scanVersion_text, scanVersion_text]
  dsimp only
  rw [intSub_component, intSub_component, intSub_component]
  simp only [ne_eq, Int.natCast_inj]
  split
  · rfl
  · split <;> rfl

/-- The first version is the greater one. -/
theorem semverCompare_text_pos_iff :
    0 < semverCompare pf a.text b.text ↔ b.version < a.version := by
  rw [← scannedVersion_lt_iff pf, semverCompare_pos_iff, semverCompareInt_text]
  rfl

/-- Neither is the greater one. -/
theorem semverCompare_eq_zero_iff : semverCompare pf a.text b.text = 0 ↔ a.version = b.version := by
  rw [semverCompare_text]
  unfold VersionString.version
  rw [toLex_inj, Prod.mk.injEq, toLex_inj, Prod.mk.injEq]
  split_ifs <;> omega

/-- Swapping the versions turns the sign. -/
theorem semverCompare_swap :
    semverCompare pf b.text a.text = -semverCompare pf a.text b.text := by
  rw [semverCompare_text, semverCompare_text]
  split_ifs <;> omega

theorem semverCompare_le_iff : semverCompare pf a.text b.text ≤ 0 ↔ a.version ≤ b.version := by
  rw [← not_lt, semverCompare_text_pos_iff, not_lt]

variable {pf}

/-- An update has the greater version, also after several of them. -/
theorem lt_of_offers {a b : VersionString} (h : Relation.TransGen (Offers pf) a b) :
    a.version < b.version := by
  induction h with
  | single h => exact (semverCompare_text_pos_iff pf _ _).mp h
  | tail _ h ih => exact ih.trans ((semverCompare_text_pos_iff pf _ _).mp h)

end

/-- **Version comparison is numeric and a consistent order.**  On version strings the
subtraction of `semver_compare` does not overflow, the sign of its result compares the
triples, swapping the strings turns it, "not greater" is transitive and total, and no chain
of offered updates comes back to a version. -/
theorem version_comparison_consistent (pf : Platform) :
    (∀ a b : VersionString,
      semverCompareInt pf a.text b.text = some (semverCompare pf a.text b.text) ∧
      (0 < semverCompare pf a.text b.text ↔ b.version < a.version) ∧
      (semverCompare pf a.text b.text = 0 ↔ a.version = b.version) ∧
      (semverCompare pf a.text b.text < 0 ↔ a.version < b.version) ∧
      semverCompare pf b.text a.text = -semverCompare pf a.text b.text ∧
      (semverCompare pf a.text b.text ≤ 0 ∨ semverCompare pf b.text a.text ≤ 0)) ∧
    (∀ a b c : VersionString, semverCompare pf a.text b.text ≤ 0 →
      semverCompare pf b.text c.text ≤ 0 → semverCompare pf a.text c.text ≤ 0) ∧
    ∀ a : VersionString, ¬Relation.TransGen (Offers pf) a a := by
  refine ⟨fun a b => ?_, fun a b c hab hbc => ?_, fun a h => lt_irrefl _ (lt_of_offers h)⟩
  · have hswap := semverCompare_swap pf a b
    refine ⟨semverCompareInt_text pf a b, semverCompare_text_pos_iff pf a b,
      semverCompare_eq_zero_iff pf a b, ?_, hswap, by omega⟩
    rw [← semverCompare_text_pos_iff pf b a, hswap]
    omega
  · rw [semverCompare_le_iff] at hab hbc ⊢
    exact hab.trans hbc

/-- Components are numbers, and a suffix does not count. -/
example (pf : Platform) : 0 < semverCompare pf (cstr "1.10.0-beta") (cstr "1.9") := by
  have hnew : scanNumbers (cstr "1.10.0-beta") = (1, 10, 0) := by decide +kernel
  have hold : scanNumbers (cstr "1.9") = (1, 9, 0) := by decide +kernel
  simp [semverCompare, scanVersion, hnew, hold, fitsInt, wrapInt]

end WebTerminal
