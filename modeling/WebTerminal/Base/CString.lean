import Mathlib.Data.List.TakeWhile

/-!
# C strings

A C string is the list of the bytes before its terminating NUL.  The functions
of the C library that the firmware calls on them are `List` functions: `strlen`
is the length, `strcmp(a, b) == 0` is equality, and a bounded copy keeps a
prefix.
-/

set_option autoImplicit false

namespace WebTerminal

abbrev CString := List UInt8

/-- What a `char *` can point to: bytes without a NUL among them. -/
abbrev CText := {s : CString // (0 : UInt8) ∉ s}

/-- `s` and its terminating NUL fit a buffer of `n` bytes. -/
def Fits (n : ℕ) (s : CString) : Prop := s.length < n ∧ (0 : UInt8) ∉ s

/-- The bytes of an ASCII literal of the source. -/
def cstr (literal : String) : CString :=
  literal.toList.map fun c => UInt8.ofNat c.toNat

/-- A buffer read as a C string: the bytes before the first NUL. -/
def ofBuffer (bytes : List UInt8) : CString :=
  bytes.takeWhile (· ≠ 0)

/-- `strncpy(dst, src, n - 1); dst[n - 1] = 0` for a buffer of `n` bytes. -/
def strncpy (n : ℕ) (src : CString) : CString :=
  src.take (n - 1)

/-- `memcpy(dst, src, |src|)`: the rest of the destination keeps its bytes. -/
def memcpy (dst src : List UInt8) : List UInt8 :=
  src ++ dst.drop src.length

/-- `tolower` in the C locale. -/
def tolower (c : UInt8) : UInt8 :=
  if 65 ≤ c ∧ c ≤ 90 then c + 32 else c

theorem strncpy_eq_self {n : ℕ} {src : CString} (h : src.length < n) : strncpy n src = src :=
  List.take_of_length_le (by omega)

theorem length_strncpy_lt {n : ℕ} (hn : 0 < n) (src : CString) : (strncpy n src).length < n := by
  unfold strncpy
  rw [List.length_take]
  omega

theorem Fits.strncpy_eq {n : ℕ} {s : CString} (h : Fits n s) : strncpy n s = s :=
  strncpy_eq_self h.1

theorem fits_strncpy {n : ℕ} (hn : 0 < n) (src : CText) : Fits n (strncpy n src) :=
  ⟨length_strncpy_lt hn src, fun hmem => src.2 (List.mem_of_mem_take hmem)⟩

theorem notMem_ofBuffer (bytes : List UInt8) : (0 : UInt8) ∉ ofBuffer bytes := by
  intro hmem
  have hzero := List.mem_takeWhile_imp hmem
  simp at hzero

theorem length_ofBuffer_le (bytes : List UInt8) : (ofBuffer bytes).length ≤ bytes.length :=
  (List.takeWhile_prefix (l := bytes) _).length_le

/-- A buffer without a NUL before its end is read whole. -/
theorem ofBuffer_eq_self {s : CString} (h : (0 : UInt8) ∉ s) : ofBuffer s = s := by
  unfold ofBuffer
  rw [List.takeWhile_eq_self_iff]
  intro c hc
  simpa using ne_of_mem_of_not_mem hc h

theorem length_memcpy {dst src : List UInt8} (h : src.length ≤ dst.length) :
    (memcpy dst src).length = dst.length := by
  unfold memcpy
  simp
  omega

theorem take_memcpy (dst src : List UInt8) : (memcpy dst src).take src.length = src := by
  simp [memcpy]

end WebTerminal
