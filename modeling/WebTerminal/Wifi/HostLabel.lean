import WebTerminal.Lib.ByteMemory
import WebTerminal.Server.Request
import WebTerminal.Wifi.Hostname

/-!
# A sanitised name is a label

`sanitize_hostname` with its output in memory: `j` bytes are written at `out`, the test
for a hyphen reads the last of them back, and the trailing hyphens are cut off by moving
`j` before the NUL is written.  The output so far never starts with a hyphen and never has
two in a row; the limit may leave one at its end, which is what the second loop is for.
-/

set_option autoImplicit false

namespace WebTerminal

open ByteMemory

/-- The first loop of `sanitize_hostname`, over the bytes of `name` still to read. -/
def sanitizeLoopAt (out outLen : ℕ) : List UInt8 → ℕ → List UInt8 → ℕ × List UInt8
  | [], j, memory => (j, memory)
  | c :: rest, j, memory =>
      if c = 0 ∨ outLen - 1 ≤ j then (j, memory)
      else if isAlnum c then sanitizeLoopAt out outLen rest (j + 1) (write memory (out + j) [c])
      else if c = 32 ∨ c = 95 ∨ c = 46 then
        if 0 < j ∧ memory[out + (j - 1)]? ≠ some 45 then
          sanitizeLoopAt out outLen rest (j + 1) (write memory (out + j) [45])
        else sanitizeLoopAt out outLen rest j memory
      else sanitizeLoopAt out outLen rest j memory

/-- The loop that trims trailing hyphens. -/
def trimLoopAt (out : ℕ) (memory : List UInt8) : ℕ → ℕ
  | 0 => 0
  | j + 1 => if memory[out + j]? = some 45 then trimLoopAt out memory j else j + 1

/-- `sanitize_hostname`, for the bytes at `name` and a buffer of `outLen` bytes at `out`. -/
def sanitizeHostnameAt (name : List UInt8) (out outLen : ℕ) (memory : List UInt8) : List UInt8 :=
  let (j, memory) := sanitizeLoopAt out outLen name 0 memory
  write memory (out + trimLoopAt out memory j) [0]

/-- A label: letters, digits and single interior hyphens. -/
structure HostLabel (label : CString) : Prop where
  chars : ∀ c ∈ label, isAlnum c = true ∨ c = 45
  first : label.head? ≠ some 45
  last : label.getLast? ≠ some 45
  single : ¬[45, 45] <:+: label

/-- A hostname is a label of at most 32 bytes. -/
theorem hostnameText_iff {name : CString} :
    HostnameText name ↔ name.length ≤ 32 ∧ HostLabel name :=
  ⟨fun h => ⟨h.length_le, h.chars, h.first, h.last, h.single⟩,
    fun ⟨hlen, h⟩ => ⟨hlen, h.chars, h.single, h.first, h.last⟩⟩

/-! ## The output so far -/

/-- What the first loop keeps: no hyphen in front and none behind another. -/
structure LabelPrefix (written : CString) : Prop where
  first : written.head? ≠ some 45
  single : ¬[45, 45] <:+: written

section

variable {written name : CString} {c : UInt8} {outLen : ℕ}

theorem labelPrefix_nil : LabelPrefix [] := ⟨by simp, by simp⟩

/-- A pair of hyphens in a longer output ends it. -/
theorem LabelPrefix.snoc (h : LabelPrefix written)
    (hc : c ≠ 45 ∨ written ≠ [] ∧ written.getLast? ≠ some 45) : LabelPrefix (written ++ [c]) := by
  constructor
  · cases written with
    | nil =>
        rcases hc with hc | ⟨hne, -⟩
        · simpa using hc
        · exact absurd rfl hne
    | cons d rest => simpa using h.first
  · intro hpair
    rcases List.infix_concat_iff.mp hpair with hsuffix | hinfix
    · obtain ⟨before, heq⟩ := hsuffix
      have hsplit : before ++ [45] ++ [45] = written ++ [c] := by simpa using heq
      obtain ⟨rfl, hlast⟩ := List.append_inj' hsplit rfl
      rcases hc with hc | ⟨-, hlast'⟩
      · exact hc (List.singleton_inj.mp hlast).symm
      · exact hlast' (by simp)
    · exact h.single hinfix

theorem LabelPrefix.shorter {longer : CString} (h : LabelPrefix longer)
    (hbegins : written <+: longer) : LabelPrefix written := by
  constructor
  · intro hhead
    obtain ⟨more, rfl⟩ := hbegins
    exact h.first (by simp [hhead])
  · exact fun hpair => h.single (hpair.trans hbegins.isInfix)

/-- The first loop keeps it, wherever the limit cuts. -/
theorem labelPrefix_sanitizeLoop (outLen : ℕ) (name : CString) (h : LabelPrefix written) :
    LabelPrefix (sanitizeLoop outLen name written) := by
  induction name generalizing written with
  | nil => exact h
  | cons c rest ih =>
      unfold sanitizeLoop
      split
      · exact h
      · split
        next halnum => exact ih (h.snoc (.inl (ne_hyphen_of_isAlnum halnum)))
        next =>
          split
          next hsep => exact ih (h.snoc (.inr ⟨List.length_pos_iff.mp hsep.2.1, hsep.2.2⟩))
          next => exact ih h

/-- Nothing is written exactly if there is no room or nothing to write. -/
theorem sanitizeLoop_eq_nil_iff (outLen : ℕ) (name : CString) :
    sanitizeLoop outLen name [] = [] ↔ outLen ≤ 1 ∨ alnums name = 0 := by
  induction name with
  | nil => simp [sanitizeLoop, alnums]
  | cons c rest ih =>
      by_cases hroom : outLen ≤ 1
      · rw [sanitizeLoop_full _ (by simp; omega)]
        simp [hroom]
      · cases hc : isAlnum c with
        | true =>
            rw [sanitizeLoop_alnum (by simp; omega) hc]
            have hwritten := prefix_sanitizeLoop outLen rest ([] ++ [c])
            refine iff_of_false (fun hnil => ?_) (by simp [hroom, alnums, hc])
            rw [hnil] at hwritten
            simpa using hwritten.length_le
        | false =>
            rw [sanitizeLoop_skip hc (.inr (.inl rfl)), ih]
            simp [alnums, hc]

/-- The result of `sanitize_hostname` is a label. -/
theorem sanitizeHostname_label (name : CString) (outLen : ℕ) :
    HostLabel (sanitizeHostname name outLen) := by
  have hbegins : sanitizeHostname name outLen <+: sanitizeLoop outLen name [] :=
    List.rdropWhile_prefix _ _
  have hlabel := (labelPrefix_sanitizeLoop outLen name labelPrefix_nil).shorter hbegins
  refine ⟨fun c hc => sanitizeLoop_chars (by simp) c (hbegins.mem hc), hlabel.first,
    fun hlast => ?_, hlabel.single⟩
  have hne : sanitizeHostname name outLen ≠ [] := by
    intro hnil
    simp [hnil] at hlast
  have hkept := List.rdropWhile_last_not _ (sanitizeLoop outLen name []) hne
  rw [List.getLast?_eq_some_getLast hne] at hlast
  exact hkept (decide_eq_true (Option.some.inj hlast))

/-- It is empty exactly if there is no room or no letter and no digit. -/
theorem sanitizeHostname_eq_nil_iff (name : CString) (outLen : ℕ) :
    sanitizeHostname name outLen = [] ↔ outLen ≤ 1 ∨ alnums name = 0 := by
  rw [← sanitizeLoop_eq_nil_iff]
  unfold sanitizeHostname
  rw [List.rdropWhile_eq_nil_iff]
  have hfirst := (labelPrefix_sanitizeLoop outLen name labelPrefix_nil).first
  constructor
  · intro hall
    -- what is written first is not a hyphen
    cases hloop : sanitizeLoop outLen name [] with
    | nil => rfl
    | cons c rest =>
        rw [hloop] at hall hfirst
        exact absurd (congrArg some (of_decide_eq_true (hall c List.mem_cons_self))) hfirst
  · intro hnil c hc
    rw [hnil] at hc
    cases hc

end

/-! ## In memory -/

section

variable {memory : List UInt8} {out outLen j : ℕ}

/-- The first loop has written `text`, and nothing outside the buffer. -/
structure LoopWrote (out outLen : ℕ) (memory : List UInt8) (text : CString)
    (after : ℕ × List UInt8) : Prop where
  room : after.1 ≤ outLen - 1
  inside : Keeps (Span out outLen) memory after.2
  wrote : read after.2 out after.1 = text

/-- The first loop writes what `sanitizeLoop` appends. -/
theorem sanitizeLoopAt_spec (hout : out + outLen ≤ memory.length) (hlen : 1 ≤ outLen)
    (hj : j ≤ outLen - 1) (name : List UInt8) :
    LoopWrote out outLen memory (sanitizeLoop outLen (ofBuffer name) (read memory out j))
      (sanitizeLoopAt out outLen name j memory) := by
  induction name generalizing j memory with
  | nil => exact ⟨hj, .refl _ memory, rfl⟩
  | cons c rest ih =>
      have hlength : (read memory out j).length = j := length_read (by omega)
      have hwrite : ∀ d, j < outLen - 1 →
          Keeps (Span out outLen) memory (write memory (out + j) [d]) := fun d hroom =>
        (@keeps_write memory [d] (out + j) (by rw [List.length_singleton]; omega)).mono
          fun i hi => hi.of_le (Nat.le_add_right _ _) (by rw [List.length_singleton]; omega)
      unfold sanitizeLoopAt
      by_cases hnul : c = 0
      · subst hnul
        rw [if_pos (.inl rfl)]
        exact ⟨hj, .refl _ memory, rfl⟩
      · have hstring : ofBuffer (c :: rest) = c :: ofBuffer rest := by
          unfold ofBuffer
          rw [List.takeWhile_cons_of_pos (by simpa using hnul)]
        rw [hstring]
        by_cases hfull : outLen - 1 ≤ j
        · rw [if_pos (.inr hfull), sanitizeLoop_full _ (by rw [hlength]; exact hfull)]
          exact ⟨hj, .refl _ memory, rfl⟩
        · rw [if_neg (not_or.mpr ⟨hnul, hfull⟩)]
          -- a byte written moves the pointer on
          have hnext : ∀ d, LoopWrote out outLen memory
              (sanitizeLoop outLen (ofBuffer rest) (read memory out j ++ [d]))
              (sanitizeLoopAt out outLen rest (j + 1) (write memory (out + j) [d])) := by
            intro d
            have hkeeps := hwrite d (by omega)
            obtain ⟨hj', hkeeps', hread⟩ := @ih (write memory (out + j) [d]) (j + 1)
              (by rw [hkeeps.length]; exact hout) (by omega)
            rw [read_write_add_one (by omega)] at hread
            exact ⟨hj', hkeeps.trans hkeeps', hread⟩
          cases halnum : isAlnum c with
          | true =>
              rw [if_pos rfl, sanitizeLoop_alnum (by omega) halnum]
              exact hnext c
          | false =>
              rw [if_neg Bool.false_ne_true]
              by_cases hsep : c = 32 ∨ c = 95 ∨ c = 46
              · rw [if_pos hsep]
                by_cases hinner : 0 < j ∧ memory[out + (j - 1)]? ≠ some 45
                · have hlast := getLast?_read hinner.1 (by omega : out + j ≤ memory.length)
                  rw [if_pos hinner, sanitizeLoop_separator (by omega) (isSeparator_iff.mpr hsep)
                    (List.length_pos_iff.mp (by omega)) (hlast ▸ hinner.2)]
                  exact hnext 45
                · rw [if_neg hinner, sanitizeLoop_skip halnum]
                  · exact ih hout hj
                  · rcases Nat.eq_zero_or_pos j with rfl | hpos
                    · exact .inr (.inl (read_zero memory out))
                    · rw [getLast?_read hpos (by omega)]
                      exact .inr (.inr (not_not.mp fun h => hinner ⟨hpos, h⟩))
              · rw [if_neg hsep, sanitizeLoop_skip halnum
                  (.inl (by simpa using fun h => hsep (isSeparator_iff.mp h)))]
                exact ih hout hj

/-- The second loop takes the trailing hyphens away. -/
theorem trimLoopAt_spec : ∀ {j : ℕ}, out + j ≤ memory.length →
    trimLoopAt out memory j ≤ j ∧
      read memory out (trimLoopAt out memory j) = (read memory out j).rdropWhile (· = 45) := by
  intro j
  induction j with
  | zero =>
      intro hroom
      exact ⟨le_rfl, by simp [trimLoopAt]⟩
  | succ j ih =>
      intro hroom
      obtain ⟨hle, hread⟩ := ih (by omega)
      have hbyte : read memory out (j + 1) = read memory out j ++ [memory[out + j]] :=
        read_add_one (by omega)
      have hget : memory[out + j]? = some memory[out + j] := List.getElem?_eq_getElem (by omega)
      unfold trimLoopAt
      rw [hget, hbyte, List.rdropWhile_concat]
      by_cases hhyphen : memory[out + j] = 45
      · rw [if_pos (congrArg some hhyphen), if_pos (decide_eq_true hhyphen)]
        exact ⟨by omega, hread⟩
      · rw [if_neg fun h => hhyphen (Option.some.inj h), if_neg (by simpa using hhyphen)]
        exact ⟨le_rfl, hbyte⟩

/-- Bytes with a NUL behind them are the string they start with. -/
theorem ofBuffer_drop_of_read {text : CString}
    (hread : read memory out (text.length + 1) = text ++ [0]) :
    ofBuffer (memory.drop out) = ofBuffer text := by
  have hsplit : memory.drop out = text ++ 0 :: (memory.drop out).drop (text.length + 1) := by
    conv_lhs => rw [← List.take_append_drop (text.length + 1) (memory.drop out)]
    rw [show (memory.drop out).take (text.length + 1) = text ++ [0] from hread, List.append_assoc,
      List.singleton_append]
  rw [hsplit]
  exact ofBuffer_drop_append _ (Nat.zero_le text.length)

/-- `sanitize_hostname` leaves the string `sanitizeHostname` says, inside the buffer. -/
theorem sanitizeHostnameAt_spec (name : List UInt8) (hout : out + outLen ≤ memory.length)
    (hlen : 1 ≤ outLen) :
    Keeps (Span out outLen) memory (sanitizeHostnameAt name out outLen memory) ∧
      (sanitizeHostnameAt name out outLen memory)[out +
        (sanitizeHostname (ofBuffer name) outLen).length]? = some 0 ∧
      ofBuffer ((sanitizeHostnameAt name out outLen memory).drop out) =
        sanitizeHostname (ofBuffer name) outLen := by
  unfold sanitizeHostnameAt
  obtain ⟨hj, hkeeps, hread⟩ := sanitizeLoopAt_spec hout hlen (Nat.zero_le _) name
  generalize sanitizeLoopAt out outLen name 0 memory = after at hj hkeeps hread
  obtain ⟨j, memory'⟩ := after
  dsimp only at hj hkeeps hread ⊢
  have hlength := hkeeps.length
  obtain ⟨hle, htrim⟩ := @trimLoopAt_spec memory' out j (by omega)
  rw [hread, read_zero] at htrim
  generalize trimLoopAt out memory' j = stop at hle htrim
  have htext : (sanitizeHostname (ofBuffer name) outLen).length = stop := by
    rw [show sanitizeHostname (ofBuffer name) outLen = read memory' out stop from htrim.symm]
    exact length_read (by omega)
  refine ⟨hkeeps.trans ((@keeps_write memory' [0] (out + stop) (by
    rw [List.length_singleton]; omega)).mono fun i hi =>
      hi.of_le (Nat.le_add_right _ _) (by rw [List.length_singleton]; omega)), ?_, ?_⟩
  · rw [htext, getElem?_write (by omega), if_pos ⟨le_rfl, by simp⟩, Nat.sub_self]
    rfl
  have hstring := @ofBuffer_drop_of_read (write memory' (out + stop) [0]) out
    (sanitizeHostname (ofBuffer name) outLen) (by
      rw [htext, read_write_add_one (by omega), htrim]
      rfl)
  rw [hstring]
  refine ofBuffer_eq_self fun hmem => ?_
  have hchars := (sanitizeHostname_label (ofBuffer name) outLen).chars 0 hmem
  revert hchars
  decide

/-- **A sanitised name is always a label.**  Whatever bytes `name` points to and however
small the buffer, `sanitize_hostname` changes no byte outside it, what it leaves there is
a NUL-terminated string of letters, digits and single interior hyphens, and the string is
empty exactly if the buffer holds a NUL only or the name has no letter and no digit. -/
theorem sanitized_hostname_label (name : List UInt8) (hout : out + outLen ≤ memory.length)
    (hlen : 1 ≤ outLen) :
    let memory' := sanitizeHostnameAt name out outLen memory
    let label := ofBuffer (memory'.drop out)
    Keeps (Span out outLen) memory memory' ∧ label.length < outLen ∧
      memory'[out + label.length]? = some 0 ∧ HostLabel label ∧
        (label = [] ↔ outLen = 1 ∨ ∀ c ∈ ofBuffer name, isAlnum c = false) ∧
          label = sanitizeHostname (ofBuffer name) outLen := by
  obtain ⟨hkeeps, hnul, hstring⟩ := sanitizeHostnameAt_spec name hout hlen
  dsimp only
  rw [hstring]
  refine ⟨hkeeps, ?_, hnul, sanitizeHostname_label _ _, ?_, rfl⟩
  · calc (sanitizeHostname (ofBuffer name) outLen).length
        ≤ (sanitizeLoop outLen (ofBuffer name) []).length := (List.rdropWhile_prefix _ _).length_le
      _ ≤ outLen - 1 := length_sanitizeLoop_le (Nat.zero_le _)
      _ < outLen := by omega
  · rw [sanitizeHostname_eq_nil_iff, alnums, List.countP_eq_zero]
    simp only [Bool.not_eq_true]
    exact or_congr_left (by omega)

end

/-- A limit between a hyphen and the next letter, in a buffer of three bytes at address 1. -/
theorem sanitized_hostname_label_cut :
    let memory' := sanitizeHostnameAt (cstr "a b") 1 3 (List.replicate 8 255)
    HostLabel (ofBuffer (memory'.drop 1)) ∧ ofBuffer (memory'.drop 1) = cstr "a" ∧
      memory'[2]? = some 0 ∧ memory'[4]? = some 255 := by
  obtain ⟨hkeeps, -, hnul, hlabel, -, hstring⟩ := @sanitized_hostname_label
    (List.replicate 8 255) 1 3 (cstr "a b") (by decide) (by decide)
  have hcut : sanitizeHostname (ofBuffer (cstr "a b")) 3 = cstr "a" := by decide +kernel
  rw [hcut] at hstring
  rw [hstring] at hnul
  exact ⟨hlabel, hstring, hnul, hkeeps.same 4 (by rintro ⟨-, h⟩; omega)⟩

end WebTerminal
