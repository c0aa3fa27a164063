import WebTerminal.Wifi.Events

/-!
# Names in the network

`sanitize_hostname` keeps letters and digits, writes one hyphen for a run of
spaces, underscores and dots between them, and drops everything else.  A hyphen
of its input is among what it drops, although it is the one other character a
hostname may have: `pi-rack-1` is announced as `pirack1`, and the name
`pi rack 1` becomes `pi-rack-1` once and `pirack1` if it is sanitised again.
-/

set_option autoImplicit false

namespace WebTerminal

/-- What the loop writes a hyphen for. -/
def isSeparator (c : UInt8) : Bool := c = 32 || c = 95 || c = 46

/-- The number of letters and digits. -/
def alnums (name : CString) : ℕ := name.countP isAlnum

/-- At most 32 letters, digits and single interior hyphens. -/
structure HostnameText (name : CString) : Prop where
  length_le : name.length ≤ 32
  chars : ∀ c ∈ name, isAlnum c = true ∨ c = 45
  single : ¬[45, 45] <:+: name
  first : name.head? ≠ some 45
  last : name.getLast? ≠ some 45

/-- What `sanitize_hostname` owes a device name: a name that is a hostname is
kept, and is the name the device answers to; and its result is final. -/
structure KeepsHostname (name : CString) : Prop where
  kept : HostnameText name → sanitizeHostname name 33 = name
  announced : HostnameText name → name ≠ [] → hostnameOf name = name
  final : sanitizeHostname (sanitizeHostname name 33) 33 = sanitizeHostname name 33

/-- A separator between letters or digits, so far to the left that the hyphen for it
and a letter or digit behind it still fit `outLen` bytes. -/
def InnerSeparator (outLen : ℕ) (name : CString) : Prop :=
  ∃ before c behind, name = before ++ c :: behind ∧ isSeparator c = true ∧ 0 < alnums before ∧
    alnums before + 2 < outLen ∧ 0 < alnums behind

/-! ## The loop -/

theorem isSeparator_iff {c : UInt8} : isSeparator c = true ↔ c = 32 ∨ c = 95 ∨ c = 46 := by
  simp [isSeparator, or_assoc]

theorem not_isSeparator_of_isAlnum {c : UInt8} (h : isAlnum c = true) : isSeparator c = false := by
  cases hc : isSeparator c with
  | false => rfl
  | true => rcases isSeparator_iff.mp hc with rfl | rfl | rfl <;> exact absurd h (by decide)

theorem ne_hyphen_of_isAlnum {c : UInt8} (h : isAlnum c = true) : c ≠ 45 := by
  rintro rfl
  exact absurd h (by decide)

section

variable {outLen : ℕ} {c : UInt8} {rest out : CString}

theorem sanitizeLoop_full (name : CString) (h : outLen - 1 ≤ out.length) :
    sanitizeLoop outLen name out = out := by
  cases name with
  | nil => rfl
  | cons c rest => exact if_pos h

theorem sanitizeLoop_alnum (hroom : out.length < outLen - 1) (hc : isAlnum c = true) :
    sanitizeLoop outLen (c :: rest) out = sanitizeLoop outLen rest (out ++ [c]) := by
  conv_lhs => unfold sanitizeLoop
  rw [if_neg (Nat.not_le.mpr hroom), if_pos hc]

/-- A separator behind a letter or digit. -/
theorem sanitizeLoop_separator (hroom : out.length < outLen - 1) (hc : isSeparator c = true)
    (hout : out ≠ []) (hlast : out.getLast? ≠ some 45) :
    sanitizeLoop outLen (c :: rest) out = sanitizeLoop outLen rest (out ++ [45]) := by
  have halnum : ¬isAlnum c = true := fun h => by simp [not_isSeparator_of_isAlnum h] at hc
  conv_lhs => unfold sanitizeLoop
  rw [if_neg (Nat.not_le.mpr hroom), if_neg halnum,
    if_pos ⟨isSeparator_iff.mp hc, List.length_pos_iff.mpr hout, hlast⟩]

/-- What is neither, or a separator that would stand first or behind a hyphen. -/
theorem sanitizeLoop_skip (hc : isAlnum c = false)
    (hskip : isSeparator c = false ∨ out = [] ∨ out.getLast? = some 45) :
    sanitizeLoop outLen (c :: rest) out = sanitizeLoop outLen rest out := by
  conv_lhs => unfold sanitizeLoop
  split
  next hfull => exact (sanitizeLoop_full rest hfull).symm
  next =>
    rw [if_neg (by simp [hc]), if_neg]
    rintro ⟨hsep, hout, hlast⟩
    rcases hskip with h | rfl | h
    · rw [isSeparator_iff.mpr hsep] at h
      cases h
    · exact absurd hout (Nat.lt_irrefl 0)
    · exact hlast h

end

/-- What is written stays. -/
theorem prefix_sanitizeLoop (outLen : ℕ) (name out : CString) :
    out <+: sanitizeLoop outLen name out := by
  induction name generalizing out with
  | nil => exact List.prefix_refl out
  | cons c rest ih =>
      unfold sanitizeLoop
      split
      · exact List.prefix_refl out
      · split
        · exact (List.prefix_append out [c]).trans (ih _)
        · split
          · exact (List.prefix_append out [45]).trans (ih _)
          · exact ih out

/-- Without a separator the letters and digits remain, as many as fit. -/
theorem sanitizeLoop_of_no_separator {outLen : ℕ} {name out : CString}
    (h : ∀ c ∈ name, isSeparator c = false) :
    sanitizeLoop outLen name out =
      out ++ (name.filter isAlnum).take (outLen - 1 - out.length) := by
  induction name generalizing out with
  | nil => simp [sanitizeLoop]
  | cons c rest ih =>
      have hrest := fun out => @ih out fun c' hc' => h c' (List.mem_cons_of_mem c hc')
      by_cases hroom : outLen - 1 ≤ out.length
      · rw [sanitizeLoop_full _ hroom, Nat.sub_eq_zero_of_le hroom]
        simp
      · cases hc : isAlnum c with
        | true =>
            rw [sanitizeLoop_alnum (by omega) hc, hrest, List.filter_cons_of_pos hc,
              show outLen - 1 - out.length = outLen - 1 - (out ++ [c]).length + 1 by
                simp only [List.length_append, List.length_singleton]
                omega,
              List.take_succ_cons, List.append_assoc, List.singleton_append]
        | false =>
            rw [sanitizeLoop_skip hc (.inl (h c List.mem_cons_self)), hrest,
              List.filter_cons_of_neg (by simp [hc])]

/-! ## What is written -/

/-- What does not end in hyphens is not trimmed. -/
theorem prefix_rdropWhile {l : CString} (hlast : ∀ hl : l ≠ [], l.getLast hl ≠ 45)
    (more : CString) : l <+: (l ++ more).rdropWhile (· = 45) := by
  induction more using List.reverseRecOn with
  | nil =>
      have hself : l.rdropWhile (· = 45) = l :=
        List.rdropWhile_eq_self_iff.mpr fun hl => by simpa using hlast hl
      simp [hself]
  | append_singleton more c ih =>
      rw [← List.append_assoc, List.rdropWhile_concat]
      split
      · exact ih
      · rw [List.append_assoc]
        exact List.prefix_append _ _

/-- Behind a hyphen the hyphen stays exactly if a letter or digit follows and there is
room for it. -/
theorem mem_hyphen_behind {outLen : ℕ} {out name : CString} (hout : (45 : UInt8) ∉ out) :
    (45 : UInt8) ∈ (sanitizeLoop outLen name (out ++ [45])).rdropWhile (· = 45) ↔
      out.length + 2 < outLen ∧ 0 < alnums name := by
  have hdropped : (45 : UInt8) ∉ (out ++ [45]).rdropWhile (· = 45) := by
    rw [List.rdropWhile_concat_pos _ _ _ (by simp)]
    exact fun hmem => hout ((List.rdropWhile_prefix _ _).mem hmem)
  induction name with
  | nil => simpa [sanitizeLoop, alnums] using hdropped
  | cons c rest ih =>
      by_cases hfull : outLen - 1 ≤ (out ++ [45]).length
      · rw [sanitizeLoop_full _ hfull]
        rw [List.length_append, List.length_singleton] at hfull
        exact iff_of_false hdropped fun h => by omega
      · cases hc : isAlnum c with
        | true =>
            rw [sanitizeLoop_alnum (by omega) hc]
            rw [List.length_append, List.length_singleton] at hfull
            refine iff_of_true ?_ ⟨by omega, by simp [alnums, hc]⟩
            -- the letter protects the hyphen before it
            obtain ⟨more, hmore⟩ := prefix_sanitizeLoop outLen rest (out ++ [45] ++ [c])
            rw [← hmore]
            refine (prefix_rdropWhile ?_ more).mem (by simp)
            simpa using ne_hyphen_of_isAlnum hc
        | false =>
            rw [sanitizeLoop_skip hc (.inr (.inr (by simp)))]
            exact ih.trans (by simp [alnums, hc])

/-- A separator of a longer name is its first byte or one of the rest. -/
theorem exists_separator_cons {outLen k : ℕ} {c : UInt8} {rest : CString} :
    (∃ before d behind, c :: rest = before ++ d :: behind ∧ isSeparator d = true ∧
      0 < k + alnums before ∧ k + alnums before + 2 < outLen ∧ 0 < alnums behind) ↔
      (isSeparator c = true ∧ 0 < k ∧ k + 2 < outLen ∧ 0 < alnums rest) ∨
        ∃ before d behind, rest = before ++ d :: behind ∧ isSeparator d = true ∧
          0 < k + alnums (c :: before) ∧ k + alnums (c :: before) + 2 < outLen ∧
            0 < alnums behind := by
  constructor
  · rintro ⟨before, d, behind, heq, hd, hlow, hhigh, hbehind⟩
    cases before with
    | nil =>
        obtain ⟨rfl, rfl⟩ := List.cons.inj heq
        exact .inl ⟨hd, by simpa [alnums] using hlow, by simpa [alnums] using hhigh, hbehind⟩
    | cons b before =>
        obtain ⟨rfl, rfl⟩ := List.cons.inj heq
        exact .inr ⟨before, d, behind, rfl, hd, hlow, hhigh, hbehind⟩
  · rintro (⟨hd, hlow, hhigh, hbehind⟩ | ⟨before, d, behind, rfl, h⟩)
    · exact ⟨[], c, rest, rfl, hd, by simpa [alnums] using hlow,
        by simpa [alnums] using hhigh, hbehind⟩
    · exact ⟨c :: before, d, behind, rfl, h⟩

/-- A hyphen is written exactly for a separator between letters or digits that are not
too far to the right. -/
theorem mem_hyphen_loop {outLen : ℕ} {out name : CString}
    (hout : ∀ c ∈ out, isAlnum c = true) :
    (45 : UInt8) ∈ (sanitizeLoop outLen name out).rdropWhile (· = 45) ↔
      ∃ before c behind, name = before ++ c :: behind ∧ isSeparator c = true ∧
        0 < out.length + alnums before ∧ out.length + alnums before + 2 < outLen ∧
          0 < alnums behind := by
  have hno : (45 : UInt8) ∉ out := fun h => absurd (hout 45 h) (by decide)
  induction name generalizing out with
  | nil =>
      refine iff_of_false (fun hmem => hno ((List.rdropWhile_prefix _ _).mem hmem)) ?_
      rintro ⟨before, c, behind, heq, -⟩
      simp at heq
  | cons c rest ih =>
      rw [exists_separator_cons]
      -- where the output is full the loop has ended
      by_cases hfull : outLen - 1 ≤ out.length
      · rw [sanitizeLoop_full _ hfull]
        refine iff_of_false (fun hmem => hno ((List.rdropWhile_prefix _ _).mem hmem)) ?_
        rintro (⟨-, -, h, -⟩ | ⟨before, d, behind, -, -, -, h, -⟩) <;> omega
      · cases hc : isAlnum c with
        | true =>
            have hsep := not_isSeparator_of_isAlnum hc
            have hout' : ∀ d ∈ out ++ [c], isAlnum d = true := by
              intro d hd
              rcases List.mem_append.mp hd with hd | hd
              · exact hout d hd
              · rw [List.mem_singleton.mp hd]
                exact hc
            rw [sanitizeLoop_alnum (by omega) hc]
            refine (ih hout' fun h => absurd (hout' 45 h) (by decide)).trans ?_
            simp [alnums, hc, hsep, Nat.add_assoc, Nat.add_comm 1]
        | false =>
            have hskip : ∀ before, alnums (c :: before) = alnums before := by
              intro before
              simp [alnums, hc]
            simp only [hskip]
            -- a separator behind a letter or a digit writes its hyphen, which stays if one follows
            by_cases hsep : isSeparator c = true ∧ out ≠ []
            · have hlast : out.getLast? ≠ some 45 := fun h => hno (List.mem_of_getLast? h)
              have hpos := List.length_pos_iff.mpr hsep.2
              rw [sanitizeLoop_separator (by omega) hsep.1 hsep.2 hlast, mem_hyphen_behind hno]
              refine ⟨fun h => .inl ⟨hsep.1, hpos, h⟩, ?_⟩
              rintro (h | ⟨before, d, behind, rfl, -, -, hhigh, hbehind⟩)
              · exact h.2.2
              · have halnums : alnums (before ++ d :: behind) =
                    alnums before + alnums [d] + alnums behind := by
                  simp only [alnums, List.countP_append, List.countP_cons, List.countP_nil]
                  omega
                exact ⟨by omega, by omega⟩
            · -- anything else is skipped
              have hcase : isSeparator c = false ∨ out = [] ∨ out.getLast? = some 45 := by
                cases hc' : isSeparator c with
                | false => exact .inl rfl
                | true => exact .inr (.inl (by simpa [hc'] using hsep))
              rw [sanitizeLoop_skip hc hcase]
              refine (ih hout hno).trans (or_iff_right ?_).symm
              rintro ⟨hc', hpos, -⟩
              exact hsep ⟨hc', List.length_pos_iff.mp hpos⟩

/-- The name in the network has a hyphen exactly if the device name has an inner
separator. -/
theorem mem_hyphen_iff (outLen : ℕ) (name : CString) :
    45 ∈ sanitizeHostname name outLen ↔ InnerSeparator outLen name := by
  refine (mem_hyphen_loop (by simp)).trans ?_
  simp only [List.length_nil, Nat.zero_add]
  rfl

/-- Only letters, digits and hyphens are written. -/
theorem sanitizeLoop_chars {outLen : ℕ} {name out : CString}
    (hout : ∀ c ∈ out, isAlnum c = true ∨ c = 45) :
    ∀ c ∈ sanitizeLoop outLen name out, isAlnum c = true ∨ c = 45 := by
  have hsnoc : ∀ {out : CString} {c : UInt8}, (∀ d ∈ out, isAlnum d = true ∨ d = 45) →
      (isAlnum c = true ∨ c = 45) → ∀ d ∈ out ++ [c], isAlnum d = true ∨ d = 45 := by
    intro out c hout hc d hd
    rcases List.mem_append.mp hd with hd | hd
    · exact hout d hd
    · rw [List.mem_singleton.mp hd]
      exact hc
  induction name generalizing out with
  | nil => exact hout
  | cons c rest ih =>
      unfold sanitizeLoop
      split
      · exact hout
      · split
        next hc => exact ih (hsnoc hout (.inl hc))
        next =>
          split
          · exact ih (hsnoc hout (.inr rfl))
          · exact ih hout

/-- No more is written than there is room for. -/
theorem length_sanitizeLoop_le {outLen : ℕ} {name out : CString} (hout : out.length ≤ outLen - 1) :
    (sanitizeLoop outLen name out).length ≤ outLen - 1 := by
  induction name generalizing out with
  | nil => exact hout
  | cons c rest ih =>
      unfold sanitizeLoop
      split
      · exact hout
      next hroom =>
        split
        · exact ih (by rw [List.length_append, List.length_singleton]; omega)
        · split
          · exact ih (by rw [List.length_append, List.length_singleton]; omega)
          · exact ih hout

/-- A name without separators loses its hyphens, and a name without either is kept. -/
theorem sanitizeHostname_of_no_separator {outLen : ℕ} {name : CString}
    (h : ∀ c ∈ name, isSeparator c = false) :
    sanitizeHostname name outLen = (name.filter isAlnum).take (outLen - 1) := by
  unfold sanitizeHostname
  rw [sanitizeLoop_of_no_separator h, List.nil_append, List.length_nil, Nat.sub_zero,
    List.rdropWhile_eq_self_iff]
  intro hl
  have hlast := List.mem_filter.mp (List.mem_of_mem_take (List.getLast_mem hl))
  simpa using ne_hyphen_of_isAlnum hlast.2

/-- A text of letters, digits and hyphens that fits is kept exactly if it has no hyphen. -/
theorem sanitizeHostname_eq_self_iff {outLen : ℕ} {name : CString}
    (hchars : ∀ c ∈ name, isAlnum c = true ∨ c = 45) (hlen : name.length ≤ outLen - 1) :
    sanitizeHostname name outLen = name ↔ (45 : UInt8) ∉ name := by
  have hsep : ∀ c ∈ name, isSeparator c = false := by
    intro c hc
    rcases hchars c hc with h | rfl
    · exact not_isSeparator_of_isAlnum h
    · decide
  rw [sanitizeHostname_of_no_separator hsep]
  constructor
  · intro heq hmem
    rw [← heq] at hmem
    exact absurd (List.mem_filter.mp (List.mem_of_mem_take hmem)).2 (by decide)
  · intro hno
    have hall : ∀ c ∈ name, isAlnum c = true := fun c hc =>
      (hchars c hc).resolve_right (ne_of_mem_of_not_mem hc hno)
    rw [List.filter_eq_self.mpr hall, List.take_of_length_le hlen]

/-- `sanitize_hostname` keeps what is a hostname and is final exactly on the names
that are not hostnames with a hyphen and have no inner separator. -/
theorem keeps_hostname_iff (name : CString) :
    KeepsHostname name ↔
      (HostnameText name → (45 : UInt8) ∉ name) ∧ ¬InnerSeparator 33 name := by
  have hkept : HostnameText name → (sanitizeHostname name 33 = name ↔ (45 : UInt8) ∉ name) :=
    fun h => sanitizeHostname_eq_self_iff h.chars h.length_le
  have hchars : ∀ c ∈ sanitizeHostname name 33, isAlnum c = true ∨ c = 45 := fun c hc =>
    sanitizeLoop_chars (by simp) c ((List.rdropWhile_prefix _ _).mem hc)
  have hlen : (sanitizeHostname name 33).length ≤ 32 :=
    (List.rdropWhile_prefix _ _).length_le.trans (length_sanitizeLoop_le (Nat.zero_le _))
  have hfinal : sanitizeHostname (sanitizeHostname name 33) 33 = sanitizeHostname name 33 ↔ _ :=
    sanitizeHostname_eq_self_iff hchars hlen
  rw [mem_hyphen_iff] at hfinal
  constructor
  · intro h
    exact ⟨fun htext => (hkept htext).mp (h.kept htext), hfinal.mp h.final⟩
  · rintro ⟨hno, hinner⟩
    have hself : HostnameText name → sanitizeHostname name 33 = name :=
      fun htext => (hkept htext).mpr (hno htext)
    refine ⟨hself, fun htext hne => ?_, hfinal.mpr hinner⟩
    unfold hostnameOf
    rw [hself htext, if_neg hne]

/-- `pi-rack-1` is announced as `pirack1`. -/
theorem hostname_loses_hyphen : ¬∀ name : CString, KeepsHostname name := by
  intro hall
  have htext : HostnameText (cstr "pi-rack-1") := by
    constructor <;> decide +kernel
  exact absurd ((hall (cstr "pi-rack-1")).kept htext) (by decide +kernel)

end WebTerminal
