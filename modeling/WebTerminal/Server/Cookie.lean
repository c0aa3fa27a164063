import WebTerminal.Lib.Occurrence
import WebTerminal.Server.Request

/-!
# Scanning a Cookie header

`cookie_value` returns a pointer into the header and a length.  `cookieWalk` is
its loop with that result and with every position it looks at;
`cookieScan_eq_walk` says that the value is the one of `cookieScan`.

A separated name that is not followed by `=` is stepped over twice: the cursor
moves by the length of the name before the test for `=` and again at the end of
the loop.  So the scan misses a cookie that starts within fourteen bytes of a
bare `session`, and where the header ends within these fourteen bytes the
cursor leaves it.  `passedBare` are the bare names at which this happens: the
scan equals the grammar of the header, and stays inside it, as far as these leave
room (`cookie_value_iff_grammar`, `cookie_scan_inside_iff`).
-/

set_option autoImplicit false

namespace WebTerminal

open Occurrence

/-! ## The loop -/

/-- What the loop looked at, and the offset and length of the value it returns. -/
structure CookieWalk where
  reads : List ℕ
  value : Option (ℕ × ℕ)

/-- The same walk after these reads. -/
def CookieWalk.after (earlier : List ℕ) (walk : CookieWalk) : CookieWalk :=
  { walk with reads := earlier ++ walk.reads }

/-- The bytes the test for `"; "` before `q` looks at. -/
def boundaryReads (memory : List UInt8) (q : ℕ) : List ℕ :=
  if 2 ≤ q then if memory.getD (q - 1) 0 = 32 then [q - 1, q - 2] else [q - 1] else []

/-- The number of bytes from `p` up to the next `;` or the end of the string. -/
def valueLength (memory : List UInt8) (p : ℕ) : ℕ :=
  ((ofBuffer (memory.drop p)).takeWhile (· ≠ 59)).length

/-- The loop of `cookie_value` from position `p` on. -/
def cookieWalk (memory : List UInt8) (name : CString) : ℕ → ℕ → CookieWalk
  | 0, _ => ⟨[], none⟩
  | fuel + 1, p =>
      match strstr name (ofBuffer (memory.drop p)) with
      | none => ⟨[p], none⟩
      | some offset =>
          let q := p + offset
          CookieWalk.after (p :: boundaryReads memory q) <|
            if separated memory q then
              if memory.getD (q + name.length) 0 = 61 then
                ⟨[q + name.length, q + name.length + 1],
                  some (q + name.length + 1, valueLength memory (q + name.length + 1))⟩
              else (cookieWalk memory name fuel (q + name.length + name.length)).after
                [q + name.length]
            else cookieWalk memory name fuel (q + name.length)

/-- The walk through memory from `p` on, to its end. -/
def walkFrom (memory : List UInt8) (name : CString) (p : ℕ) : CookieWalk :=
  cookieWalk memory name (memory.length + 1) p

/-- The walk of `cookie_value` on a header that is followed by `heapTail` in memory. -/
def cookieValueWalk (heapTail : List UInt8) (header name : CString) : CookieWalk :=
  walkFrom (header ++ 0 :: heapTail) name 0

/-- The bytes of a value. -/
def valueAt (memory : List UInt8) (value : ℕ × ℕ) : CString :=
  (memory.drop value.1).take value.2

theorem cookieScan_eq_walk (memory : List UInt8) (name : CString) (fuel p : ℕ) :
    cookieScan memory name fuel p =
      (cookieWalk memory name fuel p).value.map (valueAt memory) := by
  induction fuel generalizing p with
  | zero => rfl
  | succ fuel ih =>
      unfold cookieScan cookieWalk
      cases strstr name (ofBuffer (memory.drop p)) with
      | none => rfl
      | some offset =>
          dsimp only [CookieWalk.after]
          split
          · split
            · simp only [Option.map_some, valueAt, valueLength]
              congr 1
              exact List.prefix_iff_eq_take.mp
                ((List.takeWhile_prefix _).trans (List.takeWhile_prefix _))
            · exact ih _
          · exact ih _

theorem cookieValue_eq_walk (heapTail : List UInt8) (header name : CString) :
    cookieValue heapTail header name = (cookieValueWalk heapTail header name).value.map
      (valueAt (header ++ 0 :: heapTail)) := by
  unfold cookieValue cookieValueWalk walkFrom
  rw [cookieScan_eq_walk]
  congr 3
  simp
  omega

/-! ## The grammar -/

/-- A pair starts at the beginning of the header or right after `"; "`. -/
def PairStart (header : CString) (q : ℕ) : Prop :=
  q = 0 ∨ 2 ≤ q ∧ OccursAt (cstr "; ") header (q - 2)

instance (header : CString) (q : ℕ) : Decidable (PairStart header q) :=
  inferInstanceAs (Decidable (_ ∨ _))

/-- The first pair that begins with the text `name=`. -/
def firstNamed (header name : CString) : Option ℕ :=
  (List.range header.length).find? fun q =>
    decide (PairStart header q ∧ OccursAt (name ++ cstr "=") header q)

/-- What `cookie_value` is to return: the bytes behind `name=` in that pair, up to
the next `;` or the end of the header, by offset and length. -/
def cookieGrammar (header name : CString) : Option (ℕ × ℕ) :=
  (firstNamed header name).map fun q =>
    (q + name.length + 1, ((header.drop (q + name.length + 1)).takeWhile (· ≠ 59)).length)

/-- The pairs that begin with the text `name`, whatever follows it. -/
def namePairs (header name : CString) : List ℕ :=
  (List.range header.length).filter fun q =>
    decide (PairStart header q ∧ OccursAt name header q)

/-- Of these pairs, from the left and up to the first with the text `name=`, those that
begin otherwise; what begins less than two lengths of the name behind one of
them is left out, whatever it is. -/
def bareUpTo (header name : CString) : ℕ → List ℕ → List ℕ
  | _, [] => []
  | p, q :: rest =>
      if q < p then bareUpTo header name p rest
      else if header.getD (q + name.length) 0 = 61 then []
      else q :: bareUpTo header name (q + name.length + name.length) rest

/-- The bare names the scan for `name` steps over. -/
def passedBare (header name : CString) : List ℕ :=
  bareUpTo header name 0 (namePairs header name)

/-- A name the scan can be asked for: it has no border, so that its occurrences do not
overlap, and none of the characters that separate or end a header. -/
structure CookieName (name : CString) : Prop where
  nonempty : name ≠ []
  unbordered : Unbordered name
  text : (0 : UInt8) ∉ name
  separator : (59 : UInt8) ∉ name
  space : (32 : UInt8) ∉ name

theorem sessionName_cookieName : CookieName sessionName where
  nonempty := by decide
  unbordered := by decide
  text := by decide
  separator := by decide
  space := by decide

/-! ## One round of the loop -/

theorem strstr_eq_firstAt (needle s : CString) : strstr needle s = firstAt needle s := by
  induction s with
  | nil =>
      by_cases hnil : needle = []
      · subst hnil
        rfl
      · symm
        unfold strstr
        rw [if_neg hnil, firstAt_eq_none_iff]
        intro i hi
        have := hi.le_length hnil
        have := List.length_pos_iff.mpr hnil
        simp only [List.length_nil] at *
        omega
  | cons c rest ih =>
      unfold strstr
      split
      next hprefix =>
        symm
        refine firstAt_eq_some_iff.mpr ⟨?_, fun j hj => absurd hj (Nat.not_lt_zero j)⟩
        exact List.isPrefixOf_iff_prefix.mp hprefix
      next hprefix =>
        rw [ih, firstAt_cons fun h => hprefix (List.isPrefixOf_iff_prefix.mpr h)]

section

variable {memory : List UInt8} {name : CString} {p : ℕ}

/-- What `strstr` finds lies in memory. -/
theorem strstr_memory_bound (hname : name ≠ []) {offset : ℕ}
    (h : strstr name (ofBuffer (memory.drop p)) = some offset) :
    p + offset + name.length ≤ memory.length := by
  have hpos := List.length_pos_iff.mpr hname
  have hfound := strstr_bound h
  have hlen := length_ofBuffer_le (memory.drop p)
  rw [List.length_drop] at hlen
  omega

/-- A walk with enough fuel does not depend on it: every round moves on. -/
theorem cookieWalk_fuel (hname : name ≠ []) : ∀ (fuel fuel' p : ℕ), 0 < fuel → 0 < fuel' →
    memory.length < fuel + p → memory.length < fuel' + p →
      cookieWalk memory name fuel p = cookieWalk memory name fuel' p := by
  have hpos := List.length_pos_iff.mpr hname
  intro fuel
  induction fuel with
  | zero => intro fuel' p h; omega
  | succ fuel ih =>
      intro fuel' p _ hfuel' hle hle'
      obtain ⟨fuel', rfl⟩ := Nat.exists_eq_succ_of_ne_zero (by omega : fuel' ≠ 0)
      unfold cookieWalk
      cases hfind : strstr name (ofBuffer (memory.drop p)) with
      | none => rfl
      | some offset =>
          have hbound := strstr_memory_bound hname hfind
          dsimp only
          rw [ih fuel' (p + offset + name.length) (by omega) (by omega) (by omega) (by omega),
            ih fuel' (p + offset + name.length + name.length) (by omega) (by omega) (by omega)
              (by omega)]

theorem walkFrom_none (h : strstr name (ofBuffer (memory.drop p)) = none) :
    walkFrom memory name p = ⟨[p], none⟩ := by
  unfold walkFrom cookieWalk
  rw [h]

theorem walkFrom_some (hname : name ≠ []) {offset : ℕ}
    (h : strstr name (ofBuffer (memory.drop p)) = some offset) :
    walkFrom memory name p = CookieWalk.after (p :: boundaryReads memory (p + offset))
      (if separated memory (p + offset) then
        if memory.getD (p + offset + name.length) 0 = 61 then
          ⟨[p + offset + name.length, p + offset + name.length + 1],
            some (p + offset + name.length + 1,
              valueLength memory (p + offset + name.length + 1))⟩
        else (walkFrom memory name (p + offset + name.length + name.length)).after
          [p + offset + name.length]
      else walkFrom memory name (p + offset + name.length)) := by
  have hpos := List.length_pos_iff.mpr hname
  have hbound := strstr_memory_bound hname h
  conv_lhs => unfold walkFrom cookieWalk
  rw [h]
  dsimp only
  unfold walkFrom
  rw [cookieWalk_fuel hname memory.length (memory.length + 1) (p + offset + name.length)
      (by omega) (by omega) (by omega) (by omega),
    cookieWalk_fuel hname memory.length (memory.length + 1)
      (p + offset + name.length + name.length) (by omega) (by omega) (by omega) (by omega)]

/-- What the walk returns lies behind where it started. -/
theorem walkFrom_value_le (hname : name ≠ []) : ∀ {p a n : ℕ},
    (walkFrom memory name p).value = some (a, n) → p + name.length + 1 ≤ a := by
  have hpos := List.length_pos_iff.mpr hname
  suffices h : ∀ k p a n, memory.length - p < k →
      (walkFrom memory name p).value = some (a, n) → p + name.length + 1 ≤ a by
    intro p a n
    exact h _ p a n (Nat.lt_succ_self _)
  intro k
  induction k with
  | zero => intro p a n hk; omega
  | succ k ih =>
      intro p a n hk hvalue
      cases hfind : strstr name (ofBuffer (memory.drop p)) with
      | none => simp [walkFrom_none hfind] at hvalue
      | some offset =>
          have hbound := strstr_memory_bound hname hfind
          rw [walkFrom_some hname hfind] at hvalue
          simp only [CookieWalk.after] at hvalue
          split at hvalue
          · split at hvalue
            · obtain ⟨rfl, -⟩ := Prod.mk.inj (Option.some.inj hvalue)
              omega
            · have := ih _ a n (by omega) hvalue
              omega
          · have := ih _ a n (by omega) hvalue
            omega

end

/-! ## A round inside the header -/

section

variable {header name : CString} {p q : ℕ}

theorem getD_eq_iff_occursAt {c : UInt8} (hc : c ≠ 0) :
    header.getD q 0 = c ↔ OccursAt [c] header q := by
  rw [occursAt_singleton, List.getD_eq_getElem?_getD]
  cases header[q]? with
  | none => simpa using Ne.symm hc
  | some b => simp

theorem separated_iff_pairStart : separated header q = true ↔ PairStart header q := by
  have hsep : cstr "; " = [59] ++ [32] := by decide
  unfold separated PairStart
  simp only [Bool.or_eq_true, Bool.and_eq_true, decide_eq_true_eq, beq_iff_eq, and_assoc]
  refine or_congr_right (and_congr_right fun h2 => ?_)
  rw [hsep, occursAt_append, ← getD_eq_iff_occursAt (by decide), ← getD_eq_iff_occursAt (by decide),
    List.length_singleton, show q - 2 + 1 = q - 1 by omega]
  exact and_comm

/-- The text `name=` is the name with an equals sign behind it. -/
theorem occursAt_named_iff : OccursAt (name ++ cstr "=") header q ↔
    OccursAt name header q ∧ header.getD (q + name.length) 0 = 61 := by
  have heq : cstr "=" = [61] := by decide
  rw [heq, occursAt_append, getD_eq_iff_occursAt (by decide)]

/-- The first occurrence of the name from `p` on is at `q`. -/
structure FirstFrom (header name : CString) (p q : ℕ) : Prop where
  le : p ≤ q
  occurs : OccursAt name header q
  first : ∀ i, p ≤ i → i < q → ¬OccursAt name header i

theorem FirstFrom.le_length (h : FirstFrom header name p q) (hname : CookieName name) :
    q + name.length ≤ header.length :=
  h.occurs.le_length hname.nonempty

/-- The next occurrence does not overlap this one. -/
theorem FirstFrom.le_of_occursAt (h : FirstFrom header name p q) (hname : CookieName name) {i : ℕ}
    (hp : p ≤ i) (hi : OccursAt name header i) : i = q ∨ q + name.length ≤ i := by
  rcases Nat.lt_trichotomy i q with hlt | heq | hgt
  · exact absurd hi (h.first i hp hlt)
  · exact .inl heq
  · exact .inr (h.occurs.gap hname.unbordered hi hgt)

/-- The search of one round. -/
theorem strstr_header (hheader : (0 : UInt8) ∉ header) (tail : List UInt8)
    (hp : p ≤ header.length) :
    strstr name (ofBuffer ((header ++ 0 :: tail).drop p)) = firstAt name (header.drop p) := by
  rw [ofBuffer_drop_append tail hp, ofBuffer_eq_self fun h => hheader (List.mem_of_mem_drop h),
    strstr_eq_firstAt]

theorem firstAt_drop_eq_some (h : FirstFrom header name p q) :
    firstAt name (header.drop p) = some (q - p) := by
  refine firstAt_eq_some_iff.mpr ⟨?_, fun j hj => ?_⟩
  · rw [occursAt_drop, Nat.add_sub_cancel' h.le]
    exact h.occurs
  · rw [occursAt_drop]
    exact h.first (p + j) (Nat.le_add_right p j) (by omega)

/-- A property of positions in the header that goes along with the scan: it holds
behind the last name and at a named pair, and it is handed back from where the
scan goes on. -/
theorem scan_induction {motive : ℕ → Prop} (hname : CookieName name)
    (behind : ∀ p ≤ header.length, (∀ i, p ≤ i → ¬OccursAt name header i) → motive p)
    (inner : ∀ p q, FirstFrom header name p q → ¬PairStart header q →
      motive (q + name.length) → motive p)
    (named : ∀ p q, FirstFrom header name p q → PairStart header q →
      header.getD (q + name.length) 0 = 61 → motive p)
    (bare : ∀ p q, FirstFrom header name p q → PairStart header q →
      header.getD (q + name.length) 0 ≠ 61 →
        (q + name.length + name.length ≤ header.length →
          motive (q + name.length + name.length)) → motive p) :
    ∀ p ≤ header.length, motive p := by
  have hpos := List.length_pos_iff.mpr hname.nonempty
  intro p hp
  induction hk : header.length - p using Nat.strong_induction_on generalizing p with
  | _ k ih =>
      cases hfind : firstAt name (header.drop p) with
      | none =>
          refine behind p hp fun i hi hoccurs => ?_
          apply firstAt_eq_none_iff.mp hfind (i - p)
          rwa [occursAt_drop, Nat.add_sub_cancel' hi]
      | some offset =>
          obtain ⟨hoccurs, hbefore⟩ := firstAt_eq_some_iff.mp hfind
          have hq : FirstFrom header name p (p + offset) := by
            refine ⟨Nat.le_add_right p offset, occursAt_drop.mp hoccurs, fun i hi hlt hi' => ?_⟩
            apply hbefore (i - p) (by omega)
            rwa [occursAt_drop, Nat.add_sub_cancel' hi]
          have hle := hq.le_length hname
          by_cases hpair : PairStart header (p + offset)
          · by_cases heq : header.getD (p + offset + name.length) 0 = 61
            · exact named p _ hq hpair heq
            · exact bare p _ hq hpair heq fun hle' => ih _ (by omega) _ hle' rfl
          · exact inner p _ hq hpair (ih _ (by omega) _ hle rfl)

variable (hheader : (0 : UInt8) ∉ header) (hname : CookieName name) (tail : List UInt8)

include hheader

theorem walkFrom_behind (hp : p ≤ header.length) (h : ∀ i, p ≤ i → ¬OccursAt name header i) :
    walkFrom (header ++ 0 :: tail) name p = ⟨[p], none⟩ := by
  apply walkFrom_none
  rw [strstr_header hheader tail hp]
  refine firstAt_eq_none_iff.mpr fun i hi => ?_
  exact h (p + i) (Nat.le_add_right p i) (occursAt_drop.mp hi)

include hname

theorem walkFrom_first (h : FirstFrom header name p q) :
    walkFrom (header ++ 0 :: tail) name p = CookieWalk.after (p :: boundaryReads header q)
      (if PairStart header q then
        if header.getD (q + name.length) 0 = 61 then
          ⟨[q + name.length, q + name.length + 1], some (q + name.length + 1,
            ((header.drop (q + name.length + 1)).takeWhile (· ≠ 59)).length)⟩
        else (walkFrom (header ++ 0 :: tail) name (q + name.length + name.length)).after
          [q + name.length]
      else walkFrom (header ++ 0 :: tail) name (q + name.length)) := by
  have hle := h.le_length hname
  have hpq := h.le
  have hoffset := (strstr_header hheader tail (by omega)).trans (firstAt_drop_eq_some h)
  rw [walkFrom_some hname.nonempty hoffset, Nat.add_sub_cancel' hpq]
  have hreads : boundaryReads (header ++ 0 :: tail) q = boundaryReads header q := by
    unfold boundaryReads
    rw [getD_append_zero tail (by omega : q - 1 ≤ header.length)]
  rw [hreads, separated_append tail (by omega : q ≤ header.length), getD_append_zero tail hle]
  simp only [separated_iff_pairStart]
  congr 1
  refine if_congr Iff.rfl ?_ rfl
  refine ite_congr rfl (fun heq => ?_) fun _ => rfl
  -- an equals sign is not the end of the header
  have hlt := ((getD_eq_iff_occursAt (by decide)).mp heq).le_length (by decide)
  unfold valueLength
  rw [ofBuffer_drop_append tail (by simpa using hlt),
    ofBuffer_eq_self fun h => hheader (List.mem_of_mem_drop h)]

end

/-! ## The bare names ahead -/

section

variable {header name : CString} {p q : ℕ}

/-- The bare names the scan steps over from `p` on. -/
def bareFrom (header name : CString) (p : ℕ) : List ℕ :=
  bareUpTo header name p (namePairs header name)

theorem mem_namePairs (hname : CookieName name) :
    q ∈ namePairs header name ↔ PairStart header q ∧ OccursAt name header q := by
  have hpos := List.length_pos_iff.mpr hname.nonempty
  unfold namePairs
  rw [List.mem_filter, List.mem_range, decide_eq_true_eq]
  refine ⟨fun h => h.2, fun h => ⟨?_, h⟩⟩
  have := h.2.le_length hname.nonempty
  omega

theorem namePairs_sorted (header name : CString) :
    (namePairs header name).Pairwise (· < ·) :=
  List.pairwise_lt_range.filter _

theorem bareUpTo_eq_nil {pairs : List ℕ} (h : ∀ q ∈ pairs, q < p) :
    bareUpTo header name p pairs = [] := by
  induction pairs with
  | nil => rfl
  | cons q rest ih =>
      unfold bareUpTo
      rw [if_pos (h q List.mem_cons_self)]
      exact ih fun q' hq' => h q' (List.mem_cons_of_mem q hq')

/-- Nothing happens between two positions without a pair between them. -/
theorem bareUpTo_skip {pairs : List ℕ} {p' : ℕ} (hle : p ≤ p')
    (h : ∀ q ∈ pairs, p ≤ q → p' ≤ q) :
    bareUpTo header name p pairs = bareUpTo header name p' pairs := by
  induction pairs with
  | nil => rfl
  | cons q rest ih =>
      have hrest := ih fun q' hq' => h q' (List.mem_cons_of_mem q hq')
      unfold bareUpTo
      by_cases hq : q < p
      · rw [if_pos hq, if_pos (by omega : q < p'), hrest]
      · have := h q List.mem_cons_self (by omega)
        rw [if_neg hq, if_neg (by omega : ¬q < p')]

theorem bareUpTo_first {pairs : List ℕ} (hname : name ≠ []) (hsorted : pairs.Pairwise (· < ·))
    (hq : q ∈ pairs) (hpq : p ≤ q) (h : ∀ q' ∈ pairs, p ≤ q' → q ≤ q') :
    bareUpTo header name p pairs =
      if header.getD (q + name.length) 0 = 61 then []
      else q :: bareUpTo header name (q + name.length + name.length) pairs := by
  have hpos := List.length_pos_iff.mpr hname
  induction pairs with
  | nil => cases hq
  | cons first rest ih =>
      obtain ⟨hfirst, hsorted'⟩ := List.pairwise_cons.mp hsorted
      rcases List.mem_cons.mp hq with rfl | hrest
      · -- behind `q` the list goes on as it is
        have hstep : ∀ p', q < p' → bareUpTo header name p' (q :: rest) =
            bareUpTo header name p' rest := by
          intro p' hp'
          conv_lhs => unfold bareUpTo
          rw [if_pos hp']
        conv_lhs => unfold bareUpTo
        rw [if_neg (by omega)]
        refine if_congr Iff.rfl rfl ?_
        rw [hstep _ (by omega)]
      · have hlt := hfirst q hrest
        have hbefore : first < p := by
          by_contra hge
          have := h first List.mem_cons_self (by omega)
          omega
        have hskip : ∀ p', p ≤ p' → bareUpTo header name p' (first :: rest) =
            bareUpTo header name p' rest := by
          intro p' hp'
          conv_lhs => unfold bareUpTo
          rw [if_pos (by omega)]
        rw [hskip p le_rfl, hskip _ (by omega)]
        exact ih hsorted' hrest fun q' hq' => h q' (List.mem_cons_of_mem first hq')

variable (hname : CookieName name)

include hname

theorem bareFrom_behind (h : ∀ i, p ≤ i → ¬OccursAt name header i) :
    bareFrom header name p = [] := by
  refine bareUpTo_eq_nil fun q hq => ?_
  by_contra hge
  exact h q (by omega) ((mem_namePairs hname).mp hq).2

theorem bareFrom_inner (h : FirstFrom header name p q) (hpair : ¬PairStart header q) :
    bareFrom header name p = bareFrom header name (q + name.length) := by
  have := h.le
  refine bareUpTo_skip (by omega) fun i hi hpi => ?_
  obtain ⟨hstart, hoccurs⟩ := (mem_namePairs hname).mp hi
  refine (h.le_of_occursAt hname hpi hoccurs).resolve_left ?_
  rintro rfl
  exact hpair hstart

theorem bareFrom_first (h : FirstFrom header name p q) (hpair : PairStart header q) :
    bareFrom header name p = if header.getD (q + name.length) 0 = 61 then []
      else q :: bareFrom header name (q + name.length + name.length) := by
  refine bareUpTo_first hname.nonempty (namePairs_sorted header name)
    ((mem_namePairs hname).mpr ⟨hpair, h.occurs⟩) h.le fun i hi hpi => ?_
  rcases h.le_of_occursAt hname hpi ((mem_namePairs hname).mp hi).2 with heq | hle
  · omega
  · omega

end

/-! ## The first named pair -/

/-- Where the first pair with the text `name=` begins, or the end of the header. -/
def namedOrEnd (header name : CString) : ℕ := (firstNamed header name).getD header.length

section

variable {header name : CString} {p q : ℕ}

theorem firstNamed_eq_some_iff (hname : CookieName name) : firstNamed header name = some q ↔
    (PairStart header q ∧ OccursAt name header q ∧ header.getD (q + name.length) 0 = 61) ∧
      ∀ i < q, PairStart header i → OccursAt name header i →
        header.getD (i + name.length) 0 ≠ 61 := by
  have hpos := List.length_pos_iff.mpr hname.nonempty
  unfold firstNamed
  rw [List.find?_range_eq_some]
  simp only [decide_eq_true_eq, Bool.not_eq_true', decide_eq_false_iff_not, List.mem_range,
    occursAt_named_iff, not_and]
  refine ⟨fun h => ⟨h.1, h.2.2⟩, fun h => ⟨h.1, ?_, h.2⟩⟩
  have := h.1.2.1.le_length hname.nonempty
  omega

theorem firstNamed_eq_none_iff (hname : CookieName name) : firstNamed header name = none ↔
    ∀ i, PairStart header i → OccursAt name header i →
      header.getD (i + name.length) 0 ≠ 61 := by
  have hpos := List.length_pos_iff.mpr hname.nonempty
  unfold firstNamed
  rw [List.find?_range_eq_none]
  simp only [Bool.not_eq_true', decide_eq_false_iff_not, occursAt_named_iff, not_and]
  refine ⟨fun h i hstart hoccurs => ?_, fun h i _ => h i⟩
  have := hoccurs.le_length hname.nonempty
  exact h i (by omega) hstart hoccurs

theorem namedOrEnd_le_length (hname : CookieName name) :
    namedOrEnd header name ≤ header.length := by
  unfold namedOrEnd
  cases hfirst : firstNamed header name with
  | none => exact le_rfl
  | some e =>
      have := ((firstNamed_eq_some_iff hname).mp hfirst).1.2.1.le_length hname.nonempty
      simp only [Option.getD_some]
      omega

theorem namedOrEnd_le (hname : CookieName name) (hpair : PairStart header q)
    (hoccurs : OccursAt name header q) (hnamed : header.getD (q + name.length) 0 = 61) :
    namedOrEnd header name ≤ q := by
  unfold namedOrEnd
  cases hfirst : firstNamed header name with
  | none => exact absurd hnamed ((firstNamed_eq_none_iff hname).mp hfirst q hpair hoccurs)
  | some e =>
      by_contra hlt
      exact ((firstNamed_eq_some_iff hname).mp hfirst).2 q (Nat.lt_of_not_le hlt) hpair hoccurs
        hnamed

/-- The first named pair is at one of the occurrences ahead. -/
theorem namedOrEnd_cases (hname : CookieName name) (h : FirstFrom header name p q)
    (hp : p ≤ namedOrEnd header name) :
    namedOrEnd header name = q ∧ firstNamed header name = some q ∧ PairStart header q ∧
        header.getD (q + name.length) 0 = 61 ∨
      q + name.length ≤ namedOrEnd header name := by
  unfold namedOrEnd at hp ⊢
  cases hfirst : firstNamed header name with
  | none => exact .inr (h.le_length hname)
  | some e =>
      rw [hfirst] at hp
      obtain ⟨⟨hstart, hoccurs, hnamed⟩, -⟩ := (firstNamed_eq_some_iff hname).mp hfirst
      rcases h.le_of_occursAt hname hp hoccurs with rfl | hle
      · exact .inl ⟨rfl, rfl, hstart, hnamed⟩
      · exact .inr hle

end

/-! ## The scan against the grammar, and inside the header -/

section

variable {header name : CString}

theorem mem_reads_walkFrom (hname : name ≠ []) (memory : List UInt8) (p : ℕ) :
    p ∈ (walkFrom memory name p).reads := by
  cases hfind : strstr name (ofBuffer (memory.drop p)) with
  | none => simp [walkFrom_none hfind]
  | some offset => simp [walkFrom_some hname hfind, CookieWalk.after]

theorem boundaryReads_le {q i : ℕ} (h : i ∈ boundaryReads header q) : i ≤ q := by
  unfold boundaryReads at h
  split at h
  · split at h
    · rcases List.mem_cons.mp h with rfl | h
      · omega
      · have := List.mem_singleton.mp h
        omega
    · have := List.mem_singleton.mp h
      omega
  · cases h

/-- From `p` on every read is inside exactly if every bare name that is stepped over
leaves two lengths of the name before the end of the header. -/
theorem walk_inside_iff (hheader : (0 : UInt8) ∉ header) (hname : CookieName name) :
    ∀ p ≤ header.length,
      ((∀ tail, ∀ i ∈ (walkFrom (header ++ 0 :: tail) name p).reads, i ≤ header.length) ↔
        ∀ b ∈ bareFrom header name p, b + name.length + name.length ≤ header.length) := by
  have hround : ∀ {p q : ℕ} {rest : List ℕ}, FirstFrom header name p q →
      ((∀ i ∈ p :: boundaryReads header q ++ rest, i ≤ header.length) ↔
        ∀ i ∈ rest, i ≤ header.length) := by
    intro p q rest h
    have hle := h.le_length hname
    have hpq := h.le
    refine ⟨fun hall i hi => hall i (List.mem_append_right _ hi), fun hrest i hi => ?_⟩
    rcases List.mem_append.mp hi with hi | hi
    · rcases List.mem_cons.mp hi with rfl | hi
      · omega
      · have := boundaryReads_le hi
        omega
    · exact hrest i hi
  refine scan_induction hname ?behind ?inner ?named ?bare
  case behind =>
    intro p hp hnone
    refine iff_of_true (fun tail i hi => ?_) ?_
    · rw [walkFrom_behind hheader tail hp hnone] at hi
      rwa [List.mem_singleton.mp hi]
    · rw [bareFrom_behind hname hnone]
      simp
  case inner =>
    intro p q hq hpair ih
    rw [bareFrom_inner hname hq hpair, ← ih]
    refine forall_congr' fun tail => ?_
    rw [walkFrom_first hheader hname tail hq, if_neg hpair]
    exact hround hq
  case named =>
    intro p q hq hpair hnamed
    have hlt := ((getD_eq_iff_occursAt (by decide)).mp hnamed).le_length (by decide)
    rw [bareFrom_first hname hq hpair, if_pos hnamed]
    refine iff_of_true (fun tail => ?_) (by simp)
    rw [walkFrom_first hheader hname tail hq, if_pos hpair, if_pos hnamed]
    refine (hround hq).mpr fun i hi => ?_
    simp only [List.mem_cons, List.not_mem_nil, or_false, List.length_singleton] at hi hlt
    omega
  case bare =>
    intro p q hq hpair hbare ih
    rw [bareFrom_first hname hq hpair, if_neg hbare]
    have hreads : ∀ tail, (∀ i ∈ (walkFrom (header ++ 0 :: tail) name p).reads,
        i ≤ header.length) ↔
          ∀ i ∈ (walkFrom (header ++ 0 :: tail) name (q + name.length + name.length)).reads,
            i ≤ header.length := by
      intro tail
      rw [walkFrom_first hheader hname tail hq, if_pos hpair, if_neg hbare]
      refine (hround hq).trans ?_
      have := hq.le_length hname
      simp only [CookieWalk.after, List.singleton_append, List.mem_cons, forall_eq_or_imp]
      exact and_iff_right this
    simp only [hreads, List.mem_cons, forall_eq_or_imp]
    by_cases hle : q + name.length + name.length ≤ header.length
    · rw [ih hle]
      exact (and_iff_right hle).symm
    · -- the next search starts behind the header
      refine iff_of_false (fun hall => hle ?_) fun hall => hle hall.1
      exact hall [] _ (mem_reads_walkFrom hname.nonempty _ _)

/-- Behind the header the scan reads what is there, for example another cookie. -/
theorem exists_tail_value (hname : CookieName name) {p : ℕ} (hp : header.length < p) :
    ∃ tail, (walkFrom (header ++ 0 :: tail) name p).value ≠ none := by
  have hsep : cstr "; " = [59, 32] := by decide
  refine ⟨List.replicate (p - header.length - 1) 0 ++ ([59, 32] ++ (name ++ [61])), ?_⟩
  have hdrop : (header ++ 0 :: (List.replicate (p - header.length - 1) 0 ++
      ([59, 32] ++ (name ++ [61])))).drop p = [59, 32] ++ (name ++ [61]) := by
    have hlen : (header ++ 0 :: List.replicate (p - header.length - 1) 0).length = p := by
      simp
      omega
    rw [← List.cons_append, ← List.append_assoc, List.drop_left' hlen]
  generalize header ++ 0 :: (List.replicate (p - header.length - 1) 0 ++
    ([59, 32] ++ (name ++ [61]))) = memory at hdrop ⊢
  have hcookie : OccursAt ([59, 32] ++ (name ++ [61])) memory p := hdrop ▸ List.prefix_refl _
  rw [occursAt_append, occursAt_append] at hcookie
  obtain ⟨hstart, hoccurs, hnamed⟩ := hcookie
  have hfind : strstr name (ofBuffer (memory.drop p)) = some 2 := by
    have htext : (0 : UInt8) ∉ [59, 32] ++ (name ++ [61]) := by
      simpa using hname.text
    rw [hdrop, ofBuffer_eq_self htext, strstr_eq_firstAt, firstAt_eq_some_iff]
    refine ⟨List.prefix_append name [61], fun j hj hoccurs => ?_⟩
    -- the separator has no character of the name
    obtain ⟨c, rest, rfl⟩ := List.exists_cons_of_ne_nil hname.nonempty
    have hc : c ≠ 59 ∧ c ≠ 32 :=
      ⟨fun h => hname.separator (by simp [h]), fun h => hname.space (by simp [h])⟩
    rcases j with _ | _ | j
    · exact hc.1 (List.cons_prefix_cons.mp hoccurs).1
    · exact hc.2 (List.cons_prefix_cons.mp hoccurs).1
    · omega
  have hpair : separated memory (p + 2) = true :=
    separated_iff_pairStart.mpr (.inr ⟨by omega, hsep ▸ hstart⟩)
  have hequals : memory.getD (p + 2 + name.length) 0 = 61 :=
    (getD_eq_iff_occursAt (by decide)).mpr hnamed
  rw [walkFrom_some hname.nonempty hfind, if_pos hpair, if_pos hequals]
  simp [CookieWalk.after]

/-- From `p` on, with no named pair before, the scan finds the value of the grammar
exactly if every bare name that is stepped over leaves two lengths of the
name before the first named pair, or before the end if there is none. -/
theorem walk_value_iff (hheader : (0 : UInt8) ∉ header) (hname : CookieName name) :
    ∀ p ≤ header.length, p ≤ namedOrEnd header name →
      ((∀ tail, (walkFrom (header ++ 0 :: tail) name p).value = cookieGrammar header name) ↔
        ∀ b ∈ bareFrom header name p,
          b + name.length + name.length ≤ namedOrEnd header name) := by
  refine scan_induction hname ?behind ?inner ?named ?bare
  case behind =>
    intro p hp hnone hend
    have hno : firstNamed header name = none := by
      by_contra hsome
      obtain ⟨e, he⟩ := Option.ne_none_iff_exists'.mp hsome
      unfold namedOrEnd at hend
      rw [he] at hend
      exact hnone e hend ((firstNamed_eq_some_iff hname).mp he).1.2.1
    refine iff_of_true (fun tail => ?_) ?_
    · rw [walkFrom_behind hheader tail hp hnone]
      unfold cookieGrammar
      rw [hno]
      rfl
    · rw [bareFrom_behind hname hnone]
      simp
  case inner =>
    intro p q hq hpair ih hend
    have hle : q + name.length ≤ namedOrEnd header name :=
      (namedOrEnd_cases hname hq hend).resolve_left fun h => hpair h.2.2.1
    rw [bareFrom_inner hname hq hpair, ← ih hle]
    refine forall_congr' fun tail => ?_
    rw [walkFrom_first hheader hname tail hq, if_neg hpair]
    rfl
  case named =>
    intro p q hq hpair hnamed hend
    have hpos := List.length_pos_iff.mpr hname.nonempty
    have hfirst : firstNamed header name = some q := by
      rcases namedOrEnd_cases hname hq hend with h | hle
      · exact h.2.1
      · have := namedOrEnd_le hname hpair hq.occurs hnamed
        omega
    rw [bareFrom_first hname hq hpair, if_pos hnamed]
    refine iff_of_true (fun tail => ?_) (by simp)
    rw [walkFrom_first hheader hname tail hq, if_pos hpair, if_pos hnamed]
    unfold cookieGrammar
    rw [hfirst]
    rfl
  case bare =>
    intro p q hq hpair hbare ih hend
    have hle : q + name.length ≤ namedOrEnd header name :=
      (namedOrEnd_cases hname hq hend).resolve_left fun h => hbare h.2.2.2
    have hvalue : ∀ tail, (walkFrom (header ++ 0 :: tail) name p).value =
        (walkFrom (header ++ 0 :: tail) name (q + name.length + name.length)).value := by
      intro tail
      rw [walkFrom_first hheader hname tail hq, if_pos hpair, if_neg hbare]
      rfl
    simp only [hvalue]
    rw [bareFrom_first hname hq hpair, if_neg hbare]
    simp only [List.mem_cons, forall_eq_or_imp]
    by_cases hroom : q + name.length + name.length ≤ namedOrEnd header name
    · rw [ih (hroom.trans (namedOrEnd_le_length hname)) hroom]
      exact (and_iff_right hroom).symm
    · -- the named pair, or the end of the header, is skipped
      refine iff_of_false (fun hall => ?_) fun hall => hroom hall.1
      unfold cookieGrammar namedOrEnd at *
      cases hfirst : firstNamed header name with
      | none =>
          rw [hfirst] at hall hroom
          obtain ⟨tail, htail⟩ := exists_tail_value hname (Nat.lt_of_not_le hroom)
          exact htail (hall tail)
      | some e =>
          rw [hfirst] at hall hroom
          have := walkFrom_value_le hname.nonempty (hall [])
          simp only [Option.getD_some] at hroom
          omega

/-- `scanInside` says the same of the header as the reads do. -/
theorem scanInside_eq_true_iff (hheader : (0 : UInt8) ∉ header) (hname : CookieName name) :
    ∀ p ≤ header.length, ∀ fuel, header.length + 1 < fuel + p →
      (scanInside header name fuel p = true ↔
        ∀ b ∈ bareFrom header name p, b + name.length + name.length ≤ header.length) := by
  -- without a NUL inside, `strstr` reads the rest of the header
  have hsearch : ∀ p, strstr name (ofBuffer (header.drop p)) = firstAt name (header.drop p) := by
    intro p
    rw [ofBuffer_eq_self fun h => hheader (List.mem_of_mem_drop h), strstr_eq_firstAt]
  have hpos := List.length_pos_iff.mpr hname.nonempty
  -- one round of the scan
  have hround : ∀ {p q fuel : ℕ}, p ≤ header.length → FirstFrom header name p q →
      scanInside header name (fuel + 1) p =
        if PairStart header q then
          if header.getD (q + name.length) 0 = 61 then true
          else scanInside header name fuel (q + name.length + name.length)
        else scanInside header name fuel (q + name.length) := by
    intro p q fuel hp hq
    conv_lhs => unfold scanInside
    rw [hsearch, firstAt_drop_eq_some hq]
    dsimp only
    simp only [Nat.add_sub_cancel' hq.le, hp, decide_true, Bool.true_and, separated_iff_pairStart]
  refine scan_induction hname ?behind ?inner ?named ?bare
  case behind =>
    -- nothing is found, and no bare name is left
    intro p hp hnone fuel hfuel
    have hfind : firstAt name (header.drop p) = none := firstAt_eq_none_iff.mpr fun i hi =>
      hnone (p + i) (Nat.le_add_right p i) (occursAt_drop.mp hi)
    obtain ⟨fuel, rfl⟩ := Nat.exists_eq_succ_of_ne_zero (by omega : fuel ≠ 0)
    refine iff_of_true ?_ ?_
    · unfold scanInside
      rw [hsearch, hfind]
      simpa using hp
    · rw [bareFrom_behind hname hnone]
      simp
  case inner =>
    intro p q hq hpair ih fuel hfuel
    have hle := hq.le_length hname
    have hpq := hq.le
    obtain ⟨fuel, rfl⟩ := Nat.exists_eq_succ_of_ne_zero (by omega : fuel ≠ 0)
    rw [hround (by omega) hq, if_neg hpair, bareFrom_inner hname hq hpair]
    exact ih fuel (by omega)
  case named =>
    -- the name has its `=`: the scan ends here, inside
    intro p q hq hpair hnamed fuel hfuel
    have hle := hq.le_length hname
    have hpq := hq.le
    obtain ⟨fuel, rfl⟩ := Nat.exists_eq_succ_of_ne_zero (by omega : fuel ≠ 0)
    rw [hround (by omega) hq, if_pos hpair, if_pos hnamed, bareFrom_first hname hq hpair,
      if_pos hnamed]
    simp
  case bare =>
    -- the jump of two lengths lands inside exactly if there is room for it
    intro p q hq hpair hbare ih fuel hfuel
    have hle := hq.le_length hname
    have hpq := hq.le
    obtain ⟨fuel, rfl⟩ := Nat.exists_eq_succ_of_ne_zero (by omega : fuel ≠ 0)
    rw [hround (by omega) hq, if_pos hpair, if_neg hbare, bareFrom_first hname hq hpair,
      if_neg hbare]
    simp only [List.mem_cons, forall_eq_or_imp]
    by_cases hroom : q + name.length + name.length ≤ header.length
    · rw [ih hroom fuel (by omega)]
      exact (and_iff_right hroom).symm
    · refine iff_of_false ?_ fun hall => hroom hall.1
      obtain ⟨fuel, rfl⟩ := Nat.exists_eq_succ_of_ne_zero (by omega : fuel ≠ 0)
      unfold scanInside
      simp [hroom]

end

/-- A request whose scan stays inside is one whose bare `session` names leave room. -/
theorem Request.scanInside_iff {req : Request}
    (htext : ∀ header ∈ req.cookie, (0 : UInt8) ∉ header) :
    req.ScanInside ↔
      ∀ header ∈ req.cookie, ∀ b ∈ passedBare header sessionName, b + 14 ≤ header.length := by
  refine forall_congr' fun header => imp_congr_right fun hcookie => ?_
  exact scanInside_eq_true_iff (htext header hcookie) sessionName_cookieName 0 (Nat.zero_le _) _
    (by omega)

/-- The scan for the session cookie returns what the grammar says, whatever lies
behind the header in memory, exactly if every bare `session` it steps over starts
at least fourteen bytes before the first `session=`, or before the end of the
header if there is none. -/
theorem cookie_value_iff_grammar (header : CText) :
    (∀ heapTail, (cookieValueWalk heapTail header sessionName).value =
        cookieGrammar header sessionName) ↔
      ∀ b ∈ passedBare header sessionName, b + 14 ≤ namedOrEnd header sessionName :=
  walk_value_iff header.2 sessionName_cookieName 0 (Nat.zero_le _) (Nat.zero_le _)

/-- `session; session=tok`: the cookie is there and is not found. -/
theorem cookie_value_misses_cookie :
    ¬∀ (header : CText) (heapTail : List UInt8),
      (cookieValueWalk heapTail header sessionName).value = cookieGrammar header sessionName :=
  fun hall => absurd (hall ⟨cstr "session; session=tok", by decide⟩ []) (by decide +kernel)

/-- The scan for the session cookie looks at nothing behind the header exactly if
every bare `session` it steps over starts at least fourteen bytes before the end. -/
theorem cookie_scan_inside_iff (header : CText) :
    (∀ heapTail, ∀ i ∈ (cookieValueWalk heapTail header sessionName).reads,
        i ≤ header.val.length) ↔
      ∀ b ∈ passedBare header sessionName, b + 14 ≤ header.val.length :=
  walk_inside_iff header.2 sessionName_cookieName 0 (Nat.zero_le _)

/-- `session`: the next search starts seven bytes behind the header. -/
theorem cookie_scan_leaves_header :
    ¬∀ (header : CText) (heapTail : List UInt8),
      ∀ i ∈ (cookieValueWalk heapTail header sessionName).reads, i ≤ header.val.length :=
  fun hall => absurd (hall ⟨cstr "session", by decide⟩ [] 14 (by decide +kernel)) (by decide)

end WebTerminal
