import WebTerminal.Json.Printer

/-!
# What the printer writes

Every value is printed as `Tree.write` writes it, inside the buffer, or not at all, and not at
all only when the last request for memory was refused or the text is as long as an `int` can
count (`printValue_yields`).  Between two pieces the buffer `Shows` what was printed so far; behind
a piece it `Ended` with a NUL that `update_offset` finds, because what is printed holds none.
-/

set_option autoImplicit false

namespace WebTerminal

open JsonText (quoted escape escapeByte commas itemTexts memberTexts)
open Requesting (Yields Granted Refused yields_pure yields_failed yields_request yields_of_returns)

/-! ## The buffer -/

/-- What was printed stands before the offset, and there is room behind it. -/
structure Shows (p : PrintBuffer) (text : List UInt8) : Prop where
  offset : p.offset = text.length
  before : p.memory.take text.length = text
  room : text.length < p.memory.length

/-- What was printed, with a NUL behind it and the offset somewhere in it. -/
structure Ended (p : PrintBuffer) (text : List UInt8) : Prop where
  offset : p.offset ≤ text.length
  before : p.memory.take (text.length + 1) = text ++ [0]

/-- A text of this length, and what goes with it, is too long to be printed. -/
def TooLong (bound : ℕ) : Prop := intMax < bound + 2

variable {heap : Heap} {bound : ℕ} {p : PrintBuffer} {text bytes : List UInt8}

theorem take_write {memory : List UInt8} {i : ℕ} (h : i ≤ memory.length) :
    (ByteMemory.write memory i bytes).take (i + bytes.length) = memory.take i ++ bytes := by
  have hlength : (memory.take i ++ bytes).length = i + bytes.length := by
    rw [List.length_append, List.length_take, Nat.min_eq_left h]
  unfold ByteMemory.write
  rw [← hlength, List.take_left]

theorem reallocate_yields (h : Shows p text) {size : ℕ} (hsize : p.memory.length ≤ size) :
    Yields heap.gives (p.reallocate heap size) (TooLong bound) fun q =>
      Shows q text ∧ q.memory.length = size := by
  refine yields_request.bind fun k _ => yields_pure ?_
  have hroom := h.room
  have hlength : (p.grown (heap.fresh k) size).memory.length = size := by
    simp only [PrintBuffer.grown, List.length_append, List.length_map, List.length_range']
    omega
  refine ⟨⟨h.offset, ?_, by omega⟩, hlength⟩
  show (p.memory ++ _).take text.length = text
  rw [List.take_append_of_le_length (by omega), h.before]

/-- `ensure` makes room for what is needed and a byte more. -/
theorem ensure_yields (h : Shows p text) {needed : ℕ} (hneeded : text.length + needed ≤ bound + 1) :
    Yields heap.gives (p.ensure heap needed) (TooLong bound) fun q =>
      Shows q text ∧ text.length + needed < q.memory.length := by
  have hoffset := h.offset
  have hroom := h.room
  unfold PrintBuffer.ensure
  rw [if_neg (by omega)]
  split
  · exact yields_failed (show intMax < bound + 2 by omega)
  · dsimp only
    split
    · exact yields_pure ⟨h, by omega⟩
    · split
      · split
        · refine (reallocate_yields h (by omega)).mono ?_
          rintro q ⟨hq, hlength⟩
          exact ⟨hq, by omega⟩
        · exact yields_failed (show intMax < bound + 2 by omega)
      · refine (reallocate_yields h (by omega)).mono ?_
        rintro q ⟨hq, hlength⟩
        exact ⟨hq, by omega⟩

/-- Bytes put at the offset. -/
theorem put_eq (bytes : List UInt8) (h : Shows p text)
    (hroom : text.length + bytes.length ≤ p.memory.length) :
    ∃ q, p.put bytes = .done q ∧ q.offset = text.length ∧ q.memory.length = p.memory.length ∧
      q.memory.take (text.length + bytes.length) = text ++ bytes := by
  refine ⟨⟨ByteMemory.write p.memory text.length bytes, text.length⟩, ?_, rfl, ?_, ?_⟩
  · unfold PrintBuffer.put
    rw [h.offset, Checked.store_of_le hroom]
    rfl
  · exact ByteMemory.length_write hroom
  · dsimp only
    rw [take_write (by omega), h.before]

/-- A piece and its NUL. -/
theorem put_ended (h : Shows p text) (hroom : text.length + bytes.length < p.memory.length) :
    (p.put (bytes ++ [0])).Returns fun q =>
      Ended q (text ++ bytes) ∧ q.offset = text.length ∧ q.memory.length = p.memory.length := by
  obtain ⟨q, hq, hoffset, hlength, htake⟩ := put_eq (bytes ++ [0]) h (by simp; omega)
  refine ⟨q, hq, ⟨?_, ?_⟩, hoffset, hlength⟩
  · rw [hoffset, List.length_append]
    omega
  · rw [List.length_append, List.append_assoc, Nat.add_assoc]
    simpa using htake

/-- A piece the offset moves behind. -/
theorem put_shows (bytes : List UInt8) (h : Shows p text)
    (hroom : text.length + bytes.length < p.memory.length) :
    (p.put bytes).Returns fun q => Shows (q.advance bytes.length) (text ++ bytes) := by
  obtain ⟨q, hq, hoffset, hlength, htake⟩ := put_eq bytes h (by omega)
  refine ⟨q, hq, ?_, ?_, ?_⟩
  · show q.offset + bytes.length = _
    rw [hoffset, List.length_append]
  · rw [List.length_append]
    exact htake
  · show _ < q.memory.length
    rw [List.length_append, hlength]
    exact hroom

/-- A piece with its NUL, which the offset stays in front of. -/
theorem put_zero_shows (bytes : List UInt8) (h : Shows p text)
    (hroom : text.length + bytes.length < p.memory.length) :
    (p.put (bytes ++ [0])).Returns fun q => Shows (q.advance bytes.length) (text ++ bytes) := by
  refine (put_ended h hroom).mono ?_
  rintro q ⟨hq, hoffset, hlength⟩
  refine ⟨?_, ?_, ?_⟩
  · show q.offset + bytes.length = _
    rw [hoffset, List.length_append]
  · show q.memory.take _ = _
    have htake := congrArg (List.take (text ++ bytes).length) hq.before
    rwa [List.take_take, Nat.min_eq_left (Nat.le_succ _), List.take_left] at htake
  · show _ < q.memory.length
    rw [List.length_append, hlength]
    exact hroom

theorem strlen_append (text rest : List UInt8) (h : (0 : UInt8) ∉ text) :
    PrintBuffer.strlen (text ++ 0 :: rest) = .done text.length := by
  induction text with
  | nil => rfl
  | cons c text ih =>
      obtain ⟨hc, htext⟩ := List.ne_and_not_mem_of_not_mem_cons h
      rw [List.cons_append, PrintBuffer.strlen, if_neg hc.symm, ih htext]
      rfl

/-- `update_offset` finds the NUL behind what was printed. -/
theorem updateOffset_ended (h : Ended p text) (htext : (0 : UInt8) ∉ text) :
    p.updateOffset.Returns fun q => Shows q text ∧ q.memory = p.memory := by
  have hbefore := h.before
  have hlength := congrArg List.length hbefore
  rw [List.length_take, List.length_append, List.length_singleton] at hlength
  have hmemory : p.memory = text ++ 0 :: p.memory.drop (text.length + 1) := by
    rw [← List.take_append_drop (text.length + 1) p.memory, hbefore]
    simp
  have hdrop : p.memory.drop p.offset =
      text.drop p.offset ++ 0 :: p.memory.drop (text.length + 1) := by
    rw [hmemory, List.drop_append_of_le_length h.offset, ← hmemory]
  have hstrlen := strlen_append (text.drop p.offset) (p.memory.drop (text.length + 1))
    fun hmem => htext (List.mem_of_mem_drop hmem)
  unfold PrintBuffer.updateOffset
  rw [hdrop, hstrlen, Checked.done_bind]
  refine ⟨_, rfl, ⟨?_, ?_, ?_⟩, rfl⟩
  · have hoffset := h.offset
    show p.offset + (text.drop p.offset).length = text.length
    rw [List.length_drop]
    omega
  · show p.memory.take text.length = text
    rw [hmemory, List.take_left]
  · show text.length < p.memory.length
    omega

/-! ## Strings -/

/-- What is true of the 256 bytes is true of every byte. -/
theorem forall_byte {P : UInt8 → Prop} (h : ∀ k : Fin 256, P (UInt8.ofNat k.val)) (c : UInt8) :
    P c := by
  have hc := h ⟨c.toNat, c.toNat_lt⟩
  rwa [UInt8.ofNat_toNat] at hc

theorem length_escapeByte : ∀ c : UInt8, (escapeByte c).length = escapeCharacter c + 1 :=
  forall_byte (by decide +kernel)

/-- How the loop writes one byte. -/
theorem escapeByte_eq : ∀ c : UInt8, escapeByte c =
    if 31 < c ∧ c ≠ 34 ∧ c ≠ 92 then [c]
    else match printLetter c with
      | some d => [92, d]
      | none => 92 :: (unicodeText c).take 5 :=
  forall_byte (by decide +kernel)

theorem length_escape (input : CString) :
    (escape input).length = input.length + escapeCharacters input := by
  induction input with
  | nil => rfl
  | cons c input ih =>
      have hc : escapeCharacters (c :: input) = escapeCharacter c + escapeCharacters input := by
        unfold escapeCharacters
        rw [List.map_cons, List.sum_cons]
      rw [JsonText.escape_cons, List.length_append, length_escapeByte, ih, hc, List.length_cons]
      omega

/-- Without additional characters the string is copied. -/
theorem escape_of_escapeCharacters {input : CString} (h : escapeCharacters input = 0) :
    escape input = input := by
  have hplain : ∀ c, escapeCharacter c = 0 → escapeByte c = [c] :=
    forall_byte (by decide +kernel)
  induction input with
  | nil => rfl
  | cons c input ih =>
      have hsum : escapeCharacter c + escapeCharacters input = 0 := by
        rw [← h]
        unfold escapeCharacters
        rw [List.map_cons, List.sum_cons]
      rw [JsonText.escape_cons, hplain c (by omega), ih (by omega)]
      rfl

theorem store_take (bytes : List UInt8) {memory pre : List UInt8} {i : ℕ}
    (hpre : memory.take i = pre) (hroom : i + bytes.length ≤ memory.length) :
    ∃ memory', Checked.store memory i bytes = .done memory' ∧
      memory'.length = memory.length ∧ memory'.take (i + bytes.length) = pre ++ bytes := by
  refine ⟨ByteMemory.write memory i bytes, Checked.store_of_le hroom,
    ByteMemory.length_write hroom, ?_⟩
  rw [take_write (by omega), hpre]

/-- The loop that escapes leaves the escaped text behind what was there.  It needs a byte more
than the text, for the NUL of `sprintf`. -/
theorem copyEscaped_eq (input : CString) : ∀ {memory pre : List UInt8} {i : ℕ},
    memory.take i = pre → i + (escape input).length < memory.length →
      ∃ memory', copyEscaped input memory i = .done (memory', i + (escape input).length) ∧
        memory'.length = memory.length ∧
        memory'.take (i + (escape input).length) = pre ++ escape input := by
  induction input with
  | nil =>
      intro memory pre i hpre hroom
      exact ⟨memory, rfl, rfl, by simpa using hpre⟩
  | cons c input ih =>
      intro memory pre i hpre hroom
      have hescape := escapeByte_eq c
      rw [JsonText.escape_cons, List.length_append] at hroom
      unfold copyEscaped
      rw [JsonText.escape_cons, List.length_append]
      split
      next hplain =>
        rw [if_pos hplain] at hescape
        rw [hescape] at hroom ⊢
        rw [List.length_singleton] at hroom
        obtain ⟨m₁, h₁, hlength₁, htake₁⟩ := store_take [c] hpre (by simp; omega)
        obtain ⟨m₂, h₂, hlength₂, htake₂⟩ := ih htake₁ (by simp; omega)
        refine ⟨m₂, ?_, hlength₂.trans hlength₁, ?_⟩
        · rw [h₁, Checked.done_bind]
          rw [List.length_singleton] at h₂ ⊢
          rw [h₂, Nat.add_assoc]
        · rw [List.length_singleton, Nat.add_assoc] at htake₂
          rw [List.length_singleton, htake₂, List.append_assoc]
      next hescaped =>
        rw [if_neg hescaped] at hescape
        split
        next d hd =>
          rw [hd] at hescape
          dsimp only at hescape
          rw [hescape] at hroom ⊢
          simp only [List.length_cons, List.length_nil] at hroom
          obtain ⟨m₁, h₁, hlength₁, htake₁⟩ := store_take [92] hpre (by simp; omega)
          rw [List.length_singleton] at htake₁
          obtain ⟨m₂, h₂, hlength₂, htake₂⟩ := store_take [d] htake₁ (by simp; omega)
          rw [List.length_singleton] at htake₂
          obtain ⟨m₃, h₃, hlength₃, htake₃⟩ := ih htake₂ (by omega)
          have hend : i + ([92, d].length + (escape input).length) =
              i + 1 + 1 + (escape input).length := by
            simp only [List.length_cons, List.length_nil]
            omega
          refine ⟨m₃, ?_, by omega, ?_⟩
          · rw [h₁, Checked.done_bind, h₂, Checked.done_bind, h₃, hend]
          · rw [hend, htake₃]
            simp
        next hnone =>
          rw [hnone] at hescape
          dsimp only at hescape
          have hfive : ((unicodeText c).take 5).length = 5 := rfl
          have hsix : unicodeText c = (unicodeText c).take 5 ++ [0] := rfl
          rw [hescape] at hroom ⊢
          rw [List.length_cons, hfive] at hroom
          obtain ⟨m₁, h₁, hlength₁, htake₁⟩ := store_take [92] hpre (by simp; omega)
          rw [List.length_singleton] at htake₁
          obtain ⟨m₂, h₂, hlength₂, htake₂⟩ := store_take (unicodeText c) htake₁
            (by rw [hsix, List.length_append, hfive]; simp; omega)
          -- the NUL of `sprintf` is written over
          have htake₂' : m₂.take (i + 6) = pre ++ [92] ++ (unicodeText c).take 5 := by
            have hle :
                m₂.take (i + 6) = (m₂.take (i + 1 + (unicodeText c).length)).take (i + 6) := by
              rw [List.take_take, Nat.min_eq_left]
              show i + 6 ≤ i + 1 + 6
              omega
            have hpre' : pre.length = i := by
              rw [← hpre, List.length_take]
              omega
            rw [hle, htake₂, hsix, ← List.append_assoc]
            refine List.take_left' ?_
            rw [List.length_append, List.length_append, hfive, hpre']
            rfl
          obtain ⟨m₃, h₃, hlength₃, htake₃⟩ := ih htake₂' (by omega)
          have hend : i + ((92 :: (unicodeText c).take 5).length + (escape input).length) =
              i + 6 + (escape input).length := by
            rw [List.length_cons, hfive]
            omega
          refine ⟨m₃, ?_, by omega, ?_⟩
          · rw [h₁, Checked.done_bind, h₂, Checked.done_bind, h₃, hend]
          · rw [hend, htake₃]
            simp

/-- `print_string_ptr` -/
theorem printStringPtr_yields {input : CString} (h : Shows p text)
    (hbound : text.length + (quoted (escape input)).length ≤ bound) :
    Yields heap.gives (printStringPtr heap input p) (TooLong bound) fun q =>
      Ended q (text ++ quoted (escape input)) := by
  have hlength := length_escape input
  rw [JsonText.length_quoted] at hbound
  unfold printStringPtr
  refine (ensure_yields h (by omega)).bind ?_
  rintro q ⟨hq, hroom⟩
  split
  next hzero =>
    -- nothing to escape: the bytes are copied as they are
    have hescape := escape_of_escapeCharacters hzero
    have hput : 34 :: (input ++ [34, 0]) = quoted (escape input) ++ [0] := by
      simp [quoted, hescape]
    rw [hput]
    refine yields_of_returns ((put_ended hq ?_).mono fun r hr => hr.1)
    rw [JsonText.length_quoted]
    omega
  next =>
    -- the quote, the escaped bytes behind it, the other quote and the NUL
    obtain ⟨r, hr, hoffset, hsize, htake⟩ := put_eq [34] hq (by simp; omega)
    rw [List.length_singleton] at htake
    obtain ⟨m₁, h₁, hlength₁, htake₁⟩ := copyEscaped_eq input htake (by omega)
    obtain ⟨m₂, h₂, hlength₂, htake₂⟩ := store_take [34, 0] htake₁ (by
      simp only [List.length_cons, List.length_nil]
      omega)
    have hlast : text.length + (input.length + escapeCharacters input) + 1 =
        text.length + 1 + (escape input).length := by omega
    rw [hr, Requesting.done_bind, hoffset, h₁, Requesting.done_bind]
    dsimp only
    rw [hlast, h₂, Requesting.done_bind]
    refine yields_pure ⟨?_, ?_⟩
    · show text.length ≤ _
      rw [List.length_append]
      omega
    · show m₂.take _ = _
      have hend : (text ++ quoted (escape input)).length + 1 =
          text.length + 1 + (escape input).length + [34, (0 : UInt8)].length := by
        rw [List.length_append, JsonText.length_quoted]
        simp only [List.length_cons, List.length_nil]
        omega
      rw [hend, htake₂]
      simp [quoted]

/-! ## Values -/

theorem printWord_yields {word : CString} (h : Shows p text)
    (hbound : text.length + word.length ≤ bound) :
    Yields heap.gives (printWord heap word p) (TooLong bound) fun q => Ended q (text ++ word) := by
  unfold printWord
  refine (ensure_yields h (by omega)).bind ?_
  rintro q ⟨hq, hroom⟩
  exact yields_of_returns ((put_ended hq (by omega)).mono fun r hr => hr.1)

theorem printClose_yields {close : UInt8} (h : Shows p text) (hbound : text.length + 1 ≤ bound) :
    Yields heap.gives (printClose heap close p) (TooLong bound) fun q =>
      Ended q (text ++ [close]) := by
  unfold printClose
  refine (ensure_yields h (by omega)).bind ?_
  rintro q ⟨hq, hroom⟩
  have hput : [close, 0] = [close] ++ [0] := rfl
  rw [hput]
  exact yields_of_returns ((put_ended hq (by simp; omega)).mono fun r hr => hr.1)

variable {lib : DoubleText}

/-- What `print_number` puts into its buffer of 26 bytes fits there. -/
theorem length_print_le (lib : DoubleText) (d : Double) : (lib.print d).length ≤ 25 := by
  unfold DoubleText.print
  split
  · decide
  · split
    · have hdigits : (JsonText.digits (lib.valueint d).toInt.natAbs).length ≤ 10 := by
        unfold JsonText.digits
        rw [List.length_map]
        have hlow := (lib.valueint d).le_toInt
        have hhigh := (lib.valueint d).toInt_lt
        refine Nat.toDigits_length 10 _ 10 (by decide) ?_
        omega
      unfold decimal
      split
      · rw [List.length_cons]
        omega
      · omega
    · split
      · exact Nat.le_succ_of_le (lib.length_g15 d)
      · exact Nat.le_succ_of_le (lib.length_g17 d)

/-- A number is printed without a NUL. -/
theorem zero_notMem_print (lib : DoubleText) (d : Double) : (0 : UInt8) ∉ lib.print d := by
  have hdigits : ∀ n, (0 : UInt8) ∉ JsonText.digits n := by
    intro n hmem
    have := JsonText.digits_digit 0 hmem
    cases this
  unfold DoubleText.print
  split
  · decide
  · split
    · unfold decimal
      split
      · simp [hdigits]
      · exact hdigits _
    · split
      · exact (lib.g15 d).2
      · exact (lib.g17 d).2

theorem printNumber_yields {d : Double} (h : Shows p text)
    (hbound : text.length + (lib.print d).length ≤ bound) :
    Yields heap.gives (printNumber heap lib d p) (TooLong bound) fun q =>
      Ended q (text ++ lib.print d) := by
  have hlength := length_print_le lib d
  unfold printNumber
  dsimp only
  rw [if_neg (by omega)]
  refine (ensure_yields h (by omega)).bind ?_
  rintro q ⟨hq, hroom⟩
  refine (yields_of_returns (put_ended hq (by omega))).bind ?_
  rintro r ⟨hr, hoffset, -⟩
  refine yields_pure ⟨?_, hr.before⟩
  show r.offset + _ ≤ _
  rw [hoffset, List.length_append]

/-- The text of a value. -/
def render (lib : DoubleText) (v : CJson) : CString := (v.tree lib.print).write

/-- The texts of the items of an array, and of the members of an object. -/
def renderItems (lib : DoubleText) (items : List CJson) : List CString :=
  itemTexts (CJson.treeItems lib.print items)

def renderMembers (lib : DoubleText) (members : List (CString × CJson)) : List CString :=
  memberTexts (CJson.treeMembers lib.print members)

theorem renderItems_cons (v : CJson) (vs : List CJson) :
    renderItems lib (v :: vs) = render lib v :: renderItems lib vs := rfl

theorem renderMembers_cons (m : CString × CJson) (ms : List (CString × CJson)) :
    renderMembers lib (m :: ms) =
      (quoted (escape m.1) ++ 58 :: render lib m.2) :: renderMembers lib ms := rfl

theorem zero_notMem_commas {texts : List CString} (h : ∀ t ∈ texts, (0 : UInt8) ∉ t) :
    (0 : UInt8) ∉ commas texts := by
  induction texts with
  | nil => exact List.not_mem_nil
  | cons t texts ih =>
      have hrest := ih fun t' ht' => h t' (List.mem_cons_of_mem _ ht')
      have ht := h t List.mem_cons_self
      cases texts with
      | nil => exact ht
      | cons t' texts =>
          rw [commas, List.mem_append, List.mem_cons, not_or, not_or]
          exact ⟨ht, by decide, hrest⟩

/-- What is printed holds no NUL. -/
theorem zero_notMem_render (lib : DoubleText) (v : CJson) : (0 : UInt8) ∉ render lib v := by
  induction v using CJson.induct with
  | null => exact (by decide : (0 : UInt8) ∉ JsonText.nullText)
  | bool value =>
      cases value with
      | false => exact (by decide : (0 : UInt8) ∉ JsonText.falseText)
      | true => exact (by decide : (0 : UInt8) ∉ JsonText.trueText)
  | number d => exact zero_notMem_print lib d
  | string valuestring => exact JsonText.zero_notMem_quoted valuestring
  | array items ih =>
      have hitems : ∀ t ∈ renderItems lib items, (0 : UInt8) ∉ t := by
        induction items with
        | nil => intro t ht; cases ht
        | cons v vs ihs =>
            rw [renderItems_cons, List.forall_mem_cons]
            exact ⟨ih v List.mem_cons_self, ihs fun v' hv' => ih v' (List.mem_cons_of_mem _ hv')⟩
      show (0 : UInt8) ∉ 91 :: (commas (renderItems lib items) ++ [93])
      simp [zero_notMem_commas hitems]
  | object members ih =>
      have hmembers : ∀ t ∈ renderMembers lib members, (0 : UInt8) ∉ t := by
        induction members with
        | nil => intro t ht; cases ht
        | cons m ms ihs =>
            rw [renderMembers_cons, List.forall_mem_cons]
            refine ⟨?_, ihs fun m' hm' => ih m' (List.mem_cons_of_mem _ hm')⟩
            have hname := JsonText.zero_notMem_quoted m.1
            have hvalue := ih m List.mem_cons_self
            simp [hname, hvalue]
      show (0 : UInt8) ∉ 123 :: (commas (renderMembers lib members) ++ [125])
      simp [zero_notMem_commas hmembers]

/-- How a value is printed behind any text without a NUL. -/
def Prints (heap : Heap) (lib : DoubleText) (bound : ℕ) (v : CJson) : Prop :=
  ∀ (p : PrintBuffer) (text : CString), Shows p text → (0 : UInt8) ∉ text →
    text.length + (render lib v).length ≤ bound →
      Yields heap.gives (printValue heap lib v p) (TooLong bound) fun q =>
        Ended q (text ++ render lib v)

theorem length_commas_cons (t : CString) (texts : List CString) :
    (commas (t :: texts)).length =
      t.length + if texts.isEmpty then 0 else 1 + (commas texts).length := by
  cases texts with
  | nil => rfl
  | cons t' texts =>
      rw [commas, List.length_append, List.length_cons]
      simp
      omega

/-- The loop of `print_array` prints the items with commas between them. -/
theorem printItems_yields {items : List CJson} (hitems : ∀ v ∈ items, Prints heap lib bound v) :
    ∀ {p : PrintBuffer} {text : CString}, Shows p text → (0 : UInt8) ∉ text →
      text.length + (commas (renderItems lib items)).length + 1 ≤ bound →
        Yields heap.gives (printItems heap lib items p) (TooLong bound) fun q =>
          Shows q (text ++ commas (renderItems lib items)) := by
  induction items with
  | nil =>
      intro p text h htext hbound
      unfold printItems
      refine yields_pure ?_
      show Shows p (text ++ [])
      rwa [List.append_nil]
  | cons v vs ih =>
      intro p text h htext hbound
      have hlength := length_commas_cons (render lib v) (renderItems lib vs)
      have hzero : (0 : UInt8) ∉ text ++ render lib v :=
        List.not_mem_append htext (zero_notMem_render lib v)
      rw [renderItems_cons] at hbound ⊢
      unfold printItems
      -- the item, and the offset behind it
      refine (hitems v List.mem_cons_self p text h htext (by omega)).bind fun q hq => ?_
      refine (yields_of_returns (updateOffset_ended hq hzero)).bind ?_
      rintro r ⟨hr, -⟩
      cases vs with
      | nil =>
          rw [List.isEmpty_nil, if_pos rfl]
          unfold printItems
          exact yields_pure hr
      | cons v' vs =>
          rw [renderItems_cons, List.isEmpty_cons, if_neg Bool.false_ne_true, ← renderItems_cons]
            at hlength
          rw [List.isEmpty_cons, if_neg Bool.false_ne_true]
          -- a comma, and the items behind it
          refine (ensure_yields hr (by rw [List.length_append]; omega)).bind ?_
          rintro s ⟨hs, hroom⟩
          refine (yields_of_returns (put_zero_shows [44] hs
            (by rw [List.length_singleton]; omega))).bind fun u hu => ?_
          rw [List.length_singleton] at hu
          have hzero' : (0 : UInt8) ∉ text ++ render lib v ++ [44] :=
            List.not_mem_append hzero (by decide)
          have hrest := ih (fun w hw => hitems w (List.mem_cons_of_mem _ hw)) hu hzero' (by
            simp only [List.length_append, List.length_singleton]
            omega)
          refine hrest.mono fun w hw => ?_
          rw [List.append_assoc, List.append_assoc] at hw
          exact hw

/-- The loop of `print_object` prints the members with commas between them. -/
theorem printMembers_yields {members : List (CString × CJson)}
    (hmembers : ∀ m ∈ members, Prints heap lib bound m.2) :
    ∀ {p : PrintBuffer} {text : CString}, Shows p text → (0 : UInt8) ∉ text →
      text.length + (commas (renderMembers lib members)).length + 1 ≤ bound →
        Yields heap.gives (printMembers heap lib members p) (TooLong bound) fun q =>
          Shows q (text ++ commas (renderMembers lib members)) := by
  induction members with
  | nil =>
      intro p text h htext hbound
      unfold printMembers
      refine yields_pure ?_
      show Shows p (text ++ [])
      rwa [List.append_nil]
  | cons m ms ih =>
      intro p text h htext hbound
      have hlength := length_commas_cons (quoted (escape m.1) ++ 58 :: render lib m.2)
        (renderMembers lib ms)
      -- what stands in the buffer has no NUL, so `strlen` finds its end after every part
      have hname : (0 : UInt8) ∉ text ++ quoted (escape m.1) :=
        List.not_mem_append htext (JsonText.zero_notMem_quoted m.1)
      have hcolon : (0 : UInt8) ∉ text ++ quoted (escape m.1) ++ [58] :=
        List.not_mem_append hname (by decide)
      have hvalue : (0 : UInt8) ∉ text ++ quoted (escape m.1) ++ [58] ++ render lib m.2 :=
        List.not_mem_append hcolon (zero_notMem_render lib m.2)
      rw [renderMembers_cons] at hbound ⊢
      rw [List.length_append, List.length_cons] at hlength
      unfold printMembers
      -- the name and its colon
      refine (printStringPtr_yields h (by omega)).bind fun q hq => ?_
      refine (yields_of_returns (updateOffset_ended hq hname)).bind ?_
      rintro r ⟨hr, -⟩
      refine (ensure_yields hr (by rw [List.length_append]; omega)).bind ?_
      rintro s ⟨hs, hroom⟩
      refine (yields_of_returns (put_shows [58] hs (by simpa using hroom))).bind fun u hu => ?_
      rw [List.length_singleton] at hu
      -- the value, which leaves the offset where it began
      refine (hmembers m List.mem_cons_self _ _ hu hcolon (by
        simp only [List.length_append, List.length_singleton]
        omega)).bind fun q' hq' => ?_
      refine (yields_of_returns (updateOffset_ended hq' hvalue)).bind ?_
      rintro r' ⟨hr', -⟩
      dsimp only
      cases ms with
      | nil =>
          -- the last member has no comma
          rw [List.isEmpty_nil, if_pos rfl, if_pos rfl]
          refine (ensure_yields hr' (by
            simp only [List.length_append, List.length_singleton]
            omega)).bind ?_
          rintro s' ⟨hs', hroom'⟩
          refine (yields_of_returns (put_zero_shows [] hs' (by rw [List.length_nil]; omega))).bind
            fun u' hu' => ?_
          unfold printMembers
          refine yields_pure ?_
          show Shows (u'.advance 0) _
          simpa [commas, renderMembers, CJson.treeMembers, memberTexts] using hu'
      | cons m' ms =>
          rw [renderMembers_cons, List.isEmpty_cons, if_neg Bool.false_ne_true,
            ← renderMembers_cons] at hlength
          rw [List.isEmpty_cons, if_neg Bool.false_ne_true, if_neg Bool.false_ne_true]
          refine (ensure_yields hr' (by
            simp only [List.length_append, List.length_singleton]
            omega)).bind ?_
          rintro s' ⟨hs', hroom'⟩
          refine (yields_of_returns (put_zero_shows [44] hs'
            (by rw [List.length_singleton]; omega))).bind fun u' hu' => ?_
          rw [List.length_singleton] at hu'
          have hcomma : (0 : UInt8) ∉
              text ++ quoted (escape m.1) ++ [58] ++ render lib m.2 ++ [44] :=
            List.not_mem_append hvalue (by decide)
          have hrest := ih (fun w hw => hmembers w (List.mem_cons_of_mem _ hw)) hu' hcomma (by
            simp only [List.length_append, List.length_singleton]
            omega)
          refine hrest.mono fun w hw => ?_
          have hassoc : text ++ quoted (escape m.1) ++ [58] ++ render lib m.2 ++ [44] ++
              commas (renderMembers lib (m' :: ms)) = text ++ ((quoted (escape m.1) ++
                58 :: render lib m.2) ++ 44 :: commas (renderMembers lib (m' :: ms))) := by simp
          rw [hassoc] at hw
          exact hw

/-- `print_value` prints every value. -/
theorem printValue_yields (heap : Heap) (lib : DoubleText) (bound : ℕ) (v : CJson) :
    Prints heap lib bound v := by
  induction v using CJson.induct with
  | null => exact fun p text h _ hbound => printWord_yields h hbound
  | bool value =>
      cases value with
      | false => exact fun p text h _ hbound => printWord_yields h hbound
      | true => exact fun p text h _ hbound => printWord_yields h hbound
  | number d => exact fun p text h _ hbound => printNumber_yields h hbound
  | string valuestring => exact fun p text h _ hbound => printStringPtr_yields h hbound
  | array items ih =>
      intro p text h htext hbound
      have hrender :
          render lib (.array items) = 91 :: (commas (renderItems lib items) ++ [93]) := rfl
      have hopen : (0 : UInt8) ∉ text ++ [91] :=
        List.not_mem_append htext (by decide)
      rw [hrender, List.length_cons, List.length_append, List.length_singleton] at hbound
      unfold printValue
      -- the bracket, the items and the bracket that closes them
      refine (ensure_yields h (by omega)).bind ?_
      rintro q ⟨hq, hroom⟩
      refine (yields_of_returns (put_shows [91] hq (by simpa using hroom))).bind fun r hr => ?_
      refine (printItems_yields ih hr hopen (by
        simp only [List.length_append, List.length_singleton]
        omega)).bind fun s hs => ?_
      refine (printClose_yields hs (by
        simp only [List.length_append, List.length_singleton]
        omega)).mono fun u hu => ?_
      rw [hrender]
      simpa using hu
  | object members ih =>
      intro p text h htext hbound
      have hrender : render lib (.object members) =
          123 :: (commas (renderMembers lib members) ++ [125]) := rfl
      have hopen : (0 : UInt8) ∉ text ++ [123] :=
        List.not_mem_append htext (by decide)
      rw [hrender, List.length_cons, List.length_append, List.length_singleton] at hbound
      unfold printValue
      refine (ensure_yields h (by omega)).bind ?_
      rintro q ⟨hq, hroom⟩
      refine (yields_of_returns (put_shows [123] hq (by simp; omega))).bind fun r hr => ?_
      refine (printMembers_yields ih hr hopen (by
        simp only [List.length_append, List.length_singleton]
        omega)).bind fun s hs => ?_
      refine (printClose_yields hs (by
        simp only [List.length_append, List.length_singleton]
        omega)).mono fun u hu => ?_
      rw [hrender]
      simpa using hu

theorem shows_nil (fresh : ℕ → UInt8) : Shows (PrintBuffer.grown fresh 256 ⟨[], 0⟩) [] := by
  refine ⟨rfl, List.take_zero, ?_⟩
  simp [PrintBuffer.grown]

/-- `print` returns the text of the value and a NUL. -/
theorem printRun_yields (heap : Heap) (lib : DoubleText) (v : CJson) :
    Yields heap.gives (printRun heap lib v) (TooLong (render lib v).length) fun bytes =>
      bytes = render lib v ++ [0] := by
  have hzero := zero_notMem_render lib v
  refine yields_request.bind fun k _ => ?_
  refine (printValue_yields heap lib _ v _ [] (shows_nil _) List.not_mem_nil
    (by simp)).bind fun p hp => ?_
  rw [List.nil_append] at hp
  refine (yields_of_returns (updateOffset_ended hp hzero)).bind ?_
  rintro q ⟨hq, hmemory⟩
  refine yields_request.bind fun _ _ => yields_pure ?_
  rw [hq.offset, hmemory, hp.before]

/-- Whatever is in the memory that comes with a request and whichever requests are refused,
`print` stays inside its buffer and returns the text of the value with its NUL, all its
requests granted; it returns `NULL` only at a request that is refused, or for a text as long
as an `int` can count. -/
theorem cjsonPrint_exact (heap : Heap) (lib : DoubleText) (v : CJson) : ∃ n,
    (printRun heap lib v 0 = (.failed, n) ∧
      (Refused heap.gives 0 n ∨ intMax < (render lib v).length + 2)) ∨
    (printRun heap lib v 0 = (.done (render lib v ++ [0]), n) ∧ Granted heap.gives 0 n) := by
  have h := printRun_yields heap lib v 0
  generalize printRun heap lib v 0 = result at h
  obtain ⟨checked, n⟩ := result
  refine ⟨n, ?_⟩
  cases checked with
  | done bytes =>
      obtain ⟨hgranted, rfl⟩ := h
      exact .inr ⟨rfl, hgranted⟩
  | failed => exact .inl ⟨rfl, h.imp_right fun hlong => hlong.2⟩
  | outside => exact h.elim
  | running => exact h.elim

/-- `cJSON_PrintUnformatted` returns `NULL` or the text of the value. -/
theorem cjsonPrint_cases (heap : Heap) (lib : DoubleText) (v : CJson) :
    cjsonPrintUnformatted heap lib v = none ∨
      cjsonPrintUnformatted heap lib v = some (render lib v) := by
  have h := printRun_yields heap lib v 0
  unfold cjsonPrintUnformatted
  generalize printRun heap lib v 0 = result at h ⊢
  obtain ⟨checked, n⟩ := result
  cases checked with
  | done bytes =>
      obtain ⟨-, rfl⟩ := h
      right
      show some (ofBuffer _) = _
      have hofBuffer : ofBuffer (render lib v ++ [0]) = render lib v := by
        unfold ofBuffer
        rw [List.takeWhile_append_of_pos]
        · simp
        · intro c hc
          have := ne_of_mem_of_not_mem hc (zero_notMem_render lib v)
          simpa using this
      rw [hofBuffer]
  | failed => exact .inl rfl
  | outside => exact h.elim
  | running => exact h.elim

/-- With memory for a text that an `int` can count there is one. -/
theorem cjsonPrint_eq {heap : Heap} (lib : DoubleText) {v : CJson}
    (hgives : ∀ n, heap.gives n = true) (hlength : (render lib v).length + 2 ≤ intMax) :
    cjsonPrintUnformatted heap lib v = some (render lib v) := by
  have hshort : ¬TooLong (render lib v).length := not_lt.mpr hlength
  obtain ⟨bytes, n, hrun, -⟩ := (printRun_yields heap lib v).done_of_not hgives hshort 0
  rcases cjsonPrint_cases heap lib v with hnone | hsome
  · unfold cjsonPrintUnformatted at hnone
    rw [hrun] at hnone
    cases hnone
  · exact hsome

end WebTerminal
