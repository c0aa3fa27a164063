import Mathlib.Data.Nat.Digits.Defs
import WebTerminal.Json.Values
import WebTerminal.Lib.Requests

/-!
# The printer of cJSON

`cJSON_PrintUnformatted` into a buffer that grows.  Memory that was never written holds
anything, and a request for memory may be refused; both are the heap's to say, for each
request anew.  A store outside the buffer shows in how the run ends.

A piece that is printed ends with a NUL and leaves the offset in front of it, often at its
start; `update_offset` looks for the NUL.  What `sprintf` makes of a number that is no `int`
is the library's.
-/

set_option autoImplicit false

namespace WebTerminal

abbrev intMax : ℕ := 2147483647

/-- How requests for memory are answered, by their number: what is in the memory that comes
with a request, by its place in the buffer, and whether the request is granted. -/
structure Heap where
  fresh : ℕ → ℕ → UInt8
  gives : ℕ → Bool

/-- The library's functions on a `double`. -/
structure DoubleText where
  /-- neither `isnan` nor `isinf` -/
  isFinite : Double → Bool
  /-- the `valueint` beside a `valuedouble` -/
  valueint : Double → Int32
  /-- `d == (double)valueint` -/
  isInt : Double → Bool
  /-- `%1.15g` and `%1.17g` -/
  g15 : Double → CText
  g17 : Double → CText
  /-- `sscanf` with `%lg` gives a number that `compare_double` takes for this one -/
  readsBack : CString → Double → Bool
  /-- a sign, 17 digits with a point, and an exponent of three digits -/
  length_g15 : ∀ d, (g15 d).1.length ≤ 24
  length_g17 : ∀ d, (g17 d).1.length ≤ 24

/-- `%d` -/
def decimal (n : ℤ) : CString :=
  if n < 0 then 45 :: JsonText.digits n.natAbs else JsonText.digits n.natAbs

/-- What `print_number` puts into its buffer. -/
def DoubleText.print (lib : DoubleText) (d : Double) : CString :=
  if lib.isFinite d = false then JsonText.nullText
  else if lib.isInt d then decimal (lib.valueint d).toInt
  else if lib.readsBack (lib.g15 d).1 d then (lib.g15 d).1
  else (lib.g17 d).1

/-- A `printbuffer`: the bytes of its buffer and the offset. -/
structure PrintBuffer where
  memory : List UInt8
  offset : ℕ

namespace PrintBuffer

/-- The buffer after `reallocate` to `size` bytes, of which the last are `fresh`. -/
def grown (fresh : ℕ → UInt8) (size : ℕ) (p : PrintBuffer) : PrintBuffer :=
  { p with
    memory := p.memory ++ (List.range' p.memory.length (size - p.memory.length)).map fresh }

/-- `reallocate` to `size` bytes, or `NULL` -/
def reallocate (heap : Heap) (size : ℕ) (p : PrintBuffer) : Requesting PrintBuffer := do
  let k ← .request heap.gives
  return p.grown (heap.fresh k) size

/-- `ensure` -/
def ensure (heap : Heap) (needed : ℕ) (p : PrintBuffer) : Requesting PrintBuffer :=
  if 0 < p.memory.length ∧ p.memory.length ≤ p.offset then .failed
  else if intMax < needed then .failed
  else
    let needed := needed + p.offset + 1
    if needed ≤ p.memory.length then return p
    else if intMax / 2 < needed then
      if needed ≤ intMax then p.reallocate heap intMax else .failed
    else p.reallocate heap (needed * 2)

/-- Bytes at the offset, which stays. -/
def put (bytes : List UInt8) (p : PrintBuffer) : Checked PrintBuffer := do
  let memory ← Checked.store p.memory p.offset bytes
  return { p with memory := memory }

/-- `offset += n` -/
def advance (n : ℕ) (p : PrintBuffer) : PrintBuffer := { p with offset := p.offset + n }

/-- `strlen` at an address -/
def strlen : List UInt8 → Checked ℕ
  | [] => .outside
  | c :: rest =>
      if c = 0 then return 0
      else do
        let n ← strlen rest
        return n + 1

/-- `update_offset` -/
def updateOffset (p : PrintBuffer) : Checked PrintBuffer := do
  let n ← strlen (p.memory.drop p.offset)
  return p.advance n

end PrintBuffer

/-! ## Strings -/

/-- The letters of the `switch` of `print_string_ptr`. -/
def printLetter (c : UInt8) : Option UInt8 :=
  if c = 92 then some 92
  else if c = 34 then some 34
  else if c = 8 then some 98
  else if c = 12 then some 102
  else if c = 10 then some 110
  else if c = 13 then some 114
  else if c = 9 then some 116
  else none

/-- The additional characters for one byte of the string. -/
def escapeCharacter (c : UInt8) : ℕ :=
  if c = 34 ∨ c = 92 ∨ c = 8 ∨ c = 12 ∨ c = 10 ∨ c = 13 ∨ c = 9 then 1
  else if c < 32 then 5
  else 0

/-- `escape_characters` -/
def escapeCharacters (input : CString) : ℕ := (input.map escapeCharacter).sum

/-- `sprintf(output_pointer, "u%04x", c)` -/
def unicodeText (c : UInt8) : List UInt8 :=
  [117, 48, 48, JsonText.hexDigit (c / 16), JsonText.hexDigit (c % 16), 0]

/-- The loop of `print_string_ptr` that escapes: memory, and the end of what it wrote. -/
def copyEscaped : CString → List UInt8 → ℕ → Checked (List UInt8 × ℕ)
  | [], memory, output => return (memory, output)
  | c :: input, memory, output =>
      if 31 < c ∧ c ≠ 34 ∧ c ≠ 92 then do
        let memory ← Checked.store memory output [c]
        copyEscaped input memory (output + 1)
      else do
        let memory ← Checked.store memory output [92]
        match printLetter c with
        | some d => do
            let memory ← Checked.store memory (output + 1) [d]
            copyEscaped input memory (output + 2)
        | none => do
            let memory ← Checked.store memory (output + 1) (unicodeText c)
            copyEscaped input memory (output + 6)

section Print

variable (heap : Heap)

/-- `print_string_ptr` -/
def printStringPtr (input : CString) (p : PrintBuffer) : Requesting PrintBuffer := do
  let outputLength := input.length + escapeCharacters input
  let p ← p.ensure heap (outputLength + 3)
  if escapeCharacters input = 0 then
    p.put (34 :: (input ++ [34, 0]))
  else do
    let p ← p.put [34]
    let (memory, _) ← copyEscaped input p.memory (p.offset + 1)
    let memory ← Checked.store memory (p.offset + outputLength + 1) [34, 0]
    return { p with memory := memory }

variable (lib : DoubleText)

/-- `print_number`: `sprintf` writes into a buffer of 26 bytes. -/
def printNumber (d : Double) (p : PrintBuffer) : Requesting PrintBuffer :=
  let text := lib.print d
  if 26 < text.length + 1 then liftM (.outside : Checked PrintBuffer)
  else do
    let p ← p.ensure heap (text.length + 1)
    let p ← p.put (text ++ [0])
    return p.advance text.length

/-- A literal and its NUL, as `strcpy` copies it. -/
def printWord (text : CString) (p : PrintBuffer) : Requesting PrintBuffer := do
  let p ← p.ensure heap (text.length + 1)
  p.put (text ++ [0])

/-- The closing bracket of an array or an object. -/
def printClose (close : UInt8) (p : PrintBuffer) : Requesting PrintBuffer := do
  let p ← p.ensure heap 2
  p.put [close, 0]

mutual

/-- `print_value` -/
def printValue : CJson → PrintBuffer → Requesting PrintBuffer
  | .null, p => printWord heap JsonText.nullText p
  | .bool false, p => printWord heap JsonText.falseText p
  | .bool true, p => printWord heap JsonText.trueText p
  | .number valuedouble, p => printNumber heap lib valuedouble p
  | .string valuestring, p => printStringPtr heap valuestring p
  | .array items, p => do
      -- `print_array`
      let p ← p.ensure heap 1
      let p ← p.put [91]
      let p ← printItems items (p.advance 1)
      printClose heap 93 p
  | .object members, p => do
      -- `print_object`
      let p ← p.ensure heap 2
      let p ← p.put [123]
      let p ← printMembers members (p.advance 1)
      printClose heap 125 p

/-- The loop of `print_array` -/
def printItems : List CJson → PrintBuffer → Requesting PrintBuffer
  | [], p => return p
  | v :: vs, p => do
      let p ← printValue v p
      let p ← p.updateOffset
      if vs.isEmpty then printItems vs p
      else
        let p ← p.ensure heap 2
        let p ← p.put [44, 0]
        printItems vs (p.advance 1)

/-- The loop of `print_object` -/
def printMembers : List (CString × CJson) → PrintBuffer → Requesting PrintBuffer
  | [], p => return p
  | m :: ms, p => do
      let p ← printStringPtr heap m.1 p
      let p ← p.updateOffset
      let p ← p.ensure heap 1
      let p ← p.put [58]
      let p ← printValue m.2 (p.advance 1)
      let p ← p.updateOffset
      let length := if ms.isEmpty then 0 else 1
      let p ← p.ensure heap (length + 1)
      let p ← p.put (if ms.isEmpty then [0] else [44, 0])
      printMembers ms (p.advance length)

end

/-- `print` without formatting: the buffer that is returned, its first `offset + 1` bytes. -/
def printRun (v : CJson) : Requesting (List UInt8) := do
  let k ← .request heap.gives
  let p ← printValue heap lib v (PrintBuffer.grown (heap.fresh k) 256 ⟨[], 0⟩)
  let p ← p.updateOffset
  let _ ← .request heap.gives
  return p.memory.take (p.offset + 1)

/-- `cJSON_PrintUnformatted`, `none` for `NULL` -/
def cjsonPrintUnformatted (v : CJson) : Option CString :=
  (printRun heap lib v 0).1.result?.map ofBuffer

end Print

end WebTerminal
