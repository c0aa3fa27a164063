import WebTerminal.Base.CJson
import WebTerminal.Lib.Checked
import WebTerminal.Lib.JsonTree

/-!
# The parser of cJSON

`cJSON_Parse` over the bytes of its text and the NUL behind them.  A `parse_buffer` is its
content, which nothing changes, and an offset; the depth is counted down from
`CJSON_NESTING_LIMIT`, so that `levels` more arrays and objects may be opened.  A read that
the code does not guard by a comparison with the length is a `load`, and a write behind the
output of a string an `append`, so that an access outside shows in how the run ends.  A loop
is given as many rounds as the text has bytes.

Every allocation of the parser succeeds here: where one is refused `cJSON_Parse` frees what
it has built and gives up.

`strtod` is the library's function on the text of a decimal number; how much of its argument
it takes is `strtodLength`.
-/

set_option autoImplicit false

namespace WebTerminal

open JsonText (hexValue isDigit)

/-- `CJSON_NESTING_LIMIT` -/
abbrev cjsonNestingLimit : ℕ := 1000

/-! ## Numbers -/

/-- The bytes `parse_number` copies for `strtod`. -/
def numberByte (c : UInt8) : Bool :=
  isDigit c || c == 43 || c == 45 || c == 101 || c == 69 || c == 46

/-- How many bytes of an exponent `strtod` takes: none if no digit follows. -/
def exponentLength : List UInt8 → ℕ
  | [] => 0
  | e :: rest =>
      if e == 101 || e == 69 then
        let sign := if rest.head? == some 43 || rest.head? == some 45 then 1 else 0
        let digits := ((rest.drop sign).takeWhile isDigit).length
        if digits = 0 then 0 else 1 + sign + digits
      else 0

/-- How many bytes of a text of `numberByte`s `strtod` takes: a sign, digits with a point
among them, an exponent.  Without any digit it takes none. -/
def strtodLength (text : List UInt8) : ℕ :=
  let sign := if text.head? == some 43 || text.head? == some 45 then 1 else 0
  let int := ((text.drop sign).takeWhile isDigit).length
  let rest := text.drop (sign + int)
  let frac := if rest.head? == some 46 then ((rest.drop 1).takeWhile isDigit).length else 0
  let point := if rest.head? == some 46 then 1 else 0
  if int + frac = 0 then 0
  else sign + int + point + frac + exponentLength (rest.drop (point + frac))

/-! ## Strings -/

section Buffer

variable (content : List UInt8)

/-- The loop of `parse_hex4` with so many digits to go.  A byte that is no digit makes the
whole number 0. -/
def parseHex4Loop : ℕ → ℕ → ℕ → Checked ℕ
  | 0, _, h => return h
  | n + 1, input, h => do
      let c ← Checked.load content input
      match hexValue c with
      | none => return 0
      | some digit =>
          let h := h + digit
          parseHex4Loop n (input + 1) (if n = 0 then h else h <<< 4)

/-- `parse_hex4` -/
def parseHex4 (input : ℕ) : Checked ℕ := parseHex4Loop content 4 input 0

/-- The loop that encodes a code point in UTF-8: the bytes behind the first, and what is left
for it. -/
def utf8Tail : ℕ → ℕ → ℕ × List UInt8
  | 0, codepoint => (codepoint, [])
  | n + 1, codepoint =>
      let (left, bytes) := utf8Tail n (codepoint >>> 6)
      (left, bytes ++ [UInt8.ofNat ((codepoint ||| 0x80) &&& 0xBF)])

/-- The encoding of a code point in so many bytes. -/
def encodeWith (utf8Length firstByteMark codepoint : ℕ) : List UInt8 :=
  let (left, tail) := utf8Tail (utf8Length - 1) codepoint
  if utf8Length > 1 then UInt8.ofNat ((left ||| firstByteMark) &&& 0xFF) :: tail
  else [UInt8.ofNat (left &&& 0x7F)]

/-- How `utf16_literal_to_utf8` encodes a code point up to 0x10FFFF. -/
def encodeUtf8 (codepoint : ℕ) : List UInt8 :=
  if codepoint < 0x80 then encodeWith 1 0 codepoint
  else if codepoint < 0x800 then encodeWith 2 0xC0 codepoint
  else if codepoint < 0x10000 then encodeWith 3 0xE0 codepoint
  else encodeWith 4 0xF0 codepoint

/-- `utf16_literal_to_utf8`: the length of the sequence and the bytes it stands for.  The
sequence starts at `input`, the literal ends at `inputEnd`. -/
def utf16LiteralToUtf8 (input inputEnd : ℕ) : Checked (ℕ × List UInt8) :=
  if inputEnd - input < 6 then .failed
  else do
    let firstCode ← parseHex4 content (input + 2)
    if 0xDC00 ≤ firstCode ∧ firstCode ≤ 0xDFFF then .failed
    else if 0xD800 ≤ firstCode ∧ firstCode ≤ 0xDBFF then
      let second := input + 6
      if inputEnd - second < 6 then .failed
      else
        let backslash ← Checked.load content second
        if backslash ≠ 92 then .failed
        else
          let letter ← Checked.load content (second + 1)
          if letter ≠ 117 then .failed
          else
            let secondCode ← parseHex4 content (second + 2)
            if secondCode < 0xDC00 ∨ 0xDFFF < secondCode then .failed
            else
              let codepoint := 0x10000 + (((firstCode &&& 0x3FF) <<< 10) ||| (secondCode &&& 0x3FF))
              if codepoint ≤ 0x10FFFF then return (12, encodeUtf8 codepoint) else .failed
    else return (6, encodeUtf8 firstCode)

/-- The first loop of `parse_string` on the bytes behind the opening quote: how many there are
before the closing quote, and how many of them start an escape. -/
def closingQuote : List UInt8 → Option (ℕ × ℕ)
  | [] => none
  | c :: rest =>
      if c = 34 then some (0, 0)
      else if c = 92 then
        match rest with
        | [] => none
        | _ :: rest => (closingQuote rest).map fun (n, skipped) => (n + 2, skipped + 1)
      else (closingQuote rest).map fun (n, skipped) => (n + 1, skipped)

/-- The letters of `parse_string` that stand for one byte. -/
def escapeLetter (letter : UInt8) : Option UInt8 :=
  if letter = 98 then some 8
  else if letter = 102 then some 12
  else if letter = 110 then some 10
  else if letter = 114 then some 13
  else if letter = 116 then some 9
  else if letter = 34 ∨ letter = 92 ∨ letter = 47 then some letter
  else none

/-- An escape sequence at `input`: its length and the bytes it stands for. -/
def escapeSequence (input inputEnd : ℕ) : Checked (ℕ × List UInt8) := do
  let letter ← Checked.load content (input + 1)
  match escapeLetter letter with
  | some c => return (2, [c])
  | none => if letter = 117 then utf16LiteralToUtf8 content input inputEnd else .failed

/-- The second loop of `parse_string` up to its last byte, the NUL behind the output. -/
def unescape (inputEnd capacity : ℕ) : ℕ → ℕ → List UInt8 → Checked (List UInt8)
  | rounds, input, output =>
      if input < inputEnd then
        match rounds with
        | 0 => .running
        | rounds + 1 => do
            let c ← Checked.load content input
            if c ≠ 92 then
              let output ← Checked.append capacity output [c]
              unescape inputEnd capacity rounds (input + 1) output
            else
              let (length, bytes) ← escapeSequence content input inputEnd
              let output ← Checked.append capacity output bytes
              unescape inputEnd capacity rounds (input + length) output
      else Checked.append capacity output [0]

/-- `parse_string` at `offset`: the buffer it allocates for the string, and the offset behind
the closing quote. -/
def parseStringBuffer (offset : ℕ) : Checked (List UInt8 × ℕ) := do
  let quote ← Checked.load content offset
  if quote ≠ 34 then .failed
  else
    match closingQuote (content.drop (offset + 1)) with
    | none => .failed
    | some (n, skipped) =>
        let inputEnd := offset + 1 + n
        let allocationLength := (inputEnd - offset) - skipped
        let output ← unescape content inputEnd (allocationLength + 1) n (offset + 1) []
        return (output, inputEnd + 1)

/-- `parse_string` and the C string in its buffer. -/
def parseString (offset : ℕ) : Checked (CString × ℕ) := do
  let (output, offset) ← parseStringBuffer content offset
  return (ofBuffer output, offset)

/-! ## Values -/

/-- `buffer_skip_whitespace` -/
def skipWhitespace (offset : ℕ) : ℕ :=
  if content.length ≤ offset then offset
  else
    let skipped := offset + ((content.drop offset).takeWhile (· ≤ 32)).length
    if skipped = content.length then skipped - 1 else skipped

/-- `can_access_at_index(buffer, 0)` and the byte there is `c` -/
def comesNext (offset : ℕ) (c : UInt8) : Bool := content[offset]? == some c

/-- `can_read` and `strncmp` with a literal -/
def startsWith (offset : ℕ) (literal : List UInt8) : Bool :=
  (content.drop offset).take literal.length == literal

variable (strtod : List UInt8 → Double)

/-- `parse_number` -/
def parseNumber (offset : ℕ) : Checked (CJson × ℕ) :=
  let numberCString := (content.drop offset).takeWhile numberByte
  let taken := strtodLength numberCString
  if taken = 0 then .failed
  else return (.number (strtod (numberCString.take taken)), offset + taken)

/-- `parse_value`, with what it calls for arrays and objects. -/
def parseValueWith (parseArray parseObject : ℕ → Checked (CJson × ℕ)) (offset : ℕ) :
    Checked (CJson × ℕ) :=
  if startsWith content offset JsonText.nullText then return (.null, offset + 4)
  else if startsWith content offset JsonText.falseText then return (.bool false, offset + 5)
  else if startsWith content offset JsonText.trueText then return (.bool true, offset + 4)
  else
    match content[offset]? with
    | none => .failed
    | some c =>
        if c = 34 then do
          let (s, offset) ← parseString content offset
          return (.string s, offset)
        else if c = 45 ∨ isDigit c = true then parseNumber content strtod offset
        else if c = 91 then parseArray offset
        else if c = 123 then parseObject offset
        else .failed

section Inside

variable {α : Type} (item : ℕ → Checked (α × ℕ))

/-- The loop over comma separated items.  `offset` is one before the next item. -/
def parseItems : ℕ → ℕ → Checked (List α × ℕ)
  | 0, _ => .running
  | rounds + 1, offset => do
      let (a, offset) ← item offset
      let offset := skipWhitespace content offset
      if comesNext content offset 44 then
        let (as, offset) ← parseItems rounds offset
        return (a :: as, offset)
      else return ([a], offset)

/-- What `parse_array` and `parse_object` share: items between two brackets. -/
def parseBetween (close : UInt8) (offset : ℕ) : Checked (List α × ℕ) :=
  let offset := skipWhitespace content (offset + 1)
  if comesNext content offset close then return ([], offset + 1)
  else if content.length ≤ offset then .failed
  else do
    -- the loop steps back to the byte in front of the first item
    let (as, offset) ← parseItems content item content.length (offset - 1)
    if comesNext content offset close then return (as, offset + 1) else .failed

end Inside

variable (value : ℕ → Checked (CJson × ℕ))

/-- A round of the loop of `parse_array`. -/
def parseElement (offset : ℕ) : Checked (CJson × ℕ) :=
  value (skipWhitespace content (offset + 1))

/-- A round of the loop of `parse_object`. -/
def parseMember (offset : ℕ) : Checked ((CString × CJson) × ℕ) :=
  if content.length ≤ offset + 1 then .failed
  else do
    let (name, offset) ← parseString content (skipWhitespace content (offset + 1))
    let offset := skipWhitespace content offset
    if comesNext content offset 58 then
      let (v, offset) ← value (skipWhitespace content (offset + 1))
      return ((name, v), offset)
    else .failed

/-- `parse_array` below the nesting limit -/
def parseArray (offset : ℕ) : Checked (CJson × ℕ) := do
  let bracket ← Checked.load content offset
  if bracket ≠ 91 then .failed
  else
    let (items, offset) ← parseBetween content (parseElement content value) 93 offset
    return (.array items, offset)

/-- `parse_object` below the nesting limit -/
def parseObject (offset : ℕ) : Checked (CJson × ℕ) :=
  if comesNext content offset 123 then do
    let (members, offset) ← parseBetween content (parseMember content value) 125 offset
    return (.object members, offset)
  else .failed

/-- `parse_value` where `levels` more arrays and objects may be opened. -/
def parseValue : ℕ → ℕ → Checked (CJson × ℕ)
  | 0 => parseValueWith content strtod (fun _ => .failed) fun _ => .failed
  | levels + 1 =>
      parseValueWith content strtod (parseArray content (parseValue levels))
        (parseObject content (parseValue levels))

/-- `skip_utf8_bom` -/
def skipUtf8Bom : ℕ :=
  if 4 < content.length ∧ content.take 3 = [0xEF, 0xBB, 0xBF] then 3 else 0

end Buffer

variable (strtod : List UInt8 → Double)

/-- `cJSON_ParseWithLengthOpts` on a text and its NUL, with `require_null_terminated` 0. -/
def cjsonParseRun (value : CString) : Checked (CJson × ℕ) :=
  let content := value ++ [0]
  parseValue content strtod cjsonNestingLimit (skipWhitespace content (skipUtf8Bom content))

/-- `cJSON_Parse`, `none` for `NULL` -/
def cjsonParse (value : CString) : Option CJson := (cjsonParseRun strtod value).result?.map Prod.fst

end WebTerminal
