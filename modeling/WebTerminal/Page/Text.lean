import WebTerminal.Base.CString

/-!
# Strings of the page

A string of the served page is a sequence of 16-bit code units.  What leaves the
browser is its UTF-8 encoding, in which a surrogate without its partner becomes the
replacement character.
-/

set_option autoImplicit false

namespace WebTerminal

/-- A JavaScript string; its `length` is the number of its code units. -/
abbrev JsString := List UInt16

def isHighSurrogate (u : UInt16) : Bool := 0xD800 ≤ u && u < 0xDC00

def isLowSurrogate (u : UInt16) : Bool := 0xDC00 ≤ u && u < 0xE000

/-- The character of a code unit that stands alone. -/
def unitChar (u : UInt16) : Char :=
  if isHighSurrogate u || isLowSurrogate u then Char.ofNat 0xFFFD else Char.ofNat u.toNat

/-- The character of a surrogate pair. -/
def pairChar (u v : UInt16) : Char :=
  Char.ofNat (0x10000 + (u.toNat - 0xD800) * 0x400 + (v.toNat - 0xDC00))

def JsString.scalars : JsString → List Char
  | [] => []
  | [u] => [unitChar u]
  | u :: v :: rest =>
      if isHighSurrogate u && isLowSurrogate v then pairChar u v :: scalars rest
      else unitChar u :: scalars (v :: rest)

/-- `new TextEncoder().encode(s)`. -/
def JsString.utf8 (s : JsString) : List UInt8 := s.scalars.flatMap String.utf8EncodeChar

end WebTerminal
