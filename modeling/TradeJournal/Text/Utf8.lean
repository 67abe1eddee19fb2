import TradeJournal.Text.Half
import TradeJournal.Text.Hex

/-!
# Bytes as text

A file holds bytes in the UTF-8 encoding. Reading them stops at the first byte that
cannot go on: the cause and the span of offending bytes make up the message. Writing fails on
halves of pairs, which have no bytes.
-/

namespace TradeJournal.Text

/-! ### Decoding -/

/-- Why bytes are not text. -/
inductive Utf8Cause
  /-- No character begins with this byte. -/
  | start
  /-- The byte after the span does not continue the character. -/
  | continuation
  /-- The bytes end inside a character. -/
  | ending
  deriving DecidableEq, Repr

/-- **A fault in encoded text**: the offending bytes and where they begin. -/
structure Utf8Fault where
  cause : Utf8Cause
  offset : Nat
  bytes : List UInt8
  deriving DecidableEq, Repr

/-- The wording of a cause. -/
def Utf8Cause.message : Utf8Cause → String
  | .start => "invalid start byte"
  | .continuation => "invalid continuation byte"
  | .ending => "unexpected end of data"

/-- The wording of a fault: one byte is shown, several are numbered. -/
def Utf8Fault.message (f : Utf8Fault) : String :=
  let place := match f.bytes with
    | [b] => "byte 0x" ++ String.ofList (hexDigits 2 b.toNat) ++ " in position " ++
      toString f.offset
    | _ => "bytes in position " ++ toString f.offset ++ "-" ++
      toString (f.offset + f.bytes.length - 1)
  "'utf-8' codec can't decode " ++ place ++ ": " ++ f.cause.message

/-- **How a character may begin**: the number of bytes to follow, the bits that the first one
gives, and the bounds on the second. Overlong spellings, surrogates and code points past the
last are kept out by these bounds. -/
def utf8Lead (b : UInt8) : Option (Nat × Nat × Nat × Nat) :=
  let n := b.toNat
  if n < 0x80 then some (0, n, 0, 0)
  else if n < 0xC2 then none
  else if n < 0xE0 then some (1, n - 0xC0, 0x80, 0xBF)
  else if n = 0xE0 then some (2, 0, 0xA0, 0xBF)
  else if n = 0xED then some (2, 0xD, 0x80, 0x9F)
  else if n < 0xF0 then some (2, n - 0xE0, 0x80, 0xBF)
  else if n = 0xF0 then some (3, 0, 0x90, 0xBF)
  else if n = 0xF4 then some (3, 4, 0x80, 0x8F)
  else if n < 0xF4 then some (3, n - 0xF0, 0x80, 0xBF)
  else none

/-- A character of which some bytes have been read. -/
structure Utf8Pending where
  /-- Bytes still to come. -/
  owed : Nat
  /-- The code point as far as it is known. -/
  code : Nat
  /-- Bounds on the next byte. -/
  low : Nat
  high : Nat
  /-- Where the character begins. -/
  offset : Nat
  /-- The bytes read, latest first. -/
  bytes : List UInt8

/-- **Decoding from a position**, with the character under way, if any. -/
def utf8Decode (offset : Nat) : Option Utf8Pending → List UInt8 → Except Utf8Fault (List Char)
  | none, [] => .ok []
  | some p, [] => .error ⟨.ending, p.offset, p.bytes.reverse⟩
  | none, b :: rest =>
    match utf8Lead b with
    | none => .error ⟨.start, offset, [b]⟩
    | some (0, code, _, _) => (Char.ofNat code :: ·) <$> utf8Decode (offset + 1) none rest
    | some (owed + 1, code, low, high) =>
      utf8Decode (offset + 1) (some ⟨owed + 1, code, low, high, offset, [b]⟩) rest
  | some p, b :: rest =>
    if b.toNat < p.low ∨ p.high < b.toNat then .error ⟨.continuation, p.offset, p.bytes.reverse⟩
    else
      let code := p.code * 64 + (b.toNat - 0x80)
      if p.owed ≤ 1 then (Char.ofNat code :: ·) <$> utf8Decode (offset + 1) none rest
      else
        utf8Decode (offset + 1) (some ⟨p.owed - 1, code, 0x80, 0xBF, p.offset, b :: p.bytes⟩) rest

/-- The text that bytes encode. -/
def decodeUtf8 (bytes : List UInt8) : Except Utf8Fault (List Char) := utf8Decode 0 none bytes

/-! ### Encoding -/

/-- The wording of the fault that halves in a text are. -/
def Halves.message (h : Halves) : String :=
  let place :=
    if h.first = h.last then
      "character '\\u" ++ String.ofList (hexDigits 4 h.unit) ++ "' in position " ++ toString h.first
    else "characters in position " ++ toString h.first ++ "-" ++ toString h.last
  "'utf-8' codec can't encode " ++ place ++ ": surrogates not allowed"

/-- **The bytes of a text**; there are none if it holds halves. -/
def encodeUtf8 (coding : HalfCoding) (s : String) : Except Halves (List UInt8) :=
  match halves? coding s.toList with
  | some h => .error h
  | none => .ok s.toUTF8.toList

end TradeJournal.Text
