/-!
# Bytes as UTF-8

`Utf8.decode` reads bytes as UTF-8 and never fails: every longest sequence of bytes that
begins a character but cannot be completed, and every byte that begins none, becomes one
replacement character. On well-formed input it is the usual decoding.

The reader takes one byte at a time and remembers the sequence it is in, so decoding is a
fold over the bytes.
-/

namespace PdfDisplay

/-- Bytes of a file, a stream or a string object. -/
abbrev Bytes := List UInt8

/-- The character that stands for undecodable input. -/
def replacement : Char := '\uFFFD'

namespace Utf8

/-- A sequence that has begun: how many bytes it still needs, the range of the next one,
and the bits read so far. -/
structure Sequence where
  /-- How many more bytes after the next one. -/
  further : Nat
  /-- The least next byte. -/
  low : UInt8
  /-- The greatest next byte. -/
  high : UInt8
  /-- The bits read so far. -/
  bits : Nat
  deriving DecidableEq, Repr

/-- The sequence that a lead byte begins. After some leads the second byte has a smaller
range, which excludes overlong forms, surrogates and code points past the last. -/
def begin? (lead : UInt8) : Option Sequence :=
  if 0xC2 ≤ lead && lead ≤ 0xDF then some ⟨0, 0x80, 0xBF, lead.toNat % 32⟩
  else if 0xE0 ≤ lead && lead ≤ 0xEF then
    some ⟨1, if lead = 0xE0 then 0xA0 else 0x80, if lead = 0xED then 0x9F else 0xBF,
      lead.toNat % 16⟩
  else if 0xF0 ≤ lead && lead ≤ 0xF4 then
    some ⟨2, if lead = 0xF0 then 0x90 else 0x80, if lead = 0xF4 then 0x8F else 0xBF,
      lead.toNat % 8⟩
  else none

/-- What has been read: the characters, latest first, and the sequence begun. -/
structure Reader where
  /-- The characters read, latest first. -/
  read : List Char
  /-- The sequence that the next byte may continue. -/
  open? : Option Sequence
  deriving Repr

namespace Reader

/-- Before the first byte. -/
def start : Reader := ⟨[], none⟩

/-- A byte outside every sequence. -/
def lead (read : List Char) (b : UInt8) : Reader :=
  if b < 0x80 then ⟨Char.ofNat b.toNat :: read, none⟩
  else
    match begin? b with
    | some s => ⟨read, some s⟩
    | none => ⟨replacement :: read, none⟩

/-- The next byte. One that does not continue the sequence begun ends it as a replacement
character and is then read afresh. -/
def next (r : Reader) (b : UInt8) : Reader :=
  match r.open? with
  | none => lead r.read b
  | some s =>
    if s.low ≤ b && b ≤ s.high then
      let bits := s.bits * 64 + b.toNat % 64
      match s.further with
      | 0 => ⟨Char.ofNat bits :: r.read, none⟩
      | further + 1 => ⟨r.read, some ⟨further, 0x80, 0xBF, bits⟩⟩
    else lead (replacement :: r.read) b

/-- The characters at the end of input, latest first; a sequence begun is cut off. -/
def finish (r : Reader) : List Char :=
  if r.open?.isSome then replacement :: r.read else r.read

end Reader

/-- The text of the bytes. -/
def decode (bytes : Bytes) : String :=
  String.ofList (bytes.foldl Reader.next Reader.start).finish.reverse

/-- The bytes of a text. -/
def encode (text : String) : Bytes := text.toUTF8.toList

end Utf8

end PdfDisplay
