import PdfDisplay.Flate.Inflate

/-!
# Salvage

What a framed stream leaves a reader who stops where it cannot be read further. Of a stream
that is cut short all bytes are had; of a damaged one `Flate.salvage` gives a beginning.

The input is read in pieces, and bytes are written into a window. They are handed on when the
window is full, when a piece of the input is used up, and at the end; so there are *stops*
between the bytes. The reader, a `Collector`, asks for as many bytes as it has room for. It
gets what has been handed on, or else what lies before the next stops; a request that runs
into the damage behind the last stop fails as a whole.
-/

namespace PdfDisplay.Flate

/-! ## Stops -/

/-- The size of the window. -/
def windowSize : Nat := 32768

/-- The size of a piece of the input. -/
def pieceSize : Nat := 32768

/-- A place between the bytes where those before it are handed on. -/
structure Stop where
  /-- How many bytes are before it. -/
  position : Nat
  /-- Whether the piece of the input is used up there, rather than the window full. -/
  usesUpPiece : Bool
  deriving DecidableEq, Repr

/-- The stops of full windows between two positions. -/
def windowStops (start stop : Nat) : List Stop :=
  let first := start / windowSize + 1
  (List.range' first ((stop - 1) / windowSize + 1 - first)).map fun index =>
    ⟨index * windowSize, false⟩

/-- How many bytes each piece of the input brings the output to, up to the piece with the
damage. -/
def pieceEnds (bytes : Bytes) : List Nat :=
  let outputs := (List.range' 1 ((bytes.length - 1) / pieceSize)).map fun count =>
    readFramed (bytes.take (count * pieceSize))
  (outputs.takeWhile fun o => o.rest matches .error .incomplete).map (·.bytes.size)

/-- The stops from a position to the damage at `stop`, where `ends` are the ends of pieces. -/
def stopsFrom (start stop : Nat) : (ends : List Nat) → List Stop
  | [] => windowStops start stop
  | position :: ends =>
    windowStops start position ++ ⟨position, true⟩ :: stopsFrom position stop ends

/-! ## Collecting -/

/-- A reader that collects bytes. -/
structure Collector where
  /-- How many bytes it has. -/
  filled : Nat
  /-- How many it has room for. -/
  room : Nat
  /-- How many it asks for at most. -/
  limit : Nat
  /-- How many have been handed on. -/
  ready : Nat
  /-- The stops that follow. -/
  stops : List Stop
  deriving DecidableEq, Repr

namespace Collector

/-- Goes on to the stop where a request for the bytes before `goal` is answered: the first
that is not before `goal`, or where a piece is used up behind the first `filled` bytes. -/
def advance? (filled goal : Nat) : List Stop → Option (Nat × List Stop)
  | [] => none
  | stop :: rest =>
    if goal ≤ stop.position ∨ (stop.usesUpPiece ∧ filled < stop.position) then
      some (stop.position, rest)
    else advance? filled goal rest

/-- Asks for `count` bytes. -/
def ask? (c : Collector) (count : Nat) : Option Collector :=
  let goal := c.filled + count
  if c.filled < c.ready then some { c with filled := min goal c.ready }
  else
    match advance? c.filled goal c.stops with
    | some (ready, stops) => some { c with filled := min goal ready, ready, stops }
    | none => none

/-- The size of the request that tells whether anything follows. -/
def probeSize : Nat := 32

/-- Sees to it that there is room. Before the first room, `start`, is enlarged, a few bytes
are asked for, so that no room is made for nothing. -/
def makeRoom? (start : Nat) (c : Collector) : Option Collector :=
  if c.filled < c.room then some c
  else
    let probed := if c.room = start then c.ask? probeSize else some c
    probed.map fun c => { c with room := 2 * c.room }

/-- Asks for as many bytes as there is room for, and for more the next time if they come. -/
def fill? (c : Collector) : Option Collector :=
  let count := min (c.room - c.filled) c.limit
  (c.ask? count).map fun next =>
    if c.limit ≤ count ∧ next.filled = c.filled + count then { next with limit := 2 * c.limit }
    else next

/-- How many bytes there are when a request fails. Every request brings a byte, so `fuel` is
more than the number of bytes. -/
def collect (start : Nat) : (fuel : Nat) → Collector → Nat
  | 0, c => c.filled
  | fuel + 1, c =>
    match c.makeRoom? start with
    | none => c.filled
    | some c =>
      match c.fill? with
      | none => c.filled
      | some c => collect start fuel c

/-- A reader of a stream with some stops: it begins with twice the size of the input as its
room, and asks for 8192 bytes at most. -/
def start (size : Nat) (stops : List Stop) : Collector := ⟨0, 2 * size, 8192, 0, stops⟩

end Collector

/-- What a framed stream leaves a reader. -/
def salvage (bytes : Bytes) : Bytes :=
  let o := readFramed bytes
  match o.rest with
  | .error .corrupt =>
    let c := Collector.start bytes.length (stopsFrom 0 o.bytes.size (pieceEnds bytes))
    o.bytes.toList.take (c.collect c.room (o.bytes.size + 1))
  | _ => o.bytes.toList

end PdfDisplay.Flate
