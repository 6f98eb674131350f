import PdfDisplay.Flate.Code

/-!
# Decompression

A compressed stream is a sequence of blocks: stored bytes, or symbols of a fixed or declared
pair of prefix codes. `Flate.inflate` accepts a stream inside the usual frame of a header
and a checksum, and, because some producers leave the frame out, a bare one too. What
follows a finished stream is ignored.

Reading a stream that is cut short or damaged still gives the bytes written so far, an
`Output`.
-/

namespace PdfDisplay.Flate

/-! ## Symbols -/

/-- Bases and numbers of extra bits of the copy lengths. -/
def lengthRows : List (Nat × Nat) := [
  (3, 0), (4, 0), (5, 0), (6, 0), (7, 0), (8, 0), (9, 0), (10, 0), (11, 1), (13, 1), (15, 1),
  (17, 1), (19, 2), (23, 2), (27, 2), (31, 2), (35, 3), (43, 3), (51, 3), (59, 3), (67, 4),
  (83, 4), (99, 4), (115, 4), (131, 5), (163, 5), (195, 5), (227, 5), (258, 0)]

/-- Bases and numbers of extra bits of the copy distances. -/
def distanceRows : List (Nat × Nat) := [
  (1, 0), (2, 0), (3, 0), (4, 0), (5, 1), (7, 1), (9, 2), (13, 2), (17, 3), (25, 3), (33, 4),
  (49, 4), (65, 5), (97, 5), (129, 6), (193, 6), (257, 7), (385, 7), (513, 8), (769, 8),
  (1025, 9), (1537, 9), (2049, 10), (3073, 10), (4097, 11), (6145, 11), (8193, 12), (12289, 12),
  (16385, 13), (24577, 13)]

/-- A base with its extra bits added. -/
def extended (rows : List (Nat × Nat)) (row : Nat) (b : Bits) : Except Error (Nat × Bits) :=
  match rows[row]? with
  | none => .error .corrupt
  | some (base, extra) => do
    let (more, b) ← b.take extra
    return (base + more, b)

/-- Appends `count` bytes, each a copy of the one `distance` before it. Before the first byte
there are zeros. -/
def copy (distance : Nat) : (count : Nat) → Array UInt8 → Array UInt8
  | 0, out => out
  | count + 1, out =>
    let byte := if out.size < distance then 0 else out[out.size - distance]?.getD 0
    copy distance count (out.push byte)

/-- Reads what belongs to a symbol that begins a copy: its length and its distance. -/
def readCopy (distances : Code) (symbol : Nat) (b : Bits) :
    Except Error ((Nat × Nat) × Bits) := do
  let (count, b) ← extended lengthRows (symbol - 257) b
  let (row, b) ← distances.decode b
  let (distance, b) ← extended distanceRows row b
  return ((count, distance), b)

/-- The bytes written, and what follows in the stream or why it cannot be read further. -/
structure Output where
  /-- The bytes written. -/
  bytes : Array UInt8
  /-- What follows. -/
  rest : Except Error Bits

/-- Reads symbols up to the end of a block. Every symbol takes at least one bit, so `fuel`
is the number of bits left. -/
def readSymbols (literals distances : Code) : (fuel : Nat) → Array UInt8 → Bits → Output
  | 0, out, _ => ⟨out, .error .incomplete⟩
  | fuel + 1, out, b =>
    match literals.decode b with
    | .error e => ⟨out, .error e⟩
    | .ok (symbol, b) =>
      if symbol < 256 then readSymbols literals distances fuel (out.push (UInt8.ofNat symbol)) b
      else if symbol = 256 then ⟨out, .ok b⟩
      else
        match readCopy distances symbol b with
        | .error e => ⟨out, .error e⟩
        | .ok ((count, distance), b) =>
          readSymbols literals distances fuel (copy distance count out) b

/-! ## Declared codes -/

/-- The order in which the word lengths of the code for lengths come. -/
def lengthOrder : List Nat := [16, 17, 18, 0, 8, 7, 9, 6, 10, 5, 11, 4, 12, 3, 13, 2, 14, 1, 15]

/-- Reads `count` numbers of three bits. -/
def readTriples : (count : Nat) → Bits → Except Error (List Nat × Bits)
  | 0, b => .ok ([], b)
  | count + 1, b => do
    let (first, b) ← b.take 3
    let (rest, b) ← readTriples count b
    return (first :: rest, b)

/-- The word lengths in the order of their symbols. -/
def inSymbolOrder (triples : List Nat) : List Nat :=
  (List.range 19).map fun symbol => ((lengthOrder.zip triples).lookup symbol).getD 0

/-- Reads `count` word lengths, with their repetitions; `read` holds those read, latest
first. -/
def readLengths (code : Code) (count : Nat) :
    (fuel : Nat) → (read : List Nat) → Bits → Except Error (List Nat × Bits)
  | 0, _, _ => .error .incomplete
  | fuel + 1, read, b => do
    if count ≤ read.length then return (read.reverse, b)
    let (symbol, b) ← code.decode b
    if symbol < 16 then readLengths code count fuel (symbol :: read) b
    else
      let (value, base, extra) ←
        if symbol = 16 then
          match read.head? with
          | some last => pure (last, 3, 2)
          | none => throw .corrupt
        else if symbol = 17 then pure (0, 3, 3)
        else pure (0, 11, 7)
      let (more, b) ← b.take extra
      if count < read.length + base + more then throw .corrupt
      readLengths code count fuel (List.replicate (base + more) value ++ read) b

/-- Reads the two codes that a block declares. -/
def readCodes (b : Bits) : Except Error ((Code × Code) × Bits) := do
  let (literals, b) ← b.take 5
  let (distances, b) ← b.take 5
  let (triples, b) ← b.take 4
  if 286 < literals + 257 ∨ 30 < distances + 1 then throw .corrupt
  let (triples, b) ← readTriples (triples + 4) b
  let code ← Code.ofLengths false (inSymbolOrder triples)
  -- the lengths of both codes are one sequence, and a repetition may run from one to the other
  let (lengths, b) ← readLengths code (literals + distances + 258) (b.size + 1) [] b
  let literalCode ← Code.ofLengths true (lengths.take (literals + 257))
  let distanceCode ← Code.ofLengths true (lengths.drop (literals + 257))
  return ((literalCode, distanceCode), b)

/-- The fixed codes. -/
def fixedCodes : Except Error (Code × Code) := do
  let literals ← Code.ofLengths false
    (List.replicate 144 8 ++ List.replicate 112 9 ++ List.replicate 24 7 ++ List.replicate 8 8)
  let distances ← Code.ofLengths false (List.replicate 32 5)
  return (literals, distances)

/-! ## Blocks -/

/-- Reads a block of stored bytes: their number, its complement, and the bytes. -/
def readStored (out : Array UInt8) (b : Bits) : Output :=
  match b.align with
  | low :: high :: notLow :: notHigh :: rest =>
    let count := low.toNat + 256 * high.toNat
    if count + (notLow.toNat + 256 * notHigh.toNat) ≠ 65535 then ⟨out, .error .corrupt⟩
    else
      ⟨(rest.take count).foldl Array.push out,
        if rest.length < count then .error .incomplete else .ok (.ofBytes (rest.drop count))⟩
  | _ => ⟨out, .error .incomplete⟩

/-- Reads a block whose codes are given, or cannot be had. -/
def readCoded (out : Array UInt8) : Except Error ((Code × Code) × Bits) → Output
  | .ok ((literals, distances), b) => readSymbols literals distances (b.size + 1) out b
  | .error e => ⟨out, .error e⟩

/-- Reads a block of a kind. -/
def readBlock (kind : Nat) (out : Array UInt8) (b : Bits) : Output :=
  match kind with
  | 0 => readStored out b
  | 1 => readCoded out (fixedCodes.map fun codes => (codes, b))
  | 2 => readCoded out (readCodes b)
  | _ => ⟨out, .error .corrupt⟩

/-- Reads what a block begins with: whether it is the last one, and its kind. -/
def readBlockHead (b : Bits) : Except Error ((Bool × Nat) × Bits) := do
  let (isLast, b) ← b.next
  let (kind, b) ← b.take 2
  return ((isLast, kind), b)

/-- Reads blocks up to the last one. Every block takes at least one bit. -/
def readBlocks : (fuel : Nat) → Array UInt8 → Bits → Output
  | 0, out, _ => ⟨out, .error .incomplete⟩
  | fuel + 1, out, b =>
    match readBlockHead b with
    | .error e => ⟨out, .error e⟩
    | .ok ((isLast, kind), b) =>
      match readBlock kind out b with
      | ⟨out, .error e⟩ => ⟨out, .error e⟩
      | ⟨out, .ok b⟩ => if isLast then ⟨out, .ok b⟩ else readBlocks fuel out b

/-! ## Streams -/

/-- Reads a bare stream. -/
def readBare (bytes : Bytes) : Output :=
  let b := Bits.ofBytes bytes
  readBlocks (b.size + 1) #[] b

/-- The checksum of some bytes: their sum and the sum of the partial sums. -/
def checksum (bytes : Bytes) : Nat :=
  -- both sums are taken modulo the greatest prime of sixteen bits
  let (low, high) := bytes.foldl
    (fun (low, high) b => let low := (low + b.toNat) % 65521; (low, (high + low) % 65521)) (1, 0)
  high * 65536 + low

/-- Compares the checksum behind a stream with that of the bytes written. -/
def verify (out : Array UInt8) (b : Bits) : Except Error Bits :=
  match b.align with
  | b₃ :: b₂ :: b₁ :: b₀ :: rest =>
    let sum := ((b₃.toNat * 256 + b₂.toNat) * 256 + b₁.toNat) * 256 + b₀.toNat
    if sum = checksum out.toList then .ok (.ofBytes rest) else .error .corrupt
  | _ => .error .incomplete

/-- Reads a framed stream: a header of two bytes that names this method, no preset
dictionary and a window of at most 32768 bytes; the stream; and its checksum. -/
def readFramed (bytes : Bytes) : Output :=
  match bytes with
  | method :: flags :: rest =>
    if (method.toNat * 256 + flags.toNat) % 31 ≠ 0 ∨ method.toNat % 16 ≠ 8 ∨
        7 < method.toNat / 16 ∨ flags.toNat / 32 % 2 = 1 then ⟨#[], .error .corrupt⟩
    else
      let ⟨out, rest⟩ := readBare rest
      ⟨out, rest.bind (verify out)⟩
  | _ => ⟨#[], .error .incomplete⟩

/-- The bytes of a stream that was read to its end. -/
def Output.complete (o : Output) : Except Error Bytes := o.rest.map fun _ => o.bytes.toList

/-- Why a stream can be read neither with its frame nor bare. -/
structure Failure where
  /-- The reason with a frame. -/
  framed : Error
  /-- The reason without. -/
  bare : Error
  /-- The number of bytes of input. -/
  size : Nat
  deriving DecidableEq, Repr

/-- The wording of the reason. -/
def Failure.message (f : Failure) : String :=
  "FlateDecode failed: zlib (" ++ f.framed.message ++ "), raw deflate (" ++ f.bare.message ++
    "), " ++ toString f.size ++ " input bytes"

/-- Decompresses a stream, framed or bare. -/
def inflate (bytes : Bytes) : Except Failure Bytes :=
  match (readFramed bytes).complete with
  | .ok out => .ok out
  | .error inFrame =>
    (readBare bytes).complete.mapError fun inBare => ⟨inFrame, inBare, bytes.length⟩

end PdfDisplay.Flate
