import Runbook.Codec.Checksum
/-!
# Inflating zlib streams

A zlib stream is a two-byte header, DEFLATE data and a checksum. The header names the
deflate method with a window of at most 32 KiB and no preset dictionary, and read as a
big-endian number it is a multiple of 31.

DEFLATE data is a sequence of blocks, the last one flagged. A block is stored (a byte
count, its complement, and the bytes as they are), or coded with Huffman codes, fixed or
given in the block's header: literal bytes, the end of the block, and back-references
that copy a run of bytes from a distance back in the output. Bits are read least
significant first within each byte, and Huffman codes most significant bit first.

The Huffman decoder is the canonical one: codes of each length are consecutive numbers
handed out to the symbols in order, shorter codes first. A code whose lengths
over-subscribe the code space is refused, and so is an incomplete one, except a distance
code with a single symbol.

The checksum at the end is not checked, and nothing after the last block is read: a
picture reader wants the bytes, and stops once it has them.
-/

namespace Runbook.Codec

/-- Why compressed data could not be inflated. -/
inductive InflateError where
  | badZlibHeader
  | insufficientInput
  | invalidBlockType
  | invalidUncompressedBlockLength
  | invalidHlit
  | invalidHdist
  | invalidCodeLengthRepeat
  | badCodeLengthHuffmanTree
  | badLiteralLengthHuffmanTree
  | badDistanceHuffmanTree
  | invalidLiteralLengthCode
  | invalidDistanceCode
  | inputStartsWithRun
  | distanceTooFarBack
  deriving Repr, DecidableEq

/-- The name of an inflate error, as reports of a corrupt stream give it. -/
def InflateError.name : InflateError → String
  | .badZlibHeader => "BadZlibHeader"
  | .insufficientInput => "InsufficientInput"
  | .invalidBlockType => "InvalidBlockType"
  | .invalidUncompressedBlockLength => "InvalidUncompressedBlockLength"
  | .invalidHlit => "InvalidHlit"
  | .invalidHdist => "InvalidHdist"
  | .invalidCodeLengthRepeat => "InvalidCodeLengthRepeat"
  | .badCodeLengthHuffmanTree => "BadCodeLengthHuffmanTree"
  | .badLiteralLengthHuffmanTree => "BadLiteralLengthHuffmanTree"
  | .badDistanceHuffmanTree => "BadDistanceHuffmanTree"
  | .invalidLiteralLengthCode => "InvalidLiteralLengthCode"
  | .invalidDistanceCode => "InvalidDistanceCode"
  | .inputStartsWithRun => "InputStartsWithRun"
  | .distanceTooFarBack => "DistanceTooFarBack"

/-- A place in compressed data, counted in bits. -/
structure BitReader where
  data : ByteArray
  pos : Nat

namespace BitReader

/-- The bits not yet read. -/
def left (r : BitReader) : Nat := r.data.size * 8 - r.pos

/-- Reads one bit. -/
def bit (r : BitReader) : Except InflateError (Nat × BitReader) :=
  match r.data[r.pos / 8]? with
  | some b => .ok ((b.toNat / Nat.pow 2 (r.pos % 8)) % 2, { r with pos := r.pos + 1 })
  | none => .error .insufficientInput

/-- Reads `n` bits as a number, the first bit read the least significant; `acc` holds
the value of the `k` bits read before. -/
def bitsFrom (acc k : Nat) (r : BitReader) : Nat → Except InflateError (Nat × BitReader)
  | 0 => .ok (acc, r)
  | n + 1 => do
    let (b, r) ← r.bit
    bitsFrom (acc + b * Nat.pow 2 k) (k + 1) r n

/-- Reads `n` bits as a number, the first bit read the least significant. -/
def bits (r : BitReader) (n : Nat) : Except InflateError (Nat × BitReader) := bitsFrom 0 0 r n

/-- Skips to the next byte boundary. -/
def align (r : BitReader) : BitReader := { r with pos := (r.pos + 7) / 8 * 8 }

end BitReader

/-- A canonical Huffman code: how many codes have each length from 0 to 15, and the
symbols in the order of their codes. -/
structure Huffman where
  counts : Array Nat
  symbols : Array Nat

/-- The longest code length. -/
def maxCodeLength : Nat := 15

/-- The canonical code of a list of code lengths, one per symbol; length 0 leaves a
symbol out. -/
def Huffman.ofLengths (lens : Array Nat) : Huffman :=
  let counts := lens.foldl (fun cs l => cs.modify l (· + 1)) (Array.replicate (maxCodeLength + 1) 0)
  let symbols := (List.range (maxCodeLength + 1)).drop 1 |>.flatMap fun l =>
    (List.range lens.size).filter fun s => lens.getD s 0 == l
  { counts := counts.set! 0 0, symbols := symbols.toArray }

/-- How much of the code space the lengths leave free, in units of the longest code: a
negative value means the code is over-subscribed, zero that it is complete. -/
def Huffman.slack (h : Huffman) : Int :=
  Nat.pow 2 maxCodeLength -
    ((List.range (maxCodeLength + 1)).drop 1).foldl
      (fun acc l => acc + (h.counts.getD l 0 : Int) * Nat.pow 2 (maxCodeLength - l)) 0

/-- How many symbols have a code. -/
def Huffman.size (h : Huffman) : Nat := h.symbols.size

/-- Decodes one symbol: at each length the code read so far is checked against the
range of codes of that length. -/
def Huffman.decodeFrom (h : Huffman) (code first index len : Nat) (r : BitReader) :
    Nat → Except InflateError (Option Nat × BitReader)
  | 0 => .ok (none, r)
  | n + 1 => do
    let (b, r) ← r.bit
    let code := code + b
    let count := h.counts.getD len 0
    if code < first + count then .ok (h.symbols[index + (code - first)]?, r)
    else h.decodeFrom (code * 2) ((first + count) * 2) (index + count) (len + 1) r n

/-- Decodes one symbol, or none when the bits read match no code. -/
def Huffman.decode (h : Huffman) (r : BitReader) : Except InflateError (Option Nat × BitReader) :=
  h.decodeFrom 0 0 0 1 r maxCodeLength

/-- Which code a list of code lengths is for, since each kind is held to its own rule. -/
inductive CodeKind where
  | codeLengths
  | literals
  | distances
  deriving DecidableEq

/-- Whether code lengths make a usable code: not over-subscribed, and complete unless it
is a literal or distance code of a single one-bit code. -/
def Huffman.usable (h : Huffman) (kind : CodeKind) : Bool :=
  h.slack == 0 || (h.slack > 0 && kind != .codeLengths && h.counts.getD 1 0 == h.size && h.size ≤ 1)

/-- The length a length symbol starts from, for symbols 257 to 285. -/
def lengthBase : Array Nat :=
  #[3, 4, 5, 6, 7, 8, 9, 10, 11, 13, 15, 17, 19, 23, 27, 31, 35, 43, 51, 59, 67, 83, 99, 115,
    131, 163, 195, 227, 258]

/-- The extra bits after a length symbol. -/
def lengthExtra : Array Nat :=
  #[0, 0, 0, 0, 0, 0, 0, 0, 1, 1, 1, 1, 2, 2, 2, 2, 3, 3, 3, 3, 4, 4, 4, 4, 5, 5, 5, 5, 0]

/-- The distance a distance symbol starts from, for symbols 0 to 29. -/
def distanceBase : Array Nat :=
  #[1, 2, 3, 4, 5, 7, 9, 13, 17, 25, 33, 49, 65, 97, 129, 193, 257, 385, 513, 769, 1025, 1537,
    2049, 3073, 4097, 6145, 8193, 12289, 16385, 24577]

/-- The extra bits after a distance symbol. -/
def distanceExtra : Array Nat :=
  #[0, 0, 0, 0, 1, 1, 2, 2, 3, 3, 4, 4, 5, 5, 6, 6, 7, 7, 8, 8, 9, 9, 10, 10, 11, 11, 12, 12,
    13, 13]

/-- The fixed literal and length code. -/
def fixedLiterals : Huffman :=
  Huffman.ofLengths ((List.range 288).map fun s =>
    if s < 144 then 8 else if s < 256 then 9 else if s < 280 then 7 else 8).toArray

/-- The fixed distance code: 32 codes of five bits, the last two unused. -/
def fixedDistances : Huffman := Huffman.ofLengths (Array.replicate 32 5)

/-- Appends a copy of `len` bytes starting `dist` back; the copy may overlap what it
appends, repeating the bytes. -/
def copyBack (out : Array UInt8) (dist len : Nat) : Array UInt8 :=
  (List.range len).foldl (fun o _ => o.push (o.getD (o.size - dist) 0)) out

/-- Decodes the symbols of a Huffman-coded block up to its end. -/
def codedBlock (lit dist : Huffman) (r : BitReader) (out : Array UInt8) :
    Nat → Except InflateError (BitReader × Array UInt8)
  | 0 => .error .insufficientInput
  | n + 1 => do
    let (sym, r) ← lit.decode r
    let some s := sym | throw .invalidLiteralLengthCode
    if s < 256 then codedBlock lit dist r (out.push s.toUInt8) n
    else if s == 256 then pure (r, out)
    else if s > 285 then throw .invalidLiteralLengthCode
    else
      let (extra, r) ← r.bits (lengthExtra.getD (s - 257) 0)
      let len := lengthBase.getD (s - 257) 0 + extra
      let (d, r) ← dist.decode r
      let some d := d | throw .invalidDistanceCode
      if d ≥ 30 then throw .invalidDistanceCode
      let (dextra, r) ← r.bits (distanceExtra.getD d 0)
      let distance := distanceBase.getD d 0 + dextra
      if out.isEmpty then throw .inputStartsWithRun
      if distance > out.size then throw .distanceTooFarBack
      codedBlock lit dist r (copyBack out distance len) n

/-- Copies a stored block: at the next byte boundary, its length, the length's
complement, and the bytes. -/
def storedBlock (r : BitReader) (out : Array UInt8) : Except InflateError (BitReader × Array UInt8) := do
  let r := r.align
  let (len, r) ← r.bits 16
  let (nlen, r) ← r.bits 16
  if len + nlen != 65535 then throw .invalidUncompressedBlockLength
  let start := r.pos / 8
  if start + len > r.data.size then throw .insufficientInput
  pure ({ r with pos := r.pos + len * 8 }, out ++ (r.data.extract start (start + len)).data)

/-- The order in which the lengths of the code length code are given. -/
def codeLengthOrder : List Nat := [16, 17, 18, 0, 8, 7, 9, 6, 10, 5, 11, 4, 12, 3, 13, 2, 14, 1, 15]

/-- Reads the lengths of the code length code: three bits each, for the first `k`
symbols in their order. -/
def readCodeLengthCode (r : BitReader) (k : Nat) : Except InflateError (Array Nat × BitReader) :=
  (codeLengthOrder.take k).foldlM (fun (lens, r) sym => do
    let (v, r) ← r.bits 3
    pure (lens.set! sym v, r)) (Array.replicate 19 0, r)

/-- Reads `total` code lengths with the code length code: lengths 0 to 15 as they are,
16 repeating the last length 3 to 6 times, 17 and 18 giving 3 to 10 and 11 to 138
zeros. -/
def readLengths (clc : Huffman) (total : Nat) (r : BitReader) (acc : Array Nat) :
    Nat → Except InflateError (Array Nat × BitReader)
  | 0 => .error .insufficientInput
  | n + 1 =>
    if acc.size ≥ total then .ok (acc, r)
    else do
      let (sym, r) ← clc.decode r
      let some s := sym | throw .badCodeLengthHuffmanTree
      if s < 16 then readLengths clc total r (acc.push s) n
      else
        let (value, extraBits, base) :=
          if s == 16 then (acc.back?, 2, 3) else if s == 17 then (some 0, 3, 3) else (some 0, 7, 11)
        let some v := value | throw .invalidCodeLengthRepeat
        let (x, r) ← r.bits extraBits
        if acc.size + base + x > total then throw .invalidCodeLengthRepeat
        readLengths clc total r (acc ++ Array.replicate (base + x) v) n

/-- Reads the codes a dynamic block gives in its header. -/
def dynamicCodes (r : BitReader) : Except InflateError (Huffman × Huffman × BitReader) := do
  let (hlit, r) ← r.bits 5
  let (hdist, r) ← r.bits 5
  let (hclen, r) ← r.bits 4
  let nlit := hlit + 257
  let ndist := hdist + 1
  if nlit > 286 then throw .invalidHlit
  if ndist > 30 then throw .invalidHdist
  let (clens, r) ← readCodeLengthCode r (hclen + 4)
  let clc := Huffman.ofLengths clens
  if !clc.usable .codeLengths then throw .badCodeLengthHuffmanTree
  let (lens, r) ← readLengths clc (nlit + ndist) r #[] (nlit + ndist + 1)
  let litLens := lens.extract 0 nlit
  if litLens.getD 256 0 == 0 then throw .badLiteralLengthHuffmanTree
  let lit := Huffman.ofLengths litLens
  if !lit.usable .literals then throw .badLiteralLengthHuffmanTree
  let dist := Huffman.ofLengths (lens.extract nlit (nlit + ndist))
  if !dist.usable .distances then throw .badDistanceHuffmanTree
  pure (lit, dist, r)

/-- Inflates blocks up to the last one. -/
def inflateBlocks (r : BitReader) (out : Array UInt8) : Nat → Except InflateError (Array UInt8)
  | 0 => .error .insufficientInput
  | n + 1 => do
    let (final, r) ← r.bit
    let (kind, r) ← r.bits 2
    let (r, out) ← match kind with
      | 0 => storedBlock r out
      | 1 => codedBlock fixedLiterals fixedDistances r out (r.left + 1)
      | 2 => do
        let (lit, dist, r) ← dynamicCodes r
        codedBlock lit dist r out (r.left + 1)
      | _ => throw .invalidBlockType
    if final == 1 then pure out else inflateBlocks r out n

/-- Whether two bytes make a zlib header: the deflate method, a window of at most
32 KiB, no preset dictionary, and a multiple of 31. -/
def zlibHeaderOk (cmf flg : UInt8) : Bool :=
  cmf.toNat % 16 == 8 && cmf.toNat / 16 ≤ 7 && (flg.toNat / 32) % 2 == 0 &&
    (cmf.toNat * 256 + flg.toNat) % 31 == 0

/-- Inflates a zlib stream. -/
def zlibInflate (bytes : ByteArray) : Except InflateError (Array UInt8) :=
  match bytes[0]?, bytes[1]? with
  | some cmf, some flg =>
    if zlibHeaderOk cmf flg then inflateBlocks ⟨bytes, 16⟩ #[] (bytes.size * 8 + 1)
    else .error .badZlibHeader
  | _, _ => .error .insufficientInput

end Runbook.Codec
