import Runbook.Codec.Inflate
import Runbook.Files.Store
/-!
# PNG pictures

A PNG file is an eight-byte signature and a sequence of chunks, each a big-endian length,
a four-letter type, the data, and the CRC-32 of type and data. The `IHDR` chunk comes
first and gives the size, the bit depth and the color type; `PLTE` gives the palette of
an indexed picture; the `IDAT` chunks, one run of them, hold a zlib stream of the
scanlines, each a filter byte and the filtered bytes of a row. An interlaced picture
sends seven reduced passes of the Adam7 pattern one after the other.

Writing keeps to one layout: eight-bit samples, no filtering, and the scanlines in
stored deflate blocks of at most 65535 bytes, all in one `IDAT` chunk.

Reading follows the chunks up to the end of the `IDAT` run, checking every CRC, and
stops as soon as it sees the type of the chunk after the run: what follows is never
read. The scanlines are inflated, unfiltered and expanded: samples below eight bits are
scaled up and palette indices become their colors. The picture is then taken to gray
levels the way the matcher takes it: a color's level is `(2126 R + 7152 G + 722 B) /
10000` rounded down, alpha is dropped, and a 16-bit level `v` becomes `(v + 128) / 257`.
-/

namespace Runbook.Png

open Codec

/-! ## Writing -/

/-- The eight bytes every PNG file starts with. -/
def signature : List UInt8 := [137, 80, 78, 71, 13, 10, 26, 10]

/-- A number as four big-endian bytes. -/
def be32 (n : Nat) : List UInt8 :=
  [(n / 16777216 % 256).toUInt8, (n / 65536 % 256).toUInt8, (n / 256 % 256).toUInt8, (n % 256).toUInt8]

/-- A chunk of a type and data. -/
def chunk (kind : String) (data : List UInt8) : List UInt8 :=
  let typed := kind.toUTF8.toList ++ data
  be32 data.length ++ typed ++ be32 (crc32 typed).toNat

/-- The longest stored deflate block. -/
def maxStored : Nat := 65535

/-- Splits bytes into stored-block pieces: full blocks while more bytes follow them, and
a last, possibly short or empty, block. -/
def storedPieces (data : List UInt8) : Nat → List (List UInt8)
  | 0 => [data]
  | n + 1 => if data.length ≤ maxStored then [data] else data.take maxStored :: storedPieces (data.drop maxStored) n

/-- A zlib stream holding bytes in stored blocks: the header, each block's flag byte,
its length and the length's complement in little-endian order, the bytes, and the
Adler-32 of all of them. -/
def zlibStored (data : List UInt8) : List UInt8 :=
  let pieces := storedPieces data data.length
  let block (last : Bool) (p : List UInt8) : List UInt8 :=
    let len := p.length
    [if last then 1 else 0, (len % 256).toUInt8, (len / 256).toUInt8,
      ((65535 - len) % 256).toUInt8, ((65535 - len) / 256).toUInt8] ++ p
  let blocks := pieces.zipIdx.flatMap fun (p, i) => block (i + 1 == pieces.length) p
  [0x78, 0x01] ++ blocks ++ be32 (adler32 data)

/-- A PNG file of eight-bit samples of a color type (0 gray, 6 RGBA, ...), given row by
row; every row is sent unfiltered. -/
def encode (width height colorType : Nat) (rows : List (List UInt8)) : List UInt8 :=
  let header := be32 width ++ be32 height ++ [8, colorType.toUInt8, 0, 0, 0]
  let scanlines := rows.flatMap fun r => 0 :: r
  signature ++ chunk "IHDR" header ++ chunk "IDAT" (zlibStored scanlines) ++ chunk "IEND" []

/-! ## Reading -/

/-- A chunk type as the reader's messages show it, with its four property bits. -/
def chunkTypeText (kind : List UInt8) : String :=
  let bit (i : Nat) : String := if ((kind.getD i 0).toNat / 32) % 2 == 1 then "true" else "false"
  let negated (i : Nat) : String := if ((kind.getD i 0).toNat / 32) % 2 == 1 then "false" else "true"
  "ChunkType \x7b type: " ++ String.ofList (kind.map fun b => Char.ofNat b.toNat) ++
    ", critical: " ++ negated 0 ++ ", private: " ++ bit 1 ++ ", reserved: " ++ bit 2 ++
    ", safecopy: " ++ bit 3 ++ " \x7d"

/-- Why a PNG file could not be read. -/
inductive PngError where
  | invalidSignature
  | unexpectedEof
  | crcMismatch (stored computed : Nat) (kind : List UInt8)
  | chunkBeforeIhdr (kind : List UInt8)
  | invalidDimensions
  | invalidBitDepth (depth : Nat)
  | invalidColorType (colorType : Nat)
  | invalidColorBitDepth (colorType depth : Nat)
  | unknownCompressionMethod (method : Nat)
  | unknownFilterMethod (method : Nat)
  | unknownInterlaceMethod (method : Nat)
  | paletteRequired
  | missingImageData
  | corruptFlateStream (e : InflateError)
  | noMoreImageData
  deriving Repr, DecidableEq

/-- The name of a color type in messages. -/
def colorTypeName : Nat → String
  | 0 => "Grayscale"
  | 2 => "Rgb"
  | 3 => "Indexed"
  | 4 => "GrayscaleAlpha"
  | _ => "Rgba"

/-- The name of a bit depth in messages. -/
def bitDepthName : Nat → String
  | 1 => "One"
  | 2 => "Two"
  | 4 => "Four"
  | 8 => "Eight"
  | _ => "Sixteen"

/-- Lowercase hexadecimal digits of a number. -/
def hex (n : Nat) : String := String.ofList (Nat.toDigits 16 n)

/-- The wording of a reading error. -/
def PngError.message : PngError → String
  | .invalidSignature => "Invalid PNG signature."
  | .unexpectedEof => "Unexpected end of data before image end."
  | .crcMismatch stored computed kind =>
    "CRC error: expected 0x" ++ hex stored ++ " have 0x" ++ hex computed ++ " while decoding " ++
      chunkTypeText kind ++ " chunk."
  | .chunkBeforeIhdr kind => chunkTypeText kind ++ " chunk appeared before IHDR chunk"
  | .invalidDimensions => "Invalid image dimensions"
  | .invalidBitDepth d => "Invalid bit depth " ++ toString d ++ "."
  | .invalidColorType c => "Invalid color type " ++ toString c ++ "."
  | .invalidColorBitDepth c d =>
    "Invalid color/depth combination in header: " ++ colorTypeName c ++ "/" ++ bitDepthName d
  | .unknownCompressionMethod m => "Unknown compression method " ++ toString m ++ "."
  | .unknownFilterMethod m => "Unknown filter method " ++ toString m ++ "."
  | .unknownInterlaceMethod m => "Unknown interlace method " ++ toString m ++ "."
  | .paletteRequired => "Missing palette of indexed image."
  | .missingImageData => "IDAT or fdAT chunk is missing."
  | .corruptFlateStream e => "Corrupt deflate stream. " ++ e.name
  | .noMoreImageData => "IDAT or fDAT chunk does not have enough data for image."

/-- What the `IHDR` chunk says. -/
structure Header where
  width : Nat
  height : Nat
  bitDepth : Nat
  colorType : Nat
  interlaced : Bool
  deriving Repr, DecidableEq

/-- How many samples a pixel of a color type has. -/
def channels : Nat → Nat
  | 0 => 1
  | 2 => 3
  | 3 => 1
  | 4 => 2
  | _ => 4

/-- The bit depths each color type allows. -/
def depthAllowed (colorType depth : Nat) : Bool :=
  match colorType with
  | 0 => [1, 2, 4, 8, 16].contains depth
  | 3 => [1, 2, 4, 8].contains depth
  | _ => [8, 16].contains depth

/-- A big-endian number from four bytes at an offset. -/
def be32At (d : ByteArray) (i : Nat) : Option Nat := do
  let a ← d[i]?
  let b ← d[i + 1]?
  let c ← d[i + 2]?
  let e ← d[i + 3]?
  pure (((a.toNat * 256 + b.toNat) * 256 + c.toNat) * 256 + e.toNat)

/-- Reads an `IHDR` chunk's data. -/
def parseHeader (d : ByteArray) : Except PngError Header := do
  let some width := be32At d 0 | throw .unexpectedEof
  let some height := be32At d 4 | throw .unexpectedEof
  let byte (i : Nat) : Nat := (d[i]?.map UInt8.toNat).getD 0
  let depth := byte 8
  let colorType := byte 9
  if width == 0 || height == 0 then throw .invalidDimensions
  if !([1, 2, 4, 8, 16].contains depth) then throw (.invalidBitDepth depth)
  if !([0, 2, 3, 4, 6].contains colorType) then throw (.invalidColorType colorType)
  if !depthAllowed colorType depth then throw (.invalidColorBitDepth colorType depth)
  if byte 10 != 0 then throw (.unknownCompressionMethod (byte 10))
  if byte 11 != 0 then throw (.unknownFilterMethod (byte 11))
  if byte 12 > 1 then throw (.unknownInterlaceMethod (byte 12))
  pure ⟨width, height, depth, colorType, byte 12 == 1⟩

/-- What the chunks up to the end of the image data gave. -/
structure Chunks where
  header : Option Header := none
  palette : Option ByteArray := none
  data : ByteArray := ByteArray.empty
  inData : Bool := false

/-- The four bytes of a chunk type. -/
def typeIHDR : List UInt8 := [73, 72, 68, 82]
def typePLTE : List UInt8 := [80, 76, 84, 69]
def typeIDAT : List UInt8 := [73, 68, 65, 84]
def typeIEND : List UInt8 := [73, 69, 78, 68]

/-- Walks the chunks from offset `i` to the end of the run of `IDAT` chunks. -/
def readChunks (d : ByteArray) (acc : Chunks) (i : Nat) : Nat → Except PngError Chunks
  | 0 => .error .unexpectedEof
  | n + 1 => do
    let some len := be32At d i | throw .unexpectedEof
    if i + 8 > d.size then throw .unexpectedEof
    let kind := (d.extract (i + 4) (i + 8)).toList
    if acc.inData && kind != typeIDAT then return acc
    if acc.header.isNone && kind != typeIHDR then throw (.chunkBeforeIhdr kind)
    if kind == typeIDAT then
      if let some h := acc.header then
        if h.colorType == 3 && acc.palette.isNone then throw .paletteRequired
    if kind == typeIEND then throw .missingImageData
    let some stored := be32At d (i + 8 + len) | throw .unexpectedEof
    let body := d.extract (i + 8) (i + 8 + len)
    let computed := (crc32 (kind ++ body.toList)).toNat
    if stored != computed then throw (.crcMismatch stored computed kind)
    let acc ← if kind == typeIHDR then do
        let h ← parseHeader body
        pure { acc with header := some h }
      else if kind == typePLTE then pure { acc with palette := some body }
      else if kind == typeIDAT then pure { acc with data := acc.data ++ body, inData := true }
      else pure acc
    readChunks d acc (i + 12 + len) n

/-- The bytes of one row of `w` pixels. -/
def rowBytes (h : Header) (w : Nat) : Nat := (w * channels h.colorType * h.bitDepth + 7) / 8

/-- The distance in bytes to the corresponding byte of the pixel before. -/
def filterDistance (h : Header) : Nat := max 1 (channels h.colorType * h.bitDepth / 8)

/-- The Paeth predictor: of left, up and upper left, the one closest to left + up - upper
left, preferring them in that order. -/
def paeth (a b c : Nat) : Nat :=
  let p : Int := (a : Int) + b - c
  let pa := (p - a).natAbs
  let pb := (p - b).natAbs
  let pc := (p - c).natAbs
  if pa ≤ pb && pa ≤ pc then a else if pb ≤ pc then b else c

/-- Undoes a row's filter, given the row above (unfiltered). -/
def unfilter (kind : Nat) (dist : Nat) (prev row : Array UInt8) : Except PngError (Array UInt8) :=
  if kind > 4 then .error (.unknownFilterMethod kind)
  else
    .ok ((List.range row.size).foldl (fun out j =>
      let x := (row.getD j 0).toNat
      let a := if j ≥ dist then (out.getD (j - dist) 0).toNat else 0
      let b := (prev.getD j 0).toNat
      let c := if j ≥ dist then (prev.getD (j - dist) 0).toNat else 0
      let predicted := match kind with
        | 1 => a
        | 2 => b
        | 3 => (a + b) / 2
        | 4 => paeth a b c
        | _ => 0
      out.push ((x + predicted) % 256).toUInt8) #[])

/-- Unfilters the `rows` rows of `len` bytes of one pass, starting at offset `i` of the
inflated data; gives the rows and the offset after them. -/
def unfilterPass (h : Header) (data : Array UInt8) (len : Nat) (prev : Array UInt8) (i : Nat)
    (acc : Array (Array UInt8)) : Nat → Except PngError (Array (Array UInt8) × Nat)
  | 0 => .ok (acc, i)
  | n + 1 => do
    if i + 1 + len > data.size then throw .noMoreImageData
    let row ← unfilter (data.getD i 0).toNat (filterDistance h) prev (data.extract (i + 1) (i + 1 + len))
    unfilterPass h data len row (i + 1 + len) (acc.push row) n

/-- The samples of an unfiltered row: bytes, pairs of bytes, or bits taken from the
most significant end. -/
def rowSamples (depth count : Nat) (row : Array UInt8) : Array Nat :=
  (List.range count).toArray.map fun k =>
    if depth == 16 then (row.getD (2 * k) 0).toNat * 256 + (row.getD (2 * k + 1) 0).toNat
    else if depth == 8 then (row.getD k 0).toNat
    else
      let bit := k * depth
      let byte := (row.getD (bit / 8) 0).toNat
      byte / Nat.pow 2 (8 - depth - bit % 8) % Nat.pow 2 depth

/-- The luminance of a color, rounded down. -/
def luma (r g b : Nat) : Nat := (2126 * r + 7152 * g + 722 * b) / 10000

/-- A 16-bit level as an eight-bit one, rounded to nearest. -/
def narrow (v : Nat) : Nat := (v + 128) / 257

/-- The gray level of a pixel from its samples. -/
def grayOf (h : Header) (palette : ByteArray) (s : Array Nat) : Nat :=
  let v (k : Nat) : Nat := s.getD k 0
  match h.colorType with
  | 0 | 4 =>
    if h.bitDepth == 16 then narrow (v 0)
    else v 0 * (255 / (Nat.pow 2 h.bitDepth - 1))
  | 3 =>
    let p (k : Nat) : Nat := (palette[3 * v 0 + k]?.map UInt8.toNat).getD 0
    luma (p 0) (p 1) (p 2)
  | _ => if h.bitDepth == 16 then narrow (luma (v 0) (v 1) (v 2)) else luma (v 0) (v 1) (v 2)

/-- The gray levels of an unfiltered row of `w` pixels. -/
def rowLevels (h : Header) (palette : ByteArray) (w : Nat) (row : Array UInt8) : Array Nat :=
  let n := channels h.colorType
  let samples := rowSamples h.bitDepth (w * n) row
  (List.range w).toArray.map fun x => grayOf h palette (samples.extract (x * n) (x * n + n))

/-- The Adam7 passes: first column and row, and the steps between them. -/
def adam7 : List (Nat × Nat × Nat × Nat) :=
  [(0, 0, 8, 8), (4, 0, 8, 8), (0, 4, 4, 8), (2, 0, 4, 4), (0, 2, 2, 4), (1, 0, 2, 2), (0, 1, 1, 2)]

/-- How many of `n` places from `start` on are hit with step `step`. -/
def passCount (n start step : Nat) : Nat := if n > start then (n - start + step - 1) / step else 0

/-- The gray levels of the picture, row by row, from the inflated scanlines. -/
def levels (h : Header) (palette : ByteArray) (data : Array UInt8) : Except PngError (Array (Array Nat)) :=
  if !h.interlaced then do
    let (rows, _) ← unfilterPass h data (rowBytes h h.width) (Array.replicate (rowBytes h h.width) 0) 0 #[] h.height
    pure (rows.map (rowLevels h palette h.width))
  else do
    let blank := Array.replicate h.height (Array.replicate h.width 0)
    let (grid, _) ← adam7.foldlM (fun (grid, i) (x0, y0, dx, dy) => do
      let pw := passCount h.width x0 dx
      let ph := passCount h.height y0 dy
      if pw == 0 || ph == 0 then pure (grid, i)
      else
        let len := rowBytes h pw
        let (rows, i) ← unfilterPass h data len (Array.replicate len 0) i #[] ph
        let grid := (List.range ph).foldl (fun g py =>
          let lv := rowLevels h palette pw (rows.getD py #[])
          g.modify (y0 + py * dy) fun row =>
            (List.range pw).foldl (fun row px => row.set! (x0 + px * dx) (lv.getD px 0)) row) grid
        pure (grid, i)) (blank, 0)
    pure grid

/-- Reads a PNG file as gray levels. -/
def decode (bytes : List UInt8) : Except PngError Picture := do
  let d := ByteArray.mk bytes.toArray
  if d.size < 8 then throw .unexpectedEof
  if (d.extract 0 8).toList != signature then throw .invalidSignature
  let chunks ← readChunks d {} 8 (d.size + 1)
  let some h := chunks.header | throw .missingImageData
  let data ← match zlibInflate chunks.data with
    | .ok data => pure data
    | .error .insufficientInput => throw .noMoreImageData
    | .error e => throw (.corruptFlateStream e)
  let grid ← levels h (chunks.palette.getD ByteArray.empty) data
  pure ⟨h.width, h.height, grid.toList.map fun r => r.toList⟩

end Runbook.Png
