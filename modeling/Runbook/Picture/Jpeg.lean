import Runbook.Files.Store
/-!
# JPEG pictures of gray levels

A baseline JPEG file is a sequence of marker segments: the start of image, a JFIF
header, the frame header (precision, size and components), quantization tables, Huffman
tables, the scan header, the entropy-coded data of the scan, and the end of image.

Writing takes a gray picture in 8×8 blocks, left to right and top to bottom; a block
reaching past the picture's edge repeats the last column and row. Each block goes
through the integer forward DCT of the independent JPEG group's "slow integer" method
(13-bit constants, two extra bits between the passes, results scaled by 8). A
coefficient is divided by 8 with truncation, then by its quantization step with
rounding half away from zero; the steps are the standard luminance table scaled for
quality 75. The first coefficient is sent as the difference from the block before, the
others in zigzag order as runs of zeros and sizes, all with the standard Huffman codes.
Bytes `0xFF` in the coded data are followed by a zero byte, and the last byte is padded
with one bits.

Reading undoes this for baseline and extended sequential files with one component:
Huffman decoding, dequantization, and the integer inverse DCT whose constants are the
cosines scaled by 4096 (12 bits), with two extra bits kept after the column pass and
the result rounded, shifted by 128 and clamped to 0..255. A block with no nonzero AC
coefficient is filled with its DC value divided by 8 (rounded down) plus 128.
-/

namespace Runbook.Jpeg

/-! ## Tables -/

/-- The luminance quantization table of the standard, row by row. -/
def standardLuma : List Nat :=
  [16, 11, 10, 16, 24, 40, 51, 61, 12, 12, 14, 19, 26, 58, 60, 55, 14, 13, 16, 24, 40, 57,
    69, 56, 14, 17, 22, 29, 51, 87, 80, 62, 18, 22, 37, 56, 68, 109, 103, 77, 24, 35, 55, 64,
    81, 104, 113, 92, 49, 64, 78, 87, 103, 121, 120, 101, 72, 92, 95, 98, 112, 100, 103, 99]

/-- The quantization steps at a quality from 1 to 100: the standard table scaled by
`5000 / quality` below 50 and `200 - 2 quality` from 50 on, in hundredths, rounded, and
kept within 1..255. -/
def qualityTable (quality : Nat) : Array Nat :=
  let q := max 1 (min quality 100)
  let scale := if q < 50 then 5000 / q else 200 - q * 2
  (standardLuma.map fun v => max 1 (min 255 ((v * scale + 50) / 100))).toArray

/-- The natural (row by row) index of each position in zigzag order. -/
def unzigzag : Array Nat :=
  #[0, 1, 8, 16, 9, 2, 3, 10, 17, 24, 32, 25, 18, 11, 4, 5, 12, 19, 26, 33, 40, 48, 41, 34,
    27, 20, 13, 6, 7, 14, 21, 28, 35, 42, 49, 56, 57, 50, 43, 36, 29, 22, 15, 23, 30, 37, 44,
    51, 58, 59, 52, 45, 38, 31, 39, 46, 53, 60, 61, 54, 47, 55, 62, 63]

/-- How many standard luminance DC codes have each length from 1 to 16. -/
def dcCounts : List Nat := [0, 1, 5, 1, 1, 1, 1, 1, 1, 0, 0, 0, 0, 0, 0, 0]

/-- The standard luminance DC values, in code order. -/
def dcValues : List Nat := List.range 12

/-- How many standard luminance AC codes have each length from 1 to 16. -/
def acCounts : List Nat := [0, 2, 1, 3, 3, 2, 4, 3, 5, 5, 4, 4, 0, 0, 1, 0x7D]

/-- The standard luminance AC values, in code order. -/
def acValues : List Nat :=
  [0x01, 0x02, 0x03, 0x00, 0x04, 0x11, 0x05, 0x12, 0x21, 0x31, 0x41, 0x06, 0x13, 0x51, 0x61,
    0x07, 0x22, 0x71, 0x14, 0x32, 0x81, 0x91, 0xA1, 0x08, 0x23, 0x42, 0xB1, 0xC1, 0x15, 0x52,
    0xD1, 0xF0, 0x24, 0x33, 0x62, 0x72, 0x82, 0x09, 0x0A, 0x16, 0x17, 0x18, 0x19, 0x1A, 0x25,
    0x26, 0x27, 0x28, 0x29, 0x2A, 0x34, 0x35, 0x36, 0x37, 0x38, 0x39, 0x3A, 0x43, 0x44, 0x45,
    0x46, 0x47, 0x48, 0x49, 0x4A, 0x53, 0x54, 0x55, 0x56, 0x57, 0x58, 0x59, 0x5A, 0x63, 0x64,
    0x65, 0x66, 0x67, 0x68, 0x69, 0x6A, 0x73, 0x74, 0x75, 0x76, 0x77, 0x78, 0x79, 0x7A, 0x83,
    0x84, 0x85, 0x86, 0x87, 0x88, 0x89, 0x8A, 0x92, 0x93, 0x94, 0x95, 0x96, 0x97, 0x98, 0x99,
    0x9A, 0xA2, 0xA3, 0xA4, 0xA5, 0xA6, 0xA7, 0xA8, 0xA9, 0xAA, 0xB2, 0xB3, 0xB4, 0xB5, 0xB6,
    0xB7, 0xB8, 0xB9, 0xBA, 0xC2, 0xC3, 0xC4, 0xC5, 0xC6, 0xC7, 0xC8, 0xC9, 0xCA, 0xD2, 0xD3,
    0xD4, 0xD5, 0xD6, 0xD7, 0xD8, 0xD9, 0xDA, 0xE1, 0xE2, 0xE3, 0xE4, 0xE5, 0xE6, 0xE7, 0xE8,
    0xE9, 0xEA, 0xF1, 0xF2, 0xF3, 0xF4, 0xF5, 0xF6, 0xF7, 0xF8, 0xF9, 0xFA]

/-- The canonical codes of a Huffman table, as (value, length, code): codes of each
length are consecutive numbers, and each length starts at twice the code after the
last one of the length before. -/
def canonicalCodes (counts values : List Nat) : List (Nat × Nat × Nat) :=
  let (_, _, _, out) := counts.foldl (fun (code, len, rest, out) n =>
    let len := len + 1
    let mine := (rest.take n).zipIdx.map fun (v, i) => (v, len, code + i)
    ((code + n) * 2, len, rest.drop n, out ++ mine)) (0, 0, values, [])
  out

/-- The length and code of each value from 0 to 255, `(0, 0)` for a value without one. -/
def codeTable (counts values : List Nat) : Array (Nat × Nat) :=
  (canonicalCodes counts values).foldl (fun t (v, len, code) => t.set! v (len, code))
    (Array.replicate 256 (0, 0))

/-! ## The forward DCT -/

/-- Multiplies out one 1-D pass of the slow integer DCT over eight values, the even part
shifted left by `up` and every other output rounded off by `down` bits. -/
def fdct1 (s : Array Int) (up down : Nat) (dcBias : Int) : Array Int :=
  let v (k : Nat) : Int := s.getD k 0
  let t0 := v 0 + v 7
  let t1 := v 1 + v 6
  let t2 := v 2 + v 5
  let t3 := v 3 + v 4
  let t10 := t0 + t3
  let t12 := t0 - t3
  let t11 := t1 + t2
  let t13 := t1 - t2
  let d0 := v 0 - v 7
  let d1 := v 1 - v 6
  let d2 := v 2 - v 5
  let d3 := v 3 - v 4
  let fudge : Int := Int.ofNat (Nat.pow 2 (down - 1))
  let z1 := (t12 + t13) * 4433 + fudge
  let e12 := d0 + d2
  let e13 := d1 + d3
  let z5 := (e12 + e13) * 9633 + fudge
  let e12 := e12 * (-3196) + z5
  let e13 := e13 * (-16069) + z5
  let za := (d0 + d3) * (-7373)
  let zb := (d1 + d2) * (-20995)
  let o0 := d0 * 12299 + za + e12
  let o3 := d3 * 2446 + za + e13
  let o1 := d1 * 25172 + zb + e13
  let o2 := d2 * 16819 + zb + e12
  let even0 := if up > 0 then (t10 + t11 + dcBias) * Int.ofNat (Nat.pow 2 up) else (t10 + t11 + dcBias) >>> (2 : Nat)
  let even4 := if up > 0 then (t10 - t11) * Int.ofNat (Nat.pow 2 up) else (t10 - t11 + dcBias) >>> (2 : Nat)
  #[even0, o0 >>> down, (z1 + t12 * 6270) >>> down, o1 >>> down, even4, o2 >>> down,
    (z1 - t13 * 15137) >>> down, o3 >>> down]

/-- The forward DCT of a block of 64 samples, row by row; the results are the true
coefficients scaled by 8. -/
def fdct (samples : Array Nat) : Array Int :=
  let rows := (List.range 8).map fun y =>
    fdct1 ((List.range 8).toArray.map fun x => (samples.getD (y * 8 + x) 0 : Int)) 2 11 (-1024)
  let cols := (List.range 8).map fun x =>
    fdct1 ((List.range 8).toArray.map fun y => (rows.getD y #[]).getD x 0) 0 15 2
  ((List.range 64).map fun k => (cols.getD (k % 8) #[]).getD (k / 8) 0).toArray

/-! ## Writing -/

/-- A quotient rounded to nearest, halves away from zero, for a positive divisor. -/
def roundDiv (a : Int) (q : Nat) : Int :=
  if a ≥ 0 then (2 * a + q) / (2 * q) else -((2 * (-a) + q) / (2 * q))

/-- Quantizes DCT results: each is divided by 8 with truncation toward zero, then by its
step, rounded. -/
def quantize (table : Array Nat) (coeffs : Array Int) : Array Int :=
  (List.range 64).toArray.map fun i => roundDiv ((coeffs.getD i 0).tdiv 8) (table.getD i 1)

/-- The bits of entropy-coded data written so far: whole bytes, and up to seven bits
waiting in the high end of a 32-bit accumulator. -/
structure BitWriter where
  out : Array UInt8 := #[]
  acc : Nat := 0
  count : Nat := 0

/-- Emits whole bytes from the accumulator; a byte `0xFF` is followed by a zero byte. -/
def BitWriter.drain (w : BitWriter) : Nat → BitWriter
  | 0 => w
  | n + 1 =>
    if w.count < 8 then w
    else
      let byte := w.acc / 16777216 % 256
      let out := w.out.push byte.toUInt8
      let out := if byte == 255 then out.push 0 else out
      BitWriter.drain { out, acc := w.acc * 256 % 4294967296, count := w.count - 8 } n

/-- Writes the low `size` bits of `bits`, most significant first. -/
def BitWriter.put (w : BitWriter) (bits size : Nat) : BitWriter :=
  if size == 0 then w
  else
    let count := w.count + size
    let acc := (w.acc + bits % Nat.pow 2 size * Nat.pow 2 (32 - count)) % 4294967296
    BitWriter.drain { w with acc, count } 4

/-- Writes a value's Huffman code. -/
def BitWriter.code (w : BitWriter) (table : Array (Nat × Nat)) (value : Nat) : BitWriter :=
  let (len, code) := table.getD value (0, 0)
  w.put code len

/-- The size category of a coefficient and the bits that follow it: the value itself
when positive, else the value minus one in as many bits. -/
def category (c : Int) : Nat × Nat :=
  let size := (List.range 17).find? (fun n => c.natAbs < Nat.pow 2 n) |>.getD 16
  (size, if c < 0 then (c - 1 + Nat.pow 2 size).toNat else c.toNat)

/-- Writes the runs of zeros and nonzero coefficients from zigzag position `k` on; runs
longer than 15 before a coefficient are cut by the code `0xF0`. -/
def writeAc (ac : Array (Nat × Nat)) (block : Array Int) (w : BitWriter) (run k : Nat) : Nat → BitWriter
  | 0 => w
  | n + 1 =>
    if k ≥ 64 then w
    else
      let c := block.getD (unzigzag.getD k 0) 0
      if c == 0 then writeAc ac block w (run + 1) (k + 1) n
      else
        let w := (List.range (run / 16)).foldl (fun w _ => w.code ac 0xF0) w
        let (size, bits) := category c
        let w := (w.code ac ((run % 16) * 16 + size)).put bits size
        writeAc ac block w 0 (k + 1) n

/-- Writes a quantized block: the DC difference from the block before, the AC
coefficients, and an end-of-block code when the last one is zero. -/
def writeBlock (dc ac : Array (Nat × Nat)) (block : Array Int) (prev : Int) (w : BitWriter) : BitWriter :=
  let (size, bits) := category (block.getD 0 0 - prev)
  let w := (w.code dc size).put bits size
  let w := writeAc ac block w 0 1 64
  if block.getD 63 0 == 0 then w.code ac 0 else w

/-- The 64 levels of the block at `(x0, y0)`, a level past the edge taken from the
nearest column and row inside. -/
def blockAt (p : Picture) (x0 y0 : Nat) : Array Nat :=
  let grid := (p.rows.map List.toArray).toArray
  (List.range 64).toArray.map fun k =>
    let x := min (x0 + k % 8) (p.width - 1)
    let y := min (y0 + k / 8) (p.height - 1)
    (grid.getD y #[]).getD x 0

/-- A segment: its marker, its length counting the two length bytes, and its data. -/
def segment (marker : UInt8) (data : List UInt8) : List UInt8 :=
  [0xFF, marker, ((data.length + 2) / 256).toUInt8, ((data.length + 2) % 256).toUInt8] ++ data

/-- A number as two big-endian bytes. -/
def be16 (n : Nat) : List UInt8 := [(n / 256 % 256).toUInt8, (n % 256).toUInt8]

/-- Bytes from numbers. -/
def bytesOf (ns : List Nat) : List UInt8 := ns.map Nat.toUInt8

/-- A baseline JPEG file of a gray picture at quality 75. -/
def encodeGray (p : Picture) : List UInt8 :=
  let table := qualityTable 75
  let dc := codeTable dcCounts dcValues
  let ac := codeTable acCounts acValues
  let blocks := (List.range ((p.height + 7) / 8)).flatMap fun row =>
    (List.range ((p.width + 7) / 8)).map fun col => (col * 8, row * 8)
  let (w, _) := blocks.foldl (fun (w, prev) (x0, y0) =>
    let q := quantize table (fdct (blockAt p x0 y0))
    (writeBlock dc ac q prev w, q.getD 0 0)) (({} : BitWriter), (0 : Int))
  let w := w.put 0x7F 7
  [0xFF, 0xD8] ++
    segment 0xE0 (bytesOf [0x4A, 0x46, 0x49, 0x46, 0, 1, 2, 0, 0, 1, 0, 1, 0, 0]) ++
    segment 0xC0 ([8] ++ be16 p.height ++ be16 p.width ++ [1, 1, 0x11, 0]) ++
    segment 0xDB (0 :: (unzigzag.toList.map fun i => (table.getD i 1).toUInt8)) ++
    segment 0xC4 (bytesOf (0 :: dcCounts ++ dcValues)) ++
    segment 0xC4 (bytesOf (0x10 :: acCounts ++ acValues)) ++
    segment 0xDA (bytesOf [1, 1, 0, 0, 63, 0]) ++
    w.out.toList ++ [0xFF, 0xD9]

/-! ## Reading -/

/-- Why a JPEG file could not be read. -/
inductive JpegError where
  /-- The file does not start with the start-of-image marker; the first two bytes. -/
  | illegalStart (bytes : Nat)
  | exhausted
  | zeroSize
  | unsupported (what : String)
  | badHuffman
  | malformed (what : String)
  deriving Repr, DecidableEq

/-- Uppercase hexadecimal digits of a number. -/
def hexUpper (n : Nat) : String := String.ofList ((Nat.toDigits 16 n).map Char.toUpper)

/-- The wording of a reading error. -/
def JpegError.message : JpegError → String
  | .illegalStart b => "Error parsing image. Illegal start bytes:" ++ hexUpper b
  | .exhausted => "Exhausted data in the image"
  | .zeroSize => "Image width or height is set to zero, cannot continue"
  | .unsupported what => what
  | .badHuffman => "Error decoding huffman values: Bad Huffman Code, corrupt JPEG"
  | .malformed what => what

/-- A Huffman table for reading: the (length, code, value) triples. -/
abbrev Decoding := List (Nat × Nat × Nat)

/-- What the headers before the scan gave. -/
structure Headers where
  width : Nat := 0
  height : Nat := 0
  components : Nat := 0
  /-- Quantization table number of the first component. -/
  quantIndex : Nat := 0
  /-- Quantization tables by number, in natural order. -/
  quant : List (Nat × Array Nat) := []
  dcTables : List (Nat × Decoding) := []
  acTables : List (Nat × Decoding) := []
  restart : Nat := 0
  framed : Bool := false
  /-- The DC and AC table numbers the scan names for its first component. -/
  scanTables : Nat := 0

/-- A byte at an offset. -/
def byteAt (d : ByteArray) (i : Nat) : Nat := (d[i]?.map UInt8.toNat).getD 0

/-- A big-endian 16-bit number at an offset. -/
def be16At (d : ByteArray) (i : Nat) : Nat := byteAt d i * 256 + byteAt d (i + 1)

/-- Reads the quantization tables of a segment's data. -/
def readQuant (d : ByteArray) (i stop : Nat) (acc : List (Nat × Array Nat)) :
    Nat → List (Nat × Array Nat)
  | 0 => acc
  | n + 1 =>
    if i ≥ stop then acc
    else
      let pq := byteAt d i / 16
      let tq := byteAt d i % 16
      let width := if pq == 0 then 1 else 2
      let zig := (List.range 64).map fun k =>
        if pq == 0 then byteAt d (i + 1 + k) else be16At d (i + 1 + 2 * k)
      let natural := (List.range 64).foldl (fun t k => t.set! (unzigzag.getD k 0) (zig.getD k 0))
        (Array.replicate 64 0)
      readQuant d (i + 1 + 64 * width) stop ((tq, natural) :: acc.filter (·.1 != tq)) n

/-- Reads the Huffman tables of a segment's data into the DC and AC lists. -/
def readHuffman (d : ByteArray) (i stop : Nat) (dcs acs : List (Nat × Decoding)) :
    Nat → List (Nat × Decoding) × List (Nat × Decoding)
  | 0 => (dcs, acs)
  | n + 1 =>
    if i ≥ stop then (dcs, acs)
    else
      let tc := byteAt d i / 16
      let th := byteAt d i % 16
      let counts := (List.range 16).map fun k => byteAt d (i + 1 + k)
      let total := counts.foldl (· + ·) 0
      let values := (List.range total).map fun k => byteAt d (i + 17 + k)
      let table := (canonicalCodes counts values).map fun (v, len, code) => (len, code, v)
      let next := i + 17 + total
      if tc == 0 then readHuffman d next stop ((th, table) :: dcs.filter (·.1 != th)) acs n
      else readHuffman d next stop dcs ((th, table) :: acs.filter (·.1 != th)) n

/-- Reads the segments from offset `i` up to the start of the scan data, which follows
the scan header; gives the headers and where the data starts. -/
def readHeaders (d : ByteArray) (h : Headers) (i : Nat) : Nat → Except JpegError (Headers × Nat)
  | 0 => .error .exhausted
  | n + 1 => do
    if i + 1 ≥ d.size then throw .exhausted
    if byteAt d i != 0xFF then readHeaders d h (i + 1) n
    else
      let m := byteAt d (i + 1)
      if m == 0xFF || m == 0xD8 || m == 0 then readHeaders d h (i + 1) n
      else if m == 0xD9 then throw .exhausted
      else
        if i + 3 ≥ d.size then throw .exhausted
        let len := be16At d (i + 2)
        let body := i + 4
        let stop := i + 2 + len
        if stop > d.size then throw .exhausted
        if m == 0xDB then
          readHeaders d { h with quant := readQuant d body stop h.quant len } stop n
        else if m == 0xC4 then
          let (dcs, acs) := readHuffman d body stop h.dcTables h.acTables len
          readHeaders d { h with dcTables := dcs, acTables := acs } stop n
        else if m == 0xDD then readHeaders d { h with restart := be16At d body } stop n
        else if m == 0xC0 || m == 0xC1 then
          let height := be16At d (body + 1)
          let width := be16At d (body + 3)
          let count := byteAt d (body + 5)
          if width == 0 || height == 0 then throw .zeroSize
          let framed : Headers :=
            { h with width, height, components := count, quantIndex := byteAt d (body + 8), framed := true }
          readHeaders d framed stop n
        else if (0xC2 ≤ m && m ≤ 0xCF) && m != 0xC4 && m != 0xC8 && m != 0xCC then
          throw (.unsupported "The decoder for Jpeg does not support the format features of this file")
        else if m == 0xDA then
          if !h.framed then throw (.malformed "Error parsing SOS Segment. Reason:SOS before SOF")
          pure ({ h with scanTables := byteAt d (body + 2) }, stop)
        else readHeaders d h stop n

/-- The entropy-coded bytes from offset `i`, unstuffed, cut into restart intervals, up
to the first marker that is not a restart marker. -/
def scanBytes (d : ByteArray) (i : Nat) (cur : Array UInt8) (acc : Array (Array UInt8)) :
    Nat → Array (Array UInt8)
  | 0 => acc.push cur
  | n + 1 =>
    match d[i]? with
    | none => acc.push cur
    | some b =>
      if b != 0xFF then scanBytes d (i + 1) (cur.push b) acc n
      else
        let m := byteAt d (i + 1)
        if i + 1 ≥ d.size then acc.push cur
        else if m == 0 then scanBytes d (i + 2) (cur.push 0xFF) acc n
        else if 0xD0 ≤ m && m ≤ 0xD7 then scanBytes d (i + 2) #[] (acc.push cur) n
        else if m == 0xFF then scanBytes d (i + 1) cur acc n
        else acc.push cur

/-- A reader of entropy-coded bits, most significant first; past the end it reads
zeros. -/
structure BitReader where
  data : Array UInt8
  pos : Nat := 0

/-- Reads one bit. -/
def BitReader.bit (r : BitReader) : Nat × BitReader :=
  (((r.data.getD (r.pos / 8) 0).toNat / Nat.pow 2 (7 - r.pos % 8)) % 2, { r with pos := r.pos + 1 })

/-- Reads `n` bits as a number, the first bit the most significant. -/
def BitReader.bits (r : BitReader) (acc : Nat) : Nat → Nat × BitReader
  | 0 => (acc, r)
  | n + 1 => let (b, r) := r.bit; r.bits (acc * 2 + b) n

/-- Decodes a Huffman-coded value, reading one bit more for each longer code. -/
def decodeValue (table : Decoding) (r : BitReader) (code len : Nat) : Nat → Except JpegError (Nat × BitReader)
  | 0 => .error .badHuffman
  | n + 1 =>
    let (b, r) := r.bit
    let code := code * 2 + b
    let len := len + 1
    match table.find? fun (l, c, _) => l == len && c == code with
    | some (_, _, v) => .ok (v, r)
    | none => decodeValue table r code len n

/-- The value of `s` received bits: as they are when the top bit is set, else negative. -/
def extend (v s : Nat) : Int :=
  if s == 0 then 0 else if v < Nat.pow 2 (s - 1) then (v : Int) - Nat.pow 2 s + 1 else v

/-- Reads the AC coefficients of a block from zigzag position `k` on. -/
def readAc (ac : Decoding) (r : BitReader) (coef : Array Int) (k : Nat) :
    Nat → Except JpegError (Array Int × BitReader)
  | 0 => .ok (coef, r)
  | n + 1 =>
    if k ≥ 64 then .ok (coef, r)
    else do
      let (rs, r) ← decodeValue ac r 0 0 16
      let run := rs / 16
      let size := rs % 16
      if size == 0 then
        if run == 15 then readAc ac r coef (k + 16) n else .ok (coef, r)
      else
        let k := k + run
        let (v, r) := r.bits 0 size
        if k ≥ 64 then .ok (coef, r)
        else readAc ac r (coef.set! (unzigzag.getD k 0) (extend v size)) (k + 1) n

/-- Reads one block: the DC difference and the AC coefficients, in natural order; gives
the block, the new DC predictor and the reader. -/
def readBlock (dc ac : Decoding) (pred : Int) (r : BitReader) : Except JpegError (Array Int × Int × BitReader) := do
  let (s, r) ← decodeValue dc r 0 0 16
  let (v, r) := r.bits 0 s
  let value := pred + extend v s
  let (coef, r) ← readAc ac r ((Array.replicate 64 0).set! 0 value) 1 64
  pure (coef, value, r)

/-! ## The inverse DCT -/

/-- The level of an inverse DCT output: shifted down by 17 bits and kept within
0..255. -/
def clampLevel (x : Int) : Nat := (max 0 (min 255 (x >>> (17 : Nat)))).toNat

/-- One 1-D pass of the inverse DCT over eight values, giving the four even sums and
the four odd sums; output `k` is `even k + odd k` and output `7 - k` is
`even k - odd k`. -/
def idct1 (v : Nat → Int) (bias : Int) : Array Int × Array Int :=
  let p1 := (v 2 + v 6) * 2217
  let t2 := p1 + v 6 * (-7567)
  let t3 := p1 + v 2 * 3135
  let t0 := (v 0 + v 4) * 4096
  let t1 := (v 0 - v 4) * 4096
  let x0 := t0 + t3 + bias
  let x3 := t0 - t3 + bias
  let x1 := t1 + t2 + bias
  let x2 := t1 - t2 + bias
  let q0 := v 7
  let q1 := v 5
  let q2 := v 3
  let q3 := v 1
  let p3 := q0 + q2
  let p4 := q1 + q3
  let p1 := q0 + q3
  let p2 := q1 + q2
  let p5 := (p3 + p4) * 4816
  let p1 := p5 + p1 * (-3685)
  let p2 := p5 + p2 * (-10497)
  let p3 := p3 * (-8034)
  let p4 := p4 * (-1597)
  let o3 := q3 * 6149 + p1 + p4
  let o2 := q2 * 12586 + p2 + p3
  let o1 := q1 * 8410 + p2 + p4
  let o0 := q0 * 1223 + p1 + p3
  (#[x0, x1, x2, x3], #[o3, o2, o1, o0])

/-- The inverse DCT of a dequantized block in natural order, giving 64 levels row by
row. -/
def idct (coef : Array Int) : Array Nat :=
  if (List.range 63).all fun k => coef.getD (k + 1) 0 == 0 then
    Array.replicate 64 (max 0 (min 255 ((coef.getD 0 0 >>> (3 : Nat)) + 128))).toNat
  else
    let cols := (List.range 8).map fun x =>
      let (e, o) := idct1 (fun k => coef.getD (k * 8 + x) 0) 512
      (List.range 8).toArray.map fun y =>
        if y < 4 then (e.getD y 0 + o.getD y 0) >>> (10 : Nat)
        else (e.getD (7 - y) 0 - o.getD (7 - y) 0) >>> (10 : Nat)
    let rows := (List.range 8).map fun y =>
      let (e, o) := idct1 (fun k => (cols.getD k #[]).getD y 0) (65536 + 128 * 131072)
      (List.range 8).toArray.map fun x =>
        if x < 4 then clampLevel (e.getD x 0 + o.getD x 0)
        else clampLevel (e.getD (7 - x) 0 - o.getD (7 - x) 0)
    ((List.range 64).map fun k => (rows.getD (k / 8) #[]).getD (k % 8) 0).toArray

/-- Decodes `count` blocks of one restart interval, appending their levels. -/
def readBlocks (dc ac : Decoding) (q : Array Nat) (r : BitReader) (pred : Int)
    (acc : Array (Array Nat)) : Nat → Except JpegError (Array (Array Nat))
  | 0 => .ok acc
  | n + 1 => do
    let (coef, pred, r) ← readBlock dc ac pred r
    let deq := (List.range 64).toArray.map fun k => coef.getD k 0 * (q.getD k 0 : Int)
    readBlocks dc ac q r pred (acc.push (idct deq)) n

/-- Reads a JPEG file of one component as gray levels. -/
def decode (bytes : List UInt8) : Except JpegError Picture := do
  let d := ByteArray.mk bytes.toArray
  if d.size < 2 then throw .exhausted
  if byteAt d 0 != 0xFF || byteAt d 1 != 0xD8 then throw (.illegalStart (be16At d 0))
  let (h, start) ← readHeaders d {} 2 (d.size + 1)
  if h.components != 1 then
    throw (.unsupported "The decoder for Jpeg does not support the format features of this file")
  let some q := h.quant.lookup h.quantIndex | throw (.malformed "Error parsing DQT segment. Reason:No quantization table")
  let tables := h.scanTables
  let some dc := h.dcTables.lookup (tables / 16) | throw .badHuffman
  let some ac := h.acTables.lookup (tables % 16) | throw .badHuffman
  let wide := (h.width + 7) / 8
  let high := (h.height + 7) / 8
  let total := wide * high
  let intervals := scanBytes d start #[] #[] (d.size + 1)
  let per := if h.restart == 0 then total else h.restart
  let blocks ← (List.range ((total + per - 1) / per)).foldlM (fun acc j => do
    let count := min per (total - j * per)
    readBlocks dc ac q ⟨intervals.getD j #[], 0⟩ 0 acc count) #[]
  let rows := (List.range h.height).map fun y =>
    (List.range h.width).map fun x =>
      (blocks.getD ((y / 8) * wide + x / 8) #[]).getD ((y % 8) * 8 + x % 8) 0
  pure ⟨h.width, h.height, rows⟩

end Runbook.Jpeg
