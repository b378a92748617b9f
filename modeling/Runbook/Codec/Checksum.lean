/-!
# Checksums of byte streams

PNG chunks end with a CRC-32 of their type and data, and a zlib stream ends with the
Adler-32 of the bytes it holds.

The CRC-32 is the reflected cyclic redundancy check of polynomial `0xEDB88320`, started
at all ones and inverted at the end; it is computed a byte at a time from a table of
the 256 remainders of single bytes. The Adler-32 keeps two sums modulo 65521, the sum of
the bytes plus one and the sum of those running sums, and puts the second above the
first.
-/

namespace Runbook.Codec

/-- The remainder of one byte value under the reflected CRC-32 polynomial: eight shifts,
each folding the polynomial in when the bit shifted out is set. -/
def crcEntry (n : UInt32) : UInt32 :=
  (List.range 8).foldl (fun (c : UInt32) _ =>
    if c % 2 == 1 then (0xEDB88320 : UInt32) ^^^ (c >>> 1) else c >>> 1) n

/-- The remainders of all 256 byte values. -/
def crcTable : Array UInt32 := (Array.range 256).map fun i => crcEntry i.toUInt32

/-- Feeds one byte to a running CRC-32 register. -/
def crcStep (c : UInt32) (b : UInt8) : UInt32 :=
  (crcTable.getD ((c ^^^ b.toUInt32) &&& 0xFF).toNat 0) ^^^ (c >>> 8)

/-- The CRC-32 of a byte list. -/
def crc32 (bytes : List UInt8) : UInt32 :=
  (bytes.foldl crcStep 0xFFFFFFFF) ^^^ 0xFFFFFFFF

/-- The modulus of both Adler-32 sums, the largest prime below 65536. -/
def adlerBase : Nat := 65521

/-- The Adler-32 of a byte list. -/
def adler32 (bytes : List UInt8) : Nat :=
  let (a, b) := bytes.foldl (fun (a, b) x => let a := (a + x.toNat) % adlerBase; (a, (b + a) % adlerBase)) (1, 0)
  b * 65536 + a

/-- The Adler-32 of no bytes is one. -/
theorem adler32_nil : adler32 [] = 1 := rfl

end Runbook.Codec
