/-!
Gzip: bytes in a compressed file's clothes.

Owns the checksum CRC-32 and a gzip file that holds its bytes as they are, in stored blocks of at
most 65535 bytes.
-/

namespace RepoVitals.Http.Gzip

/-- One bit of the checksum: shift right, and add the polynomial if a one falls out. -/
def checksumBit (register : UInt32) : UInt32 :=
  if register &&& 1 = 1 then (register >>> 1) ^^^ 0xEDB88320 else register >>> 1

/-- One byte of the checksum. -/
def checksumByte (register : UInt32) (byte : UInt8) : UInt32 :=
  (List.range 8).foldl (fun held _ => checksumBit held) (register ^^^ byte.toUInt32)

/-- The CRC-32 of a list of bytes. -/
def checksum (bytes : List UInt8) : UInt32 :=
  (bytes.foldl checksumByte 0xFFFFFFFF) ^^^ 0xFFFFFFFF

/-- The `count` lowest bytes of a number, the lowest first. -/
def littleEndian (count value : Nat) : List UInt8 :=
  (List.range count).map (fun place => UInt8.ofNat (value / Nat.pow 256 place % 256))

/-- How many bytes a stored block may hold. -/
def blockLimit : Nat := 65535

/-- A stored block. -/
def block (last : Bool) (bytes : List UInt8) : List UInt8 :=
  (if last then 1 else 0) :: littleEndian 2 bytes.length ++
    littleEndian 2 (blockLimit - bytes.length) ++ bytes

/-- Bytes as stored blocks; there is always a last one. -/
def blocks (bytes : List UInt8) : List UInt8 :=
  if blockLimit < bytes.length then
    block false (bytes.take blockLimit) ++ blocks (bytes.drop blockLimit)
  else block true bytes
termination_by bytes.length
decreasing_by
  simp only [List.length_drop]
  have positive : 0 < blockLimit := by decide
  omega

/-- The gzip file that holds these bytes. -/
def file (bytes : List UInt8) : List UInt8 :=
  [0x1F, 0x8B, 8, 0, 0, 0, 0, 0, 0, 255] ++ blocks bytes ++
    littleEndian 4 (checksum bytes).toNat ++ littleEndian 4 bytes.length

end RepoVitals.Http.Gzip
