import RepoVitals.Calendar.Date
import RepoVitals.Identity.Sha256
/-!
Document ids: stable names for documents that are written again tomorrow.

Owns:
- the natural key of a document (family, name, bucket, repository) as one text, its parts separated
  by the unit separator U+001F;
- the id, which is the first half of the SHA-256 digest of that text, marked as a version 8 UUID and
  written with hyphens in lower case.
-/

namespace RepoVitals.Identity

/-- The natural key of a document. -/
structure NaturalKey where
  family : String
  name : String
  bucket : Calendar.Bucket
  repository : String
  deriving DecidableEq

/-- The character between the parts of a key. -/
def separator : String := "\x1f"

/-- The key as one text. -/
def NaturalKey.text (key : NaturalKey) : String :=
  key.family ++ separator ++ key.name ++ separator ++ key.bucket.text ++ separator ++
    key.repository

/-- The bytes that are hashed. -/
def NaturalKey.bytes (key : NaturalKey) : List UInt8 :=
  key.text.toUTF8.toList

/-- The mark on the byte at a position of a UUID: its version or its variant, if it carries one. -/
def markByte (position : Nat) (byte : UInt8) : UInt8 :=
  if position = 6 then 0x80 ||| (byte &&& 0x0F)
  else if position = 8 then 0x80 ||| (byte &&& 0x3F)
  else byte

/-- Set the version and the variant of a UUID in its sixteen bytes. -/
def markVersion (bytes : List UInt8) : List UInt8 :=
  bytes.mapIdx markByte

/-- The two hexadecimal digits of a byte. -/
def hexOfByte (byte : UInt8) : List Char :=
  [Text.hexDigit (byte.toNat / 16), Text.hexDigit (byte.toNat % 16)]

/-- Sixteen bytes in hexadecimal, with hyphens after the 4th, 6th, 8th and 10th byte. -/
def hyphenated (bytes : List UInt8) : String :=
  let part (start count : Nat) : List Char := ((bytes.drop start).take count).flatMap hexOfByte
  String.ofList
    (part 0 4 ++ '-' :: part 4 2 ++ '-' :: part 6 2 ++ '-' :: part 8 2 ++ '-' :: part 10 6)

/-- The id of the document with this key. -/
def documentId (key : NaturalKey) : String :=
  hyphenated (markVersion ((Sha256.digest key.bytes).take 16))

end RepoVitals.Identity
