-- The SHA-256 digest of a sequence of bytes.
import Folio.Text.Hex

namespace Folio.Digest

/-- The words added in the rounds: fractions of the cube roots of the first primes. -/
def roundWords : List UInt32 := [
  0x428a2f98, 0x71374491, 0xb5c0fbcf, 0xe9b5dba5, 0x3956c25b, 0x59f111f1, 0x923f82a4, 0xab1c5ed5,
  0xd807aa98, 0x12835b01, 0x243185be, 0x550c7dc3, 0x72be5d74, 0x80deb1fe, 0x9bdc06a7, 0xc19bf174,
  0xe49b69c1, 0xefbe4786, 0x0fc19dc6, 0x240ca1cc, 0x2de92c6f, 0x4a7484aa, 0x5cb0a9dc, 0x76f988da,
  0x983e5152, 0xa831c66d, 0xb00327c8, 0xbf597fc7, 0xc6e00bf3, 0xd5a79147, 0x06ca6351, 0x14292967,
  0x27b70a85, 0x2e1b2138, 0x4d2c6dfc, 0x53380d13, 0x650a7354, 0x766a0abb, 0x81c2c92e, 0x92722c85,
  0xa2bfe8a1, 0xa81a664b, 0xc24b8b70, 0xc76c51a3, 0xd192e819, 0xd6990624, 0xf40e3585, 0x106aa070,
  0x19a4c116, 0x1e376c08, 0x2748774c, 0x34b0bcb5, 0x391c0cb3, 0x4ed8aa4a, 0x5b9cca4f, 0x682e6ff3,
  0x748f82ee, 0x78a5636f, 0x84c87814, 0x8cc70208, 0x90befffa, 0xa4506ceb, 0xbef9a3f7, 0xc67178f2]

/-- The eight words that are stirred. -/
structure Chain where
  a : UInt32
  b : UInt32
  c : UInt32
  d : UInt32
  e : UInt32
  f : UInt32
  g : UInt32
  h : UInt32

/-- The start: fractions of the square roots of the first primes. -/
def Chain.start : Chain :=
  ⟨0x6a09e667, 0xbb67ae85, 0x3c6ef372, 0xa54ff53a, 0x510e527f, 0x9b05688c, 0x1f83d9ab, 0x5be0cd19⟩

def Chain.words (s : Chain) : List UInt32 := [s.a, s.b, s.c, s.d, s.e, s.f, s.g, s.h]

def Chain.add (s t : Chain) : Chain :=
  ⟨s.a + t.a, s.b + t.b, s.c + t.c, s.d + t.d, s.e + t.e, s.f + t.f, s.g + t.g, s.h + t.h⟩

def turnRight (x n : UInt32) : UInt32 := (x >>> n) ||| (x <<< (32 - n))

/-- The word of the schedule behind the words so far, of which the latest comes first. -/
def nextWord (words : List UInt32) : UInt32 :=
  let back (n : Nat) : UInt32 := words.getD (n - 1) 0
  let near := back 2
  let far := back 15
  back 16 + (turnRight far 7 ^^^ turnRight far 18 ^^^ (far >>> 3)) + back 7
    + (turnRight near 17 ^^^ turnRight near 19 ^^^ (near >>> 10))

/-- The sixty-four words of a block. -/
def schedule (block : List UInt32) : List UInt32 :=
  ((List.range 48).foldl (fun words _ => nextWord words :: words) block.reverse).reverse

/-- One round. -/
def stir (s : Chain) (word roundWord : UInt32) : Chain :=
  let choice := (s.e &&& s.f) ^^^ ((~~~ s.e) &&& s.g)
  let majority := (s.a &&& s.b) ^^^ (s.a &&& s.c) ^^^ (s.b &&& s.c)
  let first := s.h + (turnRight s.e 6 ^^^ turnRight s.e 11 ^^^ turnRight s.e 25)
    + choice + roundWord + word
  let second := (turnRight s.a 2 ^^^ turnRight s.a 13 ^^^ turnRight s.a 22) + majority
  ⟨first + second, s.a, s.b, s.c, s.d + first, s.e, s.f, s.g⟩

/-- Stirs one block in. -/
def absorb (s : Chain) (block : List UInt32) : Chain :=
  s.add (((schedule block).zip roundWords).foldl (fun t words => stir t words.1 words.2) s)

/-- A word from its four bytes, the highest first. -/
def wordOf : List UInt8 → UInt32 :=
  List.foldl (fun n b => (n <<< 8) ||| b.toUInt32) 0

/-- Cuts a list into parts of equal size; the fuel bounds their number. -/
def cut {α : Type} (size : Nat) : Nat → List α → List (List α)
  | 0, _ => []
  | _, [] => []
  | fuel + 1, items => items.take size :: cut size fuel (items.drop size)

/-- A number in bytes, the highest first. -/
def bytesOf : Nat → Nat → List UInt8
  | 0, _ => []
  | width + 1, n => bytesOf width (n / 256) ++ [UInt8.ofNat (n % 256)]

/-- The message, a bit that ends it, zeros up to a whole block, and its length in bits. -/
def padded (message : List UInt8) : List UInt8 :=
  let zeros := (119 - message.length % 64) % 64
  message ++ 0x80 :: List.replicate zeros 0 ++ bytesOf 8 (8 * message.length)

/-- The thirty-two bytes of the digest of a message, in hexadecimal digits. -/
def hexDigest (message : List UInt8) : List Char :=
  let bytes := padded message
  let blocks := cut 16 bytes.length ((cut 4 bytes.length bytes).map wordOf)
  let last := blocks.foldl absorb Chain.start
  last.words.flatMap (fun w => Text.hexText 8 w.toNat)

/-- The digest of a message. -/
def sha256 (message : List UInt8) : String := String.ofList (hexDigest message)

end Folio.Digest
