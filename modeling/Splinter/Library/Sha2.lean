import Splinter.Library.Codec

/-!
# The SHA-2 hash functions

SHA-256 and SHA-512 differ in the size of a word and in some constants; the
computation is the same.  Words are natural numbers below `modulus`.  The
functions on numbers are called by their names and not by operators, which
makes hashes faster to evaluate.
-/

namespace Splinter.Library

/-- What distinguishes the members of the SHA-2 family.  A triple holds the
distances of two rotations and of a third rotation or shift. -/
structure Sha2 where
  wordBits : Nat
  modulus : Nat
  bigSigma0 : Nat × Nat × Nat
  bigSigma1 : Nat × Nat × Nat
  smallSigma0 : Nat × Nat × Nat
  smallSigma1 : Nat × Nat × Nat
  initial : List Nat
  constants : List Nat

namespace Sha2

variable (sha : Sha2)

def add (left right : Nat) : Nat := Nat.mod (Nat.add left right) sha.modulus

/-- The exclusive or of three words. -/
def xor3 (first second third : Nat) : Nat := Nat.xor first (Nat.xor second third)

def rotateRight (word distance : Nat) : Nat := Nat.xor (Nat.shiftRight word distance)
    (Nat.mod (Nat.shiftLeft word (Nat.sub sha.wordBits distance)) sha.modulus)

def rotations (distances : Nat × Nat × Nat) (word : Nat) : Nat :=
  xor3 (sha.rotateRight word distances.1) (sha.rotateRight word distances.2.1)
    (sha.rotateRight word distances.2.2)

def rotationsAndShift (distances : Nat × Nat × Nat) (word : Nat) : Nat :=
  xor3 (sha.rotateRight word distances.1) (sha.rotateRight word distances.2.1)
    (Nat.shiftRight word distances.2.2)

/-- Continue with the value of a word, which is computed first. -/
def evaluated {Result : Type} (word : Nat) (next : Nat → Result) : Result :=
  match word with
  | .zero => next .zero
  | .succ predecessor => next (.succ predecessor)

/-- One round on the eight working variables. -/
def round (constant word : Nat) : List Nat → List Nat
  | [a, b, c, d, e, f, g, h] =>
    let negated := Nat.sub (Nat.sub sha.modulus 1) e
    let choice := Nat.xor (Nat.land e f) (Nat.land negated g)
    let majority := xor3 (Nat.land a b) (Nat.land a c) (Nat.land b c)
    evaluated
      (Nat.add (Nat.add h (sha.rotations sha.bigSigma1 e)) (Nat.add choice (Nat.add constant word)))
      fun first =>
        evaluated (sha.add d first) fun fifth =>
          evaluated (sha.add first (Nat.add (sha.rotations sha.bigSigma0 a) majority))
            fun new => [new, a, b, c, fifth, e, f, g]
  | state => state

/-- The next word of the message schedule after the last sixteen. -/
def nextWord (window : List Nat) : Nat :=
  match window with
  | w0 :: w1 :: _ :: _ :: _ :: _ :: _ :: _ :: _ :: w9 :: _ :: _ :: _ :: _ :: w14 :: _ =>
    sha.add (Nat.add (sha.rotationsAndShift sha.smallSigma1 w14) w9)
      (Nat.add (sha.rotationsAndShift sha.smallSigma0 w1) w0)
  | _ => 0

def rounds : List Nat → List Nat → List Nat → List Nat
  | [], _, state => state
  | constant :: constants, window, state =>
    evaluated (sha.nextWord window) fun new =>
      rounds constants (window.tail ++ [new]) (sha.round constant (window.headD 0) state)

/-- Process one block of sixteen words. -/
def compress (state block : List Nat) : List Nat :=
  List.zipWith sha.add state (sha.rounds sha.constants block state)

def value (bytes : Bytes) : Nat := bytes.foldl (fun total byte => 256 * total + byte.toNat) 0

/-- The last `count` bytes of the big-endian representation of a number. -/
def bigEndian (count number : Nat) : Bytes := (List.range count).reverse.map fun place =>
    UInt8.ofNat (number >>> (8 * place))

def padded (message : Bytes) : Bytes :=
  let wordBytes := sha.wordBits / 8
  let used := (message.length + 1 + 2 * wordBytes) % (16 * wordBytes)
  message ++ 128 :: List.replicate ((16 * wordBytes - used) % (16 * wordBytes)) 0 ++
    bigEndian (2 * wordBytes) (8 * message.length)

def words : Nat → Bytes → List Nat
  | 0, _ => []
  | count + 1, bytes =>
    evaluated (value (bytes.take (sha.wordBits / 8))) fun word =>
      word :: words count (bytes.drop (sha.wordBits / 8))

def blocks : Nat → List Nat → List Nat → List Nat
  | 0, _, state => state
  | count + 1, words, state => blocks count (words.drop 16) (sha.compress state (words.take 16))

def hash (message : Bytes) : Bytes :=
  let bytes := sha.padded message
  let count := bytes.length / (2 * sha.wordBits)
  (sha.blocks count (sha.words (16 * count) bytes) sha.initial).flatMap
    (bigEndian (sha.wordBits / 8))

def sha256 : Sha2 where
  wordBits := 32
  modulus := 0x100000000
  bigSigma0 := (2, 13, 22)
  bigSigma1 := (6, 11, 25)
  smallSigma0 := (7, 18, 3)
  smallSigma1 := (17, 19, 10)
  initial :=
    [0x6a09e667, 0xbb67ae85, 0x3c6ef372, 0xa54ff53a, 0x510e527f, 0x9b05688c, 0x1f83d9ab, 0x5be0cd19]
  constants :=
    [0x428a2f98, 0x71374491, 0xb5c0fbcf, 0xe9b5dba5, 0x3956c25b, 0x59f111f1,
     0x923f82a4, 0xab1c5ed5, 0xd807aa98, 0x12835b01, 0x243185be, 0x550c7dc3,
     0x72be5d74, 0x80deb1fe, 0x9bdc06a7, 0xc19bf174, 0xe49b69c1, 0xefbe4786,
     0x0fc19dc6, 0x240ca1cc, 0x2de92c6f, 0x4a7484aa, 0x5cb0a9dc, 0x76f988da,
     0x983e5152, 0xa831c66d, 0xb00327c8, 0xbf597fc7, 0xc6e00bf3, 0xd5a79147,
     0x06ca6351, 0x14292967, 0x27b70a85, 0x2e1b2138, 0x4d2c6dfc, 0x53380d13,
     0x650a7354, 0x766a0abb, 0x81c2c92e, 0x92722c85, 0xa2bfe8a1, 0xa81a664b,
     0xc24b8b70, 0xc76c51a3, 0xd192e819, 0xd6990624, 0xf40e3585, 0x106aa070,
     0x19a4c116, 0x1e376c08, 0x2748774c, 0x34b0bcb5, 0x391c0cb3, 0x4ed8aa4a,
     0x5b9cca4f, 0x682e6ff3, 0x748f82ee, 0x78a5636f, 0x84c87814, 0x8cc70208,
     0x90befffa, 0xa4506ceb, 0xbef9a3f7, 0xc67178f2]

def sha512 : Sha2 where
  wordBits := 64
  modulus := 0x10000000000000000
  bigSigma0 := (28, 34, 39)
  bigSigma1 := (14, 18, 41)
  smallSigma0 := (1, 8, 7)
  smallSigma1 := (19, 61, 6)
  initial :=
    [0x6a09e667f3bcc908, 0xbb67ae8584caa73b, 0x3c6ef372fe94f82b,
     0xa54ff53a5f1d36f1, 0x510e527fade682d1, 0x9b05688c2b3e6c1f,
     0x1f83d9abfb41bd6b, 0x5be0cd19137e2179]
  constants :=
    [0x428a2f98d728ae22, 0x7137449123ef65cd, 0xb5c0fbcfec4d3b2f,
     0xe9b5dba58189dbbc, 0x3956c25bf348b538, 0x59f111f1b605d019,
     0x923f82a4af194f9b, 0xab1c5ed5da6d8118, 0xd807aa98a3030242,
     0x12835b0145706fbe, 0x243185be4ee4b28c, 0x550c7dc3d5ffb4e2,
     0x72be5d74f27b896f, 0x80deb1fe3b1696b1, 0x9bdc06a725c71235,
     0xc19bf174cf692694, 0xe49b69c19ef14ad2, 0xefbe4786384f25e3,
     0x0fc19dc68b8cd5b5, 0x240ca1cc77ac9c65, 0x2de92c6f592b0275,
     0x4a7484aa6ea6e483, 0x5cb0a9dcbd41fbd4, 0x76f988da831153b5,
     0x983e5152ee66dfab, 0xa831c66d2db43210, 0xb00327c898fb213f,
     0xbf597fc7beef0ee4, 0xc6e00bf33da88fc2, 0xd5a79147930aa725,
     0x06ca6351e003826f, 0x142929670a0e6e70, 0x27b70a8546d22ffc,
     0x2e1b21385c26c926, 0x4d2c6dfc5ac42aed, 0x53380d139d95b3df,
     0x650a73548baf63de, 0x766a0abb3c77b2a8, 0x81c2c92e47edaee6,
     0x92722c851482353b, 0xa2bfe8a14cf10364, 0xa81a664bbc423001,
     0xc24b8b70d0f89791, 0xc76c51a30654be30, 0xd192e819d6ef5218,
     0xd69906245565a910, 0xf40e35855771202a, 0x106aa07032bbd1b8,
     0x19a4c116b8d2d0c8, 0x1e376c085141ab53, 0x2748774cdf8eeb99,
     0x34b0bcb5e19b48a8, 0x391c0cb3c5c95a63, 0x4ed8aa4ae3418acb,
     0x5b9cca4f7763e373, 0x682e6ff3d6b2b8a3, 0x748f82ee5defb2fc,
     0x78a5636f43172f60, 0x84c87814a1f0ab72, 0x8cc702081a6439ec,
     0x90befffa23631e28, 0xa4506cebde82bde9, 0xbef9a3f7b2c67915,
     0xc67178f2e372532b, 0xca273eceea26619c, 0xd186b8c721c0c207,
     0xeada7dd6cde0eb1e, 0xf57d4f7fee6ed178, 0x06f067aa72176fba,
     0x0a637dc5a2c898a6, 0x113f9804bef90dae, 0x1b710b35131c471b,
     0x28db77f523047d84, 0x32caab7b40c72493, 0x3c9ebe0a15c9bebc,
     0x431d67c49c100d4c, 0x4cc5d4becb3e42b6, 0x597f299cfc657e2a,
     0x5fcb6fab3ad6faec, 0x6c44198c4a475817]

example : sha256.hash [97, 98, 99] = bigEndian 32
        0xba7816bf8f01cfea414140de5dae2223b00361a396177a9cb410ff61f20015ad := by
  decide +kernel

end Sha2

end Splinter.Library
