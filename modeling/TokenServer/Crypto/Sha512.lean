import TokenServer.Crypto.Words

/-!
The hash functions SHA-512 and SHA-384, and message authentication with them. All constants are the
first 64 bits behind the point of square and cube roots of primes.
-/

namespace TokenServer.Sha512

/-- The greatest number below `2 ^ bits` whose power does not exceed the value. -/
def root (power value : Nat) : Nat → Nat → Nat
  | 0, low => low
  | bits + 1, low =>
    let middle := low + Nat.pow 2 bits
    if Nat.pow middle power ≤ value then root power value bits middle else root power value bits low

def isPrime (n : Nat) : Bool := 2 ≤ n && (List.range n).all (fun d => d < 2 || n % d != 0)

/-- The first eighty primes. -/
def primes : List Nat := (List.range 410).filter isPrime

/-- The first 64 bits behind the point of a root of a small number. -/
def rootBits (power value : Nat) : UInt64 :=
  UInt64.ofNat (root power (value * Nat.pow 2 (64 * power)) 70 0)

def roundConstants : Array UInt64 := (primes.map (rootBits 3)).toArray

structure State where
  a : UInt64
  b : UInt64
  c : UInt64
  d : UInt64
  e : UInt64
  f : UInt64
  g : UInt64
  h : UInt64
  deriving Repr, DecidableEq

def State.ofPrimes (primes : List Nat) : State :=
  let word (i : Nat) : UInt64 := rootBits 2 (primes.getD i 0)
  ⟨word 0, word 1, word 2, word 3, word 4, word 5, word 6, word 7⟩

def State.add (s t : State) : State :=
  ⟨s.a + t.a, s.b + t.b, s.c + t.c, s.d + t.d, s.e + t.e, s.f + t.f, s.g + t.g, s.h + t.h⟩

def State.bytes (s : State) : Bytes :=
  [s.a, s.b, s.c, s.d, s.e, s.f, s.g, s.h].flatMap (fun word => Words.bigEndian 8 word.toNat)

def initial512 : State := .ofPrimes primes

def initial384 : State := .ofPrimes (primes.drop 8)

open Words (rotateRight)

def round (s : State) (word : UInt64) : State :=
  let sum1 := rotateRight s.e 14 ^^^ rotateRight s.e 18 ^^^ rotateRight s.e 41
  let choice := (s.e &&& s.f) ^^^ (~~~ s.e &&& s.g)
  let first := s.h + sum1 + choice + word
  let sum0 := rotateRight s.a 28 ^^^ rotateRight s.a 34 ^^^ rotateRight s.a 39
  let majority := (s.a &&& s.b) ^^^ (s.a &&& s.c) ^^^ (s.b &&& s.c)
  ⟨first + sum0 + majority, s.a, s.b, s.c, s.d + first, s.e, s.f, s.g⟩

def nextWord (words : Array UInt64) : UInt64 :=
  let back (count : Nat) : UInt64 := words.getD (words.size - count) 0
  let x := back 15
  let y := back 2
  back 16 + (rotateRight x 1 ^^^ rotateRight x 8 ^^^ x >>> 7) + back 7 +
    (rotateRight y 19 ^^^ rotateRight y 61 ^^^ y >>> 6)

def schedule (block : List UInt64) : Array UInt64 :=
  (List.range 64).foldl (fun words _ => words.push (nextWord words)) block.toArray

def compress (state : State) (block : Bytes) : State :=
  let words := schedule (Words.read Words.ofBigEndian block)
  let mixed := (List.range 80).foldl
    (fun s i => round s (words.getD i 0 + roundConstants.getD i 0)) state
  state.add mixed

/-- The message with a set bit, zeros up to the last 16 bytes of a block, and its length in bits. -/
def pad (message : Bytes) : Bytes :=
  let zeros := (239 - message.length % 128) % 128
  message ++ 0x80 :: (List.replicate zeros 0 ++ Words.bigEndian 16 (message.length * 8))

def hash (initial : State) (message : Bytes) : Bytes :=
  ((Words.blocks 127 (pad message)).foldl compress initial).bytes

def sha384 (message : Bytes) : Bytes := (hash initial384 message).take 48

/-- The key as one block; a key that is longer is hashed first. -/
def keyBlock (key : Bytes) : Bytes :=
  let short := if 128 < key.length then sha384 key else key
  short ++ List.replicate (128 - short.length) 0

def hmacSha384 (key message : Bytes) : Bytes :=
  let block := keyBlock key
  sha384 (block.map (· ^^^ 0x5C) ++ sha384 (block.map (· ^^^ 0x36) ++ message))

end TokenServer.Sha512
