import TokenServer.Crypto.Sha512

/-!
The hash function BLAKE2b without a key, with a digest of up to 64 bytes.
-/

namespace TokenServer.Blake2b

def orders : Array (Array Nat) := #[
  #[0, 1, 2, 3, 4, 5, 6, 7, 8, 9, 10, 11, 12, 13, 14, 15],
  #[14, 10, 4, 8, 9, 15, 13, 6, 1, 12, 0, 2, 11, 7, 5, 3],
  #[11, 8, 12, 0, 5, 2, 15, 13, 10, 14, 3, 6, 7, 1, 9, 4],
  #[7, 9, 3, 1, 13, 12, 11, 14, 2, 6, 5, 10, 4, 0, 15, 8],
  #[9, 0, 5, 7, 2, 4, 10, 15, 14, 1, 11, 12, 6, 8, 3, 13],
  #[2, 12, 6, 10, 0, 11, 8, 3, 4, 13, 7, 5, 15, 14, 1, 9],
  #[12, 5, 1, 15, 14, 13, 4, 10, 0, 7, 6, 3, 9, 2, 8, 11],
  #[13, 11, 7, 14, 12, 1, 3, 9, 5, 0, 15, 4, 8, 6, 2, 10],
  #[6, 15, 14, 9, 11, 3, 0, 8, 12, 2, 13, 7, 1, 4, 10, 5],
  #[10, 2, 8, 4, 7, 6, 1, 5, 15, 11, 9, 14, 3, 12, 13, 0]]

/-- The places of four words that are mixed: the columns, then the diagonals. -/
def quarters : List (Nat × Nat × Nat × Nat) := [
  (0, 4, 8, 12), (1, 5, 9, 13), (2, 6, 10, 14), (3, 7, 11, 15),
  (0, 5, 10, 15), (1, 6, 11, 12), (2, 7, 8, 13), (3, 4, 9, 14)]

open Words (rotateRight)

def mix (state : Array UInt64) (places : Nat × Nat × Nat × Nat) (x y : UInt64) : Array UInt64 :=
  let (i, j, k, l) := places
  let a := state.getD i 0 + state.getD j 0 + x
  let d := rotateRight (state.getD l 0 ^^^ a) 32
  let c := state.getD k 0 + d
  let b := rotateRight (state.getD j 0 ^^^ c) 24
  let a := a + b + y
  let d := rotateRight (d ^^^ a) 16
  let c := c + d
  let b := rotateRight (b ^^^ c) 63
  (((state.setIfInBounds i a).setIfInBounds j b).setIfInBounds k c).setIfInBounds l d

def round (words : Array UInt64) (state : Array UInt64) (number : Nat) : Array UInt64 :=
  let order := orders.getD (number % 10) #[]
  let word (i : Nat) : UInt64 := words.getD (order.getD i 0) 0
  quarters.zipIdx.foldl
    (fun state (places, i) => mix state places (word (2 * i)) (word (2 * i + 1))) state

def initial : Array UInt64 :=
  let s := Sha512.initial512
  #[s.a, s.b, s.c, s.d, s.e, s.f, s.g, s.h]

/-- Mixes a block of 128 bytes into the chain, when so many bytes have been read. -/
def compress (chain : Array UInt64) (block : Bytes) (count : Nat) (isLast : Bool) : Array UInt64 :=
  let words := (Words.read Words.ofLittleEndian block).toArray
  let state := chain ++ initial
  let state := state.setIfInBounds 12 (state.getD 12 0 ^^^ UInt64.ofNat (count % 0x10000000000000000))
  let state := state.setIfInBounds 13 (state.getD 13 0 ^^^ UInt64.ofNat (count / 0x10000000000000000))
  let state := if isLast then state.setIfInBounds 14 (~~~ state.getD 14 0) else state
  let state := (List.range 12).foldl (round words) state
  ((List.range 8).map fun i => chain.getD i 0 ^^^ state.getD i 0 ^^^ state.getD (i + 8) 0).toArray

/-- Compresses blocks; the last one, filled up with zeros, is marked. -/
def absorb (chain : Array UInt64) (count : Nat) : List Bytes → Array UInt64
  | [] => compress chain (List.replicate 128 0) count true
  | [block] =>
    compress chain (block ++ List.replicate (128 - block.length) 0) (count + block.length) true
  | block :: rest => absorb (compress chain block (count + 128) false) (count + 128) rest

def hash (length : Nat) (message : Bytes) : Bytes :=
  let parameters := 0x01010000 ^^^ UInt64.ofNat length
  let chain := initial.setIfInBounds 0 (initial.getD 0 0 ^^^ parameters)
  let chain := absorb chain 0 (Words.blocks 127 message)
  (chain.toList.flatMap (fun word => Words.littleEndian 8 word.toNat)).take length

end TokenServer.Blake2b
