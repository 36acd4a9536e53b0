import Mathlib.Data.List.Basic
import Mathlib.Tactic
import ContinuityOS.Library.Encoding

/-! # SHA3-512

The state is twenty-five lanes, natural numbers below 2^64, the lane of column x and row y at
x + 5y. Blocks of nine lanes are mixed into it, and the first eight lanes are the digest.
-/
namespace ContinuityOS.Library.Sha3

def laneSize : ℕ := 18446744073709551616

def rotateLeft (x n : ℕ) : ℕ := ((x <<< n) % laneSize) ||| (x >>> (64 - n))
def complement (x : ℕ) : ℕ := x ^^^ 18446744073709551615

def lane (state : List ℕ) (x y : ℕ) : ℕ := state.getD (x % 5 + 5 * (y % 5)) 0

def lanesOf (f : ℕ → ℕ → ℕ) : List ℕ := (List.range 25).map fun i => f (i % 5) (i / 5)

def column (state : List ℕ) (x : ℕ) : ℕ :=
  lane state x 0 ^^^ lane state x 1 ^^^ lane state x 2 ^^^ lane state x 3 ^^^ lane state x 4

def theta (state : List ℕ) : List ℕ :=
  lanesOf fun x y =>
    lane state x y ^^^ column state (x + 4) ^^^ rotateLeft (column state (x + 1)) 1

def rotations : List ℕ :=
  [0, 1, 62, 28, 27, 36, 44, 6, 55, 20, 3, 10, 43, 25, 39, 41, 45, 15, 21, 8, 18, 2, 61, 56, 14]

def rho (state : List ℕ) : List ℕ :=
  lanesOf fun x y => rotateLeft (lane state x y) (lane rotations x y)

def permuteLanes (state : List ℕ) : List ℕ := lanesOf fun x y => lane state (x + 3 * y) x

def chi (state : List ℕ) : List ℕ :=
  lanesOf fun x y => lane state x y ^^^ (complement (lane state (x + 1) y) &&& lane state (x + 2) y)

def iota (state : List ℕ) (constant : ℕ) : List ℕ :=
  lanesOf fun x y => if x = 0 ∧ y = 0 then lane state 0 0 ^^^ constant else lane state x y

def roundConstants : List ℕ :=
  [0x0000000000000001, 0x0000000000008082, 0x800000000000808a, 0x8000000080008000,
   0x000000000000808b, 0x0000000080000001, 0x8000000080008081, 0x8000000000008009,
   0x000000000000008a, 0x0000000000000088, 0x0000000080008009, 0x000000008000000a,
   0x000000008000808b, 0x800000000000008b, 0x8000000000008089, 0x8000000000008003,
   0x8000000000008002, 0x8000000000000080, 0x000000000000800a, 0x800000008000000a,
   0x8000000080008081, 0x8000000000008080, 0x0000000080000001, 0x8000000080008008]

def round (state : List ℕ) (constant : ℕ) : List ℕ :=
  iota (chi (permuteLanes (rho (theta state)))) constant

def permute (state : List ℕ) : List ℕ := roundConstants.foldl round state

def littleEndian (bytes : List UInt8) : ℕ := bytes.foldr (fun b n => b.toNat + 256 * n) 0

def bytesOf (width n : ℕ) : List UInt8 :=
  (List.range width).map fun i => UInt8.ofNat (n / 256 ^ i % 256)

/-- The suffix of the hash, zeros, and a last bit at the end of a block of 72 bytes. -/
def pad (message : List UInt8) : List UInt8 :=
  if message.length % 72 = 71 then message ++ [0x86]
  else message ++ [0x06] ++ List.replicate (70 - message.length % 72) 0 ++ [0x80]

def absorb (state : List ℕ) (block : List UInt8) : List ℕ :=
  let words := (block.toChunks 8).map littleEndian
  permute (lanesOf fun x y => lane state x y ^^^ if y < 2 then words.getD (x + 5 * y) 0 else 0)

def digest (state : List ℕ) : List UInt8 :=
  (List.range 8).flatMap fun i => bytesOf 8 (state.getD i 0)

end ContinuityOS.Library.Sha3

namespace ContinuityOS.Library

def sha3_512 (message : List UInt8) : List UInt8 :=
  Sha3.digest (((Sha3.pad message).toChunks 72).foldl Sha3.absorb (List.replicate 25 0))

example : String.ofList (hexEncode (sha3_512 [97, 98, 99])) =
    "b751850b1a57168a5693cd924b6b096e08f621827444f70d884f5d0240d2712e" ++
      "10e116e9192af3c91a7ec57647e3934057340b4cf408d5a56592f8274eec53f0" := by decide +kernel

theorem sha3_512_length (message : List UInt8) : (sha3_512 message).length = 64 := by
  simp [sha3_512, Sha3.digest, Sha3.bytesOf]

end ContinuityOS.Library
