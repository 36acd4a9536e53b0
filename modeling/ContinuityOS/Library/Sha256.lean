import Mathlib.Data.List.Basic
import Mathlib.Tactic
import ContinuityOS.Library.Encoding

/-! # SHA-256

Words are natural numbers below 2^32. A block is compressed by one pass over the round
constants that carries the working variables and a window of sixteen schedule words.
-/
namespace ContinuityOS.Library.Sha256

def wordSize : ℕ := 4294967296

def add (x y : ℕ) : ℕ := (x + y) % wordSize
def rotateRight (x n : ℕ) : ℕ := (x >>> n) ||| ((x <<< (32 - n)) % wordSize)
def complement (x : ℕ) : ℕ := x ^^^ 4294967295

def choose (e f g : ℕ) : ℕ := (e &&& f) ^^^ (complement e &&& g)
def majority (a b c : ℕ) : ℕ := (a &&& b) ^^^ (a &&& c) ^^^ (b &&& c)
def bigSigma0 (a : ℕ) : ℕ := rotateRight a 2 ^^^ rotateRight a 13 ^^^ rotateRight a 22
def bigSigma1 (e : ℕ) : ℕ := rotateRight e 6 ^^^ rotateRight e 11 ^^^ rotateRight e 25
def smallSigma0 (w : ℕ) : ℕ := rotateRight w 7 ^^^ rotateRight w 18 ^^^ (w >>> 3)
def smallSigma1 (w : ℕ) : ℕ := rotateRight w 17 ^^^ rotateRight w 19 ^^^ (w >>> 10)

/-- Fractional parts of the cube roots of the first sixty-four primes. -/
def roundConstants : List ℕ :=
  [0x428a2f98, 0x71374491, 0xb5c0fbcf, 0xe9b5dba5, 0x3956c25b, 0x59f111f1, 0x923f82a4, 0xab1c5ed5,
   0xd807aa98, 0x12835b01, 0x243185be, 0x550c7dc3, 0x72be5d74, 0x80deb1fe, 0x9bdc06a7, 0xc19bf174,
   0xe49b69c1, 0xefbe4786, 0x0fc19dc6, 0x240ca1cc, 0x2de92c6f, 0x4a7484aa, 0x5cb0a9dc, 0x76f988da,
   0x983e5152, 0xa831c66d, 0xb00327c8, 0xbf597fc7, 0xc6e00bf3, 0xd5a79147, 0x06ca6351, 0x14292967,
   0x27b70a85, 0x2e1b2138, 0x4d2c6dfc, 0x53380d13, 0x650a7354, 0x766a0abb, 0x81c2c92e, 0x92722c85,
   0xa2bfe8a1, 0xa81a664b, 0xc24b8b70, 0xc76c51a3, 0xd192e819, 0xd6990624, 0xf40e3585, 0x106aa070,
   0x19a4c116, 0x1e376c08, 0x2748774c, 0x34b0bcb5, 0x391c0cb3, 0x4ed8aa4a, 0x5b9cca4f, 0x682e6ff3,
   0x748f82ee, 0x78a5636f, 0x84c87814, 0x8cc70208, 0x90befffa, 0xa4506ceb, 0xbef9a3f7, 0xc67178f2]

structure Working where
  a : ℕ
  b : ℕ
  c : ℕ
  d : ℕ
  e : ℕ
  f : ℕ
  g : ℕ
  h : ℕ

def initial : Working where
  a := 0x6a09e667
  b := 0xbb67ae85
  c := 0x3c6ef372
  d := 0xa54ff53a
  e := 0x510e527f
  f := 0x9b05688c
  g := 0x1f83d9ab
  h := 0x5be0cd19

def round (s : Working) (constant word : ℕ) : Working :=
  let t₁ := add (add (add s.h (bigSigma1 s.e)) (add (choose s.e s.f s.g) constant)) word
  let t₂ := add (bigSigma0 s.a) (majority s.a s.b s.c)
  { a := add t₁ t₂, b := s.a, c := s.b, d := s.c, e := add s.d t₁, f := s.e, g := s.f, h := s.g }

/-- The window holds the next sixteen schedule words; each round uses the first. -/
def advance (window : List ℕ) : List ℕ :=
  window.tail ++ [add (add (smallSigma1 (window.getD 14 0)) (window.getD 9 0))
    (add (smallSigma0 (window.getD 1 0)) (window.getD 0 0))]

def rounds : Working → List ℕ → List ℕ → Working
  | s, _, [] => s
  | s, window, constant :: constants =>
    rounds (round s constant (window.getD 0 0)) (advance window) constants

def compress (s : Working) (block : List ℕ) : Working :=
  let t := rounds s block roundConstants
  { a := add s.a t.a, b := add s.b t.b, c := add s.c t.c, d := add s.d t.d
    e := add s.e t.e, f := add s.f t.f, g := add s.g t.g, h := add s.h t.h }

def bigEndian (bytes : List UInt8) : ℕ := bytes.foldl (fun n b => n * 256 + b.toNat) 0

def bytesOf (width n : ℕ) : List UInt8 :=
  (List.range width).reverse.map fun i => UInt8.ofNat (n / 256 ^ i % 256)

/-- A one bit, zeros up to eight bytes short of a block, and the length in bits. -/
def pad (message : List UInt8) : List UInt8 :=
  message ++ [128] ++ List.replicate ((119 - message.length % 64) % 64) 0
    ++ bytesOf 8 (message.length * 8)

def wordsOf (bytes : List UInt8) : List ℕ := (bytes.toChunks 4).map bigEndian

def digest (s : Working) : List UInt8 :=
  [s.a, s.b, s.c, s.d, s.e, s.f, s.g, s.h].flatMap (bytesOf 4)

end ContinuityOS.Library.Sha256

namespace ContinuityOS.Library

def sha256 (message : List UInt8) : List UInt8 :=
  Sha256.digest (((Sha256.pad message).toChunks 64).foldl
    (fun s block => Sha256.compress s (Sha256.wordsOf block)) Sha256.initial)

example : String.ofList (hexEncode (sha256 [97, 98, 99]))
    = "ba7816bf8f01cfea414140de5dae2223b00361a396177a9cb410ff61f20015ad" := by decide +kernel

theorem sha256_length (message : List UInt8) : (sha256 message).length = 32 := by
  simp [sha256, Sha256.digest, Sha256.bytesOf]

end ContinuityOS.Library
