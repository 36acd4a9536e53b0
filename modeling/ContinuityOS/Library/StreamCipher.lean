import Mathlib.Tactic

/-! # Stream ciphers

A keystream is a run of blocks of one size, counted from zero. Mixing a text with it twice gives
the text back, since both times the length fixes how many blocks are made.
-/
namespace ContinuityOS.Library.StreamCipher

universe u v
variable {α : Type u} {κ : Type v}

/-- The number of blocks that cover a length. -/
def blockCount (size length : ℕ) : ℕ := (length + (size - 1)) / size

def keystream (block : ℕ → List κ) (count : ℕ) : List κ := (List.range count).flatMap block

/-- As much of the text as the stream covers. -/
def mixWith (mix : α → κ → α) (text : List α) (stream : List κ) : List α :=
  List.zipWith mix text (stream.take text.length)

def cipher (mix : α → κ → α) (block : ℕ → List κ) (size : ℕ) (text : List α) : List α :=
  mixWith mix text (keystream block (blockCount size text.length))

theorem le_blockCount_mul {size : ℕ} (hsize : 0 < size) (length : ℕ) :
    length ≤ blockCount size length * size := by
  have hdiv := Nat.div_add_mod (length + (size - 1)) size
  have hmod := Nat.mod_lt (length + (size - 1)) hsize
  rw [blockCount, mul_comm]
  omega

section Keystream
variable {block : ℕ → List κ} {size : ℕ}

theorem keystream_length (hblock : ∀ i, (block i).length = size) (count : ℕ) :
    (keystream block count).length = count * size := by
  simp [keystream, List.length_flatMap, hblock]

end Keystream

section Mixing
variable {mix : α → κ → α}

theorem mixWith_length {text : List α} {stream : List κ} (h : text.length ≤ stream.length) :
    (mixWith mix text stream).length = text.length := by
  rw [mixWith, List.length_zipWith, List.length_take, min_eq_left h, min_self]

theorem zipWith_zipWith (hmix : ∀ a k, mix (mix a k) k = a) {text : List α} {stream : List κ}
    (h : text.length ≤ stream.length) :
    List.zipWith mix (List.zipWith mix text stream) stream = text := by
  induction text generalizing stream with
  | nil => rfl
  | cons a text ih =>
    cases stream with
    | nil => simp at h
    | cons k stream =>
      rw [List.zipWith_cons_cons, List.zipWith_cons_cons, hmix, ih (by simpa using h)]

theorem mixWith_mixWith (hmix : ∀ a k, mix (mix a k) k = a) {text : List α} {stream : List κ}
    (h : text.length ≤ stream.length) : mixWith mix (mixWith mix text stream) stream = text := by
  rw [mixWith, mixWith_length h, mixWith]
  exact zipWith_zipWith hmix (by rw [List.length_take, min_eq_left h])

/-- What two texts differ by does not depend on a stream that covers both. -/
theorem zipWith_mix_mix {γ : Type*} {difference : α → α → γ}
    (hmix : ∀ a b k, difference (mix a k) (mix b k) = difference a b) {text text' : List α}
    {stream : List κ} (hlength : text.length = text'.length) (h : text.length ≤ stream.length) :
    List.zipWith difference (List.zipWith mix text stream) (List.zipWith mix text' stream) =
      List.zipWith difference text text' := by
  induction text generalizing text' stream with
  | nil => rfl
  | cons a text ih =>
    cases text' with
    | nil => cases hlength
    | cons b text' =>
      cases stream with
      | nil => simp at h
      | cons k stream =>
        simp only [List.zipWith_cons_cons, hmix]
        rw [ih (by simpa using hlength) (by simpa using h)]

end Mixing

section Cipher
variable {mix : α → κ → α} {block : ℕ → List κ} {size : ℕ} (hsize : 0 < size)
  (hblock : ∀ i, (block i).length = size) (text : List α)
include hsize hblock

theorem cipher_covered :
    text.length ≤ (keystream block (blockCount size text.length)).length := by
  rw [keystream_length hblock]
  exact le_blockCount_mul hsize text.length

theorem cipher_length : (cipher mix block size text).length = text.length :=
  mixWith_length (cipher_covered hsize hblock text)

/-- The same keystream takes the text back. -/
theorem cipher_cipher (hmix : ∀ a k, mix (mix a k) k = a) :
    cipher mix block size (cipher mix block size text) = text := by
  rw [cipher, cipher_length hsize hblock, cipher]
  exact mixWith_mixWith hmix (cipher_covered hsize hblock text)

/-- Texts of one length get the same keystream, so the ciphertexts differ as the texts do. -/
theorem zipWith_cipher_cipher {γ : Type*} {difference : α → α → γ}
    (hmix : ∀ a b k, difference (mix a k) (mix b k) = difference a b) {text' : List α}
    (hlength : text.length = text'.length) :
    List.zipWith difference (cipher mix block size text) (cipher mix block size text') =
      List.zipWith difference text text' := by
  have hcovered := cipher_covered hsize hblock text
  rw [cipher, cipher, mixWith, mixWith, ← hlength]
  exact zipWith_mix_mix hmix hlength (by rw [List.length_take, min_eq_left hcovered])

end Cipher

end ContinuityOS.Library.StreamCipher
