import ContinuityOS.Library.Sha256

/-! # HMAC over SHA-256

A key longer than a block is hashed first; shorter keys are filled up with zeros.
-/
namespace ContinuityOS.Library

namespace Hmac

def blockKey (key : List UInt8) : List UInt8 :=
  let key := if 64 < key.length then sha256 key else key
  key ++ List.replicate (64 - key.length) 0

def innerKey (key : List UInt8) : List UInt8 := (blockKey key).map (· ^^^ 0x36)

def outerKey (key : List UInt8) : List UInt8 := (blockKey key).map (· ^^^ 0x5c)

end Hmac

def hmacSha256 (key message : List UInt8) : List UInt8 :=
  sha256 (Hmac.outerKey key ++ sha256 (Hmac.innerKey key ++ message))

def hmacHexdigest (key message : List UInt8) : String :=
  String.ofList (hexEncode (hmacSha256 key message))

example : hmacHexdigest [107, 101, 121] [77, 115, 103] =
    "26ff0b0d4e4a83442ecbaa15b8ce006a680c0b9da04dfcd35b33166fd98f8d7f" := by decide +kernel

theorem hmacHexdigest_length (key message : List UInt8) :
    (hmacHexdigest key message).toList.length = 64 := by
  simp [hmacHexdigest, hexEncode, hmacSha256, sha256_length]

end ContinuityOS.Library
