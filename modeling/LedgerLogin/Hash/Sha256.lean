import LedgerLogin.Bytes

/-!
# SHA-256 and its keyed form

The hash of FIPS 180-4 and the message authentication code HMAC over it, from which signing draws
its nonces.
-/

namespace LedgerLogin.Sha256

structure State where
  a : UInt32
  b : UInt32
  c : UInt32
  d : UInt32
  e : UInt32
  f : UInt32
  g : UInt32
  h : UInt32

def initial : State :=
  ⟨0x6a09e667, 0xbb67ae85, 0x3c6ef372, 0xa54ff53a, 0x510e527f, 0x9b05688c, 0x1f83d9ab, 0x5be0cd19⟩

def roundConstants : List UInt32 := [
  0x428a2f98, 0x71374491, 0xb5c0fbcf, 0xe9b5dba5, 0x3956c25b, 0x59f111f1, 0x923f82a4, 0xab1c5ed5,
  0xd807aa98, 0x12835b01, 0x243185be, 0x550c7dc3, 0x72be5d74, 0x80deb1fe, 0x9bdc06a7, 0xc19bf174,
  0xe49b69c1, 0xefbe4786, 0x0fc19dc6, 0x240ca1cc, 0x2de92c6f, 0x4a7484aa, 0x5cb0a9dc, 0x76f988da,
  0x983e5152, 0xa831c66d, 0xb00327c8, 0xbf597fc7, 0xc6e00bf3, 0xd5a79147, 0x06ca6351, 0x14292967,
  0x27b70a85, 0x2e1b2138, 0x4d2c6dfc, 0x53380d13, 0x650a7354, 0x766a0abb, 0x81c2c92e, 0x92722c85,
  0xa2bfe8a1, 0xa81a664b, 0xc24b8b70, 0xc76c51a3, 0xd192e819, 0xd6990624, 0xf40e3585, 0x106aa070,
  0x19a4c116, 0x1e376c08, 0x2748774c, 0x34b0bcb5, 0x391c0cb3, 0x4ed8aa4a, 0x5b9cca4f, 0x682e6ff3,
  0x748f82ee, 0x78a5636f, 0x84c87814, 0x8cc70208, 0x90befffa, 0xa4506ceb, 0xbef9a3f7, 0xc67178f2]

def turn (a n : UInt32) : UInt32 := (a >>> n) ||| (a <<< (32 - n))

/-- The message schedule with `count` more words. -/
def extend (ws : Array UInt32) : (count : Nat) → Array UInt32
  | 0 => ws
  | count + 1 =>
    let back (n : Nat) : UInt32 := ws.getD (ws.size - n) 0
    let s0 := turn (back 15) 7 ^^^ turn (back 15) 18 ^^^ (back 15 >>> 3)
    let s1 := turn (back 2) 17 ^^^ turn (back 2) 19 ^^^ (back 2 >>> 10)
    extend (ws.push (back 16 + s0 + back 7 + s1)) count

def round (s : State) (constant word : UInt32) : State :=
  let s1 := turn s.e 6 ^^^ turn s.e 11 ^^^ turn s.e 25
  let choice := (s.e &&& s.f) ^^^ (~~~s.e &&& s.g)
  let t1 := s.h + s1 + choice + constant + word
  let s0 := turn s.a 2 ^^^ turn s.a 13 ^^^ turn s.a 22
  let majority := (s.a &&& s.b) ^^^ (s.a &&& s.c) ^^^ (s.b &&& s.c)
  ⟨t1 + (s0 + majority), s.a, s.b, s.c, s.d + t1, s.e, s.f, s.g⟩

/-- The word that four bytes of a block spell. -/
def blockWord (block : Array UInt8) (i : Nat) : UInt32 :=
  (List.range 4).foldl (fun a j => (a <<< 8) ||| (block.getD (4 * i + j) 0).toUInt32) 0

/-- The state after one more block. -/
def compress (s : State) (block : Bytes) : State :=
  let bytes := block.toArray
  let ws := extend (Array.ofFn fun i : Fin 16 => blockWord bytes i) 48
  let t := (roundConstants.zip ws.toList).foldl (fun t kw => round t kw.1 kw.2) s
  ⟨s.a + t.a, s.b + t.b, s.c + t.c, s.d + t.d, s.e + t.e, s.f + t.f, s.g + t.g, s.h + t.h⟩

def padding (length : Nat) : Bytes :=
  0x80 :: List.replicate ((119 - length % 64) % 64) 0 ++ bigEndian 8 (8 * length)

def absorb (s : State) (input : Bytes) : State :=
  if input.isEmpty then s else absorb (compress s (input.take 64)) (input.drop 64)
termination_by input.length
decreasing_by
  simp only [List.isEmpty_iff] at *
  have : 0 < input.length := List.length_pos_iff.2 ‹_›
  simp only [List.length_drop]
  omega

def State.bytes (s : State) : Bytes :=
  [s.a, s.b, s.c, s.d, s.e, s.f, s.g, s.h].flatMap fun w => bigEndian 4 w.toNat

end LedgerLogin.Sha256

namespace LedgerLogin

def sha256 (input : Bytes) : Bytes :=
  (Sha256.absorb Sha256.initial (input ++ Sha256.padding input.length)).bytes

/-- The authentication code of a message under a key of at most 64 bytes. -/
def hmacSha256 (key message : Bytes) : Bytes :=
  let padded := key ++ List.replicate (64 - key.length) 0
  sha256 (padded.map (· ^^^ 0x5c) ++ sha256 (padded.map (· ^^^ 0x36) ++ message))

end LedgerLogin
