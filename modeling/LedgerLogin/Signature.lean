import LedgerLogin.Address
import LedgerLogin.Hash.Sha256
import LedgerLogin.Text.Blank

/-!
# Signatures and signer recovery

A signature is 65 bytes: `r`, `s` and a recovery id, which says which of the points with first
coordinate `r` is meant and is written either plainly as 0 or 1 or as 27 or 28. Recovery finds the
only public key under which the signature is one of the digest, so a signature needs no signer
beside it.

Signing draws its nonce from the key and the digest (RFC 6979), for as long as it takes until a
number can be one, always gives the smaller of the two possible `s`, and writes the recovery id the
second way.
-/

namespace LedgerLogin

open Secp256k1 (Point n)

/-- Why no signer can be recovered. -/
inductive SignatureError where
  | wrongLength (length : Nat)
  /-- The recovery id is none of the four that are allowed. -/
  | unsupportedRecoveryId (id : UInt8)
  /-- A part is out of range, or no key fits the signature. -/
  | rejected
  deriving DecidableEq, Repr

def SignatureError.message : SignatureError → String
  | wrongLength length => s!"invalid signature: expected 65 bytes, got {length}"
  | unsupportedRecoveryId id => s!"invalid signature: unsupported recovery id {id}"
  | rejected => "invalid signature: InvalidSignature"

namespace Signature

/-- Whether a recovery id asks for the point whose second coordinate is odd. -/
def recoveryParity? (id : UInt8) : Option Bool :=
  match id with
  | 27 => some false
  | 28 => some true
  | 0 => some false
  | 1 => some true
  | _ => none

/-- The public key under which `r` and `s` sign the number `z`: the only `Q` with
`s * R = z * G + r * Q`, where `R` is the point that `r` and the parity name. -/
def recoverPoint? (z r s : Nat) (odd : Bool) : Option Point := do
  if r = 0 ∨ s = 0 then none
  let point ← Point.lift? r odd
  let inverse := Modular.inv n r
  let q := (Point.smul (Modular.sub n 0 (z * inverse % n)) Point.base).add
    (Point.smul (s * inverse % n) point)
  if q = .infinity then none else some q

/-- The address that signed a digest. -/
def recover (digest : Word) (signature : Bytes) : Except SignatureError Address :=
  if signature.length ≠ 65 then .error (.wrongLength signature.length)
  else
    let r := ofBigEndian (signature.take 32)
    let s := ofBigEndian ((signature.drop 32).take 32)
    let id := (signature.drop 64).headD 0
    -- The range of both parts is judged before the recovery id.
    if n ≤ r ∨ n ≤ s then .error .rejected
    else match recoveryParity? id with
      | none => .error (.unsupportedRecoveryId id)
      | some odd =>
        match recoverPoint? (natOfWord digest % n) r s odd with
        | none => .error .rejected
        | some q => .ok (Address.ofPoint q)

end Signature

/-- Why a secret key cannot be taken. -/
inductive KeyError where
  | malformed (fault : Hex.Fault)
  /-- The number is zero or not below the order of the group. -/
  | outOfRange
  deriving DecidableEq, Repr

def KeyError.message : KeyError → String
  | malformed fault => s!"key error: secret key hex: {fault.message}"
  | outOfRange => "key error: InvalidSecretKey"

/-- A secret key: a nonzero number below the order of the group. -/
structure SecretKey where
  scalar : Nat
  pos : 0 < scalar
  lt : scalar < n

namespace SecretKey

def ofNat (k : Nat) : Except KeyError SecretKey :=
  if h : 0 < k ∧ k < n then .ok ⟨k, h.1, h.2⟩ else .error .outOfRange

def ofWord (w : Word) : Except KeyError SecretKey := ofNat (natOfWord w)

/-- The key that 64 digits spell, with or without `0x` before and blanks around them. -/
def parse (s : String) : Except KeyError SecretKey :=
  let digits := match (Text.trimmed s).toList with
    | '0' :: 'x' :: rest => String.ofList rest
    | cs => String.ofList cs
  match Hex.decodeFixed 32 digits with
  | .ok w => ofWord w
  | .error fault => .error (.malformed fault)

def address (key : SecretKey) : Address := Address.ofPoint (Point.smul key.scalar Point.base)

/-- The state of the generator of nonces. -/
structure Nonces where
  key : Bytes
  value : Bytes
  deriving DecidableEq

/-- The generator with more data mixed in. -/
def Nonces.mix (g : Nonces) (data : Bytes) : Nonces :=
  let key := hmacSha256 g.key (g.value ++ data)
  ⟨key, hmacSha256 key g.value⟩

def Nonces.number (g : Nonces) : Nat := ofBigEndian (hmacSha256 g.key g.value)

def Nonces.next (g : Nonces) : Nonces :=
  (⟨g.key, hmacSha256 g.key g.value⟩ : Nonces).mix [0]

/-- The generator for a key and a number to sign. -/
def nonces (key : SecretKey) (z : Nat) : Nonces :=
  let seed := bigEndian 32 key.scalar ++ bigEndian 32 z
  let start : Nonces := ⟨List.replicate 32 0, List.replicate 32 1⟩
  (start.mix (0 :: seed)).mix (1 :: seed)

/-- The signature of the number `z` with a nonce, unless one of its parts would be zero. -/
def signWith? (key : SecretKey) (z nonce : Nat) : Option Bytes :=
  match Point.smul nonce Point.base with
  | .infinity => none
  | .affine x y =>
    let r := x % n
    let s := Modular.inv n nonce * (z + r * key.scalar) % n
    if r = 0 ∨ s = 0 then none
    else
      let id := (if n ≤ x then 2 else 0) + y % 2
      -- Negating `s` negates the point, which turns the parity of its second coordinate.
      let (s, id) := if n / 2 < s then (n - s, id ^^^ 1) else (s, id)
      some (bigEndian 32 r ++ bigEndian 32 s ++ [UInt8.ofNat (27 + id)])

/-- The signature with a number of the generator, if it can be a nonce and gives one. -/
def attempt? (key : SecretKey) (z number : Nat) : Option Bytes :=
  if 0 < number ∧ number < n then key.signWith? z number else none

/-- How many states there are of 64 bytes. After as many numbers a generator only repeats itself. -/
def Nonces.states : Nat := Nat.pow 256 64

/-- The signature with the first number of the generator that gives one, if one of so many does. -/
def signFrom? (key : SecretKey) (z : Nat) : (tries : Nat) → Nonces → Option Bytes
  | 0, _ => none
  | tries + 1, g =>
    match key.attempt? z g.number with
    | some signature => some signature
    | none => signFrom? key z tries g.next

/-- What is signed of a digest. -/
def signedNumber (digest : Word) : Nat := natOfWord digest % n

/-- The signature of a digest. If no number of the generator ever gives one, the search for it does
not end, and there is none. -/
def sign? (key : SecretKey) (digest : Word) : Option Bytes :=
  key.signFrom? (signedNumber digest) Nonces.states (key.nonces (signedNumber digest))

end SecretKey

end LedgerLogin
