import LedgerLogin.Bytes

/-!
# Keccak-256

The sponge over the 1600-bit permutation with rate 136 bytes and the padding of the first
submission (a one bit, zeros, a one bit), which ledgers use for addresses, selectors and
commitments.
-/

namespace LedgerLogin.Keccak

/-- The state: 25 lanes, the lane at column `x` and row `y` at index `x + 5 * y`. -/
abbrev Lanes := Vector UInt64 25

/-- The lane at a column and a row, both counted modulo five. -/
def lane (s : Lanes) (x y : Nat) : UInt64 := s.get ⟨x % 5 + 5 * (y % 5), by omega⟩

def turn (a : UInt64) (n : UInt64) : UInt64 := (a <<< n) ||| (a >>> (64 - n))

/-- How far each lane is turned. -/
def offsets : Vector UInt64 25 := #v[
  0, 1, 62, 28, 27,
  36, 44, 6, 55, 20,
  3, 10, 43, 25, 39,
  41, 45, 15, 21, 8,
  18, 2, 61, 56, 14]

def roundConstants : List UInt64 := [
  0x0000000000000001, 0x0000000000008082, 0x800000000000808A, 0x8000000080008000,
  0x000000000000808B, 0x0000000080000001, 0x8000000080008081, 0x8000000000008009,
  0x000000000000008A, 0x0000000000000088, 0x0000000080008009, 0x000000008000000A,
  0x000000008000808B, 0x800000000000008B, 0x8000000000008089, 0x8000000000008003,
  0x8000000000008002, 0x8000000000000080, 0x000000000000800A, 0x800000008000000A,
  0x8000000080008081, 0x8000000000008080, 0x0000000080000001, 0x8000000080008008]

def parities (s : Lanes) : Vector UInt64 5 :=
  Vector.ofFn fun x => lane s x 0 ^^^ lane s x 1 ^^^ lane s x 2 ^^^ lane s x 3 ^^^ lane s x 4

/-- Each lane with the parities of two neighbouring columns added. -/
def mixColumns (s : Lanes) : Lanes :=
  let c := parities s
  Vector.ofFn fun i =>
    s[i] ^^^ c.get ⟨(i.val + 4) % 5, by omega⟩ ^^^ turn (c.get ⟨(i.val + 1) % 5, by omega⟩) 1

/-- The lanes turned and moved to their new places. -/
def scatter (s : Lanes) : Lanes :=
  Vector.ofFn fun i =>
    let x := i.val % 5
    let y := i.val / 5
    turn (lane s (x + 3 * y) x) (lane offsets (x + 3 * y) x)

/-- Each lane combined with the next two of its row. -/
def mixRows (s : Lanes) : Lanes :=
  Vector.ofFn fun i =>
    let x := i.val % 5
    let y := i.val / 5
    s[i] ^^^ (~~~(lane s (x + 1) y) &&& lane s (x + 2) y)

def round (s : Lanes) (constant : UInt64) : Lanes :=
  let s := mixRows (scatter (mixColumns s))
  s.set 0 (s[0] ^^^ constant)

def permute (s : Lanes) : Lanes := roundConstants.foldl round s

/-- How many bytes of the state a block of input fills. -/
def rate : Nat := 136

/-- The padding that fills up the last block of an input of the given length. -/
def padding (length : Nat) : Bytes :=
  match rate - length % rate with
  | 1 => [0x81]
  | n => 0x01 :: List.replicate (n - 2) 0 ++ [0x80]

/-- The lane that eight bytes of a block spell, the least significant first. -/
def blockLane (block : Array UInt8) (i : Nat) : UInt64 :=
  (List.range 8).foldr (fun j a => (a <<< 8) ||| (block.getD (8 * i + j) 0).toUInt64) 0

/-- The state after a padded input has been taken in. -/
def absorb (s : Lanes) (input : Bytes) : Lanes :=
  if input.isEmpty then s
  else
    let block := (input.take rate).toArray
    -- The rate is 17 lanes; the other eight take in nothing.
    let s := Vector.ofFn fun i : Fin 25 =>
      if i.val < 17 then s[i] ^^^ blockLane block i else s[i]
    absorb (permute s) (input.drop rate)
termination_by input.length
decreasing_by
  simp only [List.isEmpty_iff] at *
  have : 0 < input.length := List.length_pos_iff.2 ‹_›
  simp only [List.length_drop, rate]
  omega

/-- The first 32 bytes of the state. -/
def squeeze (s : Lanes) : Word :=
  Vector.ofFn fun i => (s.get ⟨i.val / 8, by omega⟩ >>> (8 * (i.val % 8)).toUInt64).toUInt8

end LedgerLogin.Keccak

namespace LedgerLogin

def keccak256 (input : Bytes) : Word :=
  Keccak.squeeze <|
    Keccak.absorb (Vector.replicate 25 0) (input ++ Keccak.padding input.length)

end LedgerLogin
