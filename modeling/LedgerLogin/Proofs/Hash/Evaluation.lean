import LedgerLogin.Hash.Keccak
import Mathlib

/-!
# Hashing by numbers

The same sponge on rows of five natural numbers, whose arithmetic is fast to evaluate inside a
proof, with the moves of the lanes written out. `toList_keccak256` says that it gives the same hash.
-/

namespace LedgerLogin.Keccak

def row (s : Lanes) (y : Nat) : List Nat :=
  [(lane s 0 y).toNat, (lane s 1 y).toNat, (lane s 2 y).toNat, (lane s 3 y).toNat,
    (lane s 4 y).toNat]

def rows (s : Lanes) : List (List Nat) := [row s 0, row s 1, row s 2, row s 3, row s 4]

namespace Rows

def turn (a n : Nat) : Nat := (a <<< n) % 2 ^ 64 ||| a >>> (64 - n)

def add : List Nat → List Nat → List Nat := List.zipWith (· ^^^ ·)

def parities (s : List (List Nat)) : List Nat := s.tail.foldl add (s.headD [])

/-- Each number with the one before it, and with the one behind it turned by one. -/
def mixColumns (s : List (List Nat)) : List (List Nat) :=
  match parities s with
  | [a, b, c, d, e] =>
    s.map fun row =>
      add (add row [e, a, b, c, d]) [turn b 1, turn c 1, turn d 1, turn e 1, turn a 1]
  | _ => s

def scatter : List (List Nat) → List (List Nat)
  | [[a₀, a₁, a₂, a₃, a₄], [b₀, b₁, b₂, b₃, b₄], [c₀, c₁, c₂, c₃, c₄], [d₀, d₁, d₂, d₃, d₄],
      [e₀, e₁, e₂, e₃, e₄]] =>
    [[a₀, turn b₁ 44, turn c₂ 43, turn d₃ 21, turn e₄ 14],
      [turn a₃ 28, turn b₄ 20, turn c₀ 3, turn d₁ 45, turn e₂ 61],
      [turn a₁ 1, turn b₂ 6, turn c₃ 25, turn d₄ 8, turn e₀ 18],
      [turn a₄ 27, turn b₀ 36, turn c₁ 10, turn d₂ 15, turn e₃ 56],
      [turn a₂ 62, turn b₃ 55, turn c₄ 39, turn d₀ 41, turn e₁ 2]]
  | s => s

def combine (a b c : Nat) : Nat := a ^^^ ((2 ^ 64 - 1 - b) &&& c)

def mixRow : List Nat → List Nat
  | [a, b, c, d, e] => [combine a b c, combine b c d, combine c d e, combine d e a, combine e a b]
  | row => row

def addConstant (k : Nat) : List (List Nat) → List (List Nat)
  | (a :: row) :: rest => ((a ^^^ k) :: row) :: rest
  | s => s

def round (s : List (List Nat)) (constant : Nat) : List (List Nat) :=
  addConstant constant ((scatter (mixColumns s)).map mixRow)

def permute (s : List (List Nat)) : List (List Nat) :=
  (roundConstants.map UInt64.toNat).foldl round s

/-- The lanes that a block fills, and zeros in the others. -/
def ofBlock (block : Bytes) : List (List Nat) :=
  rows (Vector.ofFn fun i : Fin 25 => if i.val < 17 then blockLane block.toArray i else 0)

/-- The rows after some blocks have been taken in. -/
def absorb : (blocks : Nat) → List (List Nat) → Bytes → List (List Nat)
  | 0, s, _ => s
  | blocks + 1, s, input =>
    absorb blocks (permute (List.zipWith add s (ofBlock (input.take rate)))) (input.drop rate)

/-- The bytes of a number, the least significant first. -/
def bytes (a : Nat) : Bytes := (List.range 8).map fun i => UInt8.ofNat (a >>> (8 * i))

def squeeze (s : List (List Nat)) : Bytes := ((s.headD []).take 4).flatMap bytes

def hash (input : Bytes) : Bytes :=
  squeeze (absorb (input.length / rate + 1) (List.replicate 5 (List.replicate 5 0))
    (input ++ padding input.length))

end Rows

/-! ## The steps of a round -/

theorem position_lt (x y : Nat) : x % 5 + 5 * (y % 5) < 25 := by
  omega

theorem lane_ofFn (f : Fin 25 → UInt64) (x y : Nat) :
    lane (Vector.ofFn f) x y = f ⟨x % 5 + 5 * (y % 5), position_lt x y⟩ := by
  simp only [lane, Vector.get, Vector.toArray_ofFn, Array.getElem_ofFn]
  rfl

theorem rows_ofFn (f : Fin 25 → UInt64) : rows (Vector.ofFn f) =
    [[(f 0).toNat, (f 1).toNat, (f 2).toNat, (f 3).toNat, (f 4).toNat],
      [(f 5).toNat, (f 6).toNat, (f 7).toNat, (f 8).toNat, (f 9).toNat],
      [(f 10).toNat, (f 11).toNat, (f 12).toNat, (f 13).toNat, (f 14).toNat],
      [(f 15).toNat, (f 16).toNat, (f 17).toNat, (f 18).toNat, (f 19).toNat],
      [(f 20).toNat, (f 21).toNat, (f 22).toNat, (f 23).toNat, (f 24).toNat]] := by
  simp only [rows, row, lane_ofFn]
  rfl

theorem toNat_turn (a n : UInt64) (hn : 0 < n.toNat ∧ n.toNat < 64) :
    (turn a n).toNat = Rows.turn a.toNat n.toNat := by
  have hback : (64 - n).toNat = 64 - n.toNat := by
    rw [UInt64.toNat_sub_of_le]
    · rfl
    · rw [UInt64.le_iff_toNat_le]
      exact Nat.le_of_lt hn.2
  rw [turn, Rows.turn, UInt64.toNat_or, UInt64.toNat_shiftLeft, UInt64.toNat_shiftRight, hback,
    Nat.mod_eq_of_lt hn.2, Nat.mod_eq_of_lt (by omega : 64 - n.toNat < 64)]

theorem turn_zero (a : UInt64) : turn a 0 = a := by
  rw [turn]
  apply UInt64.toNat_inj.1
  simp

theorem parities_get (s : Lanes) (x : Fin 5) : (parities s).get x =
    lane s x 0 ^^^ lane s x 1 ^^^ lane s x 2 ^^^ lane s x 3 ^^^ lane s x 4 := by
  simp only [parities, Vector.get, Vector.toArray_ofFn, Array.getElem_ofFn]
  rfl

theorem rows_mixColumns (s : Lanes) : rows (mixColumns s) = Rows.mixColumns (rows s) := by
  rw [mixColumns, rows_ofFn]
  simp only [parities_get, UInt64.toNat_xor, toNat_turn _ 1 (by decide)]
  rfl

theorem toNat_turn_offset (a : UInt64) (x y : Nat) (h : 0 < (lane offsets x y).toNat) :
    (turn a (lane offsets x y)).toNat = Rows.turn a.toNat (lane offsets x y).toNat := by
  have hoffsets : ∀ i : Fin 25, (offsets.get i).toNat < 64 := by
    decide
  exact toNat_turn _ _ ⟨h, hoffsets _⟩

theorem rows_scatter (s : Lanes) : rows (scatter s) = Rows.scatter (rows s) := by
  have hfirst : (turn (lane s 0 0) (lane offsets 0 0)).toNat = (lane s 0 0).toNat :=
    congrArg UInt64.toNat (turn_zero _)
  rw [scatter, rows_ofFn]
  -- Of all lanes only the first is not turned, and `turn` by zero shifts back by 64.
  simp (disch := decide) only [toNat_turn_offset]
  exact congrArg₂ List.cons (congrArg₂ List.cons hfirst rfl) rfl

theorem rows_mixRows (s : Lanes) : rows (mixRows s) = (rows s).map Rows.mixRow := by
  rw [mixRows, rows_ofFn]
  simp only [UInt64.toNat_xor, UInt64.toNat_and, UInt64.toNat_not]
  rfl

theorem lane_set (s : Lanes) (a : UInt64) (h : 0 < 25) (x y : Nat) :
    lane (s.set 0 a h) x y = if 0 = x % 5 + 5 * (y % 5) then a else lane s x y :=
  Vector.getElem_set h (position_lt x y)

theorem rows_set (s : Lanes) (k : UInt64) (h : 0 < 25) :
    rows (s.set 0 (lane s 0 0 ^^^ k) h) = Rows.addConstant k.toNat (rows s) := by
  simp only [rows, row, lane_set]
  exact congrArg₂ List.cons (congrArg₂ List.cons (UInt64.toNat_xor (lane s 0 0) k) rfl) rfl

theorem rows_permute (s : Lanes) : rows (permute s) = Rows.permute (rows s) := by
  rw [permute, Rows.permute]
  generalize roundConstants = constants
  induction constants generalizing s with
  | nil => rfl
  | cons k constants ih =>
    have hround : rows (round s k) = Rows.round (rows s) k.toNat := by
      calc rows (round s k)
          = Rows.addConstant k.toNat (rows (mixRows (scatter (mixColumns s)))) :=
            rows_set _ k (by decide)
        _ = Rows.addConstant k.toNat ((rows (scatter (mixColumns s))).map Rows.mixRow) := by
            rw [rows_mixRows]
        _ = Rows.round (rows s) k.toNat := by
            rw [rows_scatter, rows_mixColumns, Rows.round]
    rw [List.foldl_cons, ih, List.map_cons, List.foldl_cons, hround]

/-! ## The sponge -/

theorem length_padding (length : Nat) : (padding length).length = rate - length % rate := by
  have hlt : length % rate < rate := Nat.mod_lt length (by decide)
  unfold padding
  split
  · rename_i hone
    rw [hone]
    rfl
  · rename_i hmany
    have hspare : rate - length % rate ≠ 1 := hmany
    simp only [List.length_append, List.length_cons, List.length_replicate, List.length_nil]
    omega

/-- A padded input consists of whole blocks. -/
theorem length_padded (input : Bytes) :
    (input ++ padding input.length).length = (input.length / rate + 1) * rate := by
  have hdiv := Nat.div_add_mod input.length rate
  have hlt : input.length % rate < rate := Nat.mod_lt input.length (by decide)
  rw [List.length_append, length_padding, Nat.succ_mul, Nat.mul_comm]
  omega

theorem rows_addBlock (s : Lanes) (block : Bytes) :
    rows (Vector.ofFn fun i : Fin 25 =>
      if i.val < 17 then s.get i ^^^ blockLane block.toArray i else s.get i) =
      List.zipWith Rows.add (rows s) (Rows.ofBlock block) := by
  have hlane : ∀ i : Fin 25,
      (if i.val < 17 then s.get i ^^^ blockLane block.toArray i else s.get i).toNat =
        (s.get i).toNat ^^^ (if i.val < 17 then blockLane block.toArray i else 0).toNat := by
    intro i
    split
    · exact UInt64.toNat_xor _ _
    · exact (Nat.xor_zero _).symm
  rw [Rows.ofBlock, rows_ofFn, rows_ofFn]
  simp only [hlane]
  rfl

theorem rows_absorb {blocks : Nat} : ∀ {s : Lanes} {input : Bytes},
    input.length = blocks * rate → rows (absorb s input) = Rows.absorb blocks (rows s) input := by
  induction blocks with
  | zero =>
    intro s input h
    rw [Nat.zero_mul, List.length_eq_zero_iff] at h
    rw [h, absorb]
    rfl
  | succ blocks ih =>
    intro s input h
    rw [Nat.succ_mul] at h
    have hnonempty : ¬ input.isEmpty = true := by
      intro hempty
      rw [List.isEmpty_iff.1 hempty] at h
      exact absurd h (by simp [rate])
    have hrest : (input.drop rate).length = blocks * rate := by
      rw [List.length_drop]
      omega
    rw [absorb, if_neg hnonempty]
    simp only
    rw [ih hrest, rows_permute]
    exact congrArg (fun added => Rows.absorb blocks (Rows.permute added) (input.drop rate))
      (rows_addBlock s (input.take rate))

theorem toUInt8_shiftRight (a k : UInt64) (hk : k.toNat < 64) :
    (a >>> k).toUInt8 = UInt8.ofNat (a.toNat >>> k.toNat) := by
  apply UInt8.toNat_inj.1
  rw [UInt64.toNat_toUInt8, UInt64.toNat_shiftRight, UInt8.toNat_ofNat', Nat.mod_eq_of_lt hk]

theorem toList_squeeze (s : Lanes) : (squeeze s).toList = Rows.squeeze (rows s) := by
  have hbyte : ∀ (i : Fin 32) (h : i.val / 8 < 25),
      (s.get ⟨i.val / 8, h⟩ >>> (8 * (i.val % 8)).toUInt64).toUInt8 =
        UInt8.ofNat ((s.get ⟨i.val / 8, h⟩).toNat >>> (8 * (i.val % 8))) := by
    intro i h
    have hk : (8 * (i.val % 8)).toUInt64.toNat = 8 * (i.val % 8) := by
      rw [Nat.toUInt64, UInt64.toNat_ofNat', Nat.mod_eq_of_lt (by omega)]
    rw [toUInt8_shiftRight _ _ (by omega), hk]
  rw [squeeze, Vector.toList_ofFn]
  simp only [hbyte]
  rfl

/-- The hash is that of the rows. -/
theorem toList_keccak256 (input : Bytes) : (keccak256 input).toList = Rows.hash input := by
  calc (keccak256 input).toList
      = Rows.squeeze (rows (absorb (Vector.replicate 25 0) (input ++ padding input.length))) :=
        toList_squeeze _
    _ = Rows.squeeze (Rows.absorb (input.length / rate + 1) (rows (Vector.replicate 25 0))
          (input ++ padding input.length)) := by
        rw [rows_absorb (length_padded input)]
    _ = Rows.hash input := rfl

end LedgerLogin.Keccak
