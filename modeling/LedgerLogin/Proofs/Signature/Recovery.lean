import LedgerLogin.Proofs.Curve.Order
import LedgerLogin.Signature

/-!
# Recovering the signer

Whoever signs a digest is recovered from the signature (`recover_signWith?`), unless the nonce's
point has a first coordinate that is not below the order of the group. The recovery id then says
so, and recovery does not take it.

With the nonce `k` and the point `k * G`, the parts of a signature satisfy
`s * k = z + r * d` for the key `d`. The smaller of the two possible `s` is that of `-k` where it
is not that of `k`, and the parity names the point of whichever it is. So recovery always meets a
point `t * G` with `s * t = z + r * d`, and finds `(s * t - z) / r`, which is the key.
-/

namespace LedgerLogin

open Secp256k1

namespace SecretKey

variable {key : SecretKey} {z nonce : Nat} {signature : Bytes} {px py : Nat}

theorem natCast_scalar_ne_zero (key : SecretKey) : (key.scalar : ZMod n) ≠ 0 := by
  intro h
  have hdvd := (ZMod.natCast_eq_zero_iff _ _).1 h
  exact absurd (Nat.le_of_dvd key.pos hdvd) (Nat.not_le.2 key.lt)

/-- The two ways in which the recovery id is written. -/
theorem recoveryId_eq (high y : Nat) :
    high + y % 2 = high + (decide (y % 2 = 1)).toNat := by
  rcases Nat.mod_two_eq_zero_or_one y with h | h <;> simp [h]

@[inherit_doc recoveryId_eq]
theorem recoveryId_flip (above : Prop) [Decidable above] (y : Nat) :
    ((if above then 2 else 0) + y % 2) ^^^ 1 =
      (if above then 2 else 0) + (!decide (y % 2 = 1)).toNat := by
  rcases Nat.mod_two_eq_zero_or_one y with h | h <;> split <;> simp [h]

theorem exists_point (h : key.signWith? z nonce = some signature) :
    ∃ x y, Point.smul nonce Point.base = .affine x y := by
  unfold signWith? at h
  cases hpoint : Point.smul nonce Point.base with
  | infinity => simp [hpoint] at h
  | affine x y => exact ⟨x, y, rfl⟩

/-- What a signature consists of: the point of a number `t`, of which the first coordinate, that of
the nonce's point, and the parity of the second are given, and the `s` that belongs to it. -/
theorem signWith?_eq_some (hnonce : Point.smul nonce Point.base = .affine px py)
    (h : key.signWith? z nonce = some signature) :
    ∃ (x y : ZMod p) (s t : ZMod n) (odd : Bool), x.val = px ∧ curve.Equation x y ∧
      (x.val : ZMod n) ≠ 0 ∧ s ≠ 0 ∧ s * t = z + x.val * key.scalar ∧
      Point.affine x.val (Point.withParity y odd).val = Point.ofGroup (scalarMul t) ∧
      signature = bigEndian 32 (x.val % n) ++ bigEndian 32 s.val ++
        [UInt8.ofNat (27 + ((if n ≤ x.val then 2 else 0) + odd.toNat))] := by
  unfold signWith? at h
  rw [smul_base] at h hnonce
  cases hP : scalarMul nonce with
  | zero => simp [hP, ← WeierstrassCurve.Affine.Point.zero_def] at h
  | some x y hxy =>
    have hx : x.val = px := by
      rw [hP, Point.ofGroup_some] at hnonce
      exact (Point.affine.inj hnonce).1
    have hk : (nonce : ZMod n) ≠ 0 := by
      intro hk
      rw [scalarMul_eq_zero.2 hk] at hP
      exact WeierstrassCurve.Affine.Point.some_ne_zero hxy hP.symm
    have hs : Modular.inv n nonce * (z + x.val % n * key.scalar) % n =
        ((nonce : ZMod n)⁻¹ * (z + x.val * key.scalar)).val := by
      rw [Modular.inv_eq, Modular.mod_eq_val]
      congr 1
      push_cast
      simp
    rw [hP, Point.ofGroup_some] at h
    simp only [hs] at h
    generalize hs' : (nonce : ZMod n)⁻¹ * (z + x.val * key.scalar) = s at h
    have hmul : s * nonce = z + x.val * key.scalar := by
      rw [← hs', mul_comm, mul_inv_cancel_left₀ hk]
    split at h
    · cases h
    · rename_i hne
      obtain ⟨hr, hsne⟩ := not_or.1 hne
      have hr' : (x.val : ZMod n) ≠ 0 := by
        intro hr'
        exact hr (Nat.mod_eq_zero_of_dvd ((ZMod.natCast_eq_zero_iff _ _).1 hr'))
      have hsne' : s ≠ 0 := by
        intro hzero
        subst hzero
        exact hsne ZMod.val_zero
      -- The greater `s` is given up for its negative, which belongs to the negative of the nonce.
      by_cases hflip : n / 2 < s.val
      · have : NeZero s := ⟨hsne'⟩
        simp only [if_pos hflip, Option.some.injEq] at h
        refine ⟨x, y, -s, -nonce, !decide (y.val % 2 = 1), hx, hxy.1, hr', neg_ne_zero.2 hsne',
          ?_, ?_, ?_⟩
        · rw [neg_mul_neg, hmul]
        · rw [map_neg, hP, WeierstrassCurve.Affine.Point.neg_some, Point.ofGroup_some, negY_eq]
          rw [Point.withParity_other]
        · rw [← h, ZMod.val_neg_of_ne_zero, recoveryId_flip]
      · simp only [if_neg hflip, Option.some.injEq] at h
        refine ⟨x, y, s, nonce, decide (y.val % 2 = 1), hx, hxy.1, hr', hsne', hmul, ?_, ?_⟩
        · rw [hP, Point.ofGroup_some]
          rw [Point.withParity_own]
        · rw [← h, recoveryId_eq]

end SecretKey

namespace Signature

/-- The recovery id that signing writes is taken unless it says that the first coordinate of the
nonce's point is not below the order. -/
theorem recoveryParity?_id (above : Prop) [Decidable above] (odd : Bool) :
    recoveryParity? (UInt8.ofNat (27 + ((if above then 2 else 0) + odd.toNat))) =
      if above then none else some odd := by
  split <;> cases odd <;> rfl

theorem length_of_recover {digest : Word} {signature : Bytes} {a : Address}
    (h : recover digest signature = .ok a) : signature.length = 65 := by
  by_contra hlength
  unfold recover at h
  rw [if_pos hlength] at h
  cases h

theorem recover_parts (digest : Word) {r s : Nat} (hr : r < n) (hs : s < n) (id : UInt8) :
    recover digest (bigEndian 32 r ++ bigEndian 32 s ++ [id]) =
      match recoveryParity? id with
      | none => .error (.unsupportedRecoveryId id)
      | some odd =>
        match recoverPoint? (natOfWord digest % n) r s odd with
        | none => .error .rejected
        | some q => .ok (Address.ofPoint q) := by
  have hsize : n < Nat.pow 256 32 := by decide
  have hlength : (bigEndian 32 r ++ bigEndian 32 s ++ [id]).length = 65 := by simp
  have htake : (bigEndian 32 r ++ bigEndian 32 s ++ [id]).take 32 = bigEndian 32 r := by
    rw [List.append_assoc, List.take_left' (by simp)]
  have hdrop : ((bigEndian 32 r ++ bigEndian 32 s ++ [id]).drop 32).take 32 = bigEndian 32 s := by
    rw [List.append_assoc, List.drop_left' (by simp), List.take_left' (by simp)]
  have hid : ((bigEndian 32 r ++ bigEndian 32 s ++ [id]).drop 64).headD 0 = id := by
    rw [List.drop_left' (by simp)]
    rfl
  unfold recover
  rw [if_neg (by rw [hlength]; decide), htake, hdrop, hid, ofBigEndian_bigEndian,
    ofBigEndian_bigEndian, Nat.mod_eq_of_lt (hr.trans hsize), Nat.mod_eq_of_lt (hs.trans hsize)]
  exact if_neg (by omega)

/-- The key is found from its multiple `s * t = z + r * d` and the point of `t`. -/
theorem recoverPoint?_eq {key : SecretKey} {z : Nat} {x y : ZMod p} {s t : ZMod n} {odd : Bool}
    (hxy : curve.Equation x y) (hr : (x.val : ZMod n) ≠ 0) (hs : s ≠ 0)
    (hmul : s * t = z + x.val * key.scalar)
    (hpoint : Point.affine x.val (Point.withParity y odd).val = Point.ofGroup (scalarMul t)) :
    recoverPoint? z x.val s.val odd = some (Point.smul key.scalar Point.base) := by
  have hne : ¬ (x.val = 0 ∨ s.val = 0) := by
    intro hzero
    rcases hzero with h | h
    · exact hr (by rw [h, Nat.cast_zero])
    · exact hs ((ZMod.val_eq_zero s).1 h)
  have hkey : -(z * (x.val : ZMod n)⁻¹) + s * (x.val : ZMod n)⁻¹ * t = key.scalar := by
    rw [mul_right_comm, hmul]
    field_simp
    ring
  unfold recoverPoint?
  rw [if_neg hne, Point.lift?_val hxy odd, hpoint]
  simp only [Option.bind_eq_bind, Option.bind_some, smul_base, Point.smul_ofGroup,
    Point.add_ofGroup, nsmul_scalarMul, ← map_add, Modular.natCast_sub, Modular.inv_eq,
    ZMod.natCast_mod, Nat.cast_mul, ZMod.natCast_zmod_val, Nat.cast_zero, zero_sub, hkey]
  rw [if_neg]
  intro hinf
  exact key.natCast_scalar_ne_zero (scalarMul_eq_zero.1 (Point.ofGroup_eq_infinity.1 hinf))

end Signature

namespace SecretKey

open Signature

variable {key : SecretKey} {z nonce : Nat} {digest : Word} {signature : Bytes} {x y : Nat}

/-- Whoever signs a digest is recovered from the signature if the first coordinate of the nonce's
point is below the order. -/
theorem recover_signWith? (hnonce : Point.smul nonce Point.base = .affine x y)
    (h : key.signWith? (signedNumber digest) nonce = some signature) (hx : x < n) :
    recover digest signature = .ok key.address := by
  obtain ⟨x, y, s, t, odd, rfl, hxy, hr, hs, hmul, hpoint, hsig⟩ := signWith?_eq_some hnonce h
  rw [hsig, recover_parts digest (Nat.mod_lt _ (by decide)) (ZMod.val_lt s), recoveryParity?_id,
    if_neg (Nat.not_le.2 hx), Nat.mod_eq_of_lt hx]
  simp only
  rw [← signedNumber, recoverPoint?_eq hxy hr hs hmul hpoint]
  rfl

/-! ## Signatures that recovery takes -/

/-- A nonce gives a signature unless its `s` is zero. -/
theorem exists_signWith? (key : SecretKey) {x y : Nat}
    (hpoint : Point.smul nonce Point.base = .affine x y) (hnonce : (nonce : ZMod n) ≠ 0)
    (hx : (x : ZMod n) ≠ 0) (hs : (z : ZMod n) + x * key.scalar ≠ 0) :
    ∃ signature, key.signWith? z nonce = some signature := by
  have hx' : ¬ x % n = 0 := by
    intro h
    exact hx ((ZMod.natCast_eq_zero_iff _ _).2 (Nat.dvd_of_mod_eq_zero h))
  have hs' : ¬ Modular.inv n nonce * (z + x % n * key.scalar) % n = 0 := by
    intro h
    have hzero := (ZMod.natCast_eq_zero_iff _ _).2 (Nat.dvd_of_mod_eq_zero h)
    push_cast [Modular.inv_eq] at hzero
    rw [ZMod.natCast_zmod_val, ZMod.natCast_mod] at hzero
    exact mul_ne_zero (inv_ne_zero hnonce) hs hzero
  unfold signWith?
  simp only [hpoint, hx', hs', or_self, if_false]
  exact ⟨_, rfl⟩

/-- The points of the nonces 1 and 2. -/
theorem smul_one_base : Point.smul 1 Point.base = .affine baseX baseY := by decide +kernel

@[inherit_doc smul_one_base]
theorem smul_two_base : Point.smul 2 Point.base =
    .affine 0xC6047F9441ED7D6D3045406E95C07CD85C778E4B8CEF3CA7ABAC09B95C709EE5
      0x1AE168FEA63DC339A3C58419466CEAEEF7F632653266D0E1236431A950CFE52A := by
  decide +kernel

/-- Every key has a signature of every digest that its address is recovered from. -/
theorem exists_recover (key : SecretKey) (digest : Word) :
    ∃ signature, recover digest signature = .ok key.address := by
  have hcast : ∀ k : Nat, k ≠ 0 → k < n → (k : ZMod n) ≠ 0 := by
    intro k hk hlt h
    exact hk (Nat.eq_zero_of_dvd_of_lt ((ZMod.natCast_eq_zero_iff _ _).1 h) hlt)
  have hof : ∀ nonce x y : Nat, Point.smul nonce Point.base = .affine x y → nonce ≠ 0 →
      nonce < n → x ≠ 0 → x < n →
      ((natOfWord digest % n : Nat) : ZMod n) + x * key.scalar ≠ 0 →
      ∃ signature, recover digest signature = .ok key.address := by
    intro nonce x y hpoint hnonce hnonceLt hx hlt hs
    obtain ⟨signature, hsign⟩ :=
      key.exists_signWith? hpoint (hcast nonce hnonce hnonceLt) (hcast x hx hlt) hs
    exact ⟨signature, by
      exact recover_signWith? hpoint hsign hlt⟩
  -- The points of two nonces differ in their first coordinate, so one of the two `s` is not zero.
  by_cases hs : ((natOfWord digest % n : Nat) : ZMod n) + baseX * key.scalar = 0
  · refine hof 2 _ _ smul_two_base (by decide) (by decide) (by decide) (by decide) ?_
    intro hs'
    have hmul := sub_eq_zero.2 (hs'.trans hs.symm)
    rw [add_sub_add_left_eq_sub, ← sub_mul, ← Nat.cast_sub (by decide)] at hmul
    exact mul_ne_zero (hcast _ (by decide) (by decide)) key.natCast_scalar_ne_zero hmul
  · exact hof 1 _ _ smul_one_base (by decide) (by decide) (by decide) (by decide) hs

end SecretKey

end LedgerLogin
