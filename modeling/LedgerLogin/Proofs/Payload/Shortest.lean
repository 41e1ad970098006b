import LedgerLogin.Proofs.Payload.Fields

/-!
# Fields are written as short as they can be

A number may be read from more digits than it needs, but it is written with as few as there are
(`Varint.length_write_le`), and so is a field of bytes (`length_delimitedField_le`). No number that
is read, and so no length, is beyond 64 bits. `Reader.run_invariant` carries such facts from one
token to a whole message.
-/

namespace LedgerLogin

namespace Varint

/-- What the digits that are left can spell: the tenth has room for a single bit. -/
theorem readFrom_lt {index n : Nat} {bs after : Bytes} (hindex : index ≤ 9)
    (h : readFrom index bs = some (n, after)) : n < 2 * 128 ^ (9 - index) := by
  induction bs generalizing index n with
  | nil => cases h
  | cons b rest ih =>
    have hb := b.toNat_lt
    rw [readFrom] at h
    split at h
    · cases h
    · rename_i hlast
      split at h
      · rename_i hdigit
        cases h
        by_cases hnine : index = 9
        · rw [hnine, Nat.sub_self]
          omega
        · have hpow : 128 ^ 1 ≤ 128 ^ (9 - index) := Nat.pow_le_pow_right (by decide) (by omega)
          omega
      · obtain ⟨⟨m, r⟩, hr, he⟩ := Option.map_eq_some_iff.1 h
        cases he
        have hm := ih (by omega) hr
        have hpow : 128 ^ (9 - index) = 128 ^ (9 - (index + 1)) * 128 := by
          rw [← Nat.pow_succ]
          congr 1
          omega
        omega

theorem read?_lt {n : Nat} {bs after : Bytes} (h : read? bs = some (n, after)) : n < 2 ^ 64 :=
  readFrom_lt (by decide) h

theorem length_write_le {index n : Nat} {bs after : Bytes}
    (h : readFrom index bs = some (n, after)) :
    (write n).length + after.length ≤ bs.length := by
  induction bs generalizing index n with
  | nil => cases h
  | cons b rest ih =>
    have hb := b.toNat_lt
    rw [readFrom] at h
    split at h
    · cases h
    · split at h
      · rename_i hdigit
        cases h
        rw [write, if_pos hdigit]
        simp only [List.length_cons, List.length_nil]
        omega
      · rename_i hmore
        obtain ⟨⟨m, r⟩, hr, he⟩ := Option.map_eq_some_iff.1 h
        cases he
        have hm := ih hr
        have hrest := length_readFrom hr
        have hdiv : (b.toNat - 128 + 128 * m) / 128 = m := by omega
        rw [write]
        split
        · simp only [List.length_cons, List.length_nil]
          omega
        · rw [hdiv]
          simp only [List.length_cons]
          omega

end Varint

namespace Wire

theorem value?_delimited {field field' : Nat} {kind : Kind} {bs v rest : Bytes}
    (h : value? field kind bs = some (.delimited field' v, rest)) :
    field' = field ∧ v.length < 2 ^ 64 ∧
      (Varint.write v.length).length + v.length + rest.length ≤ bs.length := by
  cases kind with
  | delimited =>
    simp only [value?, bind, Option.bind_eq_some_iff, pure, Option.some.injEq, Prod.mk.injEq] at h
    obtain ⟨⟨n, after⟩, hn, ⟨v', rest'⟩, hv, htoken, hrest⟩ := h
    cases htoken
    simp only at hn hv hrest
    subst hrest
    obtain ⟨rfl, hlen⟩ := take?_eq_some_iff.1 hv
    have hlt := Varint.read?_lt hn
    have hwrite := Varint.length_write_le hn
    rw [List.length_append] at hwrite
    rw [hlen]
    refine ⟨rfl, hlt, ?_⟩
    omega
  | varint =>
    obtain ⟨x, -, hx⟩ := Option.map_eq_some_iff.1 h
    cases hx
  | fixed64 =>
    obtain ⟨x, -, hx⟩ := Option.map_eq_some_iff.1 h
    cases hx
  | fixed32 =>
    obtain ⟨x, -, hx⟩ := Option.map_eq_some_iff.1 h
    cases hx
  | startGroup => cases h
  | endGroup => cases h

/-- A field of bytes is written no longer than it was read, and its length has 64 bits. -/
theorem length_delimitedField_le {delimited : List Nat} {field : Nat} {bs v rest : Bytes}
    (hfield : field < 16) (h : next? delimited bs = some (.delimited field v, rest)) :
    v.length < 2 ^ 64 ∧ (delimitedField field v).length + rest.length ≤ bs.length := by
  simp only [next?, bind, Option.bind_eq_some_iff] at h
  obtain ⟨⟨k, after⟩, hk, h⟩ := h
  have hkey := Varint.length_readFrom hk
  split at h
  · cases h
  · obtain ⟨kind, -, hvalue⟩ := Option.bind_eq_some_iff.1 h
    obtain ⟨-, hlt, hle⟩ := value?_delimited hvalue
    -- A key of a small field is one digit.
    have hone : (key field .delimited).length = 1 := by
      have hcode : Kind.delimited.code = 2 := rfl
      rw [key, Varint.write, if_pos (by omega)]
      rfl
    refine ⟨hlt, ?_⟩
    simp only [delimitedField, List.length_append, hone]
    simp only at hle
    omega

/-! ## From one token to a message -/

variable {α : Type} {f : Format α}

theorem Reader.content_step {r r' : Reader α} {t : Token} (h : r.step f t = some r') :
    r'.content = r.content ∨ f.apply r.content t = some r'.content := by
  have htake : ∀ a, r.take f t = some a → a = r.content ∨ f.apply r.content t = some a := by
    intro a ha
    unfold take at ha
    split at ha
    · exact .inr ha
    · cases ha
      exact .inl rfl
  unfold step at h
  split at h
  · split at h
    · cases h
    · split at h
      · cases h
        exact .inl rfl
      · cases h
  · split at h
    · obtain ⟨a, ha, rfl⟩ := Option.map_eq_some_iff.1 h
      exact htake a ha
    · cases h
  · split at h
    · obtain ⟨a, ha, rfl⟩ := Option.map_eq_some_iff.1 h
      exact htake a ha
    · cases h

/-- What holds of the content and the bytes to come, and is kept by each token whether it is applied
or skipped, holds of the content in the end. -/
theorem Reader.run_invariant {P : α → Bytes → Prop}
    (happly : ∀ {a b : α} {t : Token} {delimited : List Nat} {bs rest : Bytes},
      next? delimited bs = some (t, rest) → f.apply a t = some b → P a bs → P b rest)
    (hskip : ∀ {a : α} {t : Token} {delimited : List Nat} {bs rest : Bytes},
      next? delimited bs = some (t, rest) → P a bs → P a rest)
    {r r' : Reader α} {bs : Bytes} (hrun : Reader.run f r bs = some r') (h : P r.content bs) :
    P r'.content [] := by
  fun_induction Reader.run f r bs with
  | case1 r bs hempty =>
    cases hrun
    rw [List.isEmpty_iff.1 hempty] at h
    exact h
  | case2 r bs hempty hnext => cases hrun
  | case3 r bs hempty t rest hnext ih =>
    obtain ⟨r₁, hstep, hrest⟩ := Option.bind_eq_some_iff.1 hrun
    refine ih r₁ hrest ?_
    rcases content_step hstep with hsame | hchanged
    · rw [hsame]
      exact hskip hnext h
    · exact happly hnext hchanged h

theorem read?_invariant {P : α → Bytes → Prop}
    (happly : ∀ {a b : α} {t : Token} {delimited : List Nat} {bs rest : Bytes},
      next? delimited bs = some (t, rest) → f.apply a t = some b → P a bs → P b rest)
    (hskip : ∀ {a : α} {t : Token} {delimited : List Nat} {bs rest : Bytes},
      next? delimited bs = some (t, rest) → P a bs → P a rest)
    {before after : α} {bs : Bytes} (hread : read? f before bs = some after)
    (h : P before bs) : P after [] := by
  simp only [read?, bind, Option.bind_eq_some_iff] at hread
  obtain ⟨r, hrun, hclosed⟩ := hread
  split at hclosed
  · cases hclosed
    exact Reader.run_invariant happly hskip hrun h
  · cases hclosed

end Wire

end LedgerLogin
