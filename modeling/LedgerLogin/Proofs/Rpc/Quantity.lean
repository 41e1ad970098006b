import LedgerLogin.Proofs.Inquiry.World
import LedgerLogin.Proofs.LoginData.Decoding
import LedgerLogin.Proofs.Rpc.Hexadecimal
import LedgerLogin.Proofs.Rpc.Reply
import LedgerLogin.Rpc.Node
import Mathlib.Data.List.Induction
import Mathlib.Data.Nat.Digits.Defs

/-!
# Quantities that are read

A quantity is read from `0x` and hexadecimal digits, at least one, of a number of 64 bits, and also
where a plus sign stands before the digits (`quantity_accepts`): the sign is not part of the form of
a quantity, and is accepted all the same (`quantity_accepts_sign`). Nothing else is a quantity.
-/

namespace LedgerLogin

namespace Hexadecimal

variable {cs : List Char} {n : UInt64} {result : Json}

def digitValue (c : Char) : Nat := (Hex.digit? c).getD 0

/-- The number that digits spell, the most significant first. -/
def value (digits : List Char) : Nat := Nat.ofDigits 16 (digits.reverse.map digitValue)

/-- A text of `0x`, a sign and the digits of a number of 64 bits. -/
def IsQuantity (sign : List Char) (result : Json) (n : UInt64) : Prop :=
  ∃ digits : List Char, result = .string (spelled (sign ++ digits)) ∧ digits ≠ [] ∧
    (∀ c ∈ digits, Hex.IsDigit c) ∧ value digits = n.toNat

theorem value_concat (digits : List Char) (c : Char) :
    value (digits ++ [c]) = value digits * 16 + digitValue c := by
  rw [value, List.reverse_concat, List.map_cons, Nat.ofDigits_cons, ← value]
  omega

theorem number?_of_digits (h : ∀ c ∈ cs, Hex.IsDigit c) : number? cs = some (value cs) := by
  induction cs using List.reverseRecOn with
  | nil => rfl
  | append_singleton digits c ih =>
    have hdigits : number? digits = some (value digits) := ih fun d hd => h d (by simp [hd])
    obtain ⟨k, hk⟩ := Hex.exists_digit?_iff.2 (h c (by simp))
    have hvalue : digitValue c = k := by rw [digitValue, hk, Option.getD_some]
    rw [number?] at hdigits
    rw [number?, List.foldlM_append, hdigits, value_concat, hvalue]
    simp only [List.foldlM_cons, List.foldlM_nil, hk, Option.map_some, bind, Option.bind_some, pure]

theorem number?_eq_some_iff {k : Nat} :
    number? cs = some k ↔ (∀ c ∈ cs, Hex.IsDigit c) ∧ value cs = k := by
  constructor
  · intro h
    have hdigits : ∀ c ∈ cs, Hex.IsDigit c :=
      fun c hc => Hex.exists_digit?_iff.1 (digits_of_number? h c hc)
    rw [number?_of_digits hdigits] at h
    exact ⟨hdigits, Option.some.inj h⟩
  · rintro ⟨hdigits, rfl⟩
    exact number?_of_digits hdigits

theorem quantity?_eq_some_iff :
    quantity? cs = some n ↔ unsigned cs ≠ [] ∧ (∀ c ∈ unsigned cs, Hex.IsDigit c) ∧
      value (unsigned cs) = n.toNat := by
  unfold quantity?
  split
  · rename_i hnil
    rw [hnil]
    exact iff_of_false nofun fun h => h.1 rfl
  · rename_i digits hne
    have hne' : unsigned cs ≠ [] := hne
    simp only [bind, Option.bind_eq_some_iff, uint64?_eq_some, number?_eq_some_iff]
    constructor
    · rintro ⟨k, ⟨hdigits, rfl⟩, hn⟩
      exact ⟨hne', hdigits, hn.symm⟩
    · rintro ⟨-, hdigits, hvalue⟩
      exact ⟨_, ⟨hdigits, rfl⟩, hvalue.symm⟩

theorem unsigned_cases (cs : List Char) : cs = unsigned cs ∨ cs = '+' :: unsigned cs := by
  unfold unsigned
  split
  · exact .inr rfl
  · exact .inl rfl

theorem unsigned_of_digits (h : ∀ c ∈ cs, Hex.IsDigit c) : unsigned cs = cs :=
  unsigned_of_number? (number?_of_digits h)

theorem asString?_eq_some_iff {s : String} : result.asString? = some s ↔ result = .string s := by
  cases result <;> simp [Json.asString?]

theorem quantity_eq_ok {method : String} :
    quantity method result = .ok n ↔
      ∃ cs, result = .string (spelled cs) ∧ quantity? cs = some n := by
  have hsome : (do quantity? (← body? (← result.asString?))) = some n ↔
      ∃ cs, result = .string (spelled cs) ∧ quantity? cs = some n := by
    simp only [bind, Option.bind_eq_some_iff, asString?_eq_some_iff, body?_eq_some_iff]
    constructor
    · rintro ⟨s, rfl, cs, rfl, h⟩
      exact ⟨cs, rfl, h⟩
    · rintro ⟨cs, rfl, h⟩
      exact ⟨_, rfl, cs, rfl, h⟩
  rw [← hsome, quantity]
  split
  · rename_i m hm
    rw [hm]
    exact ⟨fun h => congrArg some (Except.ok.inj h), fun h => congrArg Except.ok (Option.some.inj h)⟩
  · rename_i hnone
    rw [hnone]
    constructor
    · intro h
      cases h
    · intro h
      cases h

/-- A quantity is read with or without a plus sign before its digits, and not otherwise. -/
theorem quantity_eq_ok_iff {method : String} :
    quantity method result = .ok n ↔ IsQuantity [] result n ∨ IsQuantity ['+'] result n := by
  rw [quantity_eq_ok]
  constructor
  · rintro ⟨cs, rfl, h⟩
    obtain ⟨hne, hdigits, hvalue⟩ := quantity?_eq_some_iff.1 h
    rcases unsigned_cases cs with hcs | hcs
    · exact .inl ⟨unsigned cs, by rw [List.nil_append, ← hcs], hne, hdigits, hvalue⟩
    · exact .inr ⟨unsigned cs, by rw [List.singleton_append, ← hcs], hne, hdigits, hvalue⟩
  · rintro (⟨digits, rfl, hne, hdigits, hvalue⟩ | ⟨digits, rfl, hne, hdigits, hvalue⟩)
    · refine ⟨digits, rfl, quantity?_eq_some_iff.2 ?_⟩
      rw [unsigned_of_digits hdigits]
      exact ⟨hne, hdigits, hvalue⟩
    · exact ⟨'+' :: digits, rfl, quantity?_eq_some_iff.2 ⟨hne, hdigits, hvalue⟩⟩

theorem quantity_of_no {method : String} (h : ∀ n, quantity method result ≠ .ok n) :
    quantity method result =
      .error (.invalidResponse method s!"expected hex quantity, got {result.text}") := by
  unfold quantity at h ⊢
  split
  · rename_i n hn
    simp only [hn] at h
    exact absurd rfl (h n)
  · rfl

end Hexadecimal

namespace LedgerNode

open Http (Endpoint Request Reply)

variable {σ : Type} {w : World σ fun _ : Request => Reply} {s : σ}

/-- The chain id of a ledger that has been connected is the quantity that its node replied. -/
theorem exists_quantity_of_connect {endpoint : Endpoint} {contract : Address} {node : LedgerNode}
    (h : ((connect endpoint contract).run.runIn w s).result = .ok node) :
    ∃ result, (w (Rpc.request endpoint "eth_chainId" (.array [])) s).1.Returns result ∧
      Hexadecimal.quantity "eth_chainId" result = .ok node.domain.chainId := by
  rw [connect, Inquiry.result_bind] at h
  obtain ⟨chainId, hchainId, h⟩ := bind_eq_ok.1 h
  rw [Inquiry.result_bind] at h
  obtain ⟨accounts, -, hnode⟩ := bind_eq_ok.1 h
  cases hnode
  change Rpc.result endpoint "eth_chainId" (w (Rpc.request endpoint "eth_chainId" (.array [])) s).1 >>=
    Hexadecimal.quantity "eth_chainId" = _ at hchainId
  obtain ⟨result, hreply, hquantity⟩ := bind_eq_ok.1 hchainId
  exact ⟨result, Rpc.result_eq_ok.1 hreply, hquantity⟩

end LedgerNode

namespace Hexadecimal

/-- The texts that are read as quantities, with what becomes of everything else, and that a ledger
has no chain id but one that its node spelled so. -/
theorem quantity_accepts (method : String) :
    (∀ (result : Json) (n : UInt64),
      quantity method result = .ok n ↔ IsQuantity [] result n ∨ IsQuantity ['+'] result n) ∧
    (∀ result : Json, (∀ n, ¬ IsQuantity [] result n ∧ ¬ IsQuantity ['+'] result n) →
      quantity method result =
        .error (.invalidResponse method s!"expected hex quantity, got {result.text}")) ∧
    (∀ {σ : Type} (w : World σ fun _ : Http.Request => Http.Reply) (s : σ)
      (endpoint : Http.Endpoint) (contract : Address) (node : LedgerNode),
      ((LedgerNode.connect endpoint contract).run.runIn w s).result = .ok node →
      ∃ result, (w (Rpc.request endpoint "eth_chainId" (.array [])) s).1.Returns result ∧
        (IsQuantity [] result node.domain.chainId ∨
          IsQuantity ['+'] result node.domain.chainId)) := by
  refine ⟨fun _ _ => quantity_eq_ok_iff, fun result h => ?_, fun w s _ _ _ h => ?_⟩
  · refine quantity_of_no fun n hn => ?_
    exact (quantity_eq_ok_iff.1 hn).elim (h n).1 (h n).2
  · obtain ⟨result, hreply, hquantity⟩ := LedgerNode.exists_quantity_of_connect h
    exact ⟨result, hreply, quantity_eq_ok_iff.1 hquantity⟩

/-- A sign is accepted where a quantity has none. -/
theorem quantity_accepts_sign :
    quantity "eth_chainId" (.string "0x+89") = .ok 137 ∧
      ∀ n, ¬ IsQuantity [] (.string "0x+89") n := by
  have htext : "0x+89" = spelled ['+', '8', '9'] := by decide
  have hdigits : ∀ c ∈ ['8', '9'], Hex.IsDigit c :=
    List.forall_mem_cons.2 ⟨.inl (by decide), List.forall_mem_singleton.2 (.inl (by decide))⟩
  constructor
  · exact quantity_eq_ok_iff.2 (.inr ⟨['8', '9'], congrArg Json.string htext, by decide, hdigits, rfl⟩)
  · rintro n ⟨digits, hresult, -, hdigits, -⟩
    rw [htext] at hresult
    have hchars := congrArg String.toList (Json.string.inj hresult)
    simp only [spelled, String.toList_ofList, List.nil_append, List.cons.injEq, true_and] at hchars
    have hsign : Hex.IsDigit '+' := hdigits '+' (hchars ▸ List.mem_cons_self)
    unfold Hex.IsDigit at hsign
    exact absurd hsign (by decide)

end Hexadecimal

end LedgerLogin
