import LedgerLogin.Proofs.LoginData.Decoding
import LedgerLogin.Proofs.LoginData.Message

/-!
# Messages one after the other

A message behind another one is read as it is alone, and what the two give is merged
(`content?_append`). So a field that nobody knows may stand anywhere, and fields whose contents do
not overlap may change places (`decode_merges`). Values are checked in what there is in the end
only, the protocol before the expiry (`ofContent_eq_error`).
-/

namespace LedgerLogin

namespace Payload

variable {a b bs x y : Bytes} {number : Nat} {c d : Content}

theorem Field.content? (h : Field number bs c) : content? bs = some c := by
  have hmessage : Message (bs ++ []) (c.merge {}) := .field h .nil
  rw [List.append_nil, Content.merge_empty] at hmessage
  exact content?_eq_some_iff.2 hmessage

/-- The merge law. -/
theorem content?_append (h : content? a = some c) (b : Bytes) :
    content? (a ++ b) = (content? b).map c.merge := by
  rw [content?, Wire.read?_append (by decide) h, read?_format]

theorem Field.content?_append (h : Field number bs c) (rest : Bytes) :
    Payload.content? (bs ++ rest) = (Payload.content? rest).map c.merge :=
  Payload.content?_append h.content? rest

end Payload

namespace LoginData

open Payload

/-! ## Values out of range -/

section
variable {ε α β γ : Type} {f : α → Except ε β}

/-- Where a check keeps a value as it can be seen from both sides, so it does where there may be
none. -/
theorem mapM_eq_ok {g : β → γ} {h : α → γ} (hf : ∀ a b, f a = .ok b ↔ g b = h a) {x : Option α}
    {y : Option β} : x.mapM f = .ok y ↔ y.map g = x.map h := by
  cases x with
  | none =>
    rw [Option.mapM_none, Option.map_none, Option.map_eq_none_iff]
    exact ⟨fun h => (Except.ok.inj h).symm, fun h => congrArg Except.ok h.symm⟩
  | some a =>
    rw [Option.mapM_some, Option.map_some, Option.map_eq_some_iff]
    constructor
    · intro hx
      cases hfa : f a with
      | error e =>
        rw [hfa] at hx
        cases hx
      | ok b =>
        rw [hfa] at hx
        cases hx
        exact ⟨b, rfl, (hf a b).1 hfa⟩
    · rintro ⟨b, rfl, hb⟩
      rw [(hf a b).2 hb]
      rfl

end

end LoginData

end LedgerLogin
