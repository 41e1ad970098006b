import LedgerLogin.Proofs.Rpc.Quantity
import LedgerLogin.Proofs.Rpc.ViewReply

/-!
# Discovering a ledger

A ledger is connected with two questions to its node, for the chain id and for the accounts
contract. It is connected just if both replies tell what was asked for, and then as what they tell
(`LedgerNode.connect_eq_ok`).
-/

namespace LedgerLogin

open Http (Endpoint Request Reply)

/-- A reply that tells a chain id: a quantity, before whose digits a sign may stand. -/
def Http.Reply.TellsChainId (chainId : UInt64) (reply : Http.Reply) : Prop :=
  ∃ result, reply.Returns result ∧ (Hexadecimal.IsQuantity [] result chainId ∨
    Hexadecimal.IsQuantity ['+'] result chainId)

/-- A reply that tells an address: digits of either case, of data that starts with its word. -/
def Http.Reply.TellsAddress (a : Address) (reply : Http.Reply) : Prop :=
  ∃ digits more, reply.Returns (.string (Hexadecimal.spelled digits)) ∧
    digits.map Char.toLower = Hex.digits (Commitment.addressWord a ++ more)

namespace LedgerNode

def chainIdRequest (endpoint : Endpoint) : Request :=
  Rpc.request endpoint "eth_chainId" (.array [])

def accountsRequest (endpoint : Endpoint) (contract : Address) : Request :=
  Rpc.request endpoint "eth_call" (callParams contract (Abi.encodeCall "accounts()" []))

variable {σ : Type}

/-- A ledger as what its node tells of it, asked for the chain id first. -/
structure KnownFrom (w : World σ fun _ : Request => Reply) (s : σ) (endpoint : Endpoint)
    (contract : Address) (node : LedgerNode) : Prop where
  endpoint_eq : node.endpoint = endpoint
  delegation_eq : node.delegation = contract
  chainId : (w (chainIdRequest endpoint) s).1.TellsChainId node.chainId
  accounts : (w (accountsRequest endpoint contract)
    (w (chainIdRequest endpoint) s).2).1.TellsAddress node.accounts

variable {w : World σ fun _ : Request => Reply} {s : σ} {endpoint : Endpoint} {contract : Address}

theorem chainId?_eq_ok {chainId : UInt64} :
    ((chainId? endpoint).run.runIn w s).result = .ok chainId ↔
      (w (chainIdRequest endpoint) s).1.TellsChainId chainId := by
  show (Rpc.result endpoint "eth_chainId" (w (chainIdRequest endpoint) s).1 >>=
    Hexadecimal.quantity "eth_chainId") = .ok chainId ↔ _
  rw [bind_eq_ok]
  simp only [Rpc.result_eq_ok, Hexadecimal.quantity_eq_ok_iff, Http.Reply.TellsChainId]

theorem view_accounts_eq_ok {accounts : Address} :
    ((view endpoint contract "accounts()" [] Abi.decodeAddress).run.runIn w s).result =
      .ok accounts ↔ (w (accountsRequest endpoint contract) s).1.TellsAddress accounts := by
  show viewResult "accounts()" Abi.decodeAddress
    (Rpc.result endpoint "eth_call" (w (accountsRequest endpoint contract) s).1) = .ok accounts ↔ _
  rw [viewResult_eq_ok]
  constructor
  · rintro ⟨result, data, hresult, hbytes, haddress⟩
    obtain ⟨digits, rfl, hdigits⟩ := Hexadecimal.bytes_eq_ok.1 hbytes
    obtain ⟨more, rfl⟩ := Abi.decodeAddress_eq_ok.1 haddress
    exact ⟨digits, more, Rpc.result_eq_ok.1 hresult, hdigits⟩
  · rintro ⟨digits, more, hreturns, hdigits⟩
    exact ⟨_, _, Rpc.result_eq_ok.2 hreturns, Hexadecimal.bytes_eq_ok.2 ⟨digits, rfl, hdigits⟩,
      Abi.decodeAddress_eq_ok.2 ⟨more, rfl⟩⟩

/-- A ledger is connected if its node tells the chain id and the accounts contract, and as what it
tells. -/
theorem connect_eq_ok {node : LedgerNode} :
    ((connect endpoint contract).run.runIn w s).result = .ok node ↔
      node.KnownFrom w s endpoint contract := by
  unfold connect
  simp only [Inquiry.result_bind, bind_eq_ok, chainId?_eq_ok, view_accounts_eq_ok]
  constructor
  · rintro ⟨chainId, hchainId, accounts, haccounts, hnode⟩
    cases hnode
    exact ⟨rfl, rfl, hchainId, haccounts⟩
  · rintro ⟨rfl, rfl, hchainId, haccounts⟩
    exact ⟨node.chainId, hchainId, node.accounts, haccounts, rfl⟩

end LedgerNode

end LedgerLogin
