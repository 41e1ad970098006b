import LedgerLogin.Ledger.History
import LedgerLogin.Proofs.Abi.Decoder
import LedgerLogin.Proofs.Hash.Evaluation

/-!
# The contracts of a ledger

A ledger as its contracts show it: view functions that are called with a selector and arguments and
return data. The selectors are what calls start with (`ViewFunction.selector_signature`), and no two
functions share one, so that a question is answered by a call with what the ledger answers
(`Ledger.call?_of_lookup`).
-/

namespace LedgerLogin

/-- The view functions of the contract for names and of the one for delegations. -/
inductive ViewFunction where
  | accounts
  | nameExists
  | tokenIdForName
  | tokenExists
  | getApproved
  | ownerOf
  | isApprovedForAll
  | hasAccess
  deriving DecidableEq, Repr

namespace ViewFunction

def all : List ViewFunction :=
  [accounts, nameExists, tokenIdForName, tokenExists, getApproved, ownerOf, isApprovedForAll,
    hasAccess]

/-- The name of a function with the types of its parameters. -/
def signature : ViewFunction → String
  | accounts => "accounts()"
  | nameExists => "exists(string,string)"
  | tokenIdForName => "tokenIdForName(string,string)"
  | tokenExists => "exists(uint256)"
  | getApproved => "getApproved(uint256)"
  | ownerOf => "ownerOf(uint256)"
  | isApprovedForAll => "isApprovedForAll(address,address)"
  | hasAccess => "hasAccess(string,string,string[],address,uint256)"

def parameters : ViewFunction → List Abi.Kind
  | accounts => []
  | nameExists => [.text, .text]
  | tokenIdForName => [.text, .text]
  | tokenExists => [.word]
  | getApproved => [.word]
  | ownerOf => [.word]
  | isApprovedForAll => [.address, .address]
  | hasAccess => [.text, .text, .texts, .address, .word]

/-- What a call names a function by. -/
def selector : ViewFunction → Bytes
  | accounts => [0x68, 0xcd, 0x03, 0xf6]
  | nameExists => [0x26, 0x56, 0x55, 0x4c]
  | tokenIdForName => [0xd8, 0x9d, 0x75, 0xd8]
  | tokenExists => [0x4f, 0x55, 0x8e, 0x79]
  | getApproved => [0x08, 0x18, 0x12, 0xfc]
  | ownerOf => [0x63, 0x52, 0x21, 0x1e]
  | isApprovedForAll => [0xe9, 0x85, 0xe9, 0xc5]
  | hasAccess => [0x4f, 0xc1, 0x56, 0xd2]

def contract (delegation names : Address) : ViewFunction → Address
  | accounts => delegation
  | hasAccess => delegation
  | _ => names

/-- The question that a call asks of a ledger; times of more than 64 bits are not asked about. -/
def question? : ViewFunction → List Abi.Argument → Option LedgerRead
  | nameExists, [.text ns, .text name] => some (.nameExists ns name)
  | tokenIdForName, [.text ns, .text name] => some (.tokenOf ns name)
  | tokenExists, [.word token] => some (.tokenExists token)
  | getApproved, [.word token] => some (.approved token)
  | ownerOf, [.word token] => some (.owner token)
  | isApprovedForAll, [.address owner, .address operator] => some (.approvedForAll owner operator)
  | hasAccess, [.text ns, .text name, .texts path, .address operator, .word time] => do
    return .hasAccess ns name path operator (← uint64? (natOfWord time))
  | _, _ => none

/-! ## Selectors -/

/-- Selectors are the first bytes of the hashes of signatures. -/
theorem selector_signature (f : ViewFunction) : Abi.selector f.signature = f.selector := by
  -- The hash itself is too slow to evaluate, that of the rows is not.
  have hfirst : (Keccak.Rows.hash (utf8 f.signature)).take 4 = f.selector := by
    cases f <;> decide +kernel
  rw [Abi.selector, Keccak.toList_keccak256, hfirst]

theorem selector_injective {f g : ViewFunction} (h : f.selector = g.selector) : f = g := by
  cases f <;> cases g <;> first | rfl | exact absurd h (by decide)

theorem length_selector (f : ViewFunction) : f.selector.length = 4 := by
  cases f <;> rfl

theorem encodeCall_signature (f : ViewFunction) (args : List Abi.Argument) :
    (Abi.encodeCall f.signature args).take 4 = f.selector ∧
      (Abi.encodeCall f.signature args).drop 4 = Abi.encode args := by
  rw [Abi.encodeCall, selector_signature]
  exact ⟨List.take_left' f.length_selector, List.drop_left' f.length_selector⟩

def called? (delegation names target : Address) (data : Bytes) : Option ViewFunction :=
  all.find? fun f => f.contract delegation names = target ∧ f.selector = data.take 4

theorem called?_encodeCall (delegation names : Address) (f : ViewFunction)
    (args : List Abi.Argument) :
    called? delegation names (f.contract delegation names) (Abi.encodeCall f.signature args) =
      some f := by
  have hmem : f ∈ all := by
    cases f <;> decide
  unfold called?
  rw [(f.encodeCall_signature args).1]
  cases hfound : all.find? _ with
  | none =>
    have hnot := List.find?_eq_none.1 hfound f hmem
    simp at hnot
  | some g =>
    have hg := List.find?_some hfound
    simp only [decide_eq_true_eq] at hg
    rw [selector_injective hg.2]

end ViewFunction

/-! ## Questions as calls -/

namespace LedgerRead

def function : LedgerRead → ViewFunction
  | nameExists _ _ => .nameExists
  | tokenOf _ _ => .tokenIdForName
  | tokenExists _ => .tokenExists
  | approved _ => .getApproved
  | .owner _ => .ownerOf
  | approvedForAll _ _ => .isApprovedForAll
  | hasAccess _ _ _ _ _ => .hasAccess

/-- The arguments that ask the function for it. -/
def arguments : LedgerRead → List Abi.Argument
  | nameExists ns name => [.text ns, .text name]
  | tokenOf ns name => [.text ns, .text name]
  | tokenExists token => [.word token]
  | approved token => [.word token]
  | .owner token => [.word token]
  | approvedForAll holder operator => [.address holder, .address operator]
  | hasAccess ns name path operator time =>
    [.text ns, .text name, .texts path, .address operator, .uint time]

/-- The data that the function returns for an answer. -/
def returned : (r : LedgerRead) → r.Result → Bytes
  | nameExists _ _, registered => Abi.numberWord registered.toNat
  | tokenOf _ _, token => token.toList
  | tokenExists _, registered => Abi.numberWord registered.toNat
  | approved _, operator => Commitment.addressWord operator
  | .owner _, holder => Commitment.addressWord holder
  | approvedForAll _ _, granted => Abi.numberWord granted.toNat
  | hasAccess _ _ _ _ _, access => Abi.numberWord access.toNat

def decoder : (r : LedgerRead) → String → Bytes → Except TransportError r.Result
  | nameExists _ _ => Abi.decodeBool
  | tokenOf _ _ => Abi.decodeWord
  | tokenExists _ => Abi.decodeBool
  | approved _ => Abi.decodeAddress
  | .owner _ => Abi.decodeAddress
  | approvedForAll _ _ => Abi.decodeBool
  | hasAccess _ _ _ _ _ => Abi.decodeBool

theorem decoder_eq_ok {r : LedgerRead} {signature : String} {data : Bytes} {x : r.Result} :
    r.decoder signature data = .ok x ↔ ∃ more, data = r.returned x ++ more := by
  cases r with
  | nameExists ns name => exact Abi.decodeBool_eq_ok
  | tokenOf ns name => exact Abi.firstWord_eq_ok
  | tokenExists token => exact Abi.decodeBool_eq_ok
  | approved token => exact Abi.decodeAddress_eq_ok
  | owner token => exact Abi.decodeAddress_eq_ok
  | approvedForAll holder operator => exact Abi.decodeBool_eq_ok
  | hasAccess ns name path operator time => exact Abi.decodeBool_eq_ok

theorem decoder_eq_error {r : LedgerRead} {signature : String} {data : Bytes} {e : TransportError}
    (h : r.decoder signature data = .error e) :
    ∃ reason, e = .invalidResponse signature reason := by
  cases r with
  | nameExists ns name => exact Abi.decodeBool_eq_error h
  | tokenOf ns name => exact Abi.firstWord_eq_error h
  | tokenExists token => exact Abi.decodeBool_eq_error h
  | approved token => exact Abi.decodeAddress_eq_error h
  | owner token => exact Abi.decodeAddress_eq_error h
  | approvedForAll holder operator => exact Abi.decodeBool_eq_error h
  | hasAccess ns name path operator time => exact Abi.decodeBool_eq_error h

theorem decoder_returned (r : LedgerRead) (signature : String) (x : r.Result) :
    r.decoder signature (r.returned x) = .ok x :=
  decoder_eq_ok.2 ⟨[], (List.append_nil _).symm⟩

/-- A question is understood by the function that it is asked of. -/
theorem question?_decode? (r : LedgerRead) (h : (Abi.encode r.arguments).length < 2 ^ 64) :
    (Abi.decode? r.function.parameters (Abi.encode r.arguments)).bind r.function.question? =
      some r := by
  have hsize : (Abi.encode r.arguments).length < 2 ^ 256 := Nat.lt_trans h (by decide)
  -- The contract takes a time for any number that fits into a word.
  have hargs : ∃ args, Abi.encode r.arguments = Abi.encode args ∧
      args.map Abi.Argument.kind = r.function.parameters ∧ r.function.question? args = some r := by
    cases r with
    | nameExists ns name => exact ⟨_, rfl, rfl, rfl⟩
    | tokenOf ns name => exact ⟨_, rfl, rfl, rfl⟩
    | tokenExists token => exact ⟨_, rfl, rfl, rfl⟩
    | approved token => exact ⟨_, rfl, rfl, rfl⟩
    | owner token => exact ⟨_, rfl, rfl, rfl⟩
    | approvedForAll owner operator => exact ⟨_, rfl, rfl, rfl⟩
    | hasAccess ns name path operator time =>
      have htime : uint64? (natOfWord (wordOfNat time.toNat)) = some time := by
        rw [Abi.natOfWord_wordOfNat (Nat.lt_trans time.toNat_lt (by decide))]
        exact uint64?_eq_some.2 rfl
      refine ⟨[.text ns, .text name, .texts path, .address operator,
        .word (wordOfNat time.toNat)], rfl, rfl, ?_⟩
      simp only [function, ViewFunction.question?, htime]
      rfl
  obtain ⟨args, hencode, hkinds, hquestion⟩ := hargs
  rw [hencode] at hsize ⊢
  have hdecode := Abi.decode?_encode hsize []
  rw [List.append_nil] at hdecode
  rw [← hkinds, hdecode, Option.bind_some, hquestion]

end LedgerRead

namespace Ledger

/-- The data that is returned for a question, unless the call of the function reverts. -/
def returned? (l : Ledger) (r : LedgerRead) : Option Bytes :=
  match l.lookup r with
  | .ok x => some (r.returned x)
  | .error _ => none

/-- The data that a function returns when it is called with some data as its arguments. The
contract for delegations also tells where the one for names is. -/
def evaluate? (l : Ledger) (names : Address) (f : ViewFunction) (data : Bytes) : Option Bytes :=
  if f = .accounts then some (Commitment.addressWord names)
  else ((Abi.decode? f.parameters data).bind f.question?).bind l.returned?

/-- The data that a call of a contract returns; there is none if it has no such function, or if the
call reverts. -/
def call? (l : Ledger) (names target : Address) (data : Bytes) : Option Bytes :=
  (ViewFunction.called? l.domain.contract names target data).bind fun f =>
    l.evaluate? names f (data.drop 4)

theorem call?_accounts (l : Ledger) (names : Address) :
    l.call? names l.domain.contract (Abi.encodeCall ViewFunction.accounts.signature []) =
      some (Commitment.addressWord names) := by
  have hcalled := ViewFunction.called?_encodeCall l.domain.contract names .accounts []
  rw [ViewFunction.contract] at hcalled
  rw [call?, hcalled, Option.bind_some, evaluate?, if_pos rfl]

theorem call?_of_lookup {l : Ledger} {r : LedgerRead} {x : r.Result} (hx : l.lookup r = .ok x)
    (h : (Abi.encode r.arguments).length < 2 ^ 64) (names : Address) :
    l.call? names (r.function.contract l.domain.contract names)
      (Abi.encodeCall r.function.signature r.arguments) = some (r.returned x) := by
  have hfunction : ¬ r.function = .accounts := by
    cases r <;> exact fun h => nomatch h
  calc l.call? names (r.function.contract l.domain.contract names)
        (Abi.encodeCall r.function.signature r.arguments)
      = l.evaluate? names r.function (Abi.encode r.arguments) := by
        rw [call?, ViewFunction.called?_encodeCall, Option.bind_some,
          (r.function.encodeCall_signature r.arguments).2]
    _ = l.returned? r := by
        rw [evaluate?, if_neg hfunction, LedgerRead.question?_decode? r h, Option.bind_some]
    _ = some (r.returned x) := by
        rw [returned?, hx]

end Ledger

end LedgerLogin
