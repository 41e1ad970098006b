import LedgerLogin.Credentials
import LedgerLogin.Json.Record

/-!
# Decisions

The outcome of checking credentials: whether they are valid, why not if not, and the expiry and
extra data of the credentials once the password has been decoded.
-/

namespace LedgerLogin

namespace Decision

/-- How a check of credentials can end. -/
inductive State where
  | valid
  | expired
  /-- The signature is malformed, or its signer has no permission. -/
  | invalidSignature
  /-- The protocol is the wrong one, or the identity is unknown. -/
  | invalidData
  /-- The password cannot be decoded. -/
  | malformed
  /-- The state that would decide is not synchronized. -/
  | notUpToDate
  deriving DecidableEq, Repr

namespace State

def name : State → String
  | valid => "valid"
  | expired => "expired"
  | invalidSignature => "invalid-signature"
  | invalidData => "invalid-data"
  | malformed => "malformed"
  | notUpToDate => "not-up-to-date"

def all : List State := [valid, expired, invalidSignature, invalidData, malformed, notUpToDate]

def choices : List (String × State) := all.map fun s => (s.name, s)

end State

end Decision

structure Decision where
  valid : Bool
  state : Decision.State
  expiry : Option Int64 := none
  extra : StringMap String := ∅
  deriving DecidableEq, Repr

namespace Decision

/-- A decision without data of the credentials. -/
def bare (state : State) : Decision := { valid := state = .valid, state }

def ofCredentials (state : State) (c : Credentials) : Decision :=
  { valid := state = .valid, state, expiry := c.expiry, extra := c.extra }

end Decision

def StringMap.toJson (m : StringMap String) : Json :=
  .object (m.entries.map fun e => (e.1, .string e.2))

def expiryToJson (e : Option Int64) : Json := Json.ofOption (fun e => Json.ofInt e.toInt) e

namespace Decision

def toJson (d : Decision) : Json :=
  Json.ofMembers [("valid", .bool d.valid), ("state", .string d.state.name),
    ("expiry", expiryToJson d.expiry), ("extra", d.extra.toJson)]

def State.read : Json.Document → Except Json.Fault State := Json.Document.asChoice State.choices

/-- Reads a decision. Expiry and extra data may be missing; the state and the flag are both taken
as they stand. -/
def read : Json.Document → Except Json.Fault Decision :=
  Json.Document.asRecord "struct Decision" ["valid", "state", "expiry", "extra"] false fun r =>
    Decision.mk <$> r.required "valid" Json.Document.asBool
      <*> r.required "state" State.read
      <*> r.optional "expiry" none (Json.Document.asOption Json.Document.asInt64)
      <*> r.optional "extra" ∅ (Json.Document.asMap Json.Document.asString)

end Decision

end LedgerLogin
