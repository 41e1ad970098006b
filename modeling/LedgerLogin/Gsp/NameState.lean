import LedgerLogin.Decision

/-!
# States of names

What the game-state processor tells of a name: the signers that may log in with it, each for one
application or for all, and its addresses by currency. Every answer of the processor comes in an
envelope that says how far the processor is synchronized.
-/

namespace LedgerLogin

structure SignerEntry where
  /-- The application that the signers may log in to; any if there is none. -/
  application : Option String := none
  addresses : List String := []
  deriving DecidableEq, Repr

structure NameState where
  signers : List SignerEntry := []
  /-- The addresses by currency. -/
  addresses : StringMap String := ∅
  deriving DecidableEq, Repr

/-- An answer of the processor. -/
structure Envelope (α : Type) where
  /-- How far the processor is synchronized. -/
  state : String
  height : Option UInt64 := none
  data : α
  deriving DecidableEq, Repr

/-- The synchronization state in which answers can be trusted. -/
def upToDate : String := "up-to-date"

namespace SignerEntry

/-- Whether the entry lets someone log in to an application. -/
def admits (e : SignerEntry) (app : String) : Bool :=
  !e.addresses.isEmpty && e.application.all (· = app)

/-- Signers as JSON; without application there is no member for it. -/
def toJson (e : SignerEntry) : Json :=
  Json.ofMembers ((e.application.map fun a => ("application", Json.string a)).toList
    ++ [("addresses", .array (e.addresses.map .string))])

def read : Json.Document → Except Json.Fault SignerEntry :=
  Json.Document.asRecord "struct SignerEntry" ["application", "addresses"] false fun r =>
    SignerEntry.mk <$> r.optional "application" none (Json.Document.asOption Json.Document.asString)
      <*> r.optional "addresses" [] (Json.Document.asList Json.Document.asString)

end SignerEntry

namespace NameState

def admits (s : NameState) (app : String) : Bool := s.signers.any (·.admits app)

def toJson (s : NameState) : Json :=
  Json.ofMembers [("signers", .array (s.signers.map SignerEntry.toJson)),
    ("addresses", s.addresses.toJson)]

def read : Json.Document → Except Json.Fault NameState :=
  Json.Document.asRecord "struct NameState" ["signers", "addresses"] false fun r =>
    NameState.mk <$> r.optional "signers" [] (Json.Document.asList SignerEntry.read)
      <*> r.optional "addresses" ∅ (Json.Document.asMap Json.Document.asString)

end NameState

namespace Envelope

def toJson {α : Type} (data : α → Json) (e : Envelope α) : Json :=
  Json.ofMembers [("state", .string e.state),
    ("height", Json.ofOption (fun h => Json.ofNat h.toNat) e.height), ("data", data e.data)]

def read {α : Type} (data : Json.Document → Except Json.Fault α) :
    Json.Document → Except Json.Fault (Envelope α) :=
  Json.Document.asRecord "struct GspResponse" ["state", "height", "data"] false fun r =>
    Envelope.mk <$> r.required "state" Json.Document.asString
      <*> r.optional "height" none (Json.Document.asOption Json.Document.asUInt64)
      <*> r.required "data" data

end Envelope

end LedgerLogin
