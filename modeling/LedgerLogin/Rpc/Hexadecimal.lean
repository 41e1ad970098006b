import LedgerLogin.Failure
import LedgerLogin.Json.Value
import LedgerLogin.Word64

/-!
# Hexadecimal values in JSON

Ledger nodes write bytes and quantities as texts that start with `0x`. Bytes are two digits each; a
quantity is a 64-bit number in at least one digit, before which a plus sign may stand.
-/

namespace LedgerLogin.Hexadecimal

/-- The text after `0x`. -/
def body? (s : String) : Option (List Char) :=
  match s.toList with
  | '0' :: 'x' :: rest => some rest
  | _ => none

def bytes (method : String) (result : Json) : Except TransportError Bytes :=
  match result.asString? with
  | none => .error (.invalidResponse method s!"expected hex string, got {result.text}")
  | some s =>
    match body? s with
    | none => .error (.invalidResponse method s!"missing 0x prefix: {s}")
    | some cs =>
      match Hex.decode (String.ofList cs) with
      | .ok bs => .ok bs
      | .error fault => .error (.invalidResponse method s!"invalid hex: {fault.message}")

def number? (cs : List Char) : Option Nat :=
  cs.foldlM (fun n c => (Hex.digit? c).map (n * 16 + ·)) 0

/-- The digits of a quantity, without the sign that may stand before them. -/
def unsigned : List Char → List Char
  | '+' :: rest => rest
  | cs => cs

def quantity? (cs : List Char) : Option UInt64 :=
  match unsigned cs with
  | [] => none
  | digits => number? digits >>= uint64?

def quantity (method : String) (result : Json) : Except TransportError UInt64 :=
  match (do quantity? (← body? (← result.asString?))) with
  | some n => .ok n
  | none => .error (.invalidResponse method s!"expected hex quantity, got {result.text}")

end LedgerLogin.Hexadecimal
