import LedgerLogin.Decision
import LedgerLogin.Failure
import LedgerLogin.Json.Double

/-!
# Metrics

What a service counts: decisions by their state, failures to decide by their kind, and requests for
servers that are not configured. A counter exists from the moment when it is first counted up or
looked at, and only counters that exist are listed. A counter has 64 bits and starts again at zero
after the last of its numbers.
-/

namespace LedgerLogin

structure Metrics where
  /-- The decisions by the name of their state. -/
  decisions : StringMap UInt64 := ∅
  /-- The failures of backends by their kind. -/
  failures : StringMap UInt64 := ∅
  unknownServers : UInt64 := 0
  deriving DecidableEq, Repr

namespace Metrics

inductive Event where
  | decision (state : Decision.State)
  | transportFailure
  | staleBackend
  | unknownServer
  deriving DecidableEq, Repr

/-- What is counted when there is no decision. -/
def Event.ofError : VerifyError → Event
  | .transport _ => transportFailure
  | .notUpToDate _ => staleBackend
  | .unknownServer _ => unknownServer

def increment (counters : StringMap UInt64) (label : String) : StringMap UInt64 :=
  counters.insert label ((counters.get? label).getD 0 + 1)

def record (m : Metrics) : Event → Metrics
  | .decision state => { m with decisions := increment m.decisions state.name }
  | .transportFailure => { m with failures := increment m.failures "transport" }
  | .staleBackend => { m with failures := increment m.failures "not-up-to-date" }
  | .unknownServer => { m with unknownServers := m.unknownServers + 1 }

def recordAll (m : Metrics) (events : List Event) : Metrics := events.foldl record m

/-- How many decisions had a state. -/
def count (m : Metrics) (state : Decision.State) : UInt64 := (m.decisions.get? state.name).getD 0

/-- The counters after the count of a state has been looked at. -/
def look (m : Metrics) (state : Decision.State) : Metrics :=
  { m with decisions := m.decisions.insert state.name (m.count state) }

/-- A number as it is shown, which is as a floating-point number: of a large one the last digits are
not its own. -/
def shown (n : UInt64) : String :=
  match Double.round? false n.toNat 1 with
  | none => toString n
  | some x => String.ofList
    (Nat.toDigits 10 x.shortest.digits ++ Double.zeros x.shortest.exponent.toNat)

def line (name labels : String) (n : UInt64) : String := s!"{name}{labels} {shown n}\n"

/-- A family of counters as text, if it has any: what it counts, that it counts, and a line for
each counter. -/
def family (name help : String) (lines : List String) : String :=
  if lines.isEmpty then "" else
    s!"# HELP {name} {help}\n# TYPE {name} counter\n" ++ String.join lines

/-- The lines of a family that has one counter for each value of a label, in the order of the
values. -/
def labelled (name label : String) (counters : StringMap UInt64) : List String :=
  counters.entries.map fun e => line name s!"\x7b{label}=\"{e.1}\"\x7d" e.2

/-- All counters in the text form of Prometheus, families in the order of their names. -/
def text (m : Metrics) : String :=
  family "xidauth_backend_errors_total" "Failed backend queries (transport or stale state)"
      (labelled "xidauth_backend_errors_total" "kind" m.failures)
    ++ family "xidauth_decisions_total" "Authorization decisions by state"
      (labelled "xidauth_decisions_total" "state" m.decisions)
    ++ family "xidauth_unknown_server_total" "Requests for XMPP servers without configuration"
      [line "xidauth_unknown_server_total" "" m.unknownServers]

end Metrics

end LedgerLogin
