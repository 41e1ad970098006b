import LedgerLogin.Bridge.Loop
import LedgerLogin.ChatName
import LedgerLogin.CommandLine.Invocation
import LedgerLogin.Config.Build
import LedgerLogin.SignedPassword

/-!
# The program

What the program does when it is invoked, as an inquiry of its surroundings: files, a log, one
variable, the clock, and nodes to send requests to. It comes to a text to print, to a service that
is ready to run, to a search that does not end, or to a failure, told as what failed and, after it,
what caused it.
-/

namespace LedgerLogin.CommandLine

/-- What the program asks its surroundings for. -/
inductive Need where
  | file (path : String)
  | log (path : String)
  | setting (name : String)
  /-- The time, in seconds since the epoch. -/
  | clock
  | post (request : Http.Request)

/-- What the surroundings answer; an error is the reason in words. -/
abbrev Need.Answer : Need → Type
  | file _ => Except String String
  | log _ => Except String Unit
  | setting _ => Except String String
  | clock => Int64
  | post _ => Http.Reply

/-- A failure, told as what failed and, after it, what caused it. -/
abbrev Failure : Type := List String

def Failure.message (f : Failure) : String := ": ".intercalate f

/-- What the program does before it runs a service or ends. -/
abbrev Program : Type → Type := ExceptT Failure (Inquiry Need Need.Answer)

/-- What the program comes to, unless it fails. -/
inductive Finish where
  | printed (line : String)
  /-- It draws numbers for a signature, of which none ever gives one. -/
  | signing
  | bridging (service : NodeService)
  | serving (service : NodeService) (listen : SocketAddress) (counting : Bool)

/-- An answer of the surroundings; `context` says what fails without it. -/
def ask {α : Type} (context : String) (x : Inquiry Need Need.Answer (Except String α)) :
    Program α :=
  ExceptT.mk do
    let answer ← x
    return answer.mapError fun reason => [context, reason]

/-- An outcome that is already there. -/
def decided {ε α : Type} (chain : ε → Failure) (x : Except ε α) : Program α :=
  ExceptT.mk (return x.mapError chain)

/-- Sends the requests of a program that connects to nodes. -/
def overNodes {ε α : Type} (chain : ε → Failure)
    (x : ExceptT ε (Inquiry Http.Request fun _ => Http.Reply) α) : Program α :=
  ExceptT.mk do
    let outcome ← (ExceptT.run x).via fun r => Inquiry.query (Need.post r)
    return outcome.mapError chain

/-- The variable that holds the configuration if no file is named. -/
def configVariable : String := "EJABBERD_XIDAUTH_CONFIG"

def parseConfig (source text : String) : Program Config :=
  decided (fun e : Config.Error => s!"in {source}" :: e.chain) (Config.parse text)

def loadConfig : Option String → Program Config
  | some path => do
    let text ← ask s!"failed to read config: {path}" (Inquiry.query (Need.file path))
    parseConfig path text
  | none => do
    let text ← ask s!"{configVariable} must be set, or --config given"
      (Inquiry.query (Need.setting configVariable))
    parseConfig ("$" ++ configVariable) text

def buildService (c : Config) : Program NodeService := overNodes BuildError.chain c.build

/-- A program over backends, as one that sends requests. -/
def overBackends {α : Type} (x : Verification LedgerNode GspNode α) :
    ExceptT VerifyError (Inquiry Http.Request fun _ => Http.Reply) α :=
  ExceptT.mk ((ExceptT.run x).via Backend.overHttp)

/-- Loads a configuration, builds its service and asks its processors how far they are. -/
def startBridge (c : Config) : Program NodeService := do
  let service ← buildService c
  overNodes (fun e : VerifyError => "startup probe failed" :: e.chain)
    (overBackends (Bridge.probe service))
  return service

def bindFailure (listen : SocketAddress) (reason : String) : Failure :=
  [s!"failed to bind {listen.text}", reason]

/-- One entry of the extra data; the key must not be empty. -/
def parseExtra (s : String) : Except Failure (String × String) :=
  match Text.splitFirst? '=' s.toList with
  | some (c :: key, value) => .ok (String.ofList (c :: key), String.ofList value)
  | _ => .error ["extra data must be KEY=VALUE, got " ++ Text.quoted s]

def loadKey (path : String) : Program SecretKey := do
  let text ← ask s!"failed to read key file: {path}" (Inquiry.query (Need.file path))
  decided (fun e : KeyError => [s!"invalid secp256k1 key in {path}", e.message])
    (SecretKey.parse text)

/-- The time after a number of seconds, or the last of all times. -/
def later (now : Int64) (seconds : Nat) : Int64 :=
  (int64? (now.toInt + seconds)).getD Int64.maxValue

def chooseExpiry (o : PasswordOptions) : Program (Option Int64) :=
  match o.expiry, o.validFor with
  | some e, _ => return some e
  | none, none => return none
  | none, some seconds =>
    if (int64? seconds.toNat).isSome then
      ExceptT.mk do
        let now ← Inquiry.query Need.clock
        return .ok (some (later now seconds.toNat))
    else
      throw ["--valid-for is too large", "out of range integral type conversion attempted"]

def makePassword (o : PasswordOptions) : Program Finish := do
  let key ← loadKey o.key
  let expiry ← chooseExpiry o
  let extra ← decided id (o.extra.mapM parseExtra)
  match SignedPassword.build? key ⟨o.chainId, o.contract⟩ o.name o.app expiry extra with
  | none => return .signing
  | some outcome => do
    return .printed (← decided (fun e : PasswordError => ["failed to encode password", e.message])
      outcome)

def decodeName (chat : String) : Program String :=
  decided (fun e : ChatName.Error => ["cannot decode " ++ Text.quoted chat, e.message])
    (ChatName.decode chat)

def run (i : Invocation) : Program Finish :=
  match i.command with
  | .encodeName identity => return .printed (ChatName.encode identity)
  | .decodeName chat => return .printed (← decodeName chat)
  | .password options => makePassword options
  | .bridge log _ => do
    ask s!"failed to open log file: {log}" (Inquiry.query (Need.log log))
    return .bridging (← startBridge (← loadConfig i.config))
  | .serve listen counting => do
    return .serving (← buildService (← loadConfig i.config)) listen counting

def versionLine : String := "xidauth 0.1.0"

def helpLine : String :=
  "Usage: xidauth [-v] [--config FILE] <bridge|serve|password|name> [OPTIONS]"

/-- What a run of the program comes to: the code that it ends with, what it has written, and why it
failed if it did so by itself. -/
structure Result where
  code : UInt32
  output : Bytes := []
  failure : Option Failure := none
  deriving DecidableEq, Repr

namespace Result

def printed (line : String) : Result := { code := 0, output := utf8 (line ++ "\n") }

def failed (failure : Failure) : Result := { code := 1, failure := some failure }

/-- A run whose command line was not read to its end. -/
def ofStop : Stop → Result
  | .usage => { code := 2 }
  | .version => printed versionLine
  | .help => printed helpLine

def ofBridge (o : Bridge.Outcome) : Result :=
  match o.failure with
  | none => { code := 0, output := o.output }
  | some f => { code := 1, output := o.output, failure := some f.chain }

end Result

/-- What a run comes to. Running a service is left to the surroundings, and so is not to end. -/
def conclude {m : Type → Type} [Monad m] (forever : m Result) (bridge : NodeService → m Result)
    (listen : NodeService → SocketAddress → Bool → m Result) :
    Except Failure Finish → m Result
  | .error failure => return .failed failure
  | .ok (.printed line) => return .printed line
  | .ok .signing => forever
  | .ok (.bridging service) => bridge service
  | .ok (.serving service address counting) => listen service address counting

end LedgerLogin.CommandLine
