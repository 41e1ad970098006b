import LedgerLogin.Address
import LedgerLogin.CommandLine.Options
import LedgerLogin.CommandLine.SocketAddress
import LedgerLogin.Word64

/-!
# Invocations

What the program can be told to do: serve a chat server's bridge, serve the decision API, sign a
password, or convert a name. The path of a configuration may be given on every level; what is given
furthest to the right counts.
-/

namespace LedgerLogin.CommandLine

structure PasswordOptions where
  name : String
  app : String
  /-- The path of a file that holds the key. -/
  key : String
  chainId : UInt64
  contract : Address
  /-- For how many seconds the password is to be valid. -/
  validFor : Option UInt64 := none
  expiry : Option Int64 := none
  /-- Extra data, each a key and a value with an equals sign between. -/
  extra : List String := []
  deriving DecidableEq, Repr

inductive Command where
  | bridge (log : String) (debug : Bool)
  | serve (listen : SocketAddress) (counting : Bool)
  | password (options : PasswordOptions)
  | encodeName (identity : String)
  | decodeName (chat : String)
  deriving DecidableEq, Repr

/-- A command, and where its configuration is. -/
structure Invocation where
  config : Option String
  command : Command
  deriving DecidableEq, Repr

/-- The decimal number that a text spells; a plus sign may stand before it. -/
def natural? (s : String) : Option Nat :=
  let digits := match s.toList with
    | '+' :: cs => cs
    | cs => cs
  if digits.isEmpty ∨ !digits.all Char.isDigit then none
  else some (digits.foldl (fun n c => n * 10 + (c.toNat - 48)) 0)

def unsigned64? (s : String) : Option UInt64 := do
  uint64? (← natural? s)

def signed64? (s : String) : Option Int64 :=
  match s.toList with
  | '-' :: c :: cs => do
    if c = '+' then none
    int64? (-(← natural? (String.ofList (c :: cs))))
  | _ => do int64? (← natural? s)

def address? (s : String) : Option Address := (Address.parse s).toOption

/-- Where a bridge logs unless told otherwise. -/
def standardLog : String := "/var/log/ejabberd/xidauth.log"

/-- A path must not be empty. -/
def isPath (s : String) : Bool := !s.isEmpty

/-- The options that every level has. -/
def commonOptions : List OptionSpec :=
  [⟨"verbose", some 'v', .counter⟩, ⟨"config", none, .value isPath⟩, ⟨"help", some 'h', .help⟩]

def topLevel : Level where
  options := commonOptions ++ [⟨"version", some 'V', .version⟩]
  subcommands := ["bridge", "serve", "password", "name", "help"]

def bridgeLevel : Level where
  options := commonOptions ++ [⟨"logfile", none, .value isPath⟩, ⟨"debug", none, .switch⟩]

def serveLevel : Level where
  options := commonOptions
    ++ [⟨"listen", none, .value fun s => (SocketAddress.parse? s).isSome⟩,
      ⟨"no-metrics", none, .switch⟩]

def passwordLevel : Level where
  options := commonOptions
    ++ [⟨"name", none, .value fun _ => true⟩, ⟨"app", none, .value fun _ => true⟩,
      ⟨"key", none, .value isPath⟩, ⟨"chain-id", none, .value fun s => (unsigned64? s).isSome⟩,
      ⟨"contract", none, .value fun s => (address? s).isSome⟩,
      ⟨"valid-for", none, .value fun s => (unsigned64? s).isSome⟩,
      ⟨"expiry", none, .value fun s => (signed64? s).isSome⟩, ⟨"extra", none, .repeated⟩]

def nameLevel : Level where
  options := commonOptions
  subcommands := ["encode", "decode", "help"]

def textLevel : Level where
  options := commonOptions
  positions := 1

/-- What there is help on, each as the subcommands that lead to it from the first level. -/
def helpTopics : List (List String) :=
  [] :: topLevel.subcommands.map (fun s => [s]) ++ nameLevel.subcommands.map (fun s => ["name", s])

/-- What a question for help on a topic comes to. Its words are names of subcommands and nothing
else, so that a word like an option is a wrong topic. -/
def helpOn (topic : List String) : Stop := if topic ∈ helpTopics then .help else .usage

def bridgeCommand (w : Words) : Command :=
  .bridge ((w.value? "logfile").getD standardLog) (w.has "debug")

def serveCommand (w : Words) : Command :=
  .serve (((w.value? "listen").bind SocketAddress.parse?).getD .standard) (!w.has "no-metrics")

/-- What is to be signed, from the words of a password. A duration and an expiry exclude each
other. -/
def passwordOptions? (w : Words) : Option PasswordOptions := do
  if w.has "valid-for" ∧ w.has "expiry" then none
  return {
    name := ← w.value? "name"
    app := ← w.value? "app"
    key := ← w.value? "key"
    chainId := ← (w.value? "chain-id").bind unsigned64?
    contract := ← (w.value? "contract").bind address?
    validFor := (w.value? "valid-for").bind unsigned64?
    expiry := (w.value? "expiry").bind signed64?
    extra := w.values "extra" }

def need {α : Type} : Option α → Except Stop α
  | some a => .ok a
  | none => .error .usage

/-- A configuration's path from two levels, the inner of which counts. -/
def inner (w : Words) (outer : Option String) : Option String := w.value? "config" <|> outer

def readName (outer : Option String) (words : List String) : Except Stop Invocation := do
  let w ← nameLevel.read {} words
  let (which, words) ← need w.subcommand
  if which = "help" then throw (helpOn ("name" :: words))
  let v ← textLevel.read {} words
  let text ← need v.positions.head?
  w.settle
  let command := if which = "encode" then .encodeName text else .decodeName text
  return ⟨inner v (inner w outer), command⟩

def readCommand (which : String) (outer : Option String) (words : List String) :
    Except Stop Invocation := do
  match which with
  | "bridge" =>
    let w ← bridgeLevel.read {} words
    return ⟨inner w outer, bridgeCommand w⟩
  | "serve" =>
    let w ← serveLevel.read {} words
    return ⟨inner w outer, serveCommand w⟩
  | "password" =>
    let w ← passwordLevel.read {} words
    return ⟨inner w outer, .password (← need (passwordOptions? w))⟩
  | "name" => readName outer words
  | _ => throw (helpOn words)

def read (words : List String) : Except Stop Invocation := do
  let w ← topLevel.read {} words
  let (which, words) ← need w.subcommand
  let invocation ← readCommand which (w.value? "config") words
  w.settle
  return invocation

end LedgerLogin.CommandLine
