import LedgerLogin.Json.Token
import LedgerLogin.Json.Value

/-!
# JSON documents

The second stage of reading JSON: tokens become a document, a tree that keeps what a value forgets,
namely the order and repetition of an object's members and the places that are spelled well but
stand for nothing. The reader is one step function over tokens with a stack of the containers that
are open.

A document becomes a value (`Document.toJson?`) if every place has a value and containers nest
less than 128 deep; of repeated members the last counts.
-/

namespace LedgerLogin.Json

/-- A JSON text's tree. -/
inductive Document where
  | null
  | bool (b : Bool)
  | number (n : Option Number)
  | string (s : Option String)
  | array (items : List Document)
  | object (members : List (Option String × Document))
  deriving Repr

namespace Document

/-- A container that is open, with what it holds so far, the last first; an object also with the
key whose value is to come. -/
inductive Frame where
  | array (before : List Document)
  | object (before : List (Option String × Document)) (key : Option String)

/-- What may come next: a value; an item or the end of an empty array; a comma or the end of an
array; a key or the end of an empty object; a key; the colon after a key; a comma or the end of an
object; nothing, since the document is complete. -/
inductive Stage where
  | value
  | firstItem
  | afterItem
  | firstKey
  | key
  | colon
  | afterMember
  | complete (d : Document)

/-- A reader between two tokens: the open containers, the innermost first, and what may come. -/
structure Reader where
  frames : List Frame
  stage : Stage

namespace Reader

/-- The reader after a value has been completed inside the given containers. -/
def close (d : Document) : List Frame → Reader
  | [] => ⟨[], .complete d⟩
  | .array before :: rest => ⟨.array (d :: before) :: rest, .afterItem⟩
  | .object before key :: rest => ⟨.object ((key, d) :: before) none :: rest, .afterMember⟩

/-- The reader after a token that starts or is a value. -/
def openValue (frames : List Frame) : Token → Option Reader
  | .null => some (close .null frames)
  | .bool b => some (close (.bool b) frames)
  | .number n => some (close (.number n) frames)
  | .string s => some (close (.string s) frames)
  | .leftBracket => some ⟨.array [] :: frames, .firstItem⟩
  | .leftBrace => some ⟨.object [] none :: frames, .firstKey⟩
  | _ => none

def step : Reader → Token → Option Reader
  | ⟨frames, .value⟩, t => openValue frames t
  | ⟨.array before :: rest, .firstItem⟩, .rightBracket =>
    some (close (.array before.reverse) rest)
  | ⟨frames, .firstItem⟩, t => openValue frames t
  | ⟨frames, .afterItem⟩, .comma => some ⟨frames, .value⟩
  | ⟨.array before :: rest, .afterItem⟩, .rightBracket =>
    some (close (.array before.reverse) rest)
  | ⟨.object before _ :: rest, .firstKey⟩, .rightBrace =>
    some (close (.object before.reverse) rest)
  | ⟨.object before _ :: rest, .firstKey⟩, .string s => some ⟨.object before s :: rest, .colon⟩
  | ⟨.object before _ :: rest, .key⟩, .string s => some ⟨.object before s :: rest, .colon⟩
  | ⟨frames, .colon⟩, .colon => some ⟨frames, .value⟩
  | ⟨frames, .afterMember⟩, .comma => some ⟨frames, .key⟩
  | ⟨.object before _ :: rest, .afterMember⟩, .rightBrace =>
    some (close (.object before.reverse) rest)
  | _, _ => none

end Reader

def ofTokens? (ts : List Token) : Option Document := do
  let r ← ts.foldlM Reader.step ⟨[], .value⟩
  match r.stage with
  | .complete d => some d
  | _ => none

def parse? (s : String) : Option Document := do ofTokens? (← tokens? s.toList)

mutual

def depth : Document → Nat
  | .array items => depthOfItems items + 1
  | .object members => depthOfMembers members + 1
  | _ => 0

def depthOfItems : List Document → Nat
  | [] => 0
  | d :: rest => max d.depth (depthOfItems rest)

def depthOfMembers : List (Option String × Document) → Nat
  | [] => 0
  | (_, d) :: rest => max d.depth (depthOfMembers rest)

end

mutual

/-- The value of a document at any depth. -/
def resolve? : Document → Option Json
  | .null => some .null
  | .bool b => some (.bool b)
  | .number n => n.map .number
  | .string s => s.map .string
  | .array items => (resolveItems? items).map .array
  | .object members => (resolveMembers? members).map Json.ofMembers

def resolveItems? : List Document → Option (List Json)
  | [] => some []
  | d :: rest => do return (← d.resolve?) :: (← resolveItems? rest)

def resolveMembers? : List (Option String × Document) → Option (List (String × Json))
  | [] => some []
  | (key, d) :: rest => do return (← key, ← d.resolve?) :: (← resolveMembers? rest)

end

/-- The value of a document that stands inside `outer` containers. -/
def toJson? (outer : Nat) (d : Document) : Option Json :=
  if outer + d.depth < 128 then d.resolve? else none

end Document

def parse? (s : String) : Option Json := do (← Document.parse? s).toJson? 0

mutual

def toDocument : Json → Document
  | .null => .null
  | .bool b => .bool b
  | .number n => .number (some n)
  | .string s => .string (some s)
  | .array items => .array (toDocumentItems items)
  | .object members => .object (toDocumentMembers members)

def toDocumentItems : List Json → List Document
  | [] => []
  | j :: rest => j.toDocument :: toDocumentItems rest

def toDocumentMembers : List (String × Json) → List (Option String × Document)
  | [] => []
  | (key, j) :: rest => (some key, j.toDocument) :: toDocumentMembers rest

end

end LedgerLogin.Json
