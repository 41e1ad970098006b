import LedgerLogin.Commitment
import LedgerLogin.Failure

/-!
# Call data

Arguments and results of contract functions as words of 32 bytes. Every argument has a word in the
head: its value if it has a fixed size, and otherwise the offset in bytes of its content, which
follows in the tail. A text is its length and its UTF-8 bytes, filled up with zeros to whole words;
a list of texts is its length and the texts once more as head and tail, with offsets counted from
behind the length.

A call is the first four bytes of the hash of the function's signature, and the arguments.
-/

namespace LedgerLogin.Abi

inductive Argument where
  | address (a : Address)
  | uint (n : UInt64)
  | word (w : Word)
  | text (s : String)
  | texts (items : List String)
  deriving DecidableEq, Repr

def numberWord (n : Nat) : Bytes := bigEndian 32 n

/-- Bytes filled up with zeros to whole words. -/
def padded (bs : Bytes) : Bytes := bs ++ List.replicate ((32 - bs.length % 32) % 32) 0

/-- An argument as it is laid out: a word of the head, or content for the tail. -/
inductive Part where
  | fixed (word : Bytes)
  | content (tail : Bytes)

/-- The words of the head, when the content of the first part stands at an offset. -/
def heads (offset : Nat) : List Part → Bytes
  | [] => []
  | .fixed word :: rest => word ++ heads offset rest
  | .content tail :: rest => numberWord offset ++ heads (offset + tail.length) rest

def tails : List Part → Bytes
  | [] => []
  | .fixed _ :: rest => tails rest
  | .content tail :: rest => tail ++ tails rest

def layOut (parts : List Part) : Bytes := heads (32 * parts.length) parts ++ tails parts

def encodeText (s : String) : Bytes := numberWord (utf8 s).length ++ padded (utf8 s)

def encodeTexts (items : List String) : Bytes :=
  numberWord items.length ++ layOut (items.map fun s => .content (encodeText s))

def Argument.part : Argument → Part
  | address a => .fixed (Commitment.addressWord a)
  | uint n => .fixed (numberWord n.toNat)
  | word w => .fixed w.toList
  | text s => .content (encodeText s)
  | texts items => .content (encodeTexts items)

def encode (args : List Argument) : Bytes := layOut (args.map Argument.part)

/-- What a call names the function by. -/
def selector (signature : String) : Bytes := (keccak256 (utf8 signature)).toList.take 4

def encodeCall (signature : String) (args : List Argument) : Bytes :=
  selector signature ++ encode args

/-- The first word of a function's result. -/
def firstWord (signature : String) (data : Bytes) : Except TransportError Word :=
  match fixed? 32 (data.take 32) with
  | some w => .ok w
  | none => .error (.invalidResponse signature s!"expected at least 32 bytes, got {data.length}")

def decodeWord (signature : String) (data : Bytes) : Except TransportError Word :=
  firstWord signature data

/-- A function's result that is a truth value: zero or one. -/
def decodeBool (signature : String) (data : Bytes) : Except TransportError Bool := do
  let w ← firstWord signature data
  match natOfWord w with
  | 0 => return false
  | 1 => return true
  | _ => throw (.invalidResponse signature "not a boolean")

/-- A function's result that is an address: a word that starts with twelve zeros. -/
def decodeAddress (signature : String) (data : Bytes) : Except TransportError Address := do
  let w ← firstWord signature data
  if w.toList.take 12 = List.replicate 12 0 then return Address.ofWord w
  throw (.invalidResponse signature "not an address")

end LedgerLogin.Abi
