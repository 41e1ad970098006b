import LedgerLogin.Bytes.Hex

/-!
# Chat names

Chat servers compare user names without regard to case and allow few characters, while identities
are named by any text. A chat name therefore spells an identity name: a simple name (digits and
lowercase letters only, at least one) spells itself, and `x-` followed by lowercase hexadecimal
digits spells the text with those UTF-8 bytes. A simple name must not be written the second way,
so an identity has one chat name only.
-/

namespace LedgerLogin.ChatName

def isSimpleChar (c : Char) : Bool := ('0' ≤ c && c ≤ '9') || ('a' ≤ c && c ≤ 'z')

def isHexChar (c : Char) : Bool := ('0' ≤ c && c ≤ '9') || ('a' ≤ c && c ≤ 'f')

def isSimple (name : String) : Bool := !name.toList.isEmpty && name.toList.all isSimpleChar

/-- Why a text is no chat name. -/
inductive Error where
  | empty
  /-- A name without `x-` holds a character that is not simple. -/
  | invalidSimpleChar (name : String) (char : Char)
  /-- A name with `x-` holds a character that is no lowercase hexadecimal digit. -/
  | invalidHexChar (name : String) (char : Char)
  /-- A name with `x-` has an odd number of digits. -/
  | oddLength (name : String)
  | invalidUtf8 (name : String)
  /-- The digits spell a simple name. -/
  | simpleNameEncoded (name : String)
  deriving DecidableEq, Repr

def Error.message : Error → String
  | empty => "empty chat name"
  | invalidSimpleChar name char =>
    s!"invalid character {Text.quotedChar char} in simple chat name {Text.quoted name}"
  | invalidHexChar name char =>
    s!"invalid hex character {Text.quotedChar char} in encoded chat name {Text.quoted name}"
  | oddLength name => s!"odd-length hex part in encoded chat name {Text.quoted name}"
  | invalidUtf8 name => s!"encoded chat name {Text.quoted name} is not valid UTF-8"
  | simpleNameEncoded name => s!"simple name was hex-encoded: {Text.quoted name}"

/-- The identity that the digits of an encoded name spell. -/
def decodeHex (chat : String) (cs : List Char) : Except Error String :=
  match cs.find? (!isHexChar ·) with
  | some c => .error (.invalidHexChar chat c)
  | none =>
    match Hex.pairs cs with
    | none => .error (.oddLength chat)
    | some bs =>
      match ofUtf8? bs with
      | none => .error (.invalidUtf8 chat)
      | some name => if isSimple name then .error (.simpleNameEncoded chat) else .ok name

/-- The identity that a chat name without `x-` spells. -/
def decodeSimple (chat : String) (cs : List Char) : Except Error String :=
  match cs.find? (!isSimpleChar ·) with
  | some c => .error (.invalidSimpleChar chat c)
  | none => .ok chat

def decode (chat : String) : Except Error String :=
  match chat.toList with
  | [] => .error .empty
  | 'x' :: '-' :: cs => decodeHex chat cs
  | cs => decodeSimple chat cs

def encode (name : String) : String :=
  if isSimple name then name else String.ofList ('x' :: '-' :: Hex.digits (utf8 name))

end LedgerLogin.ChatName
