import LedgerLogin.Text.Blank

/-!
# Socket addresses

An address to listen on is `a.b.c.d:n` or `[groups]:n`. The four numbers of the first form
have no leading zeros. The second form is eight groups of at most four hexadecimal digits; one run
of zero groups may be left out between two colons, the last two groups may be written as four
decimal numbers, and a number for the zone may follow a percent sign.

An address has one text: zeros are left out where the longest run of at least two is, the first if
there are several.
-/

namespace LedgerLogin

inductive SocketAddress where
  | v4 (parts : List Nat) (portNumber : Nat)
  | v6 (groups : List Nat) (zone portNumber : Nat)
  deriving DecidableEq, Repr

namespace SocketAddress

/-- Something at the start of a text, and what follows it. -/
abbrev Reader (α : Type) : Type := List Char → Option (α × List Char)

/-- The value of a digit in a base of at most sixteen. -/
def digit? (base : Nat) (c : Char) : Option Nat :=
  let n := if c.isDigit then c.toNat - 48
    else if 'a' ≤ c ∧ c ≤ 'f' then c.toNat - 87
    else if 'A' ≤ c ∧ c ≤ 'F' then c.toNat - 55
    else base
  if n < base then some n else none

def value (base : Nat) (cs : List Char) : Nat :=
  cs.foldl (fun n c => n * base + (digit? base c).getD 0) 0

/-- Reads all digits that stand at the start of a text: at least one, at most as many as allowed,
and a number of at most `greatest`. -/
def number (base width greatest : Nat) : Reader Nat := fun cs =>
  let digits := cs.takeWhile fun c => (digit? base c).isSome
  if digits.isEmpty ∨ width < digits.length ∨ greatest < value base digits then none
  else some (value base digits, cs.drop digits.length)

/-- Reads one of the four numbers. -/
def octet : Reader Nat := fun cs =>
  match cs with
  | '0' :: c :: _ => if c.isDigit then none else number 10 3 255 cs
  | _ => number 10 3 255 cs

def character (c : Char) : Reader Unit
  | d :: rest => if c = d then some ((), rest) else none
  | [] => none

/-- Reads something that follows a colon, unless it is the first. -/
def separated {α : Type} (first : Bool) (x : Reader α) : Reader α := fun cs => do
  if first then x cs
  else
    let (_, cs) ← character ':' cs
    x cs

/-- Reads four numbers with points between. -/
def four : Reader (List Nat) := fun cs => do
  let (a, cs) ← octet cs
  let (_, cs) ← character '.' cs
  let (b, cs) ← octet cs
  let (_, cs) ← character '.' cs
  let (c, cs) ← octet cs
  let (_, cs) ← character '.' cs
  let (d, cs) ← octet cs
  return ([a, b, c, d], cs)

def groupsOfFour : List Nat → List Nat
  | [a, b, c, d] => [a * 256 + b, c * 256 + d]
  | _ => []

/-- Reads as many groups as there are, up to `room`: the groups, and whether they end in four
numbers. -/
def groups (first : Bool) : (room : Nat) → List Char → (List Nat × Bool) × List Char
  | 0, cs => (([], false), cs)
  | room + 1, cs =>
    match (if 0 < room then separated first four cs else none) with
    | some (parts, rest) => ((groupsOfFour parts, true), rest)
    | none =>
      match separated first (number 16 4 65535) cs with
      | some (g, rest) =>
        let ((gs, mixed), rest) := groups false room rest
        ((g :: gs, mixed), rest)
      | none => (([], false), cs)

/-- Reads eight groups, of which a run of zeros may be left out. -/
def eight : Reader (List Nat) := fun cs => do
  let ((head, mixed), cs) := groups true 8 cs
  if head.length = 8 then return (head, cs)
  if mixed then none
  let (_, cs) ← character ':' cs
  let (_, cs) ← character ':' cs
  let ((tail, _), cs) := groups true (7 - head.length) cs
  return (head ++ List.replicate (8 - head.length - tail.length) 0 ++ tail, cs)

/-- Reads a zone, which is zero if it is not there. -/
def zone (cs : List Char) : Nat × List Char :=
  match (do let (_, cs) ← character '%' cs; number 10 cs.length (UInt32.size - 1) cs) with
  | some x => x
  | none => (0, cs)

def portNumber : Reader Nat := fun cs => do
  let (_, cs) ← character ':' cs
  number 10 cs.length 65535 cs

def readV4 : Reader SocketAddress := fun cs => do
  let (parts, cs) ← four cs
  let (portNumber, cs) ← portNumber cs
  return (.v4 parts portNumber, cs)

def readV6 : Reader SocketAddress := fun cs => do
  let (_, cs) ← character '[' cs
  let (groups, cs) ← eight cs
  let (zone, cs) := zone cs
  let (_, cs) ← character ']' cs
  let (portNumber, cs) ← portNumber cs
  return (.v6 groups zone portNumber, cs)

def parse? (s : String) : Option SocketAddress :=
  match readV4 s.toList <|> readV6 s.toList with
  | some (a, []) => some a
  | _ => none

/-- Four numbers with points between. -/
def pointed (parts : List Nat) : String := ".".intercalate (parts.map toString)

def coloned (groups : List Nat) : String :=
  ":".intercalate (groups.map fun g => String.ofList (Nat.toDigits 16 g))

/-- The start and the length of the longest run of zeros, of which the first counts; `start` is
where the list stands, and `run` the length of the run before it. -/
def longestZeros (start run : Nat) (best : Nat × Nat) : List Nat → Nat × Nat
  | [] => best
  | 0 :: rest =>
    let best := if best.2 < run + 1 then (start - run, run + 1) else best
    longestZeros (start + 1) (run + 1) best rest
  | _ :: rest => longestZeros (start + 1) 0 best rest

def groupsText (groups : List Nat) : String :=
  match groups with
  | [0, 0, 0, 0, 0, 65535, a, b] => "::ffff:" ++ pointed [a / 256, a % 256, b / 256, b % 256]
  | _ =>
    let (start, length) := longestZeros 0 0 (0, 0) groups
    if 1 < length then coloned (groups.take start) ++ "::" ++ coloned (groups.drop (start + length))
    else coloned groups

def text : SocketAddress → String
  | v4 parts portNumber => s!"{pointed parts}:{portNumber}"
  | v6 groups zone portNumber =>
    if zone = 0 then s!"[{groupsText groups}]:{portNumber}"
    else s!"[{groupsText groups}%{zone}]:{portNumber}"

/-- Where this host listens unless told otherwise. -/
def standard : SocketAddress := v4 [127, 0, 0, 1] 8400

end SocketAddress

end LedgerLogin
