import LedgerLogin.Bytes

/-!
# Frames

The bytes between a chat server and a bridge. A command comes as its length, two bytes and signed,
and that many bytes of ASCII. An answer goes as the number two and the number one or zero, in two
bytes each.

Input that ends where a length would have to stand has ended; input that ends within a command is
broken. One byte that is left over is not enough for a length and ends the input too.
-/

namespace LedgerLogin.Bridge

/-- Why input cannot be read on. -/
inductive FrameError where
  | negativeLength (length : Int)
  /-- The input ends before a command of the given length does. -/
  | cut (length : Nat)
  deriving DecidableEq, Repr

namespace FrameError

def message : FrameError → String
  | negativeLength length => s!"negative command length {length}"
  | cut length => s!"failed to read {length}-byte command"

/-- The error and, after it, what caused it. -/
def chain : FrameError → List String
  | cut length => [(cut length).message, "failed to fill whole buffer"]
  | e => [e.message]

end FrameError

/-- The line that stands for a command with a byte that is not ASCII. -/
def nonAsciiLine : String := "invalid:non-ascii"

def lineOf (body : Bytes) : String :=
  if body.all (· < 128) then String.ofList (body.map fun b => Char.ofNat b.toNat)
  else nonAsciiLine

/-- The signed number in two bytes. -/
def signed16 (hi lo : UInt8) : Int := (BitVec.ofNat 16 (hi.toNat * 256 + lo.toNat)).toInt

/-- The lines in the input, up to its end or the error that ends it. -/
def lines : Bytes → List (Except FrameError String)
  | hi :: lo :: rest =>
    let length := signed16 hi lo
    if length < 0 then [.error (.negativeLength length)]
    else if rest.length < length.toNat then [.error (.cut length.toNat)]
    else .ok (lineOf (rest.take length.toNat)) :: lines (rest.drop length.toNat)
  | _ => []
termination_by bs => bs.length
decreasing_by simp; omega

def frame (body : Bytes) : Bytes := bigEndian 2 body.length ++ body

def answer (accepted : Bool) : Bytes := [0, 2, 0, if accepted then 1 else 0]

theorem answer_eq (accepted : Bool) :
    answer accepted = if accepted then [0, 2, 0, 1] else [0, 2, 0, 0] := by
  cases accepted <;> rfl

theorem length_answers (accepted : List Bool) :
    (accepted.flatMap answer).length = 4 * accepted.length := by
  induction accepted with
  | nil => rfl
  | cons a rest ih =>
    rw [List.flatMap_cons, List.length_append, ih, answer]
    simp only [List.length_cons, List.length_nil]
    omega

end LedgerLogin.Bridge
