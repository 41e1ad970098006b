import LedgerLogin.Bridge.Command
import LedgerLogin.Bridge.Frame
import LedgerLogin.Proofs.Bytes.Digits

/-!
# The lines of the commands

A command comes to a bridge as one frame. What the frame holds is read back: its body as a line of
ASCII (`lines_frame`), and the line as the command with its fields (`parse_authLine`,
`parse_isUserLine`).
-/

namespace LedgerLogin.Bridge

/-! ## Frames -/

theorem lineOf_utf8 {s : String} (h : ∀ c ∈ s.toList, c.toNat < 128) : lineOf (utf8 s) = s := by
  have hbyte : ∀ c ∈ s.toList, (UInt8.ofNat c.toNat).toNat = c.toNat := by
    intro c hc
    have hlt := h c hc
    rw [UInt8.toNat_ofNat']
    omega
  have hascii : (utf8 s).all (· < 128) = true := by
    rw [utf8_of_ascii h, List.all_map, List.all_eq_true]
    intro c hc
    have hlt := h c hc
    simp only [Function.comp_apply, decide_eq_true_eq, UInt8.lt_iff_toNat_lt, hbyte c hc]
    exact hlt
  have hchars : (utf8 s).map (fun b => Char.ofNat b.toNat) = s.toList := by
    rw [utf8_of_ascii h, List.map_map]
    refine (List.map_congr_left fun c hc => ?_).trans (List.map_id _)
    simp only [Function.comp_apply, hbyte c hc, Char.ofNat_toNat]
    rfl
  rw [lineOf, if_pos hascii, hchars, String.ofList_toList]

theorem frame_eq (body : Bytes) :
    frame body = UInt8.ofNat (body.length / 256) :: UInt8.ofNat body.length :: body := by
  simp [frame, bigEndian]

/-- The two bytes of a length are a negative number from 32768 on. -/
theorem signed16_length {n : Nat} (h : n < 65536) :
    signed16 (UInt8.ofNat (n / 256)) (UInt8.ofNat n) = if n < 32768 then (n : Int) else n - 65536 := by
  have hhi : (UInt8.ofNat (n / 256)).toNat = n / 256 := by
    rw [UInt8.toNat_ofNat']
    omega
  have hlo : (UInt8.ofNat n).toNat = n % 256 := UInt8.toNat_ofNat'
  rw [signed16, hhi, hlo, BitVec.toInt_eq_toNat_cond, BitVec.toNat_ofNat]
  split <;> split <;> omega

/-- A frame in front of other input is a line in front of other lines. -/
theorem lines_frame_append {body : Bytes} (h : body.length ≤ 32767) (rest : Bytes) :
    lines (frame body ++ rest) = .ok (lineOf body) :: lines rest := by
  have hlength := signed16_length (show body.length < 65536 by omega)
  rw [if_pos (by omega)] at hlength
  rw [frame_eq, List.cons_append, List.cons_append, lines, hlength]
  simp only [Int.toNat_natCast, List.take_left, List.drop_left, List.length_append]
  rw [if_neg (by omega), if_neg (by omega)]

theorem lines_frame {body : Bytes} (h : body.length ≤ 32767) :
    lines (frame body) = [.ok (lineOf body)] := by
  have hline := lines_frame_append h []
  rw [List.append_nil] at hline
  rw [hline]
  simp only [lines]

/-! ## Commands -/

theorem splitFirst?_append {cs : List Char} (h : ':' ∉ cs) (rest : List Char) :
    Text.splitFirst? ':' (cs ++ ':' :: rest) = some (cs, rest) := by
  have hall : ∀ c ∈ cs, decide (c ≠ ':') = true := by
    intro c hc
    rw [decide_eq_true_eq]
    intro hcolon
    subst hcolon
    exact h hc
  rw [Text.splitFirst?, List.dropWhile_append_of_pos hall, List.takeWhile_append_of_pos hall]
  simp

theorem ascii_field {cs rest : List Char} (hfield : ∀ c ∈ cs, c.toNat < 128)
    (hrest : ∀ c ∈ rest, c.toNat < 128) : ∀ c ∈ cs ++ ':' :: rest, c.toNat < 128 := by
  intro c hc
  rcases List.mem_append.1 hc with hc | hc
  · exact hfield c hc
  · rcases List.mem_cons.1 hc with rfl | hc
    · decide
    · exact hrest c hc

def authLine (chat server password : String) : String :=
  "auth:" ++ chat ++ ":" ++ server ++ ":" ++ password

theorem toList_authLine (chat server password : String) :
    (authLine chat server password).toList = "auth".toList ++ ':' ::
      (chat.toList ++ ':' :: (server.toList ++ ':' :: password.toList)) := by
  simp [authLine]

theorem authLine_ascii {chat server password : String} (hchat : ∀ c ∈ chat.toList, c.toNat < 128)
    (hserver : ∀ c ∈ server.toList, c.toNat < 128)
    (hpassword : ∀ c ∈ password.toList, c.toNat < 128) :
    ∀ c ∈ (authLine chat server password).toList, c.toNat < 128 := by
  have hauth : ∀ c ∈ "auth".toList, c.toNat < 128 := by simp
  rw [toList_authLine]
  exact ascii_field hauth (ascii_field hchat (ascii_field hserver hpassword))

/-- The line of a login is read back as the command, whatever the password holds. -/
theorem parse_authLine {chat server password : String} (hchat : ':' ∉ chat.toList)
    (hserver : ':' ∉ server.toList) :
    Command.parse (authLine chat server password) = .auth chat server password := by
  unfold Command.parse
  rw [toList_authLine, splitFirst?_append (by decide)]
  simp only [Command.ofParts, String.ofList_toList, if_true, Command.ofAuthFields,
    splitFirst?_append hchat, splitFirst?_append hserver]

def isUserLine (chat server : String) : String := "isuser:" ++ chat ++ ":" ++ server

theorem toList_isUserLine (chat server : String) :
    (isUserLine chat server).toList =
      "isuser".toList ++ ':' :: (chat.toList ++ ':' :: server.toList) := by
  simp [isUserLine]

theorem isUserLine_ascii {chat server : String} (hchat : ∀ c ∈ chat.toList, c.toNat < 128)
    (hserver : ∀ c ∈ server.toList, c.toNat < 128) :
    ∀ c ∈ (isUserLine chat server).toList, c.toNat < 128 := by
  have hisUser : ∀ c ∈ "isuser".toList, c.toNat < 128 := by simp
  rw [toList_isUserLine]
  exact ascii_field hisUser (ascii_field hchat hserver)

theorem parse_isUserLine {chat server : String} (hchat : ':' ∉ chat.toList)
    (hserver : ':' ∉ server.toList) :
    Command.parse (isUserLine chat server) = .isUser chat server := by
  unfold Command.parse
  rw [toList_isUserLine, splitFirst?_append (by decide)]
  have hne : "isuser" ≠ "auth" := by decide
  simp only [Command.ofParts, String.ofList_toList, if_neg hne, if_true, Command.ofIsUserFields,
    splitFirst?_append hchat, if_neg hserver]

end LedgerLogin.Bridge
