import LedgerLogin.Proofs.Bridge.Login
import Mathlib.Data.List.TakeWhile

/-!
# The lines of each command

Which lines are parsed as which command (`parse_grammar`): a login is `auth:` before two fields
without colons and a password, a question for a user is `isuser:` before two fields without colons,
and every other line is told by what stands before its first colon. A command that is served can be
written back as the line that it was parsed from.
-/

namespace LedgerLogin.Bridge

/-! ## Lines that are split -/

theorem splitFirst?_of_notMem {cs : List Char} (h : ':' ∉ cs) : Text.splitFirst? ':' cs = none := by
  have hnil : cs.dropWhile (· ≠ ':') = [] := by
    rw [List.dropWhile_eq_nil_iff]
    intro c hc
    rw [decide_eq_true_eq]
    rintro rfl
    exact h hc
  rw [Text.splitFirst?, hnil]

theorem splitFirst?_eq_some_iff {cs before rest : List Char} :
    Text.splitFirst? ':' cs = some (before, rest) ↔ cs = before ++ ':' :: rest ∧ ':' ∉ before := by
  constructor
  · intro h
    by_cases hcolon : ':' ∈ cs
    · obtain ⟨front, back, rfl, hfront⟩ := List.eq_append_cons_of_mem hcolon
      rw [splitFirst?_append hfront] at h
      cases h
      exact ⟨rfl, hfront⟩
    · rw [splitFirst?_of_notMem hcolon] at h
      cases h
  · rintro ⟨rfl, hbefore⟩
    exact splitFirst?_append hbefore rest

/-! ## What a line consists of -/

/-- A line starts with an operation: that is all of it, or stands before its first colon. -/
def StartsWith (line operation : String) : Prop :=
  ':' ∉ operation.toList ∧ (line = operation ∨ ∃ fields, line = operation ++ ":" ++ fields)

def IsLogin (line name server password : String) : Prop :=
  line = authLine name server password ∧ ':' ∉ name.toList ∧ ':' ∉ server.toList

def IsQuestion (line name server : String) : Prop :=
  line = isUserLine name server ∧ ':' ∉ name.toList ∧ ':' ∉ server.toList

/-- The grammar of commands. -/
inductive Command.Spells (line : String) : Command → Prop where
  | auth {name server password : String} (h : IsLogin line name server password) :
    Spells line (.auth name server password)
  | isUser {name server : String} (h : IsQuestion line name server) :
    Spells line (.isUser name server)
  | invalid {operation : String} (hstart : StartsWith line operation)
    (hserved : operation = "auth" ∨ operation = "isuser")
    (hlogin : ∀ name server password, ¬ IsLogin line name server password)
    (hquestion : ∀ name server, ¬ IsQuestion line name server) : Spells line (.invalid operation)
  | unsupported {operation : String} (hstart : StartsWith line operation)
    (hauth : operation ≠ "auth") (hisUser : operation ≠ "isuser") :
    Spells line (.unsupported operation)

def Command.line? : Command → Option String
  | .auth name server password => some (authLine name server password)
  | .isUser name server => some (isUserLine name server)
  | _ => none

theorem exists_startsWith (line : String) : ∃ operation, StartsWith line operation := by
  by_cases h : ':' ∈ line.toList
  · obtain ⟨before, rest, hline, hbefore⟩ := List.eq_append_cons_of_mem h
    refine ⟨String.ofList before, by rwa [String.toList_ofList], .inr ⟨String.ofList rest, ?_⟩⟩
    rw [← String.toList_inj, hline]
    simp
  · exact ⟨line, h, .inl rfl⟩

namespace Command

variable {operation line name server password : String} {fields : List Char}

/-! ## Operations with their fields -/

theorem ofAuthFields_cases (fields : List Char) :
    ofAuthFields fields = invalid "auth" ∨
      ∃ name server password, ofAuthFields fields = auth name server password ∧
        fields = name.toList ++ ':' :: (server.toList ++ ':' :: password.toList) ∧
        ':' ∉ name.toList ∧ ':' ∉ server.toList := by
  unfold ofAuthFields
  split
  · exact .inl rfl
  rename_i n rest hn
  obtain ⟨rfl, hname⟩ := splitFirst?_eq_some_iff.1 hn
  split
  · exact .inl rfl
  rename_i s p hs
  obtain ⟨rfl, hserver⟩ := splitFirst?_eq_some_iff.1 hs
  refine .inr ⟨_, _, _, rfl, ?_⟩
  simp only [String.toList_ofList]
  exact ⟨trivial, hname, hserver⟩

theorem ofIsUserFields_cases (fields : List Char) :
    ofIsUserFields fields = invalid "isuser" ∨
      ∃ name server, ofIsUserFields fields = isUser name server ∧
        fields = name.toList ++ ':' :: server.toList ∧
        ':' ∉ name.toList ∧ ':' ∉ server.toList := by
  unfold ofIsUserFields
  split
  · exact .inl rfl
  rename_i n s hn
  obtain ⟨rfl, hname⟩ := splitFirst?_eq_some_iff.1 hn
  split
  · exact .inl rfl
  rename_i hserver
  refine .inr ⟨_, _, rfl, ?_⟩
  simp only [String.toList_ofList]
  exact ⟨trivial, hname, hserver⟩

theorem parse_of_notMem (h : ':' ∉ line.toList) : parse line = ofParts line [] := by
  rw [parse, splitFirst?_of_notMem h]

theorem parse_append (h : ':' ∉ operation.toList) (fields : String) :
    parse (operation ++ ":" ++ fields) = ofParts operation fields.toList := by
  have hline : (operation ++ ":" ++ fields).toList = operation.toList ++ ':' :: fields.toList := by
    simp
  rw [parse, hline, splitFirst?_append h]
  simp only [String.ofList_toList]

theorem parse_of_startsWith (h : StartsWith line operation) :
    ∃ fields, parse line = ofParts operation fields ∧
      (fields = [] ∨ line = operation ++ ":" ++ String.ofList fields) := by
  obtain ⟨hcolon, rfl | ⟨fields, rfl⟩⟩ := h
  · exact ⟨[], parse_of_notMem hcolon, .inl rfl⟩
  · refine ⟨fields.toList, parse_append hcolon fields, .inr ?_⟩
    rw [String.ofList_toList]

theorem parse_cases (h : StartsWith line operation) :
    (operation = "auth" ∧ (parse line = invalid operation ∨
      ∃ name server password, parse line = auth name server password ∧
        IsLogin line name server password)) ∨
    (operation = "isuser" ∧ (parse line = invalid operation ∨
      ∃ name server, parse line = isUser name server ∧ IsQuestion line name server)) ∨
    (operation ≠ "auth" ∧ operation ≠ "isuser" ∧ parse line = unsupported operation) := by
  obtain ⟨fields, hparse, hline⟩ := parse_of_startsWith h
  by_cases hauth : operation = "auth"
  · subst hauth
    have hfields : parse line = ofAuthFields fields := hparse
    rw [hfields]
    refine .inl ⟨rfl, ?_⟩
    obtain hinvalid | ⟨name, server, password, hread, rfl, hname, hserver⟩ :=
      ofAuthFields_cases fields
    · exact .inl hinvalid
    · refine .inr ⟨name, server, password, hread, ?_, hname, hserver⟩
      obtain hnil | hline := hline
      · simp at hnil
      · rw [← String.toList_inj, hline, toList_authLine]
        simp
  by_cases hisUser : operation = "isuser"
  · subst hisUser
    have hfields : parse line = ofIsUserFields fields := hparse
    rw [hfields]
    refine .inr (.inl ⟨rfl, ?_⟩)
    obtain hinvalid | ⟨name, server, hread, rfl, hname, hserver⟩ := ofIsUserFields_cases fields
    · exact .inl hinvalid
    · refine .inr ⟨name, server, hread, ?_, hname, hserver⟩
      obtain hnil | hline := hline
      · simp at hnil
      · rw [← String.toList_inj, hline, toList_isUserLine]
        simp
  · rw [ofParts, if_neg hauth, if_neg hisUser] at hparse
    exact .inr (.inr ⟨hauth, hisUser, hparse⟩)

theorem parse_of_isLogin (h : IsLogin line name server password) :
    parse line = auth name server password := by
  obtain ⟨rfl, hname, hserver⟩ := h
  exact parse_authLine hname hserver

theorem parse_of_isQuestion (h : IsQuestion line name server) :
    parse line = isUser name server := by
  obtain ⟨rfl, hname, hserver⟩ := h
  exact parse_isUserLine hname hserver

theorem spells_parse (line : String) : Spells line (parse line) := by
  obtain ⟨operation, hstart⟩ := exists_startsWith line
  have hnoLogin : ∀ operation, parse line = invalid operation →
      ∀ name server password, ¬ IsLogin line name server password := by
    intro operation hparse name server password hlogin
    rw [parse_of_isLogin hlogin] at hparse
    cases hparse
  have hnoQuestion : ∀ operation, parse line = invalid operation →
      ∀ name server, ¬ IsQuestion line name server := by
    intro operation hparse name server hquestion
    rw [parse_of_isQuestion hquestion] at hparse
    cases hparse
  obtain ⟨rfl, hinvalid | ⟨name, server, password, hparse, hline⟩⟩ |
    ⟨rfl, hinvalid | ⟨name, server, hparse, hline⟩⟩ | ⟨hauth, hisUser, hparse⟩ :=
      parse_cases hstart
  · rw [hinvalid]
    exact .invalid hstart (.inl rfl) (hnoLogin _ hinvalid) (hnoQuestion _ hinvalid)
  · rw [hparse]
    exact .auth hline
  · rw [hinvalid]
    exact .invalid hstart (.inr rfl) (hnoLogin _ hinvalid) (hnoQuestion _ hinvalid)
  · rw [hparse]
    exact .isUser hline
  · rw [hparse]
    exact .unsupported hstart hauth hisUser

/-- The grammar gives a line no second command. -/
theorem parse_of_spells {c : Command} (h : Spells line c) : parse line = c := by
  cases h with
  | auth hline => exact parse_of_isLogin hline
  | isUser hline => exact parse_of_isQuestion hline
  | invalid hstart hserved hlogin hquestion =>
    obtain ⟨-, hinvalid | ⟨name, server, password, -, hline⟩⟩ |
      ⟨-, hinvalid | ⟨name, server, -, hline⟩⟩ | ⟨hauth, hisUser, -⟩ := parse_cases hstart
    · exact hinvalid
    · exact absurd hline (hlogin name server password)
    · exact hinvalid
    · exact absurd hline (hquestion name server)
    · exact absurd hserved (not_or.2 ⟨hauth, hisUser⟩)
  | unsupported hstart hauth hisUser =>
    obtain ⟨rfl, -⟩ | ⟨rfl, -⟩ | ⟨-, -, hparse⟩ := parse_cases hstart
    · exact absurd rfl hauth
    · exact absurd rfl hisUser
    · exact hparse

theorem parse_eq_iff {c : Command} : parse line = c ↔ Spells line c :=
  ⟨fun h => h ▸ spells_parse line, parse_of_spells⟩

theorem spells_auth_iff :
    Spells line (.auth name server password) ↔ IsLogin line name server password := by
  refine ⟨fun h => ?_, .auth⟩
  cases h with
  | auth hline => exact hline

theorem spells_isUser_iff :
    Spells line (.isUser name server) ↔ IsQuestion line name server := by
  refine ⟨fun h => ?_, .isUser⟩
  cases h with
  | isUser hline => exact hline

theorem spells_invalid_iff :
    Spells line (.invalid operation) ↔
      StartsWith line operation ∧ (operation = "auth" ∨ operation = "isuser") ∧
        (∀ name server password, ¬ IsLogin line name server password) ∧
        ∀ name server, ¬ IsQuestion line name server := by
  refine ⟨fun h => ?_, fun ⟨hstart, hserved, hlogin, hquestion⟩ =>
    .invalid hstart hserved hlogin hquestion⟩
  cases h with
  | invalid hstart hserved hlogin hquestion => exact ⟨hstart, hserved, hlogin, hquestion⟩

theorem spells_unsupported_iff :
    Spells line (.unsupported operation) ↔
      StartsWith line operation ∧ operation ≠ "auth" ∧ operation ≠ "isuser" := by
  refine ⟨fun h => ?_, fun ⟨hstart, hauth, hisUser⟩ => .unsupported hstart hauth hisUser⟩
  cases h with
  | unsupported hstart hauth hisUser => exact ⟨hstart, hauth, hisUser⟩

theorem line_of_spells {c : Command} {written : String} (h : Spells line c)
    (hwritten : c.line? = some written) : written = line := by
  cases h with
  | auth hline =>
    cases hwritten
    exact hline.1.symm
  | isUser hline =>
    cases hwritten
    exact hline.1.symm
  | invalid => cases hwritten
  | unsupported => cases hwritten

/-- Parsing accepts the lines of its grammar and no others, and loses nothing of a line that is a
login or a question for a user. -/
theorem parse_grammar (line : String) :
    (∀ name server password, parse line = .auth name server password ↔
      line = "auth:" ++ name ++ ":" ++ server ++ ":" ++ password ∧
        ':' ∉ name.toList ∧ ':' ∉ server.toList) ∧
    (∀ name server, parse line = .isUser name server ↔
      line = "isuser:" ++ name ++ ":" ++ server ∧ ':' ∉ name.toList ∧ ':' ∉ server.toList) ∧
    (∀ operation, parse line = .invalid operation ↔
      StartsWith line operation ∧ (operation = "auth" ∨ operation = "isuser") ∧
        (∀ name server password, ¬ IsLogin line name server password) ∧
        ∀ name server, ¬ IsQuestion line name server) ∧
    (∀ operation, parse line = .unsupported operation ↔
      StartsWith line operation ∧ operation ≠ "auth" ∧ operation ≠ "isuser") ∧
    (∀ written, (parse line).line? = some written → written = line) := by
  refine ⟨fun name server password => ?_, fun name server => ?_, fun operation => ?_,
    fun operation => ?_, fun written hwritten => ?_⟩
  · exact parse_eq_iff.trans spells_auth_iff
  · exact parse_eq_iff.trans spells_isUser_iff
  · exact parse_eq_iff.trans spells_invalid_iff
  · exact parse_eq_iff.trans spells_unsupported_iff
  · exact line_of_spells (spells_parse line) hwritten

end Command

end LedgerLogin.Bridge
