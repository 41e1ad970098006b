import LedgerLogin.Proofs.Commitment.Binding
import LedgerLogin.Proofs.LoginData.RoundTrip
import LedgerLogin.Proofs.Signature.Recovery
import LedgerLogin.Resolver
import LedgerLogin.SignedPassword

/-!
# The signer of a password

Signing a password is putting a signature beside data that the signed digest does not depend on
(`signer_data`). So whoever has a signature of the digest has a password, and every key has one for
every name and application (`exists_password`).
-/

namespace LedgerLogin.SignedPassword

def data (expiry : Option Int64) (extra : List (String × String)) (signature : Bytes) :
    LoginData where
  protocol := some .delegation
  expiry := expiry
  extra := StringMap.ofList extra
  signature := signature

def digest (domain : SigningDomain) (name app : String) (expiry : Option Int64)
    (extra : List (String × String)) : Word :=
  (Commitment.ofCredentials domain (unsigned name app expiry extra)).digest

variable {key : SecretKey} {domain : SigningDomain} {name app : String} {expiry : Option Int64}
  {extra : List (String × String)}

theorem build?_eq_toPassword : build? key domain name app expiry extra =
    (key.sign? (digest domain name app expiry extra)).map fun signature =>
      (data expiry extra signature).toPassword :=
  Option.map_map _ _ _

/-- The signer is recovered from the digest that was signed, because the commitment does not cover
the signature. -/
theorem signer_data {signature : Bytes} :
    Resolver.signer domain ⟨name, app, data expiry extra signature⟩ =
    Signature.recover (digest domain name app expiry extra) signature := by
  have hcontent : Commitment.SameContent ⟨name, app, data expiry extra signature⟩
      (unsigned name app expiry extra) := ⟨rfl, rfl, rfl, rfl⟩
  have hdigest := Commitment.digest_eq_of_sameContent (rfl : domain = domain) hcontent
  unfold Resolver.signer
  rw [hdigest]
  rfl

theorem length_fields_data {signature : Bytes} (h : signature.length = 65) :
    (data none [] signature).fields.flatten.length < 2 ^ 64 := by
  have hne : signature.isEmpty = false := by
    cases signature with
    | nil => cases h
    | cons b bs => rfl
  have hfields : (data none [] signature).fields =
      [Wire.delimitedField 1 signature, Wire.varintField 4 2] := by
    unfold LoginData.fields
    simp only [data, hne]
    rfl
  have hshort : (Wire.key 1 .delimited).length + (Varint.write 65).length +
      (Wire.varintField 4 2).length ≤ 10 := by
    decide +kernel
  rw [hfields]
  simp only [Wire.delimitedField, List.flatten_cons, List.flatten_nil, List.length_append, h,
    List.length_nil]
  omega

/-- Every key has a password for every name and application. -/
theorem exists_password (key : SecretKey) (domain : SigningDomain) (name app : String) :
    ∃ password signature, LoginData.ofPassword password = .ok (data none [] signature) ∧
      Resolver.signer domain ⟨name, app, data none [] signature⟩ = .ok key.address := by
  obtain ⟨signature, hsigner⟩ := key.exists_recover (digest domain name app none [])
  have hlength := length_fields_data (Signature.length_of_recover hsigner)
  refine ⟨Base64.encode (data none [] signature).fields.flatten, signature, ?_, ?_⟩
  · apply LoginData.ofPassword_encode _ hlength
    intro e he
    cases he
  · exact signer_data.trans hsigner

theorem exists_lasting_password (key : SecretKey) (domain : SigningDomain) (name app : String) :
    ∃ password data, LoginData.ofPassword password = .ok data ∧
      data.protocol = some .delegation ∧ data.expiry = none ∧
      Resolver.signer domain ⟨name, app, data⟩ = .ok key.address := by
  obtain ⟨password, signature, hpassword, hsigner⟩ := exists_password key domain name app
  exact ⟨password, _, hpassword, rfl, rfl, hsigner⟩

end LedgerLogin.SignedPassword
