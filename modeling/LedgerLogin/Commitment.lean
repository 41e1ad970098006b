import LedgerLogin.Credentials
import LedgerLogin.Signature

/-!
# Commitments to credentials

What a login signature signs: a pair of hashes (EIP-712), the header of the signing domain only and
the body of the content of the credentials only, under a version byte. The content is the name, the
application, the expiry (minus one if there is none) and the extra data in ascending order of the
key; the protocol and the signature are not part of it.
-/

namespace LedgerLogin

/-- What a signature is bound to beside the credentials: a ledger and a contract on it. -/
structure SigningDomain where
  chainId : UInt64
  contract : Address
  deriving DecidableEq, Repr

/-- The two hashes that are signed, and the version of their form. -/
structure Commitment where
  version : UInt8
  header : Word
  body : Word
  deriving DecidableEq, Repr

namespace Commitment

/-- The bytes whose hash is signed. -/
def preimage (m : Commitment) : Bytes := 0x19 :: m.version :: m.header.toList ++ m.body.toList

def digest (m : Commitment) : Word := keccak256 m.preimage

def hashText (s : String) : Bytes := (keccak256 (utf8 s)).toList

def domainType : String :=
  "EIP712Domain(string name,string version,uint256 chainId,address verifyingContract)"

def extraType : String := "ExtraData(string key,string value)"

def challengeType : String :=
  "XidAuthChallenge(string name,string application,int64 expiry,ExtraData[] extra)" ++ extraType

/-- The name that every header commits to. -/
def domainName : String := "xidauth delegation-contract"

def domainVersion : String := "1"

def addressWord (a : Address) : Bytes := List.replicate 12 0 ++ a.bytes.toList

def uintWord (n : UInt64) : Bytes := bigEndian 32 n.toNat

/-- A signed number as a word, in two's complement: the sign fills the bytes in front. -/
def intWord (i : Int64) : Bytes :=
  List.replicate 24 (if i < 0 then 0xff else 0) ++ bigEndian 8 i.toUInt64.toNat

def headerPreimage (d : SigningDomain) : Bytes :=
  hashText domainType ++ hashText domainName ++ hashText domainVersion ++ uintWord d.chainId
    ++ addressWord d.contract

/-- The bytes whose hash stands for an entry of the extra data. -/
def entryPreimage (e : String × String) : Bytes :=
  hashText extraType ++ hashText e.1 ++ hashText e.2

/-- The hashes of the entries of the extra data one after the other. -/
def extraPreimage (extra : StringMap String) : Bytes :=
  extra.entries.flatMap fun e => (keccak256 (entryPreimage e)).toList

/-- The expiry that is committed to. -/
def committedExpiry (expiry : Option Int64) : Int64 := expiry.getD (-1)

def bodyPreimage (c : Credentials) : Bytes :=
  hashText challengeType ++ hashText c.name ++ hashText c.app
    ++ intWord (committedExpiry c.expiry) ++ (keccak256 (extraPreimage c.extra)).toList

def ofCredentials (d : SigningDomain) (c : Credentials) : Commitment where
  version := 1
  header := keccak256 (headerPreimage d)
  body := keccak256 (bodyPreimage c)

end Commitment

end LedgerLogin
