import RelyingParty.VerificationError

namespace RelyingParty

structure Flags where
  bits : UInt8
  deriving DecidableEq

namespace Flags

def has (flags : Flags) (bit : UInt8) : Bool := flags.bits &&& bit ≠ 0

def userPresent (flags : Flags) : Bool := flags.has 0x01
def userVerified (flags : Flags) : Bool := flags.has 0x04
def backupEligible (flags : Flags) : Bool := flags.has 0x08
def backedUp (flags : Flags) : Bool := flags.has 0x10
def attestedData (flags : Flags) : Bool := flags.has 0x40
def extensionData (flags : Flags) : Bool := flags.has 0x80

end Flags

/-- What an authenticator states of a credential: its own model, the credential's identifier and
the public key as CBOR. -/
structure AttestedCredential where
  aaguid : FixedBytes 16
  credentialId : Bytes
  publicKey : Bytes
  deriving DecidableEq

structure AuthenticatorData where
  rpIdHash : FixedBytes 32
  flags : Flags
  signCounter : UInt32
  attested : Option AttestedCredential
  extensions : Option Bytes
  deriving DecidableEq

namespace AttestedCredential

def maxIdLength : Nat := 1023

/-- Attested credential data takes more bytes than its model and the length of its identifier. -/
def minLength : Nat := 18

/-- The attested credential data at the front of a byte string; the key ends where its CBOR item
does. -/
def read (bs : Bytes) : Except VerificationError (AttestedCredential × Bytes) :=
  match FixedBytes.split? 16 bs with
  | none => .error .tooShort
  | some (aaguid, rest) =>
    match Bytes.split? 2 rest with
    | none => .error .tooShort
    | some (length, rest) =>
      if maxIdLength < Bytes.toNat length then .error (.credentialIdTooLong (Bytes.toNat length))
      else
        match Bytes.split? (Bytes.toNat length) rest with
        | none => .error .tooShort
        | some (_, []) => .error .tooShort
        | some (credentialId, rest) =>
          match Cbor.decodeFirst rest with
          | .error cause => .error (.malformedCbor cause)
          | .ok (_, n) => .ok (⟨aaguid, credentialId, rest.take n⟩, rest.drop n)

def toBytes (attested : AttestedCredential) : Except VerificationError Bytes :=
  if maxIdLength < attested.credentialId.length then
    .error (.credentialIdTooLong attested.credentialId.length)
  else
    .ok (attested.aaguid.bytes ++ Bytes.ofNat 2 attested.credentialId.length
      ++ attested.credentialId ++ attested.publicKey)

end AttestedCredential

namespace AuthenticatorData

/-- The attested credential data that a flag announces. If it may be missing, the flag may stand
before too few bytes for it. -/
def readAttested (flags : Flags) (mayBeMissing : Bool) (bs : Bytes) :
    Except VerificationError (Option AttestedCredential × Bytes) :=
  if flags.attestedData then
    if AttestedCredential.minLength < bs.length then do
      let (attested, rest) ← AttestedCredential.read bs
      .ok (some attested, rest)
    else if mayBeMissing then .ok (none, bs)
    else .error .attestedDataMissing
  else .ok (none, bs)

def readExtensions (flags : Flags) (bs : Bytes) : Except VerificationError (Option Bytes) :=
  if flags.extensionData then
    if bs.isEmpty then .error .extensionDataMissing else .ok (some bs)
  else if bs.isEmpty then .ok none
  else .error .unexpectedTrailingBytes

def parse (bs : Bytes) (mayBeMissing : Bool) : Except VerificationError AuthenticatorData :=
  match FixedBytes.split? 32 bs with
  | some (rpIdHash, bits :: a :: b :: c :: d :: rest) => do
    let flags : Flags := ⟨bits⟩
    let (attested, rest) ← readAttested flags mayBeMissing rest
    let extensions ← readExtensions flags rest
    .ok ⟨rpIdHash, flags, UInt32.ofNat (Bytes.toNat [a, b, c, d]), attested, extensions⟩
  | _ => .error .tooShort

def toBytes (data : AuthenticatorData) : Except VerificationError Bytes := do
  let attested ←
    match data.attested with
    | some attested => attested.toBytes
    | none => .ok []
  .ok (data.rpIdHash.bytes ++ data.flags.bits :: Bytes.ofNat 4 data.signCounter.toNat
    ++ attested ++ data.extensions.getD [])

end AuthenticatorData

end RelyingParty
