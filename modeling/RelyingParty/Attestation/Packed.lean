import RelyingParty.Attestation.Statement
import RelyingParty.Certificate.Basic
import RelyingParty.Key.Certified
import RelyingParty.Key.Cose
import RelyingParty.Key.Verify

namespace RelyingParty.Attestation.Packed

def aaguidExtension : List Nat := [1, 3, 6, 1, 4, 1, 45724, 1, 1, 4]

def checkSignature (check : PublicKey.Check) (s : Statement) (key : PublicKey) (signature : Bytes) :
    Except VerificationError Unit := do
  let isSigned ← (check key s.signedData signature).mapError .key
  if isSigned then .ok () else .error .attestationSignatureInvalid

def checkModel (s : Statement) (c : Certificate) : Except VerificationError Unit :=
  match c.extension? aaguidExtension with
  | none => .ok ()
  | some extension =>
    match Der.unwrapOctets? extension.value with
    | none => .error (.malformedCertificate .aaguidNotOctets)
    | some aaguid => if aaguid = s.attested.aaguid.bytes then .ok () else .error .aaguidMismatch

def checkCertificate (s : Statement) (c : Certificate) : Except VerificationError Unit := do
  if c.version ≠ Certificate.version3 then .error (.certificateInvalid .notVersion3)
  else if !c.subject.hasText Certificate.countryType then .error (.certificateInvalid .noCountry)
  else if !c.subject.hasText Certificate.organizationType then
    .error (.certificateInvalid .noOrganization)
  else
    checkModel s c
    match c.isAuthority? with
    | none => .error (.malformedCertificate .notCertificate)
    | some true => .error (.certificateInvalid .isAuthority)
    | some false => .ok ()

def checkBasic (check : PublicKey.Check) (s : Statement) (id : Int) (signature leaf : Bytes) :
    Except VerificationError Unit := do
  let algorithm ← (Cose.algorithmOf id).mapError .key
  match Certificate.ofBytes? leaf with
  | none => .error (.malformedCertificate .notCertificate)
  | some c =>
    let key ← (PublicKey.ofSubjectKey algorithm c.subjectKey).mapError (.certificateInvalid ∘ .key)
    checkSignature check s key signature
    checkCertificate s c

def checkSelf (check : PublicKey.Check) (s : Statement) (id : Int) (signature : Bytes) :
    Except VerificationError Unit := do
  let key ← (PublicKey.ofCose s.attested.publicKey).mapError .key
  if key.algorithm.id ≠ id then .error (.algorithmMismatch id key.algorithm.id)
  else checkSignature check s key signature

def leaf (certificates : Cbor.Item) : Except VerificationError Bytes :=
  match certificates.array? with
  | none => .error (.malformedCertificate .listNotArray)
  | some items =>
    match items.head?.bind Cbor.Item.bytes? with
    | some bs => .ok bs
    | none => .error (.malformedCertificate .noLeaf)

def checkUsing (check : PublicKey.Check) (s : Statement) : Except VerificationError Contribution := do
  let id ← s.entries.member Cbor.Item.int? "alg"
  let signature ← s.entries.member Cbor.Item.bytes? "sig"
  match s.entries.getText? "x5c" with
  | some certificates =>
    let bs ← leaf certificates
    checkBasic check s id signature bs
  | none =>
    if (s.entries.getText? "ecdaaKeyId").isSome then .error (.notImplemented "ECDAA attestation")
    else checkSelf check s id signature
  .ok {}

def check (s : Statement) : Except VerificationError Contribution := checkUsing PublicKey.verify s

end RelyingParty.Attestation.Packed
