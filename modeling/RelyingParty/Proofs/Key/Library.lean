import RelyingParty.Key.Verify
import RelyingParty.Proofs.Checks

namespace RelyingParty

/-- What a library has for one kind of keys: what it reads as a key and as a signature, and what it accepts. -/
structure Scheme (Parts : Type) where
  Key : Type
  Signature : Type
  readKey : Parts → Except KeyFault Key
  readSignature? : Bytes → Option Signature
  accepts : Key → (message : Bytes) → Signature → Bool

/-- The key is read first. A signature that is not one is not accepted. -/
def Scheme.verify {Parts : Type} (scheme : Scheme Parts) (parts : Parts) (message signature : Bytes) :
    Except KeyError Bool :=
  match scheme.readKey parts with
  | .error fault => .error (.invalid fault)
  | .ok key =>
    match scheme.readSignature? signature with
    | none => .ok false
    | some signature => .ok (scheme.accepts key message signature)

/-- A library: the keys on a curve are read from uncompressed points, RSA keys from two numbers, and Ed25519
keys from 32 bytes. -/
structure Library where
  ec : EcCurve → Scheme Bytes
  rsa : Scheme (Nat × Nat)
  ed25519 : Scheme (FixedBytes 32)

def Library.standard : Library where
  ec curve := {
    Key := curve.equation.Point
    Signature := Ecdsa.Signature
    readKey := fun bs =>
      match (PublicKey.coordinates? curve.width bs).bind fun p => curve.equation.point? p.1.toNat p.2.toNat with
      | some point => .ok point
      | none => .error (.notOnCurve curve)
    readSignature? := Ecdsa.Signature.decode?
    accepts := fun point message signature =>
      Ecdsa.accepts curve.equation point ((Verifier.hash curve).digest message) signature }
  rsa := {
    Key := Rsa.Key
    Signature := Bytes
    readKey := fun numbers => (Rsa.Key.ofNumbers numbers.1 numbers.2).mapError .rsa
    readSignature? := some
    accepts := fun key message signature => Rsa.verify key .sha256 message signature }
  ed25519 := {
    Key := Ed25519.Key
    Signature := FixedBytes 64
    readKey := fun x =>
      match Ed25519.Key.ofBytes? x.bytes with
      | some key => .ok key
      | none => .error .notEdwardsPoint
    readSignature? := FixedBytes.ofBytes? 64
    accepts := fun key message signature => Ed25519.verify key message signature.bytes }

namespace PublicKey

/-- Whether `signature` is one of `message` under a key, with the schemes of a library. -/
def verifyWith (library : Library) (key : PublicKey) (message signature : Bytes) : Except KeyError Bool :=
  match key with
  | ec2 _ curve x y => (library.ec curve).verify (uncompressed x y) message signature
  | rsa _ modulus exponent => library.rsa.verify (modulus.toNat, exponent.toNat) message signature
  | okp _ x =>
    match FixedBytes.ofBytes? 32 x with
    | none => .error (.invalid .edwardsWidth)
    | some x => library.ed25519.verify x message signature

end PublicKey

/-- The answer is that of the key: one error for every message and every signature, or none for any of
them. -/
def SettledByKey (answer : (message signature : Bytes) → Except KeyError Bool) : Prop :=
  (∃ e, ∀ message signature, answer message signature = .error e) ∨
    ∀ message signature, ∃ accepted, answer message signature = .ok accepted

theorem SettledByKey.error {answer : (message signature : Bytes) → Except KeyError Bool} (h : SettledByKey answer)
    {message signature : Bytes} {e : KeyError} (herror : answer message signature = .error e)
    (message' signature' : Bytes) : answer message' signature' = .error e := by
  obtain ⟨e', hall⟩ | hall := h
  · cases herror.symm.trans (hall message signature)
    exact hall message' signature'
  · obtain ⟨accepted, haccepted⟩ := hall message signature
    cases herror.symm.trans haccepted

theorem Scheme.settledByKey {Parts : Type} (scheme : Scheme Parts) (parts : Parts) :
    SettledByKey (scheme.verify parts) := by
  cases hkey : scheme.readKey parts with
  | error fault =>
    left
    exact ⟨.invalid fault, fun message signature => by rw [verify, hkey]⟩
  | ok key =>
    right
    intro message signature
    rw [verify, hkey]
    cases scheme.readSignature? signature with
    | none => exact ⟨_, rfl⟩
    | some signature => exact ⟨_, rfl⟩

namespace Ed25519

theorem verify_of_length_ne {key : Key} {message signature : Bytes} (h : signature.length ≠ 64) :
    verify key message signature = false := by
  unfold verify
  split
  next => rfl
  next point number hsplit =>
    obtain ⟨rfl, hpoint⟩ := Bytes.split?_eq_some.mp hsplit
    rw [List.length_append, hpoint] at h
    have hnumber : ¬ (number.length = 32 ∧ littleEndian number < Curve.Edwards.order) := by omega
    exact if_neg hnumber

end Ed25519

namespace PublicKey

variable {library : Library} {key : PublicKey}

theorem settledByKey (library : Library) (key : PublicKey) : SettledByKey (key.verifyWith library) := by
  cases key with
  | ec2 _ curve x y => exact (library.ec curve).settledByKey (uncompressed x y)
  | rsa _ modulus exponent => exact library.rsa.settledByKey (modulus.toNat, exponent.toNat)
  | okp algorithm x =>
    cases hx : FixedBytes.ofBytes? 32 x with
    | none =>
      left
      exact ⟨.invalid .edwardsWidth, fun message signature => by simp only [verifyWith, hx]⟩
    | some bytes =>
      have hverify : (okp algorithm x).verifyWith library = library.ed25519.verify bytes := by
        funext message signature
        simp only [verifyWith, hx]
      rw [hverify]
      exact library.ed25519.settledByKey bytes

theorem verifyWith_standard : verifyWith .standard = verify := by
  funext key message signature
  cases key with
  | ec2 _ curve x y =>
    have hpoint : point? curve x y = (coordinates? curve.width (uncompressed x y)).bind fun p =>
      curve.equation.point? p.1.toNat p.2.toNat := rfl
    simp only [verifyWith, Scheme.verify, Library.standard, verify, verifier, ← hpoint]
    cases point? curve x y with
    | none => rfl
    | some point =>
      simp only [ok_bind, Verifier.accepts, Ecdsa.verify]
      cases Ecdsa.Signature.decode? signature with
      | none => rfl
      | some signature => rfl
  | rsa _ modulus exponent =>
    simp only [verifyWith, Scheme.verify, Library.standard, verify, verifier]
    cases Rsa.Key.ofNumbers modulus.toNat exponent.toNat with
    | error fault => rfl
    | ok key => rfl
  | okp _ x =>
    by_cases hx : x.length = 32
    · have hbytes : FixedBytes.ofBytes? 32 x = some ⟨x, hx⟩ := dif_pos hx
      simp only [verifyWith, hbytes, Scheme.verify, Library.standard, verify, verifier, if_neg (not_not.mpr hx)]
      cases Ed25519.Key.ofBytes? x with
      | none => rfl
      | some key =>
        simp only [ok_bind, Verifier.accepts]
        by_cases hsignature : signature.length = 64
        · rw [show FixedBytes.ofBytes? 64 signature = some ⟨signature, hsignature⟩ from dif_pos hsignature]
        · rw [show FixedBytes.ofBytes? 64 signature = none from dif_neg hsignature,
            Ed25519.verify_of_length_ne hsignature]
    · have hbytes : FixedBytes.ofBytes? 32 x = none := dif_neg hx
      simp only [verifyWith, hbytes, verify, verifier, if_pos hx]
      rfl

end PublicKey

end RelyingParty
