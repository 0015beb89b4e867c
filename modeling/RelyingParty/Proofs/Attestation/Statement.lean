import RelyingParty.Proofs.Attestation.Object
import RelyingParty.Registration

namespace RelyingParty.Attestation

variable {settings : RegistrationSettings} {format : AttestationFormat} {s : Statement}
  {contribution : Contribution}

theorem checkNone_eq_ok :
    checkNone s = .ok contribution ↔ s.entries = [] ∧ contribution = {} := by
  unfold checkNone
  by_cases hempty : s.entries = []
  · simp [hempty, eq_comm]
  · simp [hempty]

namespace Packed

theorem check_eq_ok : check s = .ok contribution ↔ ∃ id signature,
    (s.entries.getText? "alg").bind Cbor.Item.int? = some id ∧
    (s.entries.getText? "sig").bind Cbor.Item.bytes? = some signature ∧
    (match s.entries.getText? "x5c" with
      | some certificates => ∃ der, leaf certificates = .ok der ∧
          checkBasic PublicKey.verify s id signature der = .ok ()
      | none => s.entries.getText? "ecdaaKeyId" = none ∧ checkSelf PublicKey.verify s id signature = .ok ()) ∧
    contribution = {} := by
  unfold check checkUsing
  simp only [bind_eq_ok, Cbor.Entries.member_eq_ok]
  constructor
  · rintro ⟨id, hid, signature, hsignature, h⟩
    refine ⟨id, signature, hid, hsignature, ?_⟩
    cases hchain : s.entries.getText? "x5c" with
    | some certificates =>
      rw [hchain] at h
      obtain ⟨der, hder, h⟩ := bind_eq_ok.mp h
      obtain ⟨_, hbasic, h⟩ := bind_eq_ok.mp h
      exact ⟨⟨der, hder, hbasic⟩, (Except.ok.inj h).symm⟩
    | none =>
      rw [hchain] at h
      cases hecdaa : s.entries.getText? "ecdaaKeyId" with
      | some item =>
        rw [hecdaa] at h
        cases h
      | none =>
        rw [hecdaa] at h
        obtain ⟨_, hself, h⟩ := bind_eq_ok.mp h
        exact ⟨⟨rfl, hself⟩, (Except.ok.inj h).symm⟩
  · rintro ⟨id, signature, hid, hsignature, h, rfl⟩
    refine ⟨id, hid, signature, hsignature, ?_⟩
    cases hchain : s.entries.getText? "x5c" with
    | some certificates =>
      rw [hchain] at h
      obtain ⟨der, hder, hbasic⟩ := h
      simp only [hder, hbasic, ok_bind]
    | none =>
      rw [hchain] at h
      obtain ⟨hecdaa, hself⟩ := h
      simp [hecdaa, hself, ok_bind]

/-- Without certificates the credential's own key was read. -/
theorem key_of_check (h : check s = .ok contribution) (hchain : s.entries.getText? "x5c" = none) :
    ∃ key, PublicKey.ofCose s.attested.publicKey = .ok key := by
  obtain ⟨id, signature, _, _, hself, _⟩ := check_eq_ok.mp h
  rw [hchain] at hself
  obtain ⟨key, hkey, _⟩ := bind_eq_ok.mp hself.2
  exact ⟨key, mapError_eq_ok.mp hkey⟩

end Packed

namespace AppleAppAttest

theorem certificate_eq_ok {item : Cbor.Item} {c : Certificate} :
    certificate item = .ok c ↔ ∃ der, item.bytes? = some der ∧ Certificate.ofBytes? der = some c := by
  unfold certificate
  cases item.bytes? with
  | none => simp
  | some der => cases hder : Certificate.ofBytes? der <;> simp [hder]

theorem checkKey_eq_ok {credentialId point : Bytes} {c : Certificate} :
    checkKey credentialId c = .ok point ↔ point = c.subjectKey.bytes ∧
      (∃ key, PublicKey.ofRawPoint point = .ok key) ∧ (sha256 point).bytes = credentialId := by
  unfold checkKey
  constructor
  · intro h
    obtain ⟨key, hkey, h⟩ := bind_eq_ok.mp h
    split at h
    next hid =>
      obtain rfl := Except.ok.inj h
      exact ⟨rfl, ⟨key, mapError_eq_ok.mp hkey⟩, hid⟩
    next => cases h
  · rintro ⟨rfl, ⟨key, hkey⟩, hid⟩
    exact bind_eq_ok.mpr ⟨key, mapError_eq_ok.mpr hkey, if_pos hid⟩

theorem check_eq_ok : check settings s = .ok contribution ↔
    s.signCounter = 0 ∧ s.attested.aaguid = settings.environment.aaguid ∧
    ∃ items receipt leaf others,
      (s.entries.getText? "x5c").bind Cbor.Item.array? = some items ∧
      (s.entries.getText? "receipt").bind Cbor.Item.bytes? = some receipt ∧
      items.mapM certificate = .ok (leaf :: others) ∧
      checkChain settings.time (leaf :: others) = .ok () ∧
      checkNonce (sha256 s.signedData).bytes leaf = .ok () ∧
      checkKey s.attested.credentialId leaf = .ok leaf.subjectKey.bytes ∧
      contribution = ⟨some leaf.subjectKey.bytes, some receipt⟩ := by
  unfold check
  rw [refuse_eq_ensure (q := s.signCounter = 0) (by simp),
    refuse_eq_ensure (q := s.attested.aaguid = settings.environment.aaguid) (by simp),
    ensure_bind_eq_ok, ensure_bind_eq_ok]
  simp only [bind_eq_ok, Cbor.Entries.member_eq_ok]
  refine and_congr_right fun _ => and_congr_right fun _ => ?_
  constructor
  · rintro ⟨items, hitems, receipt, hreceipt, certificates, hcertificates, h⟩
    cases certificates with
    | nil => cases h
    | cons leaf others =>
      obtain ⟨_, hchain, h⟩ := bind_eq_ok.mp h
      obtain ⟨_, hnonce, h⟩ := bind_eq_ok.mp h
      obtain ⟨point, hkey, h⟩ := bind_eq_ok.mp h
      obtain ⟨rfl, _⟩ := checkKey_eq_ok.mp hkey
      exact ⟨items, receipt, leaf, others, hitems, hreceipt, hcertificates, mapError_eq_ok.mp hchain,
        hnonce, hkey, (Except.ok.inj h).symm⟩
  · rintro ⟨items, receipt, leaf, others, hitems, hreceipt, hcertificates, hchain, hnonce, hkey, rfl⟩
    refine ⟨items, hitems, receipt, hreceipt, leaf :: others, hcertificates, ?_⟩
    simp only [mapError_eq_ok.mpr hchain, hnonce, hkey, ok_bind]

theorem head_of_mapM {items : List Cbor.Item} {leaf : Certificate} {others : List Certificate}
    (h : items.mapM certificate = .ok (leaf :: others)) :
    ∃ first, items.head? = some first ∧ certificate first = .ok leaf := by
  cases mapM_eq_ok.mp h with
  | cons hfirst _ => exact ⟨_, rfl, hfirst⟩

end AppleAppAttest

def Statement.leaf? (s : Statement) : Option Certificate :=
  (((s.entries.getText? "x5c").bind Cbor.Item.array?).bind List.head?).bind fun item =>
    item.bytes?.bind Certificate.ofBytes?

def Statement.receipt? (s : Statement) : Option Bytes :=
  (s.entries.getText? "receipt").bind Cbor.Item.bytes?

/-- Apps have the key of their certificate and a receipt, and all others the key that they state. -/
def Stores (format : AttestationFormat) (s : Statement) (publicKey : Bytes) (receipt : Option Bytes) :
    Prop :=
  match format with
  | .appleAppAttest => ∃ leaf bs, s.leaf? = some leaf ∧ s.receipt? = some bs ∧
      publicKey = leaf.subjectKey.bytes ∧ receipt = some bs
  | .none | .packed => publicKey = s.attested.publicKey ∧ receipt = none

theorem AppleAppAttest.contribution_of_check (h : check settings s = .ok contribution) :
    ∃ leaf bs, s.leaf? = some leaf ∧ s.receipt? = some bs ∧
      (∃ key, PublicKey.ofRawPoint leaf.subjectKey.bytes = .ok key) ∧
      contribution = ⟨some leaf.subjectKey.bytes, some bs⟩ := by
  obtain ⟨_, _, items, bs, leaf, others, hitems, hreceipt, hcertificates, _, _, hkey, hcontribution⟩ :=
    check_eq_ok.mp h
  obtain ⟨first, hhead, hfirst⟩ := head_of_mapM hcertificates
  obtain ⟨der, hder, hleaf⟩ := certificate_eq_ok.mp hfirst
  obtain ⟨_, hpoint, _⟩ := checkKey_eq_ok.mp hkey
  have hfirst : s.leaf? = some leaf := by
    simp only [Statement.leaf?, hitems, hhead, hder, hleaf, Option.bind_some]
  exact ⟨leaf, bs, hfirst, hreceipt, hpoint, hcontribution⟩

theorem stores_iff (h : checkStatement settings format s = .ok contribution) {publicKey : Bytes}
    {receipt : Option Bytes} : Stores format s publicKey receipt ↔
      publicKey = contribution.publicKey.getD s.attested.publicKey ∧ receipt = contribution.receipt := by
  cases format with
  | none =>
    obtain ⟨_, rfl⟩ := checkNone_eq_ok.mp h
    rfl
  | packed =>
    obtain ⟨_, _, _, _, _, rfl⟩ := Packed.check_eq_ok.mp h
    rfl
  | appleAppAttest =>
    obtain ⟨leaf, bs, hleaf, hreceipt, _, rfl⟩ := AppleAppAttest.contribution_of_check h
    simp [Stores, hleaf, hreceipt]

end RelyingParty.Attestation
