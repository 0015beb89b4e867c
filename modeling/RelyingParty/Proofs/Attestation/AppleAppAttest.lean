import RelyingParty.Proofs.Attestation.Statement
import RelyingParty.Proofs.Cbor.Entries
import RelyingParty.Proofs.Certificate.Contents
import RelyingParty.Proofs.Key.Made

namespace RelyingParty

theorem Certificate.checkTime_bind_eq_ok {α : Type} {time : Timestamp} {a : α}
    {next : Timestamp → Except ChainFault α} : (checkTime time >>= next) = .ok a ↔
      0 ≤ time ∧ time ≤ Calendar.lastTimestamp ∧ next time = .ok a := by
  unfold checkTime
  rw [refuse_eq_ensure (q := 0 ≤ time) (by simp),
    refuse_eq_ensure (q := time ≤ Calendar.lastTimestamp) (by simp)]
  simp only [bind_assoc, ensure_bind_eq_ok, ok_bind]

namespace Attestation.AppleAppAttest

variable {settings : RegistrationSettings} {s : Statement} {contribution : Contribution}
  {leaf : Certificate} {others : List Certificate} {receipt : Bytes}

def Hold (items : List Cbor.Item) (certificates : List Certificate) : Prop :=
  List.Forall₂ (fun item c => ∃ der, item = .bytes der ∧ Certificate.ofBytes? der = some c)
    items certificates

/-- A statement whose certificates are `leaf` and `others`, all of whose parts are bound to each other
and to the settings. -/
structure Bound (settings : RegistrationSettings) (s : Statement) (leaf : Certificate)
    (others : List Certificate) (receipt : Bytes) : Prop where
  fresh : s.signCounter = 0
  environment : s.attested.aaguid = settings.environment.aaguid
  certificates : ∃ items, s.entries.Names "x5c" (.array items) ∧ Hold items (leaf :: others)
  receipt : s.entries.Names "receipt" (.bytes receipt)
  afterEpoch : 0 ≤ settings.time
  representable : settings.time ≤ Calendar.lastTimestamp
  chain : ∃ root, root? = some root ∧
    Certificate.checkChain settings.time root 0 (leaf :: others) = .ok ()
  nonce : ∃ extension, IsFirst (·.id.arcs = nonceExtension) extension leaf.extensions ∧
    Der.unwrapOctets? extension.value = some (sha256 (s.rawAuthData ++ s.clientDataHash.bytes)).bytes
  pointLength : leaf.subjectKey.bytes.length = 65
  pointMark : leaf.subjectKey.bytes.head? = some 0x04
  keyId : (sha256 leaf.subjectKey.bytes).bytes = s.attested.credentialId

theorem mapM_certificate_eq_ok {items : List Cbor.Item} {certificates : List Certificate} :
    items.mapM certificate = .ok certificates ↔ Hold items certificates := by
  simp only [mapM_eq_ok, certificate_eq_ok, Cbor.Item.bytes?_eq_some, Hold]

theorem checkChain_eq_ok {time : Timestamp} {certificates : List Certificate} :
    checkChain time certificates = .ok () ↔ 0 ≤ time ∧ time ≤ Calendar.lastTimestamp ∧
      ∃ root, root? = some root ∧ Certificate.checkChain time root 0 certificates = .ok () := by
  -- opened as a function, so that the root stays a name and is not computed when the proof is checked
  have hopen : checkChain = checkChain := rfl
  conv at hopen => rhs; delta checkChain
  rw [hopen]
  generalize root? = found
  cases found with
  | none => simp
  | some root => simp [Certificate.checkTime_bind_eq_ok]

theorem checkNonce_eq_ok {nonce : Bytes} : checkNonce nonce leaf = .ok () ↔
    ∃ extension, IsFirst (·.id.arcs = nonceExtension) extension leaf.extensions ∧
      Der.unwrapOctets? extension.value = some nonce := by
  simp only [← Certificate.extension?_eq_some]
  unfold checkNonce
  cases leaf.extension? nonceExtension with
  | none => simp
  | some extension => cases h : Der.unwrapOctets? extension.value <;> simp [h]

theorem check_eq_ok_iff_bound : check settings s = .ok contribution ↔
    ∃ leaf others receipt, Bound settings s leaf others receipt ∧
      contribution = ⟨some leaf.subjectKey.bytes, some receipt⟩ := by
  simp only [check_eq_ok, Cbor.Entries.getText?_bind_array?, Cbor.Entries.getText?_bind_bytes?,
    mapM_certificate_eq_ok, checkChain_eq_ok, checkNonce_eq_ok, checkKey_eq_ok,
    PublicKey.exists_ofRawPoint_eq_ok]
  constructor
  · rintro ⟨hfresh, henvironment, items, receipt, leaf, others, hitems, hreceipt, hcertificates,
      ⟨hafter, hbefore, hchain⟩, hnonce, ⟨_, ⟨hlength, hmark⟩, hid⟩, hcontribution⟩
    exact ⟨leaf, others, receipt, ⟨hfresh, henvironment, ⟨items, hitems, hcertificates⟩, hreceipt, hafter,
      hbefore, hchain, hnonce, hlength, hmark, hid⟩, hcontribution⟩
  · rintro ⟨leaf, others, receipt, h, hcontribution⟩
    obtain ⟨items, hitems, hcertificates⟩ := h.certificates
    exact ⟨h.fresh, h.environment, items, receipt, leaf, others, hitems, h.receipt, hcertificates,
      ⟨h.afterEpoch, h.representable, h.chain⟩, h.nonce, ⟨trivial, ⟨h.pointLength, h.pointMark⟩, h.keyId⟩,
      hcontribution⟩

/-- A statement is accepted exactly if its parts are bound to each other. It contributes the key of its
first certificate, whose form is all that is asked of a point, and its receipt. -/
theorem accepts_exactly_bound (settings : RegistrationSettings) (s : Statement) :
    (∀ contribution, check settings s = .ok contribution ↔ ∃ leaf others receipt,
      Bound settings s leaf others receipt ∧
        contribution = ⟨some leaf.subjectKey.bytes, some receipt⟩) ∧
    ∀ point, (∃ key, PublicKey.ofRawPoint point = .ok key) ↔
      point.length = 65 ∧ point.head? = some 0x04 :=
  ⟨fun _ => check_eq_ok_iff_bound, fun _ => PublicKey.exists_ofRawPoint_eq_ok⟩

end Attestation.AppleAppAttest

end RelyingParty
