import RelyingParty.Proofs.Attestation.Statement
import RelyingParty.Proofs.Cbor.Entries
import RelyingParty.Proofs.Certificate.Contents
import RelyingParty.Proofs.Key.Parameters

namespace RelyingParty.Attestation.Packed

variable {s : Statement} {id : Int} {signature : Bytes} {contribution : Contribution} {c : Certificate}

structure Qualified (s : Statement) (c : Certificate) : Prop where
  version : c.version = Certificate.version3
  country : c.subject.Tells Certificate.countryType
  organization : c.subject.Tells Certificate.organizationType
  model : ∀ extension, IsFirst (·.id.arcs = aaguidExtension) extension c.extensions →
    Der.unwrapOctets? extension.value = some s.attested.aaguid.bytes

structure Signs (s : Statement) (id : Int) (signature : Bytes) : Prop where
  algorithm : s.entries.Names "alg" (.ofInt id)
  word : Cbor.Item.InWord id
  signature : s.entries.Names "sig" (.bytes signature)

/-- The key of the first certificate has made the signature, and the certificate is of the right kind and
one of those that are admitted. -/
def ByCertificate (admitted : Certificate → Prop) (s : Statement) (id : Int) (signature : Bytes) : Prop :=
  ∃ der others c algorithm key, s.entries.Names "x5c" (.array (.bytes der :: others)) ∧
    Certificate.ofBytes? der = some c ∧ id = Algorithm.id algorithm ∧
    PublicKey.ofSubjectKey algorithm c.subjectKey = .ok key ∧
    key.verify (s.rawAuthData ++ s.clientDataHash.bytes) signature = .ok true ∧ Qualified s c ∧ admitted c

def Has (s : Statement) (name : String) : Prop := ∃ entry ∈ s.entries, entry.1 = .text name

/-- The credential's own key has made the signature, and nothing else is there that could have. -/
def BySelf (s : Statement) (id : Int) (signature : Bytes) : Prop :=
  ¬ Has s "x5c" ∧ ¬ Has s "ecdaaKeyId" ∧
    ∃ key, PublicKey.ofCose s.attested.publicKey = .ok key ∧ id = key.algorithm.id ∧
      key.verify (s.rawAuthData ++ s.clientDataHash.bytes) signature = .ok true

theorem checkSignature_eq_ok {accepts : PublicKey.Check} {key : PublicKey} :
    checkSignature accepts s key signature = .ok () ↔
      accepts key (s.rawAuthData ++ s.clientDataHash.bytes) signature = .ok true := by
  unfold checkSignature Statement.signedData signedBytes
  simp [bind_eq_ok, mapError_eq_ok]

theorem checkModel_eq_ok : checkModel s c = .ok () ↔
    ∀ extension, IsFirst (·.id.arcs = aaguidExtension) extension c.extensions →
      Der.unwrapOctets? extension.value = some s.attested.aaguid.bytes := by
  simp only [← Certificate.extension?_eq_some]
  unfold checkModel
  cases c.extension? aaguidExtension with
  | none => simp
  | some extension => cases h : Der.unwrapOctets? extension.value <;> simp [h]

theorem checkCertificate_eq_ok :
    checkCertificate s c = .ok () ↔ Qualified s c ∧ (c.NoAuthority ∨ c.Unread) := by
  unfold checkCertificate
  rw [refuse_eq_ensure (q := c.version = Certificate.version3) (by simp),
    refuse_eq_ensure (q := c.subject.hasText Certificate.countryType = true) (by simp),
    refuse_eq_ensure (q := c.subject.hasText Certificate.organizationType = true) (by simp),
    ensure_bind_eq_ok, ensure_bind_eq_ok, ensure_bind_eq_ok, then_eq_ok, checkModel_eq_ok,
    Certificate.Name.hasText_iff_tells, Certificate.Name.hasText_iff_tells]
  constructor
  · rintro ⟨hversion, hcountry, horganization, hmodel, hlast⟩
    refine ⟨⟨hversion, hcountry, horganization, hmodel⟩, Certificate.isAuthority?_eq_false.mp ?_⟩
    split at hlast
    next => cases hlast
    next => cases hlast
    next hauthority => exact hauthority
  · rintro ⟨h, hconstraints⟩
    refine ⟨h.version, h.country, h.organization, h.model, ?_⟩
    rw [Certificate.isAuthority?_eq_false.mpr hconstraints]

theorem leaf_eq_ok {item : Cbor.Item} {der : Bytes} :
    leaf item = .ok der ↔ ∃ others, item = .array (.bytes der :: others) := by
  unfold leaf
  constructor
  · intro h
    split at h
    next => cases h
    next items hitems =>
      split at h
      next bs hbs =>
        obtain rfl := Except.ok.inj h
        obtain ⟨first, hhead, hfirst⟩ := Option.bind_eq_some_iff.mp hbs
        obtain ⟨others, rfl⟩ := List.head?_eq_some_iff.mp hhead
        obtain rfl := Cbor.Item.bytes?_eq_some.mp hfirst
        exact ⟨others, Cbor.Item.array?_eq_some.mp hitems⟩
      next => cases h
  · rintro ⟨others, rfl⟩
    rfl

theorem checkBasic_eq_ok {der : Bytes} : checkBasic PublicKey.verify s id signature der = .ok () ↔
    ∃ c algorithm key, Certificate.ofBytes? der = some c ∧ id = Algorithm.id algorithm ∧
      PublicKey.ofSubjectKey algorithm c.subjectKey = .ok key ∧
      key.verify (s.rawAuthData ++ s.clientDataHash.bytes) signature = .ok true ∧
      Qualified s c ∧ (c.NoAuthority ∨ c.Unread) := by
  unfold checkBasic
  rw [bind_eq_ok]
  simp only [mapError_eq_ok, Cose.algorithmOf_eq_ok]
  cases Certificate.ofBytes? der with
  | none => simp
  | some c =>
    simp only [bind_eq_ok (x := Except.mapError _ _), then_eq_ok, mapError_eq_ok, checkSignature_eq_ok,
      checkCertificate_eq_ok]
    constructor
    · rintro ⟨algorithm, hid, key, hkey, hverify, hqualified⟩
      exact ⟨c, algorithm, key, rfl, hid, hkey, hverify, hqualified⟩
    · rintro ⟨_, algorithm, key, ⟨⟩, hid, hkey, hverify, hqualified⟩
      exact ⟨algorithm, hid, key, hkey, hverify, hqualified⟩

theorem checkSelf_eq_ok : checkSelf PublicKey.verify s id signature = .ok () ↔
    ∃ key, PublicKey.ofCose s.attested.publicKey = .ok key ∧ id = key.algorithm.id ∧
      key.verify (s.rawAuthData ++ s.clientDataHash.bytes) signature = .ok true := by
  have hlast (key : PublicKey) : (if key.algorithm.id ≠ id then
      .error (.algorithmMismatch id key.algorithm.id) else checkSignature PublicKey.verify s key signature) = .ok () ↔
        id = key.algorithm.id ∧
          key.verify (s.rawAuthData ++ s.clientDataHash.bytes) signature = .ok true := by
    rw [refuse_eq_ensure (q := id = key.algorithm.id) (by simp [eq_comm]), ensure_bind_eq_ok,
      checkSignature_eq_ok]
  unfold checkSelf
  simp only [bind_eq_ok, mapError_eq_ok, hlast]

theorem signs_iff : Signs s id signature ↔
    (s.entries.getText? "alg").bind Cbor.Item.int? = some id ∧
      (s.entries.getText? "sig").bind Cbor.Item.bytes? = some signature := by
  rw [Cbor.Entries.getText?_bind_int?, Cbor.Entries.getText?_bind_bytes?]
  constructor
  · intro h
    exact ⟨⟨h.algorithm, h.word⟩, h.signature⟩
  · rintro ⟨⟨halgorithm, hword⟩, hsignature⟩
    exact ⟨halgorithm, hword, hsignature⟩

theorem not_has {name : String} : ¬ Has s name ↔ s.entries.getText? name = none := by
  rw [Cbor.Entries.getText?_eq_none, Has, not_exists]
  simp only [not_and, ne_eq]

theorem has {name : String} : Has s name ↔ ∃ item, s.entries.getText? name = some item := by
  rw [← not_iff_not, not_has, ← Option.ne_none_iff_exists', not_not]

theorem byCertificate_iff : ByCertificate (fun c => c.NoAuthority ∨ c.Unread) s id signature ↔
    ∃ certificates, s.entries.getText? "x5c" = some certificates ∧
      ∃ der, leaf certificates = .ok der ∧ checkBasic PublicKey.verify s id signature der = .ok () := by
  simp only [leaf_eq_ok, checkBasic_eq_ok, Cbor.Entries.getText?_eq_some]
  constructor
  · rintro ⟨der, others, c, algorithm, key, hchain, h⟩
    exact ⟨_, hchain, der, ⟨others, rfl⟩, c, algorithm, key, h⟩
  · rintro ⟨_, hchain, der, ⟨others, rfl⟩, c, algorithm, key, h⟩
    exact ⟨der, others, c, algorithm, key, hchain, h⟩

theorem bySelf_iff : BySelf s id signature ↔ s.entries.getText? "x5c" = none ∧
    s.entries.getText? "ecdaaKeyId" = none ∧ checkSelf PublicKey.verify s id signature = .ok () := by
  rw [BySelf, not_has, not_has, checkSelf_eq_ok]

/-- The two ways exclude each other. -/
theorem xor_iff_or {admitted : Certificate → Prop} :
    Xor (ByCertificate admitted s id signature) (BySelf s id signature) ↔
      ByCertificate admitted s id signature ∨ BySelf s id signature := by
  refine (xor_iff_or_and_not_and _ _).trans (and_iff_left ?_)
  rintro ⟨⟨der, others, c, algorithm, key, hchain, _⟩, hnone, _⟩
  exact hnone (has.mpr ⟨_, Cbor.Entries.getText?_eq_some.mpr hchain⟩)

theorem ByCertificate.mono {admitted admitted' : Certificate → Prop} (h : ∀ c, admitted c → admitted' c)
    (hsigned : ByCertificate admitted s id signature) : ByCertificate admitted' s id signature := by
  obtain ⟨der, others, c, algorithm, key, hchain, hread, hid, hkey, hverify, hqualified, hadmitted⟩ := hsigned
  exact ⟨der, others, c, algorithm, key, hchain, hread, hid, hkey, hverify, hqualified, h c hadmitted⟩

/-- The entry for certificates decides between the two ways. -/
theorem xor_iff : Xor (ByCertificate (fun c => c.NoAuthority ∨ c.Unread) s id signature) (BySelf s id signature) ↔
    match s.entries.getText? "x5c" with
      | some certificates => ∃ der, leaf certificates = .ok der ∧
          checkBasic PublicKey.verify s id signature der = .ok ()
      | none => s.entries.getText? "ecdaaKeyId" = none ∧ checkSelf PublicKey.verify s id signature = .ok () := by
  rw [xor_iff_or, byCertificate_iff, bySelf_iff]
  cases s.entries.getText? "x5c" with
  | none => simp
  | some certificates => simp

theorem check_eq_ok_iff_signed : check s = .ok contribution ↔ contribution = {} ∧ ∃ id signature,
    Signs s id signature ∧
      Xor (ByCertificate (fun c => c.NoAuthority ∨ c.Unread) s id signature) (BySelf s id signature) := by
  simp only [check_eq_ok, xor_iff, signs_iff]
  constructor
  · rintro ⟨id, signature, hid, hsignature, h, hcontribution⟩
    exact ⟨hcontribution, id, signature, ⟨hid, hsignature⟩, h⟩
  · rintro ⟨hcontribution, id, signature, ⟨hid, hsignature⟩, h⟩
    exact ⟨id, signature, hid, hsignature, h, hcontribution⟩

theorem check_of_certificates (h : Has s "x5c") (publicKey : Bytes) :
    check { s with attested := { s.attested with publicKey := publicKey } } = check s := by
  obtain ⟨certificates, hchain⟩ := has.mp h
  unfold check checkUsing
  simp only [hchain]
  rfl

theorem check_of_ecdaa (hecdaa : Has s "ecdaaKeyId") (hchain : ¬ Has s "x5c") : check s = (do
    let _id ← s.entries.member Cbor.Item.int? "alg"
    let _signature ← s.entries.member Cbor.Item.bytes? "sig"
    .error (.notImplemented "ECDAA attestation")) := by
  obtain ⟨item, hecdaa⟩ := has.mp hecdaa
  unfold check checkUsing
  simp only [not_has.mp hchain, hecdaa]
  rfl

theorem check_of_ecdaa_cases (hecdaa : Has s "ecdaaKeyId") (hchain : ¬ Has s "x5c") :
    (∀ id signature, Signs s id signature → check s = .error (.notImplemented "ECDAA attestation")) ∧
    ((¬ ∃ id, s.entries.Names "alg" (.ofInt id) ∧ Cbor.Item.InWord id) →
      check s = .error (.missingField "alg")) ∧
    ((∃ id, s.entries.Names "alg" (.ofInt id) ∧ Cbor.Item.InWord id) →
      (¬ ∃ signature, s.entries.Names "sig" (.bytes signature)) →
        check s = .error (.missingField "sig")) := by
  simp only [signs_iff, ← Cbor.Entries.getText?_bind_int?, ← Cbor.Entries.getText?_bind_bytes?,
    ← Option.isSome_iff_exists, Option.not_isSome_iff_eq_none]
  rw [check_of_ecdaa hecdaa hchain]
  unfold Cbor.Entries.member
  refine ⟨fun id signature h => ?_, fun hid => ?_, fun hid hsignature => ?_⟩
  · rw [h.1, h.2]
    rfl
  · rw [hid]
    rfl
  · obtain ⟨id, hid⟩ := Option.isSome_iff_exists.mp hid
    rw [hid, hsignature]
    rfl

/-- A packed statement that has an algorithm and a signature is accepted if either its first certificate
or, without any certificates, the credential's own key has made the signature, and only then, where what
the certificate says about authorities can be read. Where there is an entry for certificates the credential's
own key is not looked at, and an entry for a group signature alone is always refused. -/
theorem check_never_downgraded (s : Statement) :
    (∀ id signature, Signs s id signature →
      Xor (ByCertificate Certificate.NoAuthority s id signature) (BySelf s id signature) → check s = .ok {}) ∧
    (∀ contribution, check s = .ok contribution → contribution = {} ∧ ∃ id signature,
      Signs s id signature ∧
        Xor (ByCertificate (fun c => ¬ c.Unread → c.NoAuthority) s id signature) (BySelf s id signature)) ∧
    (Has s "x5c" → ∀ publicKey,
      check { s with attested := { s.attested with publicKey := publicKey } } = check s) ∧
    (Has s "ecdaaKeyId" → ¬ Has s "x5c" →
      (∀ id signature, Signs s id signature →
        check s = .error (.notImplemented "ECDAA attestation")) ∧
      ((¬ ∃ id, s.entries.Names "alg" (.ofInt id) ∧ Cbor.Item.InWord id) →
        check s = .error (.missingField "alg")) ∧
      ((∃ id, s.entries.Names "alg" (.ofInt id) ∧ Cbor.Item.InWord id) →
        (¬ ∃ signature, s.entries.Names "sig" (.bytes signature)) →
          check s = .error (.missingField "sig"))) := by
  refine ⟨?_, ?_, check_of_certificates, check_of_ecdaa_cases⟩
  · intro id signature hsigns hway
    refine check_eq_ok_iff_signed.mpr ⟨rfl, id, signature, hsigns, xor_iff_or.mpr ?_⟩
    exact (xor_iff_or.mp hway).imp_left (ByCertificate.mono fun c => .inl)
  · intro contribution h
    obtain ⟨rfl, id, signature, hsigns, hway⟩ := check_eq_ok_iff_signed.mp h
    refine ⟨rfl, id, signature, hsigns, xor_iff_or.mpr ?_⟩
    exact (xor_iff_or.mp hway).imp_left (ByCertificate.mono fun c h => h.resolve_right)

def bare (entries : Cbor.Entries) : Statement :=
  ⟨[], 0, ⟨⟨List.replicate 16 1, rfl⟩, [], []⟩, ⟨List.replicate 32 0, rfl⟩, entries⟩

def sampleLeaf : Bytes :=
  Bytes.ofNat 40 0x3081d53081bfa003020102020101300d06092a864886f70d01010b05003000301e170d3730303130 ++
  Bytes.ofNat 40 0x313030303030305a170d3439313233313233353935395a3019310b3009060355040613024348310a ++
  Bytes.ofNat 40 0x3008060355040a0c0145305a300d06092a864886f70d01010105000349003046024100d6ba681e1c ++
  Bytes.ofNat 40 0x415204f2db7f0e2f2952a10da6bfc9335a7617ae5c738b333f94e306b0875ed69e59e20f70deae97 ++
  Bytes.ofNat 40 0xdf141f2b953745e4242c4c5d27dcf8b6e0c6c7020103a30d300b30090603551d1304023000300d06 ++
  Bytes.ofNat 16 0x092a864886f70d01010b050003020001

def sampleSignature : Bytes :=
  Bytes.ofNat 32 0xc930e0814e93b523acf052a2c63b5ef54277bbdf6d97c5ff84d242a1c349c035 ++
  Bytes.ofNat 32 0x79632f855bd19d15a50e0164c5643bc4b96143304ee986ac383abd229fca1a7f

def sampleSigned : Statement := bare
  [(.text "alg", .ofInt (-257)), (.text "sig", .bytes sampleSignature), (.text "x5c", .array [.bytes sampleLeaf])]

def sampleGroupSigned : Statement := bare
  [(.text "alg", .ofInt (-257)), (.text "sig", .bytes sampleSignature), (.text "ecdaaKeyId", .bytes [])]

theorem check_never_downgraded_sample :
    (∃ id signature, Signs sampleSigned id signature ∧
      ByCertificate Certificate.NoAuthority sampleSigned id signature ∧ check sampleSigned = .ok {}) ∧
    (∀ publicKey, check { sampleSigned with attested := { sampleSigned.attested with publicKey := publicKey } } =
      .ok {}) ∧
    check sampleGroupSigned = .error (.notImplemented "ECDAA attestation") := by
  have haccepted : check sampleSigned = .ok {} := by decide +kernel
  have hconstraints : (Certificate.ofBytes? sampleLeaf).map (fun c => c.constraints.map fun extension =>
      Certificate.authorityValue? extension.value) = some [some false] := by decide +kernel
  have hread (c : Certificate) (h : Certificate.ofBytes? sampleLeaf = some c) : ¬ c.Unread := by
    rw [h] at hconstraints
    rintro ⟨extension, hone, hnone⟩
    simp [hone, hnone] at hconstraints
  have hcertificates : Has sampleSigned "x5c" := has.mpr ⟨_, rfl⟩
  obtain ⟨haccepts, htold, hown, _⟩ := check_never_downgraded sampleSigned
  obtain ⟨_, _, _, hgroup⟩ := check_never_downgraded sampleGroupSigned
  obtain ⟨_, id, signature, hsigns, hway⟩ := htold _ haccepted
  have hsigned : ByCertificate Certificate.NoAuthority sampleSigned id signature := by
    obtain ⟨der, others, c, algorithm, key, hchain, hleaf, hid, hkey, hverify, hqualified, hadmitted⟩ :=
      (xor_iff_or.mp hway).resolve_right fun hself => hself.1 hcertificates
    have hder : der = sampleLeaf ∧ others = [] := by
      have hgiven : sampleSigned.entries.getText? "x5c" = some (.array [.bytes sampleLeaf]) := rfl
      simpa using (Cbor.Entries.getText?_eq_some.mpr hchain).symm.trans hgiven
    exact ⟨der, others, c, algorithm, key, hchain, hleaf, hid, hkey, hverify, hqualified,
      hadmitted (hread c (hder.1 ▸ hleaf))⟩
  refine ⟨⟨id, signature, hsigns, hsigned, ?_⟩, ?_, ?_⟩
  · exact haccepts id signature hsigns (xor_iff_or.mpr (.inl hsigned))
  · intro publicKey
    rw [hown hcertificates publicKey, haccepted]
  · exact (hgroup (has.mpr ⟨_, rfl⟩) (not_has.mpr rfl)).1 (-257) sampleSignature (signs_iff.mpr ⟨rfl, rfl⟩)

/-- A group signature without an algorithm is refused for what is missing. -/
theorem refuses_incomplete_group_signature :
    let groupSigned := bare [(.text "ecdaaKeyId", .bytes [])]
    Has groupSigned "ecdaaKeyId" ∧ ¬ Has groupSigned "x5c" ∧
      check groupSigned = .error (.missingField "alg") :=
  ⟨has.mpr ⟨_, rfl⟩, not_has.mpr rfl, rfl⟩

end RelyingParty.Attestation.Packed
