import RelyingParty.Proofs.Assertion.ErrorKinds
import RelyingParty.Proofs.Attestation.AppleAppAttest
import RelyingParty.Proofs.Attestation.AppleRoot
import RelyingParty.Proofs.Certificate.Time

namespace RelyingParty.Attestation.AppleAppAttest

variable {settings : RegistrationSettings} {s : Statement} {leaf root : Certificate}
  {others : List Certificate} {receipt : Bytes} {contribution : Contribution} {fault : ChainFault}

/-- A statement that can be read: its counter, its environment, its certificates and its receipt are in
order. -/
structure Presented (environment : AppEnvironment) (s : Statement) (leaf : Certificate)
    (others : List Certificate) (receipt : Bytes) : Prop where
  fresh : s.signCounter = 0
  environment : s.attested.aaguid = environment.aaguid
  certificates : ∃ items, s.entries.Names "x5c" (.array items) ∧ Hold items (leaf :: others)
  receipt : s.entries.Names "receipt" (.bytes receipt)

def checkLeaf (s : Statement) (leaf : Certificate) (receipt : Bytes) :
    Except VerificationError Contribution := do
  checkNonce (sha256 s.signedData).bytes leaf
  let point ← checkKey s.attested.credentialId leaf
  .ok { publicKey := some point, receipt := some receipt }

theorem check_eq (h : Presented settings.environment s leaf others receipt) : check settings s =
    (checkChain settings.time (leaf :: others)).mapError .chainInvalid >>= fun _ => checkLeaf s leaf receipt := by
  obtain ⟨items, hitems, hhold⟩ := h.certificates
  have hx5c : s.entries.member Cbor.Item.array? "x5c" = .ok items :=
    Cbor.Entries.member_eq_ok.mpr (Cbor.Entries.getText?_bind_array?.mpr hitems)
  have hreceipt : s.entries.member Cbor.Item.bytes? "receipt" = .ok receipt :=
    Cbor.Entries.member_eq_ok.mpr (Cbor.Entries.getText?_bind_bytes?.mpr h.receipt)
  have hcertificates := mapM_certificate_eq_ok.mpr hhold
  unfold check
  rw [if_neg (not_not.mpr h.fresh), if_neg (not_not.mpr h.environment), hx5c, ok_bind, hreceipt, ok_bind,
    hcertificates, ok_bind]
  rfl

theorem checkNonce_refusedOnly (nonce : Bytes) (c : Certificate) :
    RefusedOnly (checkNonce nonce c) fun e => ∀ fault, e ≠ .chainInvalid fault := by
  unfold checkNonce
  split
  next => exact refusedOnly_error nofun
  next =>
    split
    next => exact refusedOnly_error nofun
    next =>
      split
      next => exact refusedOnly_ok ()
      next => exact refusedOnly_error nofun

theorem checkKey_refusedOnly (credentialId : Bytes) (c : Certificate) :
    RefusedOnly (checkKey credentialId c) fun e => ∀ fault, e ≠ .chainInvalid fault := by
  refine .bind (refusedOnly_mapError fun _ => nofun) fun _ => ?_
  split
  next => exact refusedOnly_ok _
  next => exact refusedOnly_error nofun

theorem checkLeaf_refusedOnly (s : Statement) (leaf : Certificate) (receipt : Bytes) :
    RefusedOnly (checkLeaf s leaf receipt) fun e => ∀ fault, e ≠ .chainInvalid fault := by
  have hnonce := checkNonce_refusedOnly (sha256 s.signedData).bytes leaf
  have hkey := checkKey_refusedOnly s.attested.credentialId leaf
  exact hnonce.bind fun _ => hkey.bind fun _ => refusedOnly_ok _

theorem check_eq_chainInvalid (h : Presented settings.environment s leaf others receipt) :
    check settings s = .error (.chainInvalid fault) ↔
      checkChain settings.time (leaf :: others) = .error fault := by
  rw [check_eq h, bind_eq_error, mapError_eq_error]
  constructor
  · rintro (⟨told, hchain, htold⟩ | ⟨_, _, hleaf⟩)
    · cases htold
      exact hchain
    · exact absurd rfl (checkLeaf_refusedOnly s leaf receipt _ hleaf fault)
  · intro hchain
    exact .inl ⟨fault, hchain, rfl⟩

theorem check_eq_ok_of_presented (h : Presented settings.environment s leaf others receipt) :
    check settings s = .ok contribution ↔
      checkChain settings.time (leaf :: others) = .ok () ∧ checkLeaf s leaf receipt = .ok contribution := by
  rw [check_eq h, then_eq_ok, mapError_eq_ok]

variable {time : Timestamp} {certificates : List Certificate}

theorem checkChain_eq (hroot : root? = some root) : checkChain time certificates =
    Certificate.checkTime time >>= fun time => Certificate.checkChain time root 0 certificates := by
  -- opened as a function, so that the root stays a name and is not computed when the proof is checked
  have hopen : checkChain = checkChain := rfl
  conv at hopen => rhs; delta checkChain
  rw [hopen]
  generalize root? = found at hroot
  subst hroot
  rfl

theorem checkChain_of_dated (hroot : root? = some root) (hpos : 0 ≤ time) (hdated : Calendar.IsDated time) :
    checkChain time certificates = Certificate.checkChain time root 0 certificates := by
  rw [checkChain_eq hroot, Certificate.checkTime_of_nonneg hpos, if_pos hdated, ok_bind]

theorem checkChain_of_not_dated (hroot : root? = some root) (hpos : 0 ≤ time)
    (hdated : ¬ Calendar.IsDated time) : checkChain time certificates = .error .dateOutOfRange := by
  rw [checkChain_eq hroot, Certificate.checkTime_of_nonneg hpos, if_neg hdated]
  rfl

/-- The certificates of a statement are checked at `time`: what is wrong with their chain then, and nothing
else, is told of the chain; in particular the first certificate that is not valid then. -/
structure CheckedAt (settings : RegistrationSettings) (s : Statement) (certificates : List Certificate)
    (root : Certificate) (time : Timestamp) : Prop where
  chain (fault : ChainFault) : check settings s = .error (.chainInvalid fault) ↔
    Certificate.checkChain time root 0 certificates = .error fault
  invalid (position : Nat) (told : Timestamp) :
    check settings s = .error (.chainInvalid (.notValidAt position told)) ↔ told = time ∧
      ∃ c, (certificates ++ [root])[position]? = some c ∧ c.validity.includes time = false ∧
        ∀ earlier < position, ∀ d, (certificates ++ [root])[earlier]? = some d →
          Certificate.Linked time earlier d (Certificate.issuerAt root certificates earlier)
  accepted (contribution : Contribution) : check settings s = .ok contribution →
    ∀ c ∈ certificates ++ [root], c.validity.notBefore ≤ time ∧ time ≤ c.validity.notAfter

theorem checkedAt_of_presented (h : Presented settings.environment s leaf others receipt)
    (hroot : root? = some root) (hpos : 0 ≤ settings.time) (hdated : Calendar.IsDated settings.time) :
    CheckedAt settings s (leaf :: others) root settings.time where
  chain fault := by rw [check_eq_chainInvalid h, checkChain_of_dated hroot hpos hdated]
  invalid position told := by
    rw [check_eq_chainInvalid h, checkChain_of_dated hroot hpos hdated, Certificate.checkChain_eq_notValidAt]
  accepted contribution hok c hc := by
    have hchain := ((check_eq_ok_of_presented h).mp hok).1
    rw [checkChain_of_dated hroot hpos hdated] at hchain
    exact Certificate.includes_of_checkChain hchain hc

theorem check_of_not_dated (h : Presented settings.environment s leaf others receipt)
    (hpos : 0 ≤ settings.time) (hdated : ¬ Calendar.IsDated settings.time) :
    check settings s = .error (.chainInvalid .dateOutOfRange) := by
  obtain ⟨_, root, _, _, hroot, _⟩ := exists_root
  rw [check_eq_chainInvalid h, checkChain_of_not_dated hroot hpos hdated]

end RelyingParty.Attestation.AppleAppAttest
