import Mathlib.Control.Monad.Basic
import Mathlib.Data.List.GetD
import RelyingParty.Certificate.Chain
import RelyingParty.Proofs.Checks

namespace RelyingParty.Certificate

def IsSignedBy (c issuer : Certificate) : Prop :=
  ∃ scheme, scheme? c.signatureAlgorithm issuer.subjectKey = some scheme ∧
    scheme.accepts issuer.subjectKey.bytes c.signedPart c.signature = true

structure Linked (time : Timestamp) (index : Nat) (c issuer : Certificate) : Prop where
  valid : c.validity.includes time = true
  issued : c.issuer.raw = issuer.subject.raw
  signed : c.IsSignedBy issuer
  authority : index ≠ 0 → c.isAuthority? = some true

inductive LinkCheck where
  | validity
  | issuer
  | signature
  | authority

def LinkCheck.all : List LinkCheck := [validity, issuer, signature, authority]

def linkOutcome (time : Timestamp) (index : Nat) (c issuer : Certificate) :
    LinkCheck → Except ChainFault Unit
  | .validity => ensure (c.validity.includes time = true) (.notValidAt index time)
  | .issuer => ensure (c.issuer.raw = issuer.subject.raw) (.notIssuedBy index issuer.subject.toText)
  | .signature =>
    match scheme? c.signatureAlgorithm issuer.subjectKey with
    | none => .error (.signatureAlgorithm index)
    | some scheme =>
      ensure (scheme.accepts issuer.subjectKey.bytes c.signedPart c.signature = true) (.signature index)
  | .authority => ensure (index ≠ 0 → c.isAuthority? = some true) (.notAuthority index)

section Link

variable {time : Timestamp} {index other : Nat} {c issuer : Certificate}

theorem checkLink_eq (time : Timestamp) (index : Nat) (c issuer : Certificate) :
    checkLink time index c issuer = LinkCheck.all.forM (linkOutcome time index c issuer) := by
  have hlast : (if index ≠ 0 ∧ c.isAuthority? ≠ some true then .error (.notAuthority index) else .ok ()) =
      ensure (index ≠ 0 → c.isAuthority? = some true) (ChainFault.notAuthority index) := by
    unfold ensure
    by_cases h : index ≠ 0 → c.isAuthority? = some true
    · rw [if_pos h, if_neg (by simpa using h)]
    · rw [if_neg h, if_pos (by simpa using h)]
  unfold checkLink LinkCheck.all
  rw [refuse_eq_ensure (q := c.validity.includes time = true) (by simp),
    refuse_eq_ensure (q := c.issuer.raw = issuer.subject.raw) (by simp)]
  simp only [forM_cons, linkOutcome]
  congr 1
  funext _
  congr 1
  funext _
  cases scheme? c.signatureAlgorithm issuer.subjectKey with
  | none => rfl
  | some scheme =>
    simp only
    rw [refuse_eq_ensure (q := scheme.accepts issuer.subjectKey.bytes c.signedPart c.signature = true)
      (by simp), hlast]
    congr 1
    funext _
    cases ensure (index ≠ 0 → c.isAuthority? = some true) (ChainFault.notAuthority index) <;> rfl

theorem signature_eq_ok :
    linkOutcome time index c issuer .signature = .ok () ↔ c.IsSignedBy issuer := by
  unfold linkOutcome IsSignedBy
  cases scheme? c.signatureAlgorithm issuer.subjectKey with
  | none => simp
  | some scheme => simp [ensure_eq_ok]

theorem checkLink_eq_ok : checkLink time index c issuer = .ok () ↔ Linked time index c issuer := by
  rw [checkLink_eq, forM_eq_ok]
  constructor
  · intro h
    exact {
      valid := ensure_eq_ok.mp (h .validity (by simp [LinkCheck.all]))
      issued := ensure_eq_ok.mp (h .issuer (by simp [LinkCheck.all]))
      signed := signature_eq_ok.mp (h .signature (by simp [LinkCheck.all]))
      authority := ensure_eq_ok.mp (h .authority (by simp [LinkCheck.all])) }
  · intro h check _
    cases check with
    | validity => exact ensure_of h.valid _
    | issuer => exact ensure_of h.issued _
    | signature => exact signature_eq_ok.mpr h.signed
    | authority => exact ensure_of h.authority _

theorem checkLink_eq_error {fault : ChainFault} : checkLink time index c issuer = .error fault ↔
    FirstFault (linkOutcome time index c issuer) LinkCheck.all fault := by
  rw [checkLink_eq, forM_eq_error]

/-- Where a certificate stands matters only for whether it is the first. -/
theorem Linked.elsewhere (h : Linked time index c issuer) (hindex : index ≠ 0) :
    Linked time other c issuer :=
  ⟨h.valid, h.issued, h.signed, fun _ => h.authority hindex⟩

end Link

/-- The certificate that the one at `index` of a chain has to be issued by; the root issues itself. -/
def issuerAt (root : Certificate) (certificates : List Certificate) (index : Nat) : Certificate :=
  (certificates ++ [root]).getD (index + 1) root

variable {time : Timestamp} {root c : Certificate} {certificates : List Certificate} {index : Nat}
  {fault : ChainFault}

theorem issuerAt_cons_zero : issuerAt root (c :: certificates) 0 = certificates.headD root := by
  cases certificates <;> rfl

theorem issuerAt_cons_succ (position : Nat) :
    issuerAt root (c :: certificates) (position + 1) = issuerAt root certificates position := rfl

theorem issuerAt_append_root (position : Nat) :
    issuerAt root (certificates ++ [root]) position = issuerAt root certificates position := by
  unfold issuerAt
  by_cases h : position + 1 < (certificates ++ [root]).length
  · rw [List.getD_append _ _ _ _ h]
  · have hlast := Nat.le_of_not_lt h
    rw [List.getD_append_right _ _ _ _ hlast, List.getD_eq_default _ _ hlast]
    cases position + 1 - (certificates ++ [root]).length <;> rfl

theorem checkChain_cons : checkChain time root index (c :: certificates) =
    (checkLink time index c (certificates.headD root) >>= fun _ =>
      checkChain time root (index + 1) certificates) := by
  cases certificates <;> rfl

theorem checkChain_eq_ok (index : Nat) : checkChain time root index certificates = .ok () ↔
    ∀ position c, (certificates ++ [root])[position]? = some c →
      Linked time (index + position) c (issuerAt root certificates position) := by
  induction certificates generalizing index with
  | nil =>
    rw [checkChain, checkLink_eq_ok]
    constructor
    · intro h position c hc
      cases position with
      | zero => exact Option.some.inj hc ▸ h
      | succ position => cases hc
    · intro h
      exact h 0 root rfl
  | cons first certificates ih =>
    rw [checkChain_cons, bind_eq_ok]
    simp only [ih]
    constructor
    · rintro ⟨_, hfirst, hrest⟩ position c hc
      cases position with
      | zero =>
        obtain rfl := Option.some.inj hc
        rw [issuerAt_cons_zero]
        exact checkLink_eq_ok.mp hfirst
      | succ position =>
        rw [issuerAt_cons_succ, ← Nat.succ_add_eq_add_succ]
        exact hrest position c hc
    · intro h
      refine ⟨(), ?_, ?_⟩
      · rw [← issuerAt_cons_zero (c := first)]
        exact checkLink_eq_ok.mpr (h 0 first rfl)
      · intro position c hc
        have hlinked := h (position + 1) c hc
        rwa [issuerAt_cons_succ, ← Nat.succ_add_eq_add_succ] at hlinked

def FirstUnlinked (time : Timestamp) (root : Certificate) (certificates : List Certificate)
    (index position : Nat) (fault : ChainFault) : Prop :=
  ∃ c, (certificates ++ [root])[position]? = some c ∧
    (∀ earlier < position, ∀ d, (certificates ++ [root])[earlier]? = some d →
      Linked time (index + earlier) d (issuerAt root certificates earlier)) ∧
    FirstFault (linkOutcome time (index + position) c (issuerAt root certificates position))
      LinkCheck.all fault

theorem firstUnlinked_cons_zero : FirstUnlinked time root (c :: certificates) index 0 fault ↔
    FirstFault (linkOutcome time index c (certificates.headD root)) LinkCheck.all fault := by
  unfold FirstUnlinked
  rw [issuerAt_cons_zero]
  simp

theorem firstUnlinked_cons_succ {position : Nat} :
    FirstUnlinked time root (c :: certificates) index (position + 1) fault ↔
      Linked time index c (certificates.headD root) ∧
        FirstUnlinked time root certificates (index + 1) position fault := by
  unfold FirstUnlinked
  simp only [List.cons_append, List.getElem?_cons_succ, issuerAt_cons_succ, Nat.succ_add_eq_add_succ]
  constructor
  · rintro ⟨d, hd, hearlier, hfault⟩
    refine ⟨?_, d, hd, ?_, hfault⟩
    · rw [← issuerAt_cons_zero (c := c)]
      exact hearlier 0 (Nat.succ_pos position) c rfl
    · intro earlier hlt e he
      exact hearlier (earlier + 1) (Nat.succ_lt_succ hlt) e he
  · rintro ⟨hfirst, d, hd, hearlier, hfault⟩
    refine ⟨d, hd, ?_, hfault⟩
    intro earlier hlt e he
    cases earlier with
    | zero =>
      obtain rfl := Option.some.inj he
      rw [issuerAt_cons_zero]
      exact hfirst
    | succ earlier => exact hearlier earlier (Nat.lt_of_succ_lt_succ hlt) e he

theorem checkChain_eq_error (index : Nat) : checkChain time root index certificates = .error fault ↔
    ∃ position, FirstUnlinked time root certificates index position fault := by
  induction certificates generalizing index with
  | nil =>
    rw [checkChain, checkLink_eq_error]
    constructor
    · intro h
      exact ⟨0, root, rfl, nofun, h⟩
    · rintro ⟨position, c, hc, _, hfault⟩
      cases position with
      | zero => exact Option.some.inj hc ▸ hfault
      | succ position => cases hc
  | cons first certificates ih =>
    rw [checkChain_cons, bind_eq_error]
    simp only [checkLink_eq_error, ih]
    constructor
    · rintro (hfault | ⟨_, hfirst, position, hrest⟩)
      · exact ⟨0, firstUnlinked_cons_zero.mpr hfault⟩
      · exact ⟨position + 1, firstUnlinked_cons_succ.mpr ⟨checkLink_eq_ok.mp hfirst, hrest⟩⟩
    · rintro ⟨position, h⟩
      cases position with
      | zero => exact .inl (firstUnlinked_cons_zero.mp h)
      | succ position =>
        obtain ⟨hfirst, hrest⟩ := firstUnlinked_cons_succ.mp h
        exact .inr ⟨(), checkLink_eq_ok.mpr hfirst, position, hrest⟩

theorem signed_by_root (h : checkChain time root 0 certificates = .ok ()) {last : Certificate}
    (hlast : certificates.getLast? = some last) :
    last.issuer.raw = root.subject.raw ∧ last.IsSignedBy root := by
  obtain ⟨earlier, rfl⟩ := List.getLast?_eq_some_iff.mp hlast
  have hat : (earlier ++ [last] ++ [root])[earlier.length]? = some last := by simp
  have hissuer : issuerAt root (earlier ++ [last]) earlier.length = root := by
    simp [issuerAt, List.getD_eq_getElem?_getD]
  have hlinked := (checkChain_eq_ok 0).mp h earlier.length last hat
  rw [hissuer] at hlinked
  exact ⟨hlinked.issued, hlinked.signed⟩

theorem checkChain_append_root (hne : certificates ≠ []) :
    checkChain time root 0 (certificates ++ [root]) = .ok () ↔
      checkChain time root 0 certificates = .ok () := by
  have hlength : certificates.length ≠ 0 := fun h => hne (List.eq_nil_of_length_eq_zero h)
  have hroot : (certificates ++ [root])[certificates.length]? = some root := by simp
  simp only [checkChain_eq_ok, issuerAt_append_root, Nat.zero_add]
  constructor
  · intro h position c hc
    refine h position c ?_
    rwa [List.getElem?_append_left (List.getElem?_eq_some_iff.mp hc).1]
  · intro h position c hc
    by_cases hin : position < (certificates ++ [root]).length
    · rw [List.getElem?_append_left hin] at hc
      exact h position c hc
    · -- the root that was added stands where the root stood before, but for the place
      have hout := Nat.le_of_not_lt hin
      rw [List.getElem?_append_right hout] at hc
      obtain rfl : c = root := by simpa using List.mem_of_getElem? hc
      have hself : issuerAt c certificates certificates.length = c := by
        simp [issuerAt, List.getD_eq_getElem?_getD]
      have hissuer : issuerAt c certificates position = c := by
        unfold issuerAt
        exact List.getD_eq_default _ _ (Nat.le_succ_of_le hout)
      have hlinked := h certificates.length c hroot
      rw [hself] at hlinked
      rw [hissuer]
      exact hlinked.elsewhere hlength

/-- A chain is accepted exactly if every link of it holds, and is refused for the first link that does not.
An accepted chain ends with a certificate that the root has signed; the root may stand at its end as well. -/
theorem checkChain_accepts_or_first_unlinked (time : Timestamp) (root : Certificate)
    (certificates : List Certificate) :
    (checkChain time root 0 certificates = .ok () ↔
      ∀ position c, (certificates ++ [root])[position]? = some c →
        Linked time position c (issuerAt root certificates position)) ∧
    (∀ fault, checkChain time root 0 certificates = .error fault ↔
      ∃ position c, (certificates ++ [root])[position]? = some c ∧
        (∀ earlier < position, ∀ d, (certificates ++ [root])[earlier]? = some d →
          Linked time earlier d (issuerAt root certificates earlier)) ∧
        FirstFault (linkOutcome time position c (issuerAt root certificates position))
          LinkCheck.all fault) ∧
    (checkChain time root 0 certificates = .ok () → ∀ last, certificates.getLast? = some last →
      last.issuer.raw = root.subject.raw ∧ last.IsSignedBy root) ∧
    (certificates ≠ [] → (checkChain time root 0 (certificates ++ [root]) = .ok () ↔
      checkChain time root 0 certificates = .ok ())) := by
  refine ⟨?_, ?_, ?_, checkChain_append_root⟩
  · simpa only [Nat.zero_add] using checkChain_eq_ok 0
  · intro fault
    simpa only [FirstUnlinked, Nat.zero_add] using checkChain_eq_error 0
  · intro h last hlast
    exact signed_by_root h hlast

def sampleIssuerKey : SubjectKey where
  algorithm := ⟨⟨[0x2a, 0x86, 0x48, 0x86, 0xf7, 0x0d, 0x01, 0x01, 0x01]⟩, none⟩
  bytes := (Der.Element.ofList [.ofNat 0xb5cf52235783b3d85a1727a1b3109f4bdc708925b1f7debe154fc3741fed72948efc7a9ddbc9bce29b47f08e9381f6708f543979499516b44709a6f93c9392c8e00cb49fffae0424b0782443d52ce4995f322c744d308070f28f3bb82d58fcdb7dde2ceec435ffb316acc562acfa8afbaf4b1e58deac82b78a2fda0cce4af879, .ofNat 3]).encode

def sampleCertificate (part : UInt8) (subject : Bytes) (extensions : List Extension) (signature : Nat) :
    Certificate where
  signedPart := [part]
  version := version3
  issuer := ⟨[7], []⟩
  validity := ⟨0, 10⟩
  subject := ⟨subject, []⟩
  subjectKey := sampleIssuerKey
  extensions := extensions
  signatureAlgorithm := ⟨⟨[0x2a, 0x86, 0x48, 0x86, 0xf7, 0x0d, 0x01, 0x01, 0x05]⟩, none⟩
  signature := Bytes.ofNat 128 signature

def sampleLeaf : Certificate := sampleCertificate 1 [8] []
  0x778c93cf8cd5b5ac39ae6063c069471b8bde49cdf4f837a01b536b480339da717cc64ab7014fa33c33fd673dc2e7c1c7f93f023d4d26b4eea2d0b66e60c3c19501d15c6e64fb8ebed6467525fb5ecf09d208b097299b71307bdfdb465aee73f131c41db5f75d3e62b4e1be8b8bcb34d657d6294753e8d1115572c3f3a3d6a36e

def sampleRoot : Certificate :=
  sampleCertificate 2 [7] [⟨basicConstraintsId, true, [0x30, 0x03, 0x01, 0x01, 0xff]⟩]
    0x6a1299bd85e3eb29e06bee3c500201f8522f1cfca276bf82e800775fca1e5d58666ad6cfe2e13790dd76daf30c5e59c7714e18724a6a6bc39914352e37019fa765ea5a21dc772e86cf5422d25b7d1a9b2a9d74d790f19eab120a220a9c7f9d4f2c886dc4224de836670624bf3a3c047de30fbdf56019e40ff0f40aa431c4b6df

theorem checkChain_accepts_or_first_unlinked_sample :
    checkChain 5 sampleRoot 0 [sampleLeaf] = .ok () ∧
      (sampleLeaf.issuer.raw = sampleRoot.subject.raw ∧ sampleLeaf.IsSignedBy sampleRoot) ∧
      ([sampleLeaf] ≠ [] ∧ checkChain 5 sampleRoot 0 [sampleLeaf, sampleRoot] = .ok ()) ∧
      checkChain 11 sampleRoot 0 [sampleLeaf] = .error (.notValidAt 0 11) := by
  have haccepted : checkChain 5 sampleRoot 0 [sampleLeaf] = .ok () := by decide +kernel
  obtain ⟨_, _, hlast, happended⟩ := checkChain_accepts_or_first_unlinked 5 sampleRoot [sampleLeaf]
  obtain ⟨_, hrefused, _, _⟩ := checkChain_accepts_or_first_unlinked 11 sampleRoot [sampleLeaf]
  have hne : [sampleLeaf] ≠ [] := List.cons_ne_nil _ _
  refine ⟨haccepted, hlast haccepted sampleLeaf rfl, ⟨hne, (happended hne).mpr haccepted⟩, ?_⟩
  exact (hrefused _).mpr ⟨0, sampleLeaf, rfl, nofun, [], .validity, _, rfl, nofun, ensure_of_not (by decide) _⟩

end RelyingParty.Certificate
