import RelyingParty.Proofs.Assertion.ErrorKinds
import RelyingParty.Proofs.Store.Atomicity
import RelyingParty.Proofs.Store.Provenance
import RelyingParty.Proofs.Store.Refusals

namespace RelyingParty.Store

/-- The verified count leaves the counter of the credential and the ceremony is gone; nothing else is
different. -/
structure Commits (s : Store) (now : UInt64) (c : Ceremony) (credential : Credential) (count : UInt32)
    (s' : Store) : Prop where
  ceremonies : s.ceremonies.Replaces s'.ceremonies c.challengeId (some c) none
  credentials : s.credentials.Replaces s'.credentials credential.rawId (some credential)
    (some { credential with signCounter := count, updatedAt := now })

/-- The store hands out a live ceremony that admits the credential, and the credential that was asked
for. A login that is verified with the two is committed, unless the ceremony is of a registration. -/
theorem verified_login_commits (calls : List TimedCall) (now : UInt64) (challengeId credentialId : Bytes)
    (c : Ceremony) (credential : Credential)
    (h : (empty.run calls).ceremonyAndCredential now challengeId credentialId = .ok (c, credential)) :
    let s := empty.run calls
    (c.challengeId = challengeId ∧ now.toNat < c.expiry ∧
      (c.credentialId = none ∨ c.credentialId = some credentialId) ∧
      credential.rawId = credentialId) ∧
    ∀ (request : AssertionRequest) (challenge : Bytes) (party : Party) (policy : Policy),
      request.credentialId = credentialId →
      request.verify challenge credential party policy ≠ .error .credentialIdMismatch ∧
      ∀ verified, request.verify challenge credential party policy = .ok verified →
        (c.kind = .create → s.moveCounter now credentialId verified.signCounter challengeId =
          (s, .error (.conditionFailed .notLogin))) ∧
        (c.kind = .get → ∃ s', s.moveCounter now credentialId verified.signCounter challengeId =
          (s', .ok ()) ∧ s.Commits now c credential verified.signCounter s') := by
  intro s
  have keyed : s.Keyed := keyed_run calls
  obtain ⟨live, admits, found⟩ := ceremonyAndCredential_eq_ok.mp h
  obtain rfl := keyed.ceremonies live.1
  obtain rfl := keyed.credentials found
  refine ⟨⟨rfl, live.2, admits_iff.mp admits, rfl⟩, ?_⟩
  intro request challenge party policy hid
  refine ⟨?_, ?_⟩
  · intro hmismatch
    exact AssertionRequest.verify_eq_credentialIdMismatch_iff.mp hmismatch hid
  · intro verified hverified
    -- the count was compared with the counter that the store still holds
    have hcounter : credential.signCounter ≤ verified.signCounter :=
      CounterPolicy.le_of_accepts (AssertionRequest.counter_of_verify hverified)
    refine ⟨fun kind => moveCounter_of_create live kind, ?_⟩
    intro kind
    have due : s.LogsIn now credential.rawId c.challengeId c credential := ⟨live, kind, admits, found⟩
    exact ⟨_, moveCounter_of_le due hcounter, Table.replaces_erase live.1,
      Table.replaces_insert found _⟩

def sampleKey : PublicKey :=
  .rsa .rs256 (Bytes.ofNat 64
    0xe7dfa2dfee2f4d1692d4d04fd86ee7075bbff197d1b80f557afbe24bbfcdcb361032d7041fdbc6391aa24c5ab4cf2d132ad9aa2beed7a01d273a9785db1a1ac3)
    [3]

def sampleCounting : Credential :=
  { sampleCredential with publicKey := sampleKey.toCose, signCounter := 5 }

def sampleAssertion (challenge : String) (count signature : Nat) : AssertionRequest where
  clientData := Bytes.ofText
    ("\x7b\"type\":\"webauthn.get\",\"challenge\":\"" ++ challenge ++ "\",\"origin\":\"b\"\x7d")
  payload := .split ((idHash "a").bytes ++ 0x01 :: Bytes.ofNat 4 count) (Bytes.ofNat 64 signature)
  signedClientData := none
  credentialId := [9]
  useSavedAttestedData := false
  appIdExtension := false

def sampleAnswer : AssertionRequest := sampleAssertion "Ag" 6
  0x982e3e82d6ff421105cc1cc894da68bd603e98d13a070a41be435647448c679c42c3cb0fde40dc6d26d7441807642080d6721f32b2aa543fec0ce091a26c8de2

def sampleStrict : Policy := ⟨true, false, .strictlyIncreasing⟩

def sampleAwaiting : List TimedCall :=
  [⟨0, .putCeremony sampleRegistration⟩, ⟨1, .writeCredential sampleRegistration sampleCounting⟩,
    ⟨2, .putCeremony sampleLogin⟩, ⟨2, .putCeremony sampleRegistration⟩]

theorem verified_login_commits_sample :
    sampleAnswer.verify [2] sampleCounting ⟨"a", "b", none⟩ sampleStrict = .ok ⟨6, true, false⟩ ∧
    (∃ s', (empty.run sampleAwaiting).moveCounter 3 [9] 6 [2] = (s', .ok ()) ∧
      (empty.run sampleAwaiting).Commits 3 sampleLogin sampleCounting 6 s') ∧
    (empty.run sampleAwaiting).moveCounter 3 [9] 6 [1] =
      (empty.run sampleAwaiting, .error (.conditionFailed .notLogin)) := by
  have hverified : sampleAnswer.verify [2] sampleCounting ⟨"a", "b", none⟩ sampleStrict =
      .ok ⟨6, true, false⟩ := by decide +kernel
  have hlogin : (empty.run sampleAwaiting).ceremonyAndCredential 3 [2] [9] =
      .ok (sampleLogin, sampleCounting) := rfl
  have hregistration : (empty.run sampleAwaiting).ceremonyAndCredential 3 [1] [9] =
      .ok (sampleRegistration, sampleCounting) := rfl
  obtain ⟨_, login⟩ := verified_login_commits _ _ _ _ _ _ hlogin
  obtain ⟨_, registration⟩ := verified_login_commits _ _ _ _ _ _ hregistration
  obtain ⟨_, committed⟩ := login sampleAnswer [2] _ _ rfl
  obtain ⟨_, declined⟩ := registration sampleAnswer [2] _ _ rfl
  exact ⟨hverified, (committed _ hverified).2 rfl, (declined _ hverified).1 rfl⟩

end RelyingParty.Store
