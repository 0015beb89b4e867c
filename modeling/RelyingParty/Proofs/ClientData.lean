import RelyingParty.Assertion
import RelyingParty.Proofs.ClientData.Verification
import RelyingParty.Registration

namespace RelyingParty

def Answers (clientData challenge : Bytes) : Prop :=
  ∃ decoded, ClientData.ofJson clientData = .ok decoded ∧ decoded.challenge = challenge

theorem RegistrationRequest.answers_of_verify {request : RegistrationRequest} {challenge : Bytes}
    {party : Party} {settings : RegistrationSettings} {now : UInt64} {credential : Credential}
    (h : request.verify challenge party settings now = .ok credential) :
    Answers request.clientData challenge := by
  unfold verify at h
  obtain ⟨decoded, hdecoded, h⟩ := bind_eq_ok.mp h
  obtain ⟨_, hcheck, _⟩ := bind_eq_ok.mp h
  exact ⟨decoded, hdecoded, (ClientData.check_eq_ok.mp hcheck).challenge⟩

theorem AssertionRequest.answers_of_verify {request : AssertionRequest} {challenge : Bytes}
    {credential : Credential} {party : Party} {policy : Policy} {verified : VerifiedAssertion}
    (h : request.verify challenge credential party policy = .ok verified) :
    Answers request.clientData challenge := by
  unfold verify verifyUsing at h
  split at h
  next => simp at h
  next =>
    obtain ⟨_, _, h⟩ := bind_eq_ok.mp h
    obtain ⟨decoded, hdecoded, h⟩ := bind_eq_ok.mp h
    obtain ⟨_, hcheck, _⟩ := bind_eq_ok.mp h
    exact ⟨decoded, hdecoded, (ClientData.check_eq_ok.mp hcheck).challenge⟩

end RelyingParty
