import RelyingParty.Proofs.Cbor.Record
import RelyingParty.Proofs.Service.UninterruptedLogin

namespace RelyingParty

namespace AssertionPayload

def members (ad signature : Bytes) : List (String × Cbor.Item) :=
  [("authenticatorData", .bytes ad), ("signature", .bytes signature)]

variable {ad signature : Bytes} {entries further : Cbor.Entries}

theorem parts_combined
    (hforeign : ∀ entry ∈ further, Cbor.Entries.Foreign (members ad signature) entry)
    (hperm : entries.Perm (Cbor.Entries.named (members ad signature) ++ further))
    (hfits : (Cbor.Item.map entries).encode.length < UInt64.size) :
    (combined (Cbor.Item.map entries).encode).parts = .ok (ad, signature) := by
  have hmembers : ∀ member ∈ members ad signature, Cbor.Plain (Cbor.depthLimit - 1) member.2 := by
    simp only [members, List.forall_mem_cons]
    exact ⟨.bytes ad, .bytes signature, nofun⟩
  have hnames : ((members ad signature).map Prod.fst).Nodup := by simp [members]
  have hdecode := Cbor.Entries.decodeMap_of_perm hmembers hforeign hperm hfits
  have had : entries.member Cbor.Item.bytes? "authenticatorData" = .ok ad :=
    Cbor.Entries.member_of_perm hnames hforeign hperm (.head _) rfl
  have hsignature : entries.member Cbor.Item.bytes? "signature" = .ok signature :=
    Cbor.Entries.member_of_perm hnames hforeign hperm (.tail _ (.head _)) rfl
  exact bind_eq_ok.mpr ⟨entries, mapError_eq_ok.mpr hdecode,
    bind_eq_ok.mpr ⟨ad, had, bind_eq_ok.mpr ⟨signature, hsignature, rfl⟩⟩⟩

end AssertionPayload

namespace AssertionRequest

/-- A login depends on how its authenticator data and signature were sent only through the two. -/
theorem verify_congr_payload {request : AssertionRequest} {payload other : AssertionPayload}
    (h : payload.parts = other.parts) (challenge : Bytes) (credential : Credential) (party : Party)
    (policy : Policy) :
    { request with payload := payload }.verify challenge credential party policy =
      { request with payload := other }.verify challenge credential party policy := by
  unfold verify verifyUsing
  rw [h]
  rfl

/-- Authenticator data and signature in one map, each once under its name, in any order and among further
entries under other keys, are taken out of it as they were put in, and the login has the outcome that it
has when they are sent apart. The bound says that the number of bytes fits the head of an item. -/
theorem combined_verifies_as_split {ad signature : Bytes} {entries further : Cbor.Entries}
    (hforeign : ∀ entry ∈ further, Cbor.Entries.Foreign (AssertionPayload.members ad signature) entry)
    (hperm : entries.Perm (Cbor.Entries.named (AssertionPayload.members ad signature) ++ further))
    (hfits : (Cbor.Item.map entries).encode.length < UInt64.size) :
    (AssertionPayload.combined (Cbor.Item.map entries).encode).parts = .ok (ad, signature) ∧
      ∀ (request : AssertionRequest) (challenge : Bytes) (credential : Credential) (party : Party)
        (policy : Policy),
        { request with payload := .combined (Cbor.Item.map entries).encode }.verify challenge credential
            party policy =
          { request with payload := .split ad signature }.verify challenge credential party policy := by
  have hparts := AssertionPayload.parts_combined hforeign hperm hfits
  refine ⟨hparts, fun request challenge credential party policy => ?_⟩
  exact verify_congr_payload hparts challenge credential party policy

open Store (sampleAnswer sampleCounting sampleStrict)

def sampleCombined (ad signature : Bytes) : Cbor.Entries :=
  [(.text "signature", .bytes signature), (.unsigned 7, .text "x"), (.text "authenticatorData", .bytes ad)]

theorem combined_verifies_as_split_sample :
    ∃ ad signature, sampleAnswer.payload = .split ad signature ∧
      (AssertionPayload.combined (Cbor.Item.map (sampleCombined ad signature)).encode).parts =
        .ok (ad, signature) ∧
      { sampleAnswer with
        payload := .combined (Cbor.Item.map (sampleCombined ad signature)).encode }.verify [2] sampleCounting
          ⟨"a", "b", none⟩ sampleStrict = .ok ⟨6, true, false⟩ := by
  have hverified : sampleAnswer.verify [2] sampleCounting ⟨"a", "b", none⟩ sampleStrict =
      .ok ⟨6, true, false⟩ := by decide +kernel
  have hforeign (ad signature : Bytes) : ∀ entry ∈ [(Cbor.Item.unsigned 7, Cbor.Item.text "x")],
      Cbor.Entries.Foreign (AssertionPayload.members ad signature) entry :=
    List.forall_mem_singleton.mpr ⟨fun _ _ => nofun, .unsigned 7, .text "x"⟩
  have hperm (ad signature : Bytes) : (sampleCombined ad signature).Perm
      (Cbor.Entries.named (AssertionPayload.members ad signature) ++ [(.unsigned 7, .text "x")]) :=
    List.perm_append_singleton _ [_, _]
  have hcombined {ad signature : Bytes}
      (hfits : (Cbor.Item.map (sampleCombined ad signature)).encode.length < UInt64.size) :=
    combined_verifies_as_split (hforeign ad signature) (hperm ad signature) hfits
  refine ⟨_, _, rfl, (hcombined ?_).1, ((hcombined ?_).2 sampleAnswer _ _ _ _).trans hverified⟩
  all_goals decide +kernel

end AssertionRequest

end RelyingParty
