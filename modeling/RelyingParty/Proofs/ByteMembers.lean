import RelyingParty.Ceremony.Basic
import RelyingParty.Credential
import RelyingParty.Proofs.ClientData.Members
import RelyingParty.Proofs.Json.ByteString

namespace RelyingParty

open Json

variable {bs : Bytes} {name text : String} {held : Option Bytes}

namespace Credential

theorem lawful : format.Lawful where
  independent := by
    simp only [format, List.pairwise_cons, List.forall_mem_cons, List.not_mem_nil, false_implies,
      implies_true, List.Pairwise.nil, and_true]
    refine ⟨⟨?_, ?_, ?_, ?_, ?_, ?_, ?_, ?_, ?_⟩, ⟨?_, ?_, ?_, ?_, ?_, ?_, ?_, ?_⟩, ⟨?_, ?_, ?_, ?_, ?_, ?_, ?_⟩,
      ⟨?_, ?_, ?_, ?_, ?_, ?_⟩, ⟨?_, ?_, ?_, ?_, ?_⟩, ⟨?_, ?_, ?_, ?_⟩, ⟨?_, ?_, ?_⟩, ⟨?_, ?_⟩, ?_⟩
    all_goals exact ⟨by decide, fun _ _ => rfl, fun _ _ => rfl, fun _ _ _ => rfl⟩
  get_set := by
    simp only [format, List.forall_mem_cons, List.not_mem_nil, false_implies, implies_true, and_true]
  skims := by
    simp only [format, List.forall_mem_cons, List.not_mem_nil, false_implies, implies_true, and_true]
    exact ⟨skims_readBytes, skims_readBytes, skims_readVariant _, skims_readFixedBytes 16, skims_readUInt32,
      skims_readBool, skims_readOptional skims_readBytes, skims_readText, skims_readUInt64, skims_readUInt64⟩
  unset := by
    simp only [format, List.forall_mem_cons, List.not_mem_nil, false_implies, implies_true, and_true]
    exact ⟨rfl, rfl, rfl, rfl, rfl, rfl, rfl, rfl, rfl, rfl⟩

theorem build_eq_ok {draft : Draft} {c : Credential} (h : format.build draft = .ok c) :
    draft.rawId = some c.rawId ∧ draft.publicKey = some c.publicKey ∧ draft.aaguid = some c.aaguid ∧
      draft.receipt.join = c.receipt := by
  obtain ⟨rawId, hrawId, h⟩ := bind_eq_ok.mp h
  obtain ⟨publicKey, hpublicKey, h⟩ := bind_eq_ok.mp h
  obtain ⟨attestationType, _, h⟩ := bind_eq_ok.mp h
  obtain ⟨aaguid, haaguid, h⟩ := bind_eq_ok.mp h
  obtain ⟨signCounter, _, h⟩ := bind_eq_ok.mp h
  obtain ⟨sessionId, _, h⟩ := bind_eq_ok.mp h
  obtain ⟨createdAt, _, h⟩ := bind_eq_ok.mp h
  obtain ⟨updatedAt, _, h⟩ := bind_eq_ok.mp h
  cases h
  exact ⟨required_eq_ok hrawId, required_eq_ok hpublicKey, required_eq_ok haaguid, rfl⟩

def byteNames : List String := ["raw_id", "public_key", "aaguid", "receipt"]

/-- The byte strings of a credential and the names under which they are stored. -/
def byteMembers (c : Credential) : List (String × Option Bytes) :=
  byteNames.zip [some c.rawId, some c.publicKey, some c.aaguid.bytes, c.receipt]

theorem decoded_of_writes {c : Credential} (hmember : (name, held) ∈ c.byteMembers)
    (hwrites : Writes format.names name text bs) (h : ofJson bs = .ok c) :
    ∃ bytes, held = some bytes ∧ Base64.decodeUrl? text = some bytes := by
  simp only [byteMembers, byteNames, List.zip_cons_cons, List.zip_nil_left, List.mem_cons, Prod.mk.injEq,
    List.not_mem_nil, or_false] at hmember
  obtain ⟨rfl, rfl⟩ | ⟨rfl, rfl⟩ | ⟨rfl, rfl⟩ | ⟨rfl, rfl⟩ := hmember
  · obtain ⟨draft, bytes, hbuild, hget, hmeans⟩ :=
      lawful.value_of_writes (.head _) readsTexts_readBytes hwrites h
    obtain ⟨hbytes, _⟩ := build_eq_ok hbuild
    exact ⟨bytes, hbytes.symm.trans hget, hmeans⟩
  · obtain ⟨draft, bytes, hbuild, hget, hmeans⟩ :=
      lawful.value_of_writes (.tail _ (.head _)) readsTexts_readBytes hwrites h
    obtain ⟨_, hbytes, _⟩ := build_eq_ok hbuild
    exact ⟨bytes, hbytes.symm.trans hget, hmeans⟩
  · obtain ⟨draft, b, hbuild, hget, hmeans⟩ :=
      lawful.value_of_writes (.tail _ (.tail _ (.tail _ (.head _)))) (readsTexts_readFixedBytes 16) hwrites h
    obtain ⟨_, _, hbytes, _⟩ := build_eq_ok hbuild
    cases hbytes.symm.trans hget
    exact ⟨_, rfl, hmeans⟩
  · obtain ⟨draft, _, hbuild, hget, bytes, rfl, hmeans⟩ :=
      lawful.value_of_writes (.tail _ (.tail _ (.tail _ (.tail _ (.tail _ (.tail _ (.head _)))))))
        (readsTexts_readOptional readsTexts_readBytes) hwrites h
    obtain ⟨_, _, _, hbytes⟩ := build_eq_ok hbuild
    rw [show draft.receipt = _ from hget] at hbytes
    exact ⟨bytes, hbytes.symm, hmeans⟩

end Credential

namespace Ceremony

theorem lawful : format.Lawful where
  independent := by
    simp only [format, List.pairwise_cons, List.forall_mem_cons, List.not_mem_nil, false_implies,
      implies_true, List.Pairwise.nil, and_true]
    refine ⟨⟨?_, ?_, ?_, ?_, ?_⟩, ⟨?_, ?_, ?_, ?_⟩, ⟨?_, ?_, ?_⟩, ⟨?_, ?_⟩, ?_⟩
    all_goals exact ⟨by decide, fun _ _ => rfl, fun _ _ => rfl, fun _ _ _ => rfl⟩
  get_set := by
    simp only [format, List.forall_mem_cons, List.not_mem_nil, false_implies, implies_true, and_true]
  skims := by
    simp only [format, List.forall_mem_cons, List.not_mem_nil, false_implies, implies_true, and_true]
    exact ⟨skims_readBytes, skims_readText, skims_readOptional skims_readBytes, skims_readVariant _,
      skims_readUInt64, skims_readUInt64⟩
  unset := by
    simp only [format, List.forall_mem_cons, List.not_mem_nil, false_implies, implies_true, and_true]
    exact ⟨rfl, rfl, rfl, rfl, rfl, rfl⟩

theorem build_eq_ok {draft : Draft} {c : Ceremony} (h : format.build draft = .ok c) :
    draft.challengeId = some c.challengeId ∧ draft.credentialId.join = c.credentialId := by
  obtain ⟨challengeId, hchallengeId, h⟩ := bind_eq_ok.mp h
  obtain ⟨sessionId, _, h⟩ := bind_eq_ok.mp h
  obtain ⟨kind, _, h⟩ := bind_eq_ok.mp h
  obtain ⟨createdAt, _, h⟩ := bind_eq_ok.mp h
  obtain ⟨ttl, _, h⟩ := bind_eq_ok.mp h
  cases h
  exact ⟨required_eq_ok hchallengeId, rfl⟩

def byteNames : List String := ["challenge_id", "credential_id"]

/-- The byte strings of a ceremony and the names under which they are stored. -/
def byteMembers (c : Ceremony) : List (String × Option Bytes) :=
  byteNames.zip [some c.challengeId, c.credentialId]

theorem decoded_of_writes {c : Ceremony} (hmember : (name, held) ∈ c.byteMembers)
    (hwrites : Writes format.names name text bs) (h : ofJson bs = .ok c) :
    ∃ bytes, held = some bytes ∧ Base64.decodeUrl? text = some bytes := by
  simp only [byteMembers, byteNames, List.zip_cons_cons, List.zip_nil_left, List.mem_cons, Prod.mk.injEq,
    List.not_mem_nil, or_false] at hmember
  obtain ⟨rfl, rfl⟩ | ⟨rfl, rfl⟩ := hmember
  · obtain ⟨draft, bytes, hbuild, hget, hmeans⟩ :=
      lawful.value_of_writes (.head _) readsTexts_readBytes hwrites h
    obtain ⟨hbytes, _⟩ := build_eq_ok hbuild
    exact ⟨bytes, hbytes.symm.trans hget, hmeans⟩
  · obtain ⟨draft, _, hbuild, hget, bytes, rfl, hmeans⟩ :=
      lawful.value_of_writes (.tail _ (.tail _ (.head _))) (readsTexts_readOptional readsTexts_readBytes) hwrites h
    obtain ⟨_, hbytes⟩ := build_eq_ok hbuild
    rw [show draft.credentialId = _ from hget] at hbytes
    exact ⟨bytes, hbytes.symm, hmeans⟩

end Ceremony

namespace ClientData

/-- The challenge is a text among the members, and is decoded when all of them are read. -/
theorem decoded_of_writes {d : ClientData} (hwrites : Writes format.names "challenge" text bs)
    (h : ofJson bs = .ok d) : Base64.decodeUrl? text = some d.challenge := by
  unfold ofJson at h
  split at h
  next => cases h
  next challenge made hread =>
    obtain ⟨draft, b, hbuild, hget, hmeans⟩ :=
      lawful.value_of_writes (.tail _ (.head _)) readsTexts_readText hwrites hread
    obtain ⟨_, hchallenge, _, hmade⟩ := build_eq_ok hbuild
    subst hmeans
    obtain rfl := Option.some.inj (hchallenge.symm.trans hget)
    split at h
    next bytes hdecode =>
      cases h
      rw [hdecode, hmade]
    next => cases h

end ClientData

end RelyingParty
