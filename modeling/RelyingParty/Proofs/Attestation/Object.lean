import RelyingParty.Attestation.Object
import RelyingParty.Proofs.Authenticator.Layout
import RelyingParty.Proofs.Cbor.Record
import RelyingParty.Proofs.Checks

namespace RelyingParty

theorem AttestationFormat.ofName?_eq_some {name : String} {format : AttestationFormat} :
    ofName? name = some format ↔ name = format.name := by
  constructor
  · intro h
    have hname := List.find?_some h
    exact (beq_iff_eq.mp hname).symm
  · rintro rfl
    cases format <;> rfl

namespace Attestation

theorem formatOf_eq_ok {name : String} {format : AttestationFormat} :
    formatOf name = .ok format ↔ name = format.name := by
  rw [← AttestationFormat.ofName?_eq_some]
  unfold formatOf
  cases AttestationFormat.ofName? name <;> simp

theorem Object.ofCbor_eq_ok {bs : Bytes} {object : Object} :
    Object.ofCbor bs = .ok object ↔ ∃ entries, Cbor.decodeMap bs = .ok entries ∧
      (entries.getText? "fmt").bind Cbor.Item.text? = some object.format.name ∧
      (entries.getText? "authData").bind Cbor.Item.bytes? = some object.rawAuthData ∧
      (entries.getText? "attStmt").bind Cbor.Item.map? = some object.entries ∧
      AuthenticatorData.parse object.rawAuthData false = .ok object.authData ∧
      object.authData.attested.isSome = true := by
  have hlast (format : AttestationFormat) (ad : Bytes) (data : AuthenticatorData)
      (statement : Cbor.Entries) :
      (if data.attested.isNone then .error .attestedDataMissing
        else .ok ⟨format, ad, data, statement⟩ : Except VerificationError Object) = .ok object ↔
      data.attested.isSome = true ∧ ⟨format, ad, data, statement⟩ = object := by
    rw [refuse_eq_ensure (q := data.attested.isSome = true) (by simp), ensure_bind_eq_ok,
      Except.ok.injEq]
  unfold ofCbor
  simp only [bind_eq_ok, mapError_eq_ok, Cbor.Entries.member_eq_ok, formatOf_eq_ok, hlast]
  constructor
  · rintro ⟨entries, hentries, name, hname, format, rfl, ad, had, statement, hstatement, data, hdata,
      hattested, rfl⟩
    exact ⟨entries, hentries, hname, had, hstatement, hdata, hattested⟩
  · rintro ⟨entries, hentries, hname, had, hstatement, hdata, hattested⟩
    exact ⟨entries, hentries, _, hname, _, rfl, _, had, _, hstatement, _, hdata, hattested, rfl⟩

namespace Object

/-- The members of the map that an attestation object is written as. -/
def members (format : AttestationFormat) (ad : Bytes) (statement : Cbor.Entries) :
    List (String × Cbor.Item) :=
  [("fmt", .text format.name), ("authData", .bytes ad), ("attStmt", .map statement)]

variable {format : AttestationFormat} {ad : Bytes} {data : AuthenticatorData}
  {statement entries further : Cbor.Entries}

theorem ofCbor_of_perm (hdata : AuthenticatorData.parse ad false = .ok data)
    (hattested : data.attested.isSome = true)
    (hstatement : Cbor.Plain (Cbor.depthLimit - 1) (.map statement))
    (hforeign : ∀ entry ∈ further, Cbor.Entries.Foreign (members format ad statement) entry)
    (hperm : entries.Perm (Cbor.Entries.named (members format ad statement) ++ further))
    (hfits : (Cbor.Item.map entries).encode.length < UInt64.size) :
    ofCbor (Cbor.Item.map entries).encode = .ok ⟨format, ad, data, statement⟩ := by
  have hmembers : ∀ member ∈ members format ad statement, Cbor.Plain (Cbor.depthLimit - 1) member.2 := by
    simp only [members, List.forall_mem_cons]
    exact ⟨.text format.name, .bytes ad, hstatement, nofun⟩
  have hnames : ((members format ad statement).map Prod.fst).Nodup := by simp [members]
  have hget {name : String} {item : Cbor.Item} (h : (name, item) ∈ members format ad statement) :
      entries.getText? name = some item := Cbor.Entries.getText?_of_perm hnames hforeign hperm h
  refine ofCbor_eq_ok.mpr ⟨entries, Cbor.Entries.decodeMap_of_perm hmembers hforeign hperm hfits, ?_, ?_,
    ?_, hdata, hattested⟩
  · rw [hget (.head _)]
    rfl
  · rw [hget (.tail _ (.head _))]
    rfl
  · rw [hget (.tail _ (.tail _ (.head _)))]
    rfl

/-- A map of a format, of authenticator data with an attested credential and of a statement, in any order
among further entries under other keys, is read as just these; the bound says that the number of bytes fits
the head of an item. Whatever is read states authenticator data that holds an attested credential and is
written as the bytes that signatures cover. -/
theorem reads_back_and_writes_back :
    (∀ (format : AttestationFormat) (ad : Bytes) (data : AuthenticatorData)
      (statement entries further : Cbor.Entries), AuthenticatorData.parse ad false = .ok data →
      data.attested.isSome = true → Cbor.Plain (Cbor.depthLimit - 1) (.map statement) →
      (∀ entry ∈ further, Cbor.Entries.Foreign (members format ad statement) entry) →
      entries.Perm (Cbor.Entries.named (members format ad statement) ++ further) →
      (Cbor.Item.map entries).encode.length < UInt64.size →
        ofCbor (Cbor.Item.map entries).encode = .ok ⟨format, ad, data, statement⟩) ∧
    ∀ bs object, ofCbor bs = .ok object →
      AuthenticatorData.parse object.rawAuthData false = .ok object.authData ∧
        object.authData.attested.isSome = true ∧
        object.authData.toBytes = .ok object.rawAuthData := by
  refine ⟨fun _ _ _ _ _ _ hdata hattested hstatement hforeign hperm hfits =>
    ofCbor_of_perm hdata hattested hstatement hforeign hperm hfits, fun bs object h => ?_⟩
  obtain ⟨_, _, _, _, _, hparse, hattested⟩ := ofCbor_eq_ok.mp h
  exact ⟨hparse, hattested, (AuthenticatorData.wellFormed_of_parse hparse).1⟩

def sampleData : AuthenticatorData :=
  ⟨⟨List.replicate 32 7, rfl⟩, ⟨0x41⟩, 5, some ⟨⟨List.replicate 16 4, rfl⟩, [9], [0xa0]⟩, none⟩

def sampleRaw : Bytes :=
  List.replicate 32 7 ++ 0x41 :: [0, 0, 0, 5] ++ List.replicate 16 4 ++ [0, 1, 9, 0xa0]

def sampleStatement : Cbor.Entries :=
  [(.text "x5c", .array [.bytes [1, 2]]), (.text "alg", .negative 6)]

theorem reads_back_and_writes_back_sample :
    ofCbor (Cbor.Item.map [(.text "ver", .unsigned 1), (.text "attStmt", .map sampleStatement),
      (.text "authData", .bytes sampleRaw), (.text "fmt", .text "packed")]).encode =
        .ok ⟨.packed, sampleRaw, sampleData, sampleStatement⟩ ∧
      sampleData.toBytes = .ok sampleRaw := by
  have hdata : AuthenticatorData.parse sampleRaw false = .ok sampleData := by decide +kernel
  have hstatement : Cbor.Plain (Cbor.depthLimit - 1) (.map sampleStatement) := by
    refine .map ?_ ?_
    · simp only [sampleStatement, List.forall_mem_cons]
      exact ⟨.text "x5c", .text "alg", nofun⟩
    · simp only [sampleStatement, List.forall_mem_cons]
      exact ⟨.array (List.forall_mem_singleton.mpr (.bytes [1, 2])), .negative 6, nofun⟩
  have hforeign : ∀ entry ∈ [(Cbor.Item.text "ver", Cbor.Item.unsigned 1)],
      Cbor.Entries.Foreign (members .packed sampleRaw sampleStatement) entry := by
    refine List.forall_mem_singleton.mpr ⟨?_, .text "ver", .unsigned 1⟩
    simp [members]
  have hread := reads_back_and_writes_back.1 .packed sampleRaw sampleData sampleStatement _ _ hdata rfl
    hstatement hforeign (List.reverse_perm _) (by decide +kernel)
  exact ⟨hread, (reads_back_and_writes_back.2 _ _ hread).2.2⟩

end Object

end Attestation

end RelyingParty
