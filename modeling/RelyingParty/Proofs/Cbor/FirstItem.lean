import RelyingParty.Proofs.Authenticator.Layout
import RelyingParty.Proofs.Checks

namespace RelyingParty

namespace Cbor

variable {bs front : Bytes} {item item' : Item} {n : Nat}

/-- An item spans a byte string if the first one ends where it does; else the bytes behind it are counted. -/
theorem decode_eq (bs : Bytes) : decode bs = decodeFirst bs >>= fun first =>
    if first.2 = bs.length then .ok first.1 else .error (.trailing (bs.length - first.2)) := by
  unfold decode decodeFirst
  cases hread : readItem depthLimit bs with
  | error e => rfl
  | ok read =>
    obtain ⟨item, rest⟩ := read
    obtain ⟨front, rfl, _⟩ := (readItem_readsItem depthLimit).toLocal.takes hread
    have htaken : (front ++ rest).length - rest.length = front.length := by simp
    have hleft : (front ++ rest).length - front.length = rest.length := by simp
    rw [ok_bind, ok_bind, ok_bind]
    simp only
    rw [htaken, hleft]
    cases rest with
    | nil => simp
    | cons b rest => exact (if_neg (by simp)).symm

theorem decode_eq_ok_iff_decodeFirst : decode bs = .ok item ↔ decodeFirst bs = .ok (item, bs.length) := by
  rw [decode_eq, bind_eq_ok]
  constructor
  · rintro ⟨⟨first, n⟩, hfirst, h⟩
    split at h
    next hspan =>
      change n = bs.length at hspan
      obtain rfl := Except.ok.inj h
      rw [hfirst, hspan]
    next => cases h
  · intro h
    exact ⟨(item, bs.length), h, if_pos rfl⟩

theorem decode_eq_trailing (h : decodeFirst bs = .ok (item, n)) (hlt : n < bs.length) :
    decode bs = .error (.trailing (bs.length - n)) := by
  rw [decode_eq, h]
  exact if_neg (Nat.ne_of_lt hlt)

theorem decodeFirst_append (h : decode front = .ok item) (more : Bytes) :
    decodeFirst (front ++ more) = .ok (item, front.length) :=
  decodeFirst_eq_ok.mpr ⟨front, more, rfl, rfl, h⟩

theorem take_of_decodeFirst (h : decodeFirst bs = .ok (item, n)) :
    0 < n ∧ n ≤ bs.length ∧ decode (bs.take n) = .ok item := by
  obtain ⟨front, rest, rfl, rfl, hdecode⟩ := decodeFirst_eq_ok.mp h
  have hpos := List.length_pos_iff.mpr (ne_nil_of_decode hdecode)
  rw [List.take_left]
  exact ⟨hpos, by simp, hdecode⟩

/-- Where two items begin a byte string alike, one of them is the other. -/
theorem eq_of_isPrefix (h : decode front = .ok item) (h' : decode bs = .ok item') (hbegins : front <+: bs) :
    front = bs := by
  obtain ⟨more, rfl⟩ := hbegins
  have hfront := decodeFirst_append h more
  have hwhole := decode_eq_ok_iff_decodeFirst.mp h'
  have hlength := (Prod.mk.inj (Except.ok.inj (hfront.symm.trans hwhole))).2
  rw [List.length_append] at hlength
  obtain rfl := List.eq_nil_of_length_eq_zero (by omega : more.length = 0)
  rw [List.append_nil]

end Cbor

namespace AuthenticatorData

variable {raw : Bytes} {mayBeMissing : Bool} {data : AuthenticatorData} {credential : AttestedCredential}

/-- The bytes before the key are 37 fixed ones, 16 for the model, two for the length of the identifier, and
the identifier. Behind the key stand the extensions. -/
theorem key_place (h : parse raw mayBeMissing = .ok data) (hattested : data.attested = some credential) :
    raw.drop (55 + credential.credentialId.length) = credential.publicKey ++ data.extensions.getD [] := by
  obtain ⟨front, hfront, hraw⟩ := toBytes_eq_ok.mp (wellFormed_of_parse h).1
  rw [hattested] at hfront
  obtain ⟨_, rfl⟩ := AttestedCredential.toBytes_eq_ok.mp hfront
  let before := data.rpIdHash.bytes ++ data.flags.bits :: Bytes.ofNat 4 data.signCounter.toNat
    ++ credential.aaguid.bytes ++ Bytes.ofNat 2 credential.credentialId.length ++ credential.credentialId
  have hbefore : before.length = 55 + credential.credentialId.length := by
    simp only [before, List.length_append, List.length_cons, data.rpIdHash.length_eq,
      credential.aaguid.length_eq, Bytes.length_ofNat]
  have hsplit : raw = before ++ (credential.publicKey ++ data.extensions.getD []) := by
    rw [hraw]
    simp [before]
  rw [hsplit, ← hbefore, List.drop_left]

/-- The key of a credential is the first item where it stands, and the same item alone. -/
theorem key_alone (h : parse raw mayBeMissing = .ok data) (hattested : data.attested = some credential) :
    ∃ item, Cbor.decodeFirst (raw.drop (55 + credential.credentialId.length)) =
      .ok (item, credential.publicKey.length) ∧ Cbor.decode credential.publicKey = .ok item := by
  have hwell := (wellFormed_of_parse h).2.attested.wellFormed hattested
  obtain ⟨item, hkey⟩ := hwell.key
  rw [key_place h hattested]
  exact ⟨item, Cbor.decodeFirst_append hkey _, hkey⟩

end AuthenticatorData

namespace Cbor

/-- The bytes of the first item are that item alone and before whatever follows; further bytes are what
keeps a byte string from being an item, and are counted. No item begins a longer one, and the key of a
credential means alone what it means among the authenticator data. -/
theorem items_delimit_themselves (bs : Bytes) :
    (∀ item n, decodeFirst bs = .ok (item, n) →
      0 < n ∧ n ≤ bs.length ∧ decode (bs.take n) = .ok item ∧
      (∀ more, decodeFirst (bs.take n ++ more) = .ok (item, n)) ∧
      (n < bs.length → ∃ e, decode bs = .error e ∧
        e.message = toString (bs.length - n) ++ " trailing bytes after CBOR item")) ∧
    (∀ item, decode bs = .ok item ↔ decodeFirst bs = .ok (item, bs.length)) ∧
    (∀ front item item', decode front = .ok item → decode bs = .ok item' → front <+: bs → front = bs) ∧
    ∀ mayBeMissing data credential, AuthenticatorData.parse bs mayBeMissing = .ok data →
      data.attested = some credential →
      ∃ item, decodeFirst (bs.drop (55 + credential.credentialId.length)) =
          .ok (item, credential.publicKey.length) ∧
        (bs.drop (55 + credential.credentialId.length)).take credential.publicKey.length =
          credential.publicKey ∧
        decode credential.publicKey = .ok item := by
  refine ⟨fun item n h => ?_, fun _ => decode_eq_ok_iff_decodeFirst, ?_, ?_⟩
  · obtain ⟨hpos, hle, hdecode⟩ := take_of_decodeFirst h
    refine ⟨hpos, hle, hdecode, fun more => ?_, fun hlt => ⟨_, decode_eq_trailing h hlt, rfl⟩⟩
    have hfirst := decodeFirst_append hdecode more
    rwa [List.length_take_of_le hle] at hfirst
  · intro front item item' hfront hbs hbegins
    exact eq_of_isPrefix hfront hbs hbegins
  · intro mayBeMissing data credential hparse hattested
    obtain ⟨item, hfirst, hkey⟩ := AuthenticatorData.key_alone hparse hattested
    refine ⟨item, hfirst, ?_, hkey⟩
    rw [AuthenticatorData.key_place hparse hattested, List.take_left]

/-- A map of indefinite length with a number and the length of a segment in more bytes than they need, and
two bytes behind it. -/
def sampleIndefinite : Bytes :=
  [0xbf, 0x18, 0x01, 0x5f, 0x41, 0xaa, 0x59, 0x00, 0x01, 0xbb, 0xff, 0xff, 0x00, 0x01]

def sampleKeyed : AttestedCredential := ⟨⟨List.replicate 16 0x19, rfl⟩, [9], [0xbf, 0xff]⟩

def sampleKeyedData : Bytes :=
  List.replicate 32 0x17 ++ 0xc1 :: [0, 0, 0, 5] ++ List.replicate 16 0x19 ++ [0, 1, 9, 0xbf, 0xff, 0xa0]

theorem items_delimit_themselves_sample :
    decodeFirst sampleIndefinite = .ok (.map [(.unsigned 1, .bytes [0xaa, 0xbb])], 12) ∧
    decode (sampleIndefinite.take 12) = .ok (.map [(.unsigned 1, .bytes [0xaa, 0xbb])]) ∧
    decodeFirst (sampleIndefinite.take 12 ++ [0xf6]) = .ok (.map [(.unsigned 1, .bytes [0xaa, 0xbb])], 12) ∧
    (∃ e, decode sampleIndefinite = .error e ∧ e.message = "2 trailing bytes after CBOR item") ∧
    ∃ item, decodeFirst (sampleKeyedData.drop 56) = .ok (item, 2) ∧ decode [0xbf, 0xff] = .ok item := by
  have hfirst : decodeFirst sampleIndefinite = .ok (.map [(.unsigned 1, .bytes [0xaa, 0xbb])], 12) := rfl
  have hparse : AuthenticatorData.parse sampleKeyedData false =
      .ok ⟨⟨List.replicate 32 0x17, rfl⟩, ⟨0xc1⟩, 5, some sampleKeyed, some [0xa0]⟩ := by decide +kernel
  obtain ⟨_, _, halone, hbefore, hbehind⟩ := (items_delimit_themselves sampleIndefinite).1 _ _ hfirst
  obtain ⟨item, hplace, _, hkey⟩ := (items_delimit_themselves sampleKeyedData).2.2.2 _ _ _ hparse rfl
  exact ⟨hfirst, halone, hbefore _, hbehind (by decide), item, hplace, hkey⟩

end Cbor

end RelyingParty
