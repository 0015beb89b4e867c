import Mathlib.Data.List.Induction
import RelyingParty.Authenticator.Data
import RelyingParty.Proofs.Cbor.SelfDelimiting

namespace RelyingParty

/-- A byte string is the big-endian form of its number, at its own width. -/
theorem Bytes.ofNat_toNat (bs : Bytes) : Bytes.ofNat bs.length (Bytes.toNat bs) = bs := by
  induction bs using List.reverseRecOn with
  | nil => rfl
  | append_singleton bs b ih =>
    have hb := b.toNat_lt
    have hquotient : (Bytes.toNat bs * 256 + b.toNat) / 256 = Bytes.toNat bs := by omega
    have hlast : UInt8.ofNat (Bytes.toNat bs * 256 + b.toNat) = b := by
      apply UInt8.toNat_inj.mp
      rw [UInt8.toNat_ofNat']
      omega
    rw [List.length_append, List.length_singleton, Bytes.toNat_append_singleton, Bytes.ofNat,
      hquotient, hlast, ih]

theorem Bytes.ofNat_toNat_of_length {bs : Bytes} {n : Nat} (h : bs.length = n) :
    Bytes.ofNat n (Bytes.toNat bs) = bs := by
  rw [← h]
  exact Bytes.ofNat_toNat bs

namespace AttestedCredential

/-- The credential has an identifier of admissible length and one CBOR item as its key. -/
structure WellFormed (attested : AttestedCredential) : Prop where
  id_le : attested.credentialId.length ≤ maxIdLength
  key : ∃ item, Cbor.decode attested.publicKey = .ok item

variable {attested : AttestedCredential} {bs rest : Bytes}

theorem toBytes_eq_ok : attested.toBytes = .ok bs ↔
    attested.credentialId.length ≤ maxIdLength ∧
      bs = attested.aaguid.bytes ++ Bytes.ofNat 2 attested.credentialId.length
        ++ attested.credentialId ++ attested.publicKey := by
  unfold toBytes
  split
  next h => simp [Nat.not_le_of_lt h]
  next h => simp [Nat.le_of_not_lt h, eq_comm]

/-- The length of an admissible identifier fits its two bytes. -/
theorem WellFormed.toNat_idLength (h : attested.WellFormed) :
    Bytes.toNat (Bytes.ofNat 2 attested.credentialId.length) = attested.credentialId.length := by
  have hid := h.id_le
  have hroom : maxIdLength < Nat.pow 256 2 := by decide
  exact Bytes.toNat_ofNat (Nat.lt_of_le_of_lt hid hroom)

theorem WellFormed.minLength_lt (h : attested.WellFormed) (hbs : attested.toBytes = .ok bs) :
    minLength < bs.length := by
  obtain ⟨_, rfl⟩ := toBytes_eq_ok.mp hbs
  obtain ⟨item, hkey⟩ := h.key
  have hpos := List.length_pos_iff.mpr (Cbor.ne_nil_of_decode hkey)
  simp only [minLength, List.length_append, attested.aaguid.length_eq, Bytes.length_ofNat]
  omega

theorem wellFormed_of_read (h : read bs = .ok (attested, rest)) :
    attested.WellFormed ∧ ∃ front, attested.toBytes = .ok front ∧ bs = front ++ rest := by
  unfold read at h
  split at h
  next => cases h
  next aaguid afterModel hmodel =>
    split at h
    next => cases h
    next length afterLength hlength =>
      split at h
      next => cases h
      next hid =>
        split at h
        next => cases h
        next => cases h
        next credentialId keyed hkeyed hcredential =>
          split at h
          next => cases h
          next item n hkey =>
            obtain ⟨rfl, rfl⟩ := Prod.mk.inj (Except.ok.inj h)
            obtain rfl := FixedBytes.split?_eq_some.mp hmodel
            obtain ⟨rfl, hwidth⟩ := Bytes.split?_eq_some.mp hlength
            obtain ⟨rfl, hsize⟩ := Bytes.split?_eq_some.mp hcredential
            obtain ⟨key, rest, rfl, rfl, hdecode⟩ := Cbor.decodeFirst_eq_ok.mp hkey
            have hle : credentialId.length ≤ maxIdLength := by omega
            refine ⟨⟨hle, item, by simpa using hdecode⟩, _, toBytes_eq_ok.mpr ⟨hle, rfl⟩, ?_⟩
            rw [hsize, Bytes.ofNat_toNat_of_length hwidth]
            simp

theorem read_of_wellFormed {front : Bytes} (h : attested.WellFormed)
    (hfront : attested.toBytes = .ok front) (rest : Bytes) :
    read (front ++ rest) = .ok (attested, rest) := by
  obtain ⟨hle, rfl⟩ := toBytes_eq_ok.mp hfront
  obtain ⟨item, hdecode⟩ := h.key
  have hmodel : FixedBytes.split? 16 (attested.aaguid.bytes
      ++ Bytes.ofNat 2 attested.credentialId.length ++ attested.credentialId ++ attested.publicKey
      ++ rest) = some (attested.aaguid, Bytes.ofNat 2 attested.credentialId.length
        ++ (attested.credentialId ++ (attested.publicKey ++ rest))) :=
    FixedBytes.split?_eq_some.mpr (by simp)
  have hlength : Bytes.split? 2 (Bytes.ofNat 2 attested.credentialId.length
      ++ (attested.credentialId ++ (attested.publicKey ++ rest))) =
        some (Bytes.ofNat 2 attested.credentialId.length,
          attested.credentialId ++ (attested.publicKey ++ rest)) :=
    Bytes.split?_eq_some.mpr ⟨rfl, Bytes.length_ofNat 2 _⟩
  have hkey : Cbor.decodeFirst (attested.publicKey ++ rest) = .ok (item, attested.publicKey.length) :=
    Cbor.decodeFirst_eq_ok.mpr ⟨_, _, rfl, rfl, hdecode⟩
  -- the reader looks at what follows the identifier before it reads the key
  obtain ⟨b, keyed, hkeyed⟩ : ∃ b keyed, attested.publicKey ++ rest = b :: keyed := by
    apply List.exists_cons_of_ne_nil
    simp [Cbor.ne_nil_of_decode hdecode]
  have htake : (b :: keyed).take attested.publicKey.length = attested.publicKey := by
    rw [← hkeyed, List.take_left]
  have hdrop : (b :: keyed).drop attested.publicKey.length = rest := by
    rw [← hkeyed, List.drop_left]
  rw [hkeyed] at hlength hkey
  unfold read
  simp only [hmodel, hkeyed, hlength, h.toNat_idLength, Nat.not_lt.mpr hle, if_false,
    Bytes.split?_append, hkey, htake, hdrop]

theorem read_eq_ok : read bs = .ok (attested, rest) ↔
    attested.WellFormed ∧ ∃ front, attested.toBytes = .ok front ∧ bs = front ++ rest := by
  constructor
  · exact wellFormed_of_read
  · rintro ⟨h, front, hfront, rfl⟩
    exact read_of_wellFormed h hfront rest

end AttestedCredential

namespace AuthenticatorData

/-- The attested credential data is what its flag announces before the bytes `rest`. If it may be
missing, it is so only where its place is too short for it. -/
def AttestedAs (flags : Flags) (mayBeMissing : Bool) (attested : Option AttestedCredential)
    (rest : Bytes) : Prop :=
  if flags.attestedData then
    (∃ credential, attested = some credential ∧ credential.WellFormed) ∨
      mayBeMissing = true ∧ attested = none ∧ rest.length ≤ AttestedCredential.minLength
  else attested = none

def ExtensionsAs (flags : Flags) (extensions : Option Bytes) : Prop :=
  if flags.extensionData then ∃ bs, extensions = some bs ∧ bs ≠ [] else extensions = none

/-- Authenticator data that has the parts that its flags announce. -/
structure WellFormed (data : AuthenticatorData) (mayBeMissing : Bool) : Prop where
  attested : AttestedAs data.flags mayBeMissing data.attested (data.extensions.getD [])
  extensions : ExtensionsAs data.flags data.extensions

def attestedBytes : Option AttestedCredential → Except VerificationError Bytes
  | some attested => attested.toBytes
  | none => .ok []

variable {flags : Flags} {mayBeMissing : Bool} {attested : Option AttestedCredential}
  {extensions : Option Bytes} {data : AuthenticatorData} {bs rest raw : Bytes}

theorem AttestedAs.wellFormed {credential : AttestedCredential}
    (h : AttestedAs flags mayBeMissing attested rest) (hattested : attested = some credential) :
    credential.WellFormed := by
  unfold AttestedAs at h
  subst hattested
  split at h
  next =>
    obtain ⟨_, heq, hwell⟩ | ⟨_, hnone, _⟩ := h
    · exact Option.some.inj heq ▸ hwell
    · cases hnone
  next => cases h

theorem readAttested_eq_ok : readAttested flags mayBeMissing bs = .ok (attested, rest) ↔
    AttestedAs flags mayBeMissing attested rest ∧
      ∃ front, attestedBytes attested = .ok front ∧ bs = front ++ rest := by
  unfold readAttested AttestedAs
  by_cases hflag : flags.attestedData
  · simp only [hflag, if_true]
    constructor
    · intro h
      split at h
      next hlong =>
        obtain ⟨⟨credential, left⟩, hread, h⟩ := bind_eq_ok.mp h
        obtain ⟨rfl, rfl⟩ := Prod.mk.inj (Except.ok.inj h)
        obtain ⟨hwell, hbytes⟩ := AttestedCredential.read_eq_ok.mp hread
        exact ⟨.inl ⟨credential, rfl, hwell⟩, hbytes⟩
      next hshort =>
        split at h
        next hmissing =>
          obtain ⟨rfl, rfl⟩ := Prod.mk.inj (Except.ok.inj h)
          exact ⟨.inr ⟨hmissing, rfl, Nat.le_of_not_lt hshort⟩, [], rfl, rfl⟩
        next => cases h
    · rintro ⟨⟨credential, rfl, hwell⟩ | ⟨hmissing, rfl, hshort⟩, front, hfront, rfl⟩
      · have hlong : AttestedCredential.minLength < (front ++ rest).length := by
          have := hwell.minLength_lt hfront
          rw [List.length_append]
          omega
        rw [if_pos hlong]
        have hread : AttestedCredential.read (front ++ rest) = .ok (credential, rest) :=
          AttestedCredential.read_eq_ok.mpr ⟨hwell, front, hfront, rfl⟩
        exact bind_eq_ok.mpr ⟨(credential, rest), hread, rfl⟩
      · obtain rfl := Except.ok.inj hfront
        rw [List.nil_append, if_neg (Nat.not_lt.mpr hshort), if_pos hmissing]
  · rw [if_neg hflag, if_neg hflag]
    constructor
    · intro h
      obtain ⟨rfl, rfl⟩ := Prod.mk.inj (Except.ok.inj h)
      exact ⟨rfl, [], rfl, rfl⟩
    · rintro ⟨rfl, front, hfront, rfl⟩
      obtain rfl := Except.ok.inj hfront
      rfl

theorem readExtensions_eq_ok : readExtensions flags bs = .ok extensions ↔
    ExtensionsAs flags extensions ∧ bs = extensions.getD [] := by
  unfold readExtensions ExtensionsAs
  by_cases hflag : flags.extensionData
  · rw [if_pos hflag, if_pos hflag]
    cases extensions with
    | none => cases bs <;> simp
    | some bytes =>
      cases bs with
      | nil => simp
      | cons b bs =>
        simp only [List.isEmpty_cons, Bool.false_eq_true, if_false, Except.ok.injEq]
        constructor
        · rintro ⟨⟩
          exact ⟨⟨b :: bs, rfl, List.cons_ne_nil b bs⟩, rfl⟩
        · rintro ⟨_, rfl⟩
          rfl
  · rw [if_neg hflag, if_neg hflag]
    cases extensions with
    | none => cases bs <;> simp
    | some bytes => cases bs <;> simp

theorem toBytes_eq_ok : data.toBytes = .ok raw ↔ ∃ front, attestedBytes data.attested = .ok front ∧
    raw = data.rpIdHash.bytes ++ data.flags.bits :: Bytes.ofNat 4 data.signCounter.toNat
      ++ front ++ data.extensions.getD [] := by
  have hwriter : data.toBytes = attestedBytes data.attested >>= fun front =>
      .ok (data.rpIdHash.bytes ++ data.flags.bits :: Bytes.ofNat 4 data.signCounter.toNat
        ++ front ++ data.extensions.getD []) := by
    unfold toBytes
    cases data.attested <;> rfl
  rw [hwriter, bind_eq_ok]
  simp only [Except.ok.injEq, eq_comm]

theorem counter_bytes (a b c d : UInt8) :
    Bytes.ofNat 4 (UInt32.ofNat (Bytes.toNat [a, b, c, d])).toNat = [a, b, c, d] := by
  have hwidth : Nat.pow 256 4 = 2 ^ 32 := by decide
  have hlt : Bytes.toNat [a, b, c, d] < Nat.pow 256 4 := Bytes.toNat_lt [a, b, c, d]
  rw [hwidth] at hlt
  rw [UInt32.toNat_ofNat', Nat.mod_eq_of_lt hlt]
  exact Bytes.ofNat_toNat [a, b, c, d]

theorem counter_of_bytes (counter : UInt32) :
    UInt32.ofNat (Bytes.toNat (Bytes.ofNat 4 counter.toNat)) = counter := by
  have hlt : counter.toNat < Nat.pow 256 4 := counter.toNat_lt
  rw [Bytes.toNat_ofNat hlt, UInt32.ofNat_toNat]

theorem wellFormed_of_parse (h : parse raw mayBeMissing = .ok data) :
    data.toBytes = .ok raw ∧ data.WellFormed mayBeMissing := by
  unfold parse at h
  split at h
  next rpIdHash bits a b c d rest hfixed =>
    obtain ⟨⟨attested, left⟩, hattested, h⟩ := bind_eq_ok.mp h
    obtain ⟨extensions, hextensions, h⟩ := bind_eq_ok.mp h
    obtain rfl := Except.ok.inj h
    obtain rfl := FixedBytes.split?_eq_some.mp hfixed
    obtain ⟨hannounced, front, hfront, rfl⟩ := readAttested_eq_ok.mp hattested
    obtain ⟨hextended, rfl⟩ := readExtensions_eq_ok.mp hextensions
    refine ⟨toBytes_eq_ok.mpr ⟨front, hfront, ?_⟩, hannounced, hextended⟩
    rw [counter_bytes]
    simp
  next => cases h

theorem parse_of_wellFormed (hraw : data.toBytes = .ok raw) (h : data.WellFormed mayBeMissing) :
    parse raw mayBeMissing = .ok data := by
  obtain ⟨front, hfront, rfl⟩ := toBytes_eq_ok.mp hraw
  obtain ⟨a, b, c, d, hcounter⟩ : ∃ a b c d, Bytes.ofNat 4 data.signCounter.toNat = [a, b, c, d] :=
    ⟨_, _, _, _, rfl⟩
  have hfixed : FixedBytes.split? 32 (data.rpIdHash.bytes ++ data.flags.bits :: [a, b, c, d]
      ++ front ++ data.extensions.getD []) = some (data.rpIdHash,
        data.flags.bits :: a :: b :: c :: d :: (front ++ data.extensions.getD [])) :=
    FixedBytes.split?_eq_some.mpr (by simp)
  have hattested := readAttested_eq_ok.mpr ⟨h.attested, front, hfront, rfl⟩
  have hextensions := readExtensions_eq_ok.mpr ⟨h.extensions, rfl⟩
  unfold parse
  rw [hcounter, hfixed]
  refine bind_eq_ok.mpr ⟨_, hattested, bind_eq_ok.mpr ⟨_, hextensions, ?_⟩⟩
  rw [← hcounter, counter_of_bytes]

theorem WellFormed.exists_toBytes (h : data.WellFormed mayBeMissing) :
    ∃ written, data.toBytes = .ok written := by
  obtain ⟨front, hfront⟩ : ∃ front, attestedBytes data.attested = .ok front := by
    cases hattested : data.attested with
    | none => exact ⟨[], rfl⟩
    | some credential =>
      have hwell := h.attested.wellFormed hattested
      exact ⟨_, AttestedCredential.toBytes_eq_ok.mpr ⟨hwell.id_le, rfl⟩⟩
  exact ⟨_, AuthenticatorData.toBytes_eq_ok.mpr ⟨front, hfront, rfl⟩⟩

/-- Reading accepts exactly what is well formed and written, and each of reading and writing undoes
the other. -/
theorem parse_inverts_toBytes (data : AuthenticatorData) (raw : Bytes) (mayBeMissing : Bool) :
    (parse raw mayBeMissing = .ok data ↔ data.toBytes = .ok raw ∧ data.WellFormed mayBeMissing) ∧
      ((∃ read, parse raw mayBeMissing = .ok read) ↔
        (parse raw mayBeMissing >>= toBytes) = .ok raw) ∧
      (data.WellFormed mayBeMissing ↔
        (data.toBytes >>= fun written => parse written mayBeMissing) = .ok data) := by
  have hexact (read : AuthenticatorData) (bs : Bytes) :
      parse bs mayBeMissing = .ok read ↔ read.toBytes = .ok bs ∧ read.WellFormed mayBeMissing :=
    ⟨wellFormed_of_parse, fun h => parse_of_wellFormed h.1 h.2⟩
  refine ⟨hexact data raw, ?_, ?_⟩
  · constructor
    · rintro ⟨read, hread⟩
      exact bind_eq_ok.mpr ⟨read, hread, ((hexact read raw).mp hread).1⟩
    · intro h
      obtain ⟨read, hread, _⟩ := bind_eq_ok.mp h
      exact ⟨read, hread⟩
  · constructor
    · intro h
      obtain ⟨written, hwritten⟩ := h.exists_toBytes
      exact bind_eq_ok.mpr ⟨written, hwritten, parse_of_wellFormed hwritten h⟩
    · intro h
      obtain ⟨written, _, hread⟩ := bind_eq_ok.mp h
      exact ((hexact data written).mp hread).2

end AuthenticatorData

end RelyingParty
