import RelyingParty.Proofs.Access.Elements

namespace RelyingParty

/-- A reading by places in place of one by cuts: the bytes that are left are told by where they begin. -/
def Bytes.placed {ε α : Type} (bs : Bytes) : Except ε (α × Bytes) → Except ε (α × Nat)
  | .ok (x, rest) => .ok (x, bs.length - rest.length)
  | .error e => .error e

/-- The bytes that are left begin where the bytes that were read end. -/
theorem Bytes.placed_ok {ε α : Type} {bs front left : Bytes} (x : α) (h : bs = front ++ left) :
    bs.placed (.ok (x, left) : Except ε (α × Bytes)) = .ok (x, front.length) := by
  rw [h, placed, List.length_append, Nat.add_sub_cancel]

namespace AttestedCredential

/-- The credential whose model and length of the identifier have been read, and the place behind its key. -/
def readSizedByPlace (aaguid : FixedBytes 16) (length : Nat) (bs : Bytes) :
    Access (Except VerificationError (AttestedCredential × Nat)) :=
  if maxIdLength < length then .ok (.error (.credentialIdTooLong length))
  else
    let keyStart := minLength + length
    if bs.length ≤ keyStart then .ok (.error .tooShort)
    else do
      let credentialId ← bs.slice minLength keyStart
      let keyed ← bs.sliceFrom keyStart
      match ← Cbor.decodeFirstByPlace keyed with
      | .ok (_, keyLength) => do
        let publicKey ← bs.slice keyStart (keyStart + keyLength)
        .ok (.ok (⟨aaguid, credentialId, publicKey⟩, keyStart + keyLength))
      | .error cause => .ok (.error (.malformedCbor cause))

/-- The attested credential data at the front of a byte string, and the place behind it. -/
def readByPlace (bs : Bytes) : Access (Except VerificationError (AttestedCredential × Nat)) := do
  let model ← bs.slice 0 16
  let aaguid ← FixedBytes.copy 16 model
  let high ← bs.byteAt 16
  let low ← bs.byteAt 17
  readSizedByPlace aaguid (Bytes.toNat [high, low]) bs

variable {bs front rest credentialId keyed : Bytes} {aaguid : FixedBytes 16} {length : Nat}

theorem readSizedByPlace_of_short (hid : length ≤ maxIdLength) (h : bs.length ≤ minLength + length) :
    readSizedByPlace aaguid length bs = .ok (.error .tooShort) := by
  rw [readSizedByPlace, if_neg (Nat.not_lt.mpr hid)]
  exact if_pos h

/-- The item of a key takes no more bytes than there are behind the identifier. -/
theorem readSizedByPlace_of_keyed (hid : credentialId.length ≤ maxIdLength)
    (hfront : front.length = minLength) (hkeyed : keyed ≠ []) :
    readSizedByPlace aaguid credentialId.length (front ++ (credentialId ++ keyed)) =
      .ok ((front ++ (credentialId ++ keyed)).placed (match Cbor.decodeFirst keyed with
        | .error cause => .error (.malformedCbor cause)
        | .ok (_, n) => .ok (⟨aaguid, credentialId, keyed.take n⟩, keyed.drop n))) := by
  have hroom : ¬ (front ++ (credentialId ++ keyed)).length ≤ minLength + credentialId.length := by
    have hpos := List.length_pos_iff.mpr hkeyed
    simp only [List.length_append]
    omega
  have hslice : (front ++ (credentialId ++ keyed)).slice minLength (minLength + credentialId.length) =
      .ok credentialId := Bytes.slice_eq_ok.mpr ⟨front, keyed, rfl, hfront, rfl⟩
  have hbehind : (front ++ (credentialId ++ keyed)).sliceFrom (minLength + credentialId.length) =
      .ok keyed := Bytes.sliceFrom_eq_ok.mpr ⟨front ++ credentialId, by simp, by simp [hfront]⟩
  rw [readSizedByPlace, if_neg (Nat.not_lt.mpr hid)]
  simp only
  rw [if_neg hroom, hslice, ok_bind, hbehind, ok_bind, Cbor.decodeFirstByPlace_eq, ok_bind]
  cases hfirst : Cbor.decodeFirst keyed with
  | error cause => rfl
  | ok first =>
    obtain ⟨item, n⟩ := first
    -- No test of the length protects this slice, only that an item is the front of what stands there.
    obtain ⟨key, left, rfl, rfl, _⟩ := Cbor.decodeFirst_eq_ok.mp hfirst
    have hkey : (front ++ (credentialId ++ (key ++ left))).slice (minLength + credentialId.length)
        (minLength + credentialId.length + key.length) = .ok key :=
      Bytes.slice_eq_ok.mpr ⟨front ++ credentialId, left, by simp, by simp [hfront], rfl⟩
    have hwhole : front ++ (credentialId ++ (key ++ left)) = front ++ credentialId ++ key ++ left := by simp
    simp only
    rw [hkey, ok_bind, List.take_left, List.drop_left, Bytes.placed_ok _ hwhole]
    simp only [List.length_append, hfront]

theorem readSizedByPlace_eq (hfront : front.length = minLength) :
    readSizedByPlace aaguid length (front ++ rest) = .ok ((front ++ rest).placed
      (if maxIdLength < length then .error (.credentialIdTooLong length)
      else match Bytes.split? length rest with
        | none => .error .tooShort
        | some (_, []) => .error .tooShort
        | some (credentialId, rest) => match Cbor.decodeFirst rest with
          | .error cause => .error (.malformedCbor cause)
          | .ok (_, n) => .ok (⟨aaguid, credentialId, rest.take n⟩, rest.drop n))) := by
  by_cases hid : maxIdLength < length
  · rw [readSizedByPlace, if_pos hid, if_pos hid]
    rfl
  · rw [if_neg hid]
    cases hsplit : rest.split? length with
    | none =>
      have hshort := Bytes.split?_eq_none.mp hsplit
      exact readSizedByPlace_of_short (by omega) (by rw [List.length_append]; omega)
    | some cut =>
      obtain ⟨credentialId, keyed⟩ := cut
      obtain ⟨rfl, rfl⟩ := Bytes.split?_eq_some.mp hsplit
      cases keyed with
      | nil =>
        refine readSizedByPlace_of_short (by omega) ?_
        rw [List.append_nil, List.length_append]
        omega
      | cons b keyed => exact readSizedByPlace_of_keyed (by omega) hfront (List.cons_ne_nil b keyed)

theorem readByPlace_append (aaguid : FixedBytes 16) (high low : UInt8) (rest : Bytes) :
    readByPlace (aaguid.bytes ++ high :: low :: rest) =
      readSizedByPlace aaguid (Bytes.toNat [high, low]) (aaguid.bytes ++ high :: low :: rest) := by
  have hmodel : (aaguid.bytes ++ high :: low :: rest).slice 0 16 = .ok aaguid.bytes :=
    Bytes.slice_eq_ok.mpr ⟨[], high :: low :: rest, rfl, rfl, by rw [aaguid.length_eq]⟩
  have hhigh : (aaguid.bytes ++ high :: low :: rest).byteAt 16 = .ok high :=
    Bytes.byteAt_append 0 aaguid.length_eq rfl
  have hlow : (aaguid.bytes ++ high :: low :: rest).byteAt 17 = .ok low :=
    Bytes.byteAt_append 1 aaguid.length_eq rfl
  rw [readByPlace, hmodel, ok_bind, FixedBytes.copy_bytes, ok_bind, hhigh, ok_bind, hlow, ok_bind]

theorem exists_of_minLength_le (h : minLength ≤ bs.length) :
    ∃ (aaguid : FixedBytes 16) (high low : UInt8) (rest : Bytes),
      bs = aaguid.bytes ++ high :: low :: rest := by
  have hlength : 18 ≤ bs.length := h
  refine ⟨⟨bs.take 16, List.length_take_of_le (by omega)⟩, bs[16], bs[17], bs.drop 18, ?_⟩
  rw [← List.drop_eq_getElem_cons, ← List.drop_eq_getElem_cons, List.take_append_drop]

/-- With 18 bytes or more nothing is out of range, and what is read is what is cut off. -/
theorem readByPlace_eq (h : minLength ≤ bs.length) : readByPlace bs = .ok (bs.placed (read bs)) := by
  obtain ⟨aaguid, high, low, rest, rfl⟩ := exists_of_minLength_le h
  have hmodel : FixedBytes.split? 16 (aaguid.bytes ++ high :: low :: rest) =
      some (aaguid, high :: low :: rest) := FixedBytes.split?_eq_some.mpr rfl
  have hlength : Bytes.split? 2 (high :: low :: rest) = some ([high, low], rest) :=
    Bytes.split?_eq_some.mpr ⟨rfl, rfl⟩
  have hfront : (aaguid.bytes ++ [high, low]).length = minLength := by
    rw [List.length_append, aaguid.length_eq]
    rfl
  have hbs : aaguid.bytes ++ high :: low :: rest = aaguid.bytes ++ [high, low] ++ rest := by
    rw [List.append_assoc]
    rfl
  rw [readByPlace_append, read, hmodel]
  simp only [hlength]
  rw [hbs]
  exact readSizedByPlace_eq hfront

/-- With fewer bytes the length of an identifier is out of range. -/
theorem readByPlace_inRange_iff : (∃ outcome, readByPlace bs = .ok outcome) ↔ minLength ≤ bs.length := by
  constructor
  · rintro ⟨outcome, h⟩
    -- The second byte of the length, at place 17, is the last one that is read without a test.
    obtain ⟨_, _, h⟩ := bind_eq_ok.mp h
    obtain ⟨_, _, h⟩ := bind_eq_ok.mp h
    obtain ⟨_, _, h⟩ := bind_eq_ok.mp h
    obtain ⟨low, hlow, _⟩ := bind_eq_ok.mp h
    exact Bytes.lt_length_of_byteAt hlow
  · intro h
    exact ⟨_, readByPlace_eq h⟩

end AttestedCredential

namespace AuthenticatorData

def fixedLength : Nat := 37

/-- The attested credential data that a flag announces, and the place up to which everything has been read. -/
def readAttestedByPlace (flags : Flags) (mayBeMissing : Bool) (raw : Bytes) :
    Access (Except VerificationError (Option AttestedCredential × Nat)) :=
  if flags.attestedData then
    if fixedLength + AttestedCredential.minLength < raw.length then do
      let behind ← raw.sliceFrom fixedLength
      match ← AttestedCredential.readByPlace behind with
      | .ok (attested, taken) => .ok (.ok (some attested, fixedLength + taken))
      | .error e => .ok (.error e)
    else if mayBeMissing then .ok (.ok (none, fixedLength))
    else .ok (.error .attestedDataMissing)
  else .ok (.ok (none, fixedLength))

/-- The extension data that a flag announces, which is all that is left. -/
def readExtensionsByPlace (flags : Flags) (raw : Bytes) (place : Nat) :
    Access (Except VerificationError (Option Bytes × Nat)) :=
  if flags.extensionData then
    if place = raw.length then .ok (.error .extensionDataMissing)
    else do
      let extensions ← raw.sliceFrom place
      .ok (.ok (some extensions, raw.length))
  else .ok (.ok (none, place))

def readEndByPlace (flags : Flags) (raw : Bytes) (place : Nat) :
    Access (Except VerificationError (Option Bytes)) := do
  match ← readExtensionsByPlace flags raw place with
  | .ok (extensions, place) =>
    if place ≠ raw.length then .ok (.error .unexpectedTrailingBytes) else .ok (.ok extensions)
  | .error e => .ok (.error e)

def readAnnouncedByPlace (rpIdHash : FixedBytes 32) (flags : Flags) (signCounter : UInt32) (raw : Bytes)
    (mayBeMissing : Bool) : Access (Except VerificationError AuthenticatorData) := do
  match ← readAttestedByPlace flags mayBeMissing raw with
  | .ok (attested, place) =>
    let extensions ← readEndByPlace flags raw place
    .ok (extensions.map fun extensions => ⟨rpIdHash, flags, signCounter, attested, extensions⟩)
  | .error e => .ok (.error e)

def parseByPlace (raw : Bytes) (mayBeMissing : Bool) :
    Access (Except VerificationError AuthenticatorData) :=
  if raw.length < fixedLength then .ok (.error .tooShort)
  else do
    let hash ← raw.slice 0 32
    let rpIdHash ← FixedBytes.copy 32 hash
    let bits ← raw.byteAt 32
    let a ← raw.byteAt 33
    let b ← raw.byteAt 34
    let c ← raw.byteAt 35
    let d ← raw.byteAt 36
    readAnnouncedByPlace rpIdHash ⟨bits⟩ (UInt32.ofNat (Bytes.toNat [a, b, c, d])) raw mayBeMissing

variable {flags : Flags} {mayBeMissing : Bool} {attested : Option AttestedCredential}
  {raw front rest left : Bytes} {place : Nat}

theorem readAttestedByPlace_eq (hfront : front.length = fixedLength) :
    readAttestedByPlace flags mayBeMissing (front ++ rest) =
      .ok ((front ++ rest).placed (readAttested flags mayBeMissing rest)) := by
  have hlength : (front ++ rest).length = fixedLength + rest.length := by
    rw [List.length_append, hfront]
  unfold readAttestedByPlace readAttested
  by_cases hflag : flags.attestedData
  · rw [if_pos hflag, if_pos hflag]
    by_cases hlong : AttestedCredential.minLength < rest.length
    · have hbehind : (front ++ rest).sliceFrom fixedLength = .ok rest :=
        Bytes.sliceFrom_eq_ok.mpr ⟨front, rfl, hfront⟩
      have hroom : fixedLength + AttestedCredential.minLength < (front ++ rest).length := by omega
      rw [if_pos hlong, if_pos hroom, hbehind, ok_bind,
        AttestedCredential.readByPlace_eq (Nat.le_of_lt hlong), ok_bind]
      cases hread : AttestedCredential.read rest with
      | error e => rfl
      | ok read =>
        obtain ⟨credential, left⟩ := read
        obtain ⟨_, written, _, rfl⟩ := AttestedCredential.read_eq_ok.mp hread
        have hwhole : front ++ (written ++ left) = front ++ written ++ left := by
          rw [List.append_assoc]
        rw [ok_bind, Bytes.placed_ok _ rfl, Bytes.placed_ok _ hwhole, List.length_append, hfront]
    · have hshort : ¬ fixedLength + AttestedCredential.minLength < (front ++ rest).length := by omega
      rw [if_neg hlong, if_neg hshort]
      cases mayBeMissing with
      | true => rw [if_pos rfl, if_pos rfl, Bytes.placed_ok _ rfl, hfront]
      | false => rfl
  · rw [if_neg hflag, if_neg hflag, Bytes.placed_ok _ rfl, hfront]

theorem readExtensionsByPlace_of_left (hflag : flags.extensionData = true) (hleft : left ≠ []) :
    readExtensionsByPlace flags (front ++ left) front.length =
      .ok (.ok (some left, (front ++ left).length)) := by
  have hne : ¬ front.length = (front ++ left).length := by
    have hpos := List.length_pos_iff.mpr hleft
    rw [List.length_append]
    omega
  have hslice : (front ++ left).sliceFrom front.length = .ok left :=
    Bytes.sliceFrom_eq_ok.mpr ⟨front, rfl, rfl⟩
  rw [readExtensionsByPlace, if_pos hflag, if_neg hne, hslice, ok_bind]

theorem readEndByPlace_eq :
    readEndByPlace flags (front ++ left) front.length = .ok (readExtensions flags left) := by
  unfold readEndByPlace readExtensions
  by_cases hflag : flags.extensionData
  · rw [if_pos hflag]
    cases left with
    | nil =>
      have hend : front.length = (front ++ []).length := by rw [List.append_nil]
      rw [readExtensionsByPlace, if_pos hflag, if_pos hend]
      rfl
    | cons b left =>
      rw [readExtensionsByPlace_of_left hflag (List.cons_ne_nil b left), ok_bind]
      exact if_neg (not_not_intro rfl)
  · rw [if_neg hflag, readExtensionsByPlace, if_neg hflag, ok_bind]
    cases left with
    | nil => exact if_neg (not_not_intro (by rw [List.append_nil]))
    | cons b left =>
      have hne : front.length ≠ (front ++ b :: left).length := by
        rw [List.length_append, List.length_cons]
        omega
      exact if_pos hne

theorem readAnnouncedByPlace_eq {rpIdHash : FixedBytes 32} {signCounter : UInt32}
    (hfront : front.length = fixedLength) :
    readAnnouncedByPlace rpIdHash flags signCounter (front ++ rest) mayBeMissing =
      .ok (readAttested flags mayBeMissing rest >>= fun p => readExtensions flags p.2 >>= fun extensions =>
        .ok ⟨rpIdHash, flags, signCounter, p.1, extensions⟩) := by
  rw [readAnnouncedByPlace, readAttestedByPlace_eq hfront, ok_bind]
  cases hattested : readAttested flags mayBeMissing rest with
  | error e => rfl
  | ok read =>
    obtain ⟨attested, left⟩ := read
    obtain ⟨_, written, _, rfl⟩ := readAttested_eq_ok.mp hattested
    have hwhole : front ++ (written ++ left) = front ++ written ++ left := by
      rw [List.append_assoc]
    rw [Bytes.placed_ok _ hwhole, hwhole]
    simp only
    rw [readEndByPlace_eq, ok_bind, ok_bind]
    cases readExtensions flags left <;> rfl

theorem exists_of_fixedLength_le (h : fixedLength ≤ raw.length) :
    ∃ (rpIdHash : FixedBytes 32) (bits a b c d : UInt8) (rest : Bytes),
      raw = rpIdHash.bytes ++ bits :: a :: b :: c :: d :: rest := by
  have hlength : 37 ≤ raw.length := h
  refine ⟨⟨raw.take 32, List.length_take_of_le (by omega)⟩, raw[32], raw[33], raw[34], raw[35], raw[36],
    raw.drop 37, ?_⟩
  iterate 5 rw [← List.drop_eq_getElem_cons]
  rw [List.take_append_drop]

theorem parse_of_short (h : raw.length < fixedLength) : parse raw mayBeMissing = .error .tooShort := by
  unfold parse
  split
  next rpIdHash bits a b c d rest hfixed =>
    obtain rfl := FixedBytes.split?_eq_some.mp hfixed
    have hlength : (rpIdHash.bytes ++ bits :: a :: b :: c :: d :: rest).length < 37 := h
    simp only [List.length_append, List.length_cons, rpIdHash.length_eq] at hlength
    omega
  next => rfl

/-- No byte string and no flag takes a reading of authenticator data out of range, and what is read by places
is what is cut off. -/
theorem parseByPlace_eq (raw : Bytes) (mayBeMissing : Bool) :
    parseByPlace raw mayBeMissing = .ok (parse raw mayBeMissing) := by
  by_cases hshort : raw.length < fixedLength
  · rw [parseByPlace, if_pos hshort, parse_of_short hshort]
  · obtain ⟨rpIdHash, bits, a, b, c, d, rest, rfl⟩ := exists_of_fixedLength_le (Nat.le_of_not_lt hshort)
    have hwidth := rpIdHash.length_eq
    have hhash : (rpIdHash.bytes ++ bits :: a :: b :: c :: d :: rest).slice 0 32 = .ok rpIdHash.bytes :=
      Bytes.slice_eq_ok.mpr ⟨[], bits :: a :: b :: c :: d :: rest, rfl, rfl, by rw [hwidth]⟩
    have hbits : (rpIdHash.bytes ++ bits :: a :: b :: c :: d :: rest).byteAt 32 = .ok bits :=
      Bytes.byteAt_append 0 hwidth rfl
    have ha : (rpIdHash.bytes ++ bits :: a :: b :: c :: d :: rest).byteAt 33 = .ok a :=
      Bytes.byteAt_append 1 hwidth rfl
    have hb : (rpIdHash.bytes ++ bits :: a :: b :: c :: d :: rest).byteAt 34 = .ok b :=
      Bytes.byteAt_append 2 hwidth rfl
    have hc : (rpIdHash.bytes ++ bits :: a :: b :: c :: d :: rest).byteAt 35 = .ok c :=
      Bytes.byteAt_append 3 hwidth rfl
    have hd : (rpIdHash.bytes ++ bits :: a :: b :: c :: d :: rest).byteAt 36 = .ok d :=
      Bytes.byteAt_append 4 hwidth rfl
    have hfixed : FixedBytes.split? 32 (rpIdHash.bytes ++ bits :: a :: b :: c :: d :: rest) =
        some (rpIdHash, bits :: a :: b :: c :: d :: rest) := FixedBytes.split?_eq_some.mpr rfl
    have hfront : (rpIdHash.bytes ++ [bits, a, b, c, d]).length = fixedLength := by
      rw [List.length_append, hwidth]
      rfl
    have hraw : rpIdHash.bytes ++ bits :: a :: b :: c :: d :: rest =
        rpIdHash.bytes ++ [bits, a, b, c, d] ++ rest := by simp
    rw [parseByPlace, if_neg hshort, hhash, ok_bind, FixedBytes.copy_bytes, ok_bind, hbits, ok_bind,
      ha, ok_bind, hb, ok_bind, hc, ok_bind, hd, ok_bind, parse, hfixed, hraw]
    exact readAnnouncedByPlace_eq hfront

/-- The place behind the attested credential data is one of the byte string, or its end. -/
theorem place_of_readAttestedByPlace (hraw : fixedLength ≤ raw.length)
    (h : readAttestedByPlace flags mayBeMissing raw = .ok (.ok (attested, place))) :
    fixedLength ≤ place ∧ place ≤ raw.length := by
  have hfront : (raw.take fixedLength).length = fixedLength := List.length_take_of_le hraw
  have hread : readAttestedByPlace flags mayBeMissing (raw.take fixedLength ++ raw.drop fixedLength) = _ :=
    readAttestedByPlace_eq hfront
  rw [List.take_append_drop, h] at hread
  cases hattested : readAttested flags mayBeMissing (raw.drop fixedLength) with
  | error e =>
    rw [hattested] at hread
    cases hread
  | ok read =>
    obtain ⟨found, left⟩ := read
    obtain ⟨_, written, _, hbehind⟩ := readAttested_eq_ok.mp hattested
    have hwhole : raw = raw.take fixedLength ++ written ++ left := by
      rw [List.append_assoc, ← hbehind, List.take_append_drop]
    rw [hattested, Bytes.placed_ok _ hwhole] at hread
    obtain ⟨-, rfl⟩ := Prod.mk.inj (Except.ok.inj (Except.ok.inj hread))
    have hlength := congrArg List.length hwhole
    simp only [List.length_append, hfront] at hlength ⊢
    omega

theorem place_of_readExtensionsByPlace {extensions : Option Bytes} {stop : Nat} (hplace : place ≤ raw.length)
    (h : readExtensionsByPlace flags raw place = .ok (.ok (extensions, stop))) :
    place ≤ stop ∧ stop ≤ raw.length := by
  unfold readExtensionsByPlace at h
  split at h
  next =>
    split at h
    next => cases h
    next =>
      obtain ⟨_, _, h⟩ := bind_eq_ok.mp h
      obtain ⟨-, rfl⟩ := Prod.mk.inj (Except.ok.inj (Except.ok.inj h))
      exact ⟨hplace, Nat.le_refl _⟩
  next =>
    obtain ⟨-, rfl⟩ := Prod.mk.inj (Except.ok.inj (Except.ok.inj h))
    exact ⟨Nat.le_refl _, hplace⟩

end AuthenticatorData

end RelyingParty
