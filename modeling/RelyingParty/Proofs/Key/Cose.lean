import RelyingParty.Proofs.Cbor.RoundTrip
import RelyingParty.Proofs.Key.Made

namespace RelyingParty

variable {bs : Bytes} {key : PublicKey}

namespace PublicKey

/-- A point starts with the byte of a number, so that it is no map. -/
theorem decodeMap_uncompressed (x y : Bytes) (entries : Cbor.Entries) :
    Cbor.decodeMap (uncompressed x y) ≠ .ok entries := by
  have hnumber : Cbor.readItem Cbor.depthLimit (uncompressed x y) = .ok (.unsigned 4, x ++ y) :=
    (Cbor.Writable.unsigned 4).takes (x ++ y)
  unfold Cbor.decodeMap Cbor.decode
  rw [hnumber]
  cases x ++ y with
  | nil => exact nofun
  | cons b rest => exact nofun

theorem ofCose_ne_ok_of_ofRawPoint (h : ofRawPoint bs = .ok key) (other : PublicKey) :
    ofCose bs ≠ .ok other := by
  obtain ⟨x, y, rfl, _⟩ := ofRawPoint_eq_ok.mp h
  intro hother
  obtain ⟨entries, hentries, _⟩ := ofCose_eq_ok.mp hother
  exact decodeMap_uncompressed x y entries hentries

end PublicKey

namespace Cose

def labels (key : PublicKey) : List Int := (parameters key).map Prod.fst

/-- An entry that a map may hold beside the parameters of a key: under a text, or under a number that is
no label of the key, a number, a byte string or a text. -/
structure Foreign (key : PublicKey) (entry : Cbor.Item × Cbor.Item) : Prop where
  name : (∃ s, entry.1 = .text s) ∨ ∃ n, entry.1.number? = some n ∧ n ∉ labels key
  value : entry.2.IsScalar

variable {entries further : Cbor.Entries} {parameter : Int × Cbor.Item}

theorem Foreign.name_isScalar {entry : Cbor.Item × Cbor.Item} (h : Foreign key entry) :
    entry.1.IsScalar := by
  rcases h.name with ⟨s, hs⟩ | ⟨n, hn, _⟩
  · exact hs ▸ .text s
  · exact Cbor.Item.eq_ofInt_of_number? hn ▸ Cbor.Item.isScalar_ofInt n

theorem Foreign.number?_ne {entry : Cbor.Item × Cbor.Item} (h : Foreign key entry) {label : Int}
    (hlabel : label ∈ labels key) : entry.1.number? ≠ some label := by
  rcases h.name with ⟨s, hs⟩ | ⟨n, hn, hother⟩
  · rw [hs]
    exact nofun
  · rw [hn]
    rintro ⟨⟩
    exact hother hlabel

theorem isScalar_of_mem_entries {entry : Cbor.Item × Cbor.Item} (h : entry ∈ Cose.entries key) :
    entry.1.IsScalar ∧ entry.2.IsScalar := by
  rw [entries_eq] at h
  obtain ⟨parameter, hparameter, rfl⟩ := List.mem_map.mp h
  refine ⟨Cbor.Item.isScalar_ofInt _, ?_⟩
  revert hparameter parameter
  cases key <;>
    simp [parameters, entry, Cbor.Item.isScalar_ofInt, Cbor.Item.IsScalar.bytes]

/-- A key writes each of its labels once. -/
theorem countP_label (h : parameter ∈ parameters key) :
    (Cose.entries key).countP (fun entry => entry.1.number? == some parameter.1) = 1 := by
  cases key <;> simp only [parameters, List.mem_cons, List.not_mem_nil, or_false] at h
  case ec2 => rcases h with rfl | rfl | rfl | rfl | rfl <;> rfl
  case rsa => rcases h with rfl | rfl | rfl | rfl <;> rfl
  case okp => rcases h with rfl | rfl | rfl | rfl <;> rfl

theorem getInt?_entries (h : parameter ∈ parameters key) :
    (Cose.entries key).getInt? parameter.1 = some parameter.2 := by
  cases key <;> simp only [parameters, List.mem_cons, List.not_mem_nil, or_false] at h
  case ec2 => rcases h with rfl | rfl | rfl | rfl | rfl <;> rfl
  case rsa => rcases h with rfl | rfl | rfl | rfl <;> rfl
  case okp => rcases h with rfl | rfl | rfl | rfl <;> rfl

theorem readEntries_of_perm (hkey : key.WellFormed) (hforeign : ∀ entry ∈ further, Foreign key entry)
    (hperm : entries.Perm (Cose.entries key ++ further)) : readEntries entries = .ok key := by
  refine readEntries_eq_ok.mpr ⟨hkey, fun parameter h => Cbor.Entries.getInt?_eq_some.mp ?_⟩
  have hlabel : parameter.1 ∈ labels key := List.mem_map_of_mem h
  have hother (entry : Cbor.Item × Cbor.Item) (hentry : entry ∈ further) :=
    (hforeign entry hentry).number?_ne hlabel
  rw [Cbor.Entries.getInt?_eq_of_perm hperm hother (countP_label h)]
  exact getInt?_entries h

theorem writable_of_perm (hforeign : ∀ entry ∈ further, Foreign key entry)
    (hperm : entries.Perm (Cose.entries key ++ further))
    (hfits : (Cbor.Item.map entries).encode.length < UInt64.size) :
    Cbor.Writable Cbor.depthLimit (.map entries) := by
  have hscalar (entry : Cbor.Item × Cbor.Item) (h : entry ∈ entries) :
      entry.1.IsScalar ∧ entry.2.IsScalar := by
    rcases List.mem_append.mp (hperm.mem_iff.mp h) with hown | hother
    · exact isScalar_of_mem_entries hown
    · exact ⟨(hforeign entry hother).name_isScalar, (hforeign entry hother).value⟩
  have hplain : Cbor.Plain Cbor.depthLimit (.map entries) :=
    .map (fun entry h => (hscalar entry h).1.plain) fun entry h => (hscalar entry h).2.plain
  exact hplain.writable hfits

end Cose

namespace PublicKey

theorem ofCose_of_perm (hkey : key.WellFormed) {entries further : Cbor.Entries}
    (hforeign : ∀ entry ∈ further, Cose.Foreign key entry)
    (hperm : entries.Perm (Cose.entries key ++ further))
    (hfits : (Cbor.Item.map entries).encode.length < UInt64.size) :
    ofCose (Cbor.Item.map entries).encode = .ok key :=
  ofCose_eq_ok.mpr ⟨entries, Cbor.decodeMap_encode (Cose.writable_of_perm hforeign hperm hfits),
    Cose.readEntries_of_perm hkey hforeign hperm⟩

theorem decode_toCose (hfits : key.toCose.length < UInt64.size) :
    Cbor.decode key.toCose = .ok (.map (Cose.entries key)) := by
  have hperm : (Cose.entries key).Perm (Cose.entries key ++ []) := by simp
  exact Cbor.decode_encode (Cose.writable_of_perm (List.forall_mem_nil _) hperm hfits)

theorem ofCose_toCose (h : key.WellFormed) (hfits : key.toCose.length < UInt64.size) :
    ofCose key.toCose = .ok key := by
  have hperm : (Cose.entries key).Perm (Cose.entries key ++ []) := by simp
  exact ofCose_of_perm h (List.forall_mem_nil _) hperm hfits

theorem made_iff_wellFormed : key.Made ↔ key.WellFormed := by
  constructor
  · exact Made.wellFormed
  · intro h
    have hperm : (Cose.entries key).Perm (Cose.entries key ++ []) := by simp
    have hread : Cose.readItem (.map (Cose.entries key)) = .ok key :=
      Cose.readEntries_of_perm h (List.forall_mem_nil _) hperm
    exact .item hread

theorem toCose_injective {other : PublicKey} (hkey : key.WellFormed) (hother : other.WellFormed)
    (hfits : key.toCose.length < UInt64.size) (h : other.toCose = key.toCose) : other = key := by
  have hread := ofCose_toCose hother (h ▸ hfits)
  rw [h, ofCose_toCose hkey hfits] at hread
  exact (Except.ok.inj hread).symm

/-- The bytes of a key as they are written after the key has been read. -/
def recode (bs : Bytes) : Except KeyError Bytes := (ofCose bs).map toCose

theorem recode_eq_ok {written : Bytes} :
    recode bs = .ok written ↔ ∃ key, ofCose bs = .ok key ∧ key.toCose = written := by
  unfold recode
  cases ofCose bs <;> simp [Except.map]

theorem recode_eq_toCose (hkey : key.WellFormed) (hfits : key.toCose.length < UInt64.size) :
    recode bs = .ok key.toCose ↔ ofCose bs = .ok key := by
  rw [recode_eq_ok]
  constructor
  · rintro ⟨other, hread, hsame⟩
    have hother : other.WellFormed := Made.wellFormed (.cose hread)
    exact toCose_injective hkey hother hfits hsame ▸ hread
  · intro hread
    exact ⟨key, hread, rfl⟩

/-- The keys that can be made are those with the sizes of their kind. Such a key is read from every map
of its parameters in any order among other entries, and its own form is the one form of all of them. The
bounds say that the number of bytes fits the head of an item. -/
theorem reads_back_in_any_order (key : PublicKey) :
    (key.Made ↔ key.WellFormed) ∧
    (key.Made →
      (∀ entries further : Cbor.Entries, (∀ entry ∈ further, Cose.Foreign key entry) →
        entries.Perm (Cose.entries key ++ further) →
        (Cbor.Item.map entries).encode.length < UInt64.size →
          ofCose (Cbor.Item.map entries).encode = .ok key) ∧
      (key.toCose.length < UInt64.size →
        ofCose key.toCose = .ok key ∧
        (∀ other : PublicKey, other.Made → other.toCose = key.toCose → other = key) ∧
        recode key.toCose = .ok key.toCose ∧
        ∀ bs, recode bs = .ok key.toCose ↔ ofCose bs = .ok key)) := by
  refine ⟨made_iff_wellFormed, fun hmade => ?_⟩
  have hkey := hmade.wellFormed
  refine ⟨fun entries further hforeign hperm hfits => ofCose_of_perm hkey hforeign hperm hfits,
    fun hfits => ?_⟩
  have hread := ofCose_toCose hkey hfits
  refine ⟨hread, fun other hother => toCose_injective hkey hother.wellFormed hfits, ?_,
    fun bs => recode_eq_toCose hkey hfits⟩
  exact (recode_eq_toCose hkey hfits).mpr hread

theorem reads_back_among_others : ofCose (Cbor.Item.map [(.text "kid", .bytes [1, 2]),
    (.ofInt (-3), .text "more"), (.ofInt (-2), .bytes [1, 0, 1]), (.ofInt (-1), .bytes [5, 7]),
    (.ofInt 3, .ofInt (-257)), (.ofInt 1, .ofInt 3)]).encode = .ok (.rsa .rs256 [5, 7] [1, 0, 1]) := by
  have hmade : (rsa .rs256 [5, 7] [1, 0, 1]).Made := made_iff_wellFormed.mpr (.rsa _ _)
  have hperm := List.reverse_perm (Cose.entries (rsa .rs256 [5, 7] [1, 0, 1]) ++
    [(.ofInt (-3), .text "more"), (.text "kid", .bytes [1, 2])])
  refine ((reads_back_in_any_order _).2 hmade).1 _ _ ?_ hperm (by decide)
  simp only [List.forall_mem_cons, List.not_mem_nil, false_imp_iff, implies_true, and_true]
  exact ⟨⟨.inr ⟨-3, rfl, by decide⟩, .text _⟩, .inl ⟨_, rfl⟩, .bytes _⟩

end PublicKey

end RelyingParty
