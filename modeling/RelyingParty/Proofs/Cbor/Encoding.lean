import RelyingParty.Proofs.Cbor.Entries
import RelyingParty.Proofs.Cbor.FirstItem
import RelyingParty.Proofs.Cbor.RoundTrip

namespace RelyingParty.Cbor

variable {α : Type} {depth depth' : Nat} {item other : Item} {entries : Entries}

def RefusesDepth (read : Reader α) (front : Bytes) : Prop :=
  ∀ more, read (front ++ more) = .error .tooDeep

section Counted

variable {read : Reader α} {front back : Bytes} {x : α} {n : Nat}

theorem RefusesDepth.readCount_first (h : RefusesDepth read front) (back : Bytes) :
    RefusesDepth (readCount read (n + 1)) (front ++ back) := by
  intro more
  rw [List.append_assoc, readCount]
  exact bind_eq_error.mpr (.inl (h _))

theorem RefusesDepth.readCount_later (h : RefusesDepth (readCount read n) back) (hfirst : Takes read front x) :
    RefusesDepth (readCount read (n + 1)) (front ++ back) := by
  intro more
  rw [List.append_assoc, readCount]
  exact bind_eq_error.mpr (.inr ⟨_, hfirst _, bind_eq_error.mpr (.inl (h more))⟩)

end Counted

theorem RefusesDepth.readItem {opening content : Bytes} {head : Head}
    {array : Option Nat → Reader (List Item)} {map : Option Nat → Reader (List (Item × Item))}
    {nested : Reader Item} (h : RefusesDepth (readContent array map nested head) content)
    (hread : ∀ bs, Cbor.readItem depth bs = readHead bs >>= fun p => readContent array map nested p.1 p.2)
    (hopening : Takes readHead opening head) : RefusesDepth (Cbor.readItem depth) (opening ++ content) := by
  intro more
  rw [hread, List.append_assoc]
  exact bind_eq_error.mpr (.inr ⟨_, hopening _, h more⟩)

def ReadOrRefused (depth : Nat) (item : Item) : Prop :=
  Writable depth item ∨ RefusesDepth (readItem depth) item.encode

theorem encodeItems_refused {items : List Item} (h : ∀ item ∈ items, ReadOrRefused depth item) :
    (∀ item ∈ items, Writable depth item) ∨
      RefusesDepth (readCount (readItem depth) items.length) (encodeItems items) := by
  induction items with
  | nil => exact .inl nofun
  | cons item items ih =>
    obtain ⟨hitem, hitems⟩ := List.forall_mem_cons.mp h
    obtain hwritable | hrefused := hitem
    · obtain hall | hlater := ih hitems
      · exact .inl (List.forall_mem_cons.mpr ⟨hwritable, hall⟩)
      · exact .inr (hlater.readCount_later hwritable.takes)
    · exact .inr (hrefused.readCount_first _)

theorem entry_refused {key value : Item} (hkey : ReadOrRefused depth key) (hvalue : ReadOrRefused depth value) :
    (Writable depth key ∧ Writable depth value) ∨
      RefusesDepth (readEntry (readItem depth)) (key.encode ++ value.encode) := by
  obtain hwritable | hrefused := hkey
  · obtain hvalue | hlater := hvalue
    · exact .inl ⟨hwritable, hvalue⟩
    · refine .inr fun more => ?_
      rw [readEntry, List.append_assoc]
      exact bind_eq_error.mpr (.inr ⟨_, hwritable.takes _, bind_eq_error.mpr (.inl (hlater more))⟩)
  · refine .inr fun more => ?_
    rw [readEntry, List.append_assoc]
    exact bind_eq_error.mpr (.inl (hrefused _))

theorem encodeEntries_refused (hkeys : ∀ entry ∈ entries, ReadOrRefused depth entry.1)
    (hvalues : ∀ entry ∈ entries, ReadOrRefused depth entry.2) :
    ((∀ entry ∈ entries, Writable depth entry.1) ∧ ∀ entry ∈ entries, Writable depth entry.2) ∨
      RefusesDepth (readCount (readEntry (readItem depth)) entries.length) (encodeEntries entries) := by
  induction entries with
  | nil => exact .inl ⟨nofun, nofun⟩
  | cons entry entries ih =>
    obtain ⟨key, value⟩ := entry
    obtain ⟨hkey, hkeys⟩ := List.forall_mem_cons.mp hkeys
    obtain ⟨hvalue, hvalues⟩ := List.forall_mem_cons.mp hvalues
    rw [encodeEntries, ← List.append_assoc]
    obtain ⟨hkey, hvalue⟩ | hrefused := entry_refused hkey hvalue
    · obtain ⟨hallKeys, hallValues⟩ | hlater := ih hkeys hvalues
      · exact .inl ⟨List.forall_mem_cons.mpr ⟨hkey, hallKeys⟩, List.forall_mem_cons.mpr ⟨hvalue, hallValues⟩⟩
      · exact .inr (hlater.readCount_later (takes_entry hkey.takes hvalue.takes))
    · exact .inr (hrefused.readCount_first _)

/-- Whether a container can be read at a depth is seen from what is nested in it. -/
theorem Writable.readOrRefused (h : Writable depth' item) (depth : Nat) : ReadOrRefused depth item := by
  induction h generalizing depth with
  | unsigned n => exact .inl (.unsigned n)
  | negative n => exact .inl (.negative n)
  | bytes fits => exact .inl (.bytes fits)
  | text fits => exact .inl (.text fits)
  | bool b => exact .inl (.bool b)
  | null => exact .inl .null
  | @array _ items fits _ ih =>
    have hhead := takes_encodeHead 4 (by decide) fits (fun _ => rfl)
    rw [ReadOrRefused, Item.encode]
    cases depth with
    | zero => exact .inr (RefusesDepth.readItem (fun _ => rfl) (fun _ => rfl) hhead)
    | succ depth =>
      obtain hall | hrefused := encodeItems_refused fun item hitem => ih item hitem depth
      · exact .inl (.array fits hall)
      · refine .inr (RefusesDepth.readItem (fun more => ?_) (fun _ => rfl) hhead)
        exact bind_eq_error.mpr (.inl (hrefused more))
  | @map _ entries fits _ _ hkeys hvalues =>
    have hhead := takes_encodeHead 5 (by decide) fits (fun _ => rfl)
    rw [ReadOrRefused, Item.encode]
    cases depth with
    | zero => exact .inr (RefusesDepth.readItem (fun _ => rfl) (fun _ => rfl) hhead)
    | succ depth =>
      obtain ⟨hallKeys, hallValues⟩ | hrefused := encodeEntries_refused
        (fun entry hentry => hkeys entry hentry depth) fun entry hentry => hvalues entry hentry depth
      · exact .inl (.map fits hallKeys hallValues)
      · refine .inr (RefusesDepth.readItem (fun more => ?_) (fun _ => rfl) hhead)
        exact bind_eq_error.mpr (.inl (hrefused more))

theorem decode_encode_of_not_writable (h : Writable depth item) (hdeep : ¬ Writable depthLimit item) :
    decode item.encode = .error .tooDeep := by
  have hrefused := (h.readOrRefused depthLimit).resolve_left hdeep
  refine bind_eq_error.mpr (.inl ?_)
  simpa using hrefused []

theorem encode_isPrefix (h : Writable depthLimit item) (hother : Writable depthLimit other)
    (hbegins : item.encode <+: other.encode) : item = other := by
  have hsame := eq_of_isPrefix (decode_encode h) (decode_encode hother) hbegins
  have hread := decode_encode h
  rw [hsame, decode_encode hother] at hread
  exact (Except.ok.inj hread).symm

/-- The readings of an item, and the look-ups in it, give what another item was made of. -/
structure Gives (read item : Item) : Prop where
  int (n : Int) : read.int? = some n ↔ item = .ofInt n ∧ Item.InWord n
  bytes (bs : Bytes) : read.bytes? = some bs ↔ item = .bytes bs
  text (s : String) : read.text? = some s ↔ item = .text s
  array (items : List Item) : read.array? = some items ↔ item = .array items
  map (entries : Entries) : read.map? = some entries ↔ item = .map entries
  labelled (label : Int) (value : Item) : (read.map?.bind fun entries => entries.getInt? label) = some value ↔
    ∃ entries : Entries, item = .map entries ∧ entries.Labels label value
  named (name : String) (value : Item) : (read.map?.bind fun entries => entries.getText? name) = some value ↔
    ∃ entries : Entries, item = .map entries ∧ entries.Names name value

theorem gives_self (item : Item) : Gives item item where
  int _ := Item.int?_eq_some
  bytes _ := Item.bytes?_eq_some
  text _ := Item.text?_eq_some
  array _ := Item.array?_eq_some
  map _ := Item.map?_eq_some
  labelled label value := by
    rw [Option.bind_eq_some_iff]
    simp only [Item.map?_eq_some, Entries.getInt?_eq_some]
  named name value := by
    rw [Option.bind_eq_some_iff]
    simp only [Item.map?_eq_some, Entries.getText?_eq_some]

theorem writable_ofInt (depth : Nat) (n : Int) : Writable depth (.ofInt n) := by
  unfold Item.ofInt
  split
  next => exact .unsigned _
  next => exact .negative _

/-- An item without tags and floats is read back from its encoding, with the entries of its maps in their
order, and whatever follows the encoding is left; one with too many containers around one another is refused
for that. So no encoding begins another, and what is read gives all that was written. The numbers from `-2^64`
to `2^64 - 1` are items. -/
theorem reading_undoes_writing :
    (∀ item, Writable depthLimit item →
      decode item.encode = .ok item ∧
      (∀ more, decodeFirst (item.encode ++ more) = .ok (item, item.encode.length)) ∧
      (∀ entries, item = .map entries → decodeMap item.encode = .ok entries) ∧
      (∀ other, Writable depthLimit other → item.encode <+: other.encode → item = other) ∧
      ∀ read, decode item.encode = .ok read → Gives read item) ∧
    (∀ n : Int, -0x10000000000000000 ≤ n → n < 0x10000000000000000 →
      Writable depthLimit (.ofInt n) ∧ (Item.ofInt n).number? = some n) ∧
    ∀ depth item, Writable depth item → ¬ Writable depthLimit item →
      decode item.encode = .error .tooDeep := by
  refine ⟨fun item h => ⟨decode_encode h, decodeFirst_append (decode_encode h), ?_, ?_, ?_⟩, ?_, ?_⟩
  · rintro entries rfl
    exact decodeMap_encode h
  · intro other hother hbegins
    exact encode_isPrefix h hother hbegins
  · intro read hread
    obtain rfl := Except.ok.inj ((decode_encode h).symm.trans hread)
    exact gives_self item
  · intro n hlow hhigh
    exact ⟨writable_ofInt depthLimit n, Item.number?_ofInt hlow hhigh⟩
  · intro depth item h hdeep
    exact decode_encode_of_not_writable h hdeep

def sampleEntries : Entries :=
  [(.text "sig", .bytes [1, 2]), (.ofInt (-0x10000000000000000), .array [.unsigned 23, .unsigned 24,
    .unsigned 0xffffffff, .unsigned 0x100000000, .bool true]), (.unsigned 3, .ofInt (-7)),
    (.unsigned 3, .map [(.null, .text "ü")]), (.text "sig", .null)]

def nested : Nat → Item
  | 0 => .array []
  | n + 1 => .array [nested n]

theorem writable_nested_iff {n : Nat} : Writable depth (nested n) ↔ n < depth := by
  induction n generalizing depth with
  | zero =>
    constructor
    · rintro ⟨⟩
      exact Nat.succ_pos _
    · intro hpos
      obtain ⟨depth, rfl⟩ := Nat.exists_eq_add_of_lt hpos
      exact .array (by decide) nofun
  | succ n ih =>
    constructor
    · intro h
      cases h with
      | array _ content => exact Nat.succ_lt_succ (ih.mp (content _ (List.mem_singleton_self _)))
    · intro hlt
      obtain ⟨depth, rfl⟩ := Nat.exists_eq_add_of_lt hlt
      exact .array (by simp [UInt64.size]) (List.forall_mem_singleton.mpr (ih.mpr (by omega)))

theorem reading_undoes_writing_sample :
    decodeMap (Item.map sampleEntries).encode = .ok sampleEntries ∧
    decodeFirst ((Item.map sampleEntries).encode ++ [0xf6]) =
      .ok (.map sampleEntries, (Item.map sampleEntries).encode.length) ∧
    (∀ read, decode (Item.map sampleEntries).encode = .ok read →
      (read.map?.bind fun entries => entries.getInt? 3) = some (.ofInt (-7))) ∧
    (Item.ofInt (-0x10000000000000000)).number? = some (-0x10000000000000000) ∧
    decode (nested 255).encode = .ok (nested 255) ∧ decode (nested 256).encode = .error .tooDeep := by
  obtain ⟨hback, hnumbers, hdeep⟩ := reading_undoes_writing
  have hsample : Writable depthLimit (.map sampleEntries) := by
    refine Plain.writable (.map ?_ ?_) (by decide +kernel)
    · simp only [sampleEntries, List.forall_mem_cons]
      exact ⟨.text _, .negative _, .unsigned _, .unsigned _, .text _, nofun⟩
    · have hnumbers : ∀ item ∈ [Item.unsigned 23, .unsigned 24, .unsigned 0xffffffff, .unsigned 0x100000000,
          .bool true], Plain (depthLimit - 2) item := by
        simp only [List.forall_mem_cons]
        exact ⟨.unsigned _, .unsigned _, .unsigned _, .unsigned _, .bool _, nofun⟩
      simp only [sampleEntries, List.forall_mem_cons]
      exact ⟨.bytes _, .array hnumbers, .negative _,
        .map (List.forall_mem_singleton.mpr .null) (List.forall_mem_singleton.mpr (.text _)), .null, nofun⟩
  obtain ⟨_, hfirst, hmap, _, hgives⟩ := hback _ hsample
  refine ⟨hmap _ rfl, hfirst _, fun read hread => ?_, (hnumbers _ (by decide) (by decide)).2, ?_, ?_⟩
  · refine ((hgives read hread).labelled 3 _).mpr ⟨_, rfl, ?_⟩
    exact Entries.getInt?_eq_some.mp rfl
  · exact (hback _ (writable_nested_iff.mpr (by decide))).1
  · exact hdeep 257 _ (writable_nested_iff.mpr (by decide)) fun h => absurd (writable_nested_iff.mp h) (by decide)

end RelyingParty.Cbor
