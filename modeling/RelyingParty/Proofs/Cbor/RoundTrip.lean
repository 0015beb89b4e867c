import RelyingParty.Cbor.Encoder
import RelyingParty.Proofs.Cbor.SelfDelimiting
import RelyingParty.Proofs.Text

namespace RelyingParty.Cbor

variable {α : Type}

/-- Items that a reader takes that allows `depth` containers around one another. -/
inductive Writable : (depth : Nat) → Item → Prop
  | unsigned {depth : Nat} (n : UInt64) : Writable depth (.unsigned n)
  | negative {depth : Nat} (n : UInt64) : Writable depth (.negative n)
  | bytes {depth : Nat} {bs : Bytes} (fits : bs.length < UInt64.size) : Writable depth (.bytes bs)
  | text {depth : Nat} {s : String} (fits : (Bytes.ofText s).length < UInt64.size) :
    Writable depth (.text s)
  | bool {depth : Nat} (b : Bool) : Writable depth (.bool b)
  | null {depth : Nat} : Writable depth .null
  | array {depth : Nat} {items : List Item} (fits : items.length < UInt64.size)
    (content : ∀ item ∈ items, Writable depth item) : Writable (depth + 1) (.array items)
  | map {depth : Nat} {entries : Entries} (fits : entries.length < UInt64.size)
    (keys : ∀ entry ∈ entries, Writable depth entry.1)
    (values : ∀ entry ∈ entries, Writable depth entry.2) : Writable (depth + 1) (.map entries)

theorem takes_readBytes (bs : Bytes) : Takes (readBytes bs.length) bs bs := by
  intro more
  rw [readBytes, Bytes.split?_append]

theorem takes_readTextSegment (s : String) :
    Takes (readTextSegment (Bytes.ofText s).length) (Bytes.ofText s) s := by
  intro more
  refine bind_eq_ok.mpr ⟨_, takes_readBytes (Bytes.ofText s) more, ?_⟩
  simp only [Bytes.toText?_ofText]

theorem takes_readArgument_of_lt {info : Nat} (h : info < 24) :
    Takes (readArgument info) [] (some info) := by
  intro more
  rw [readArgument, if_pos h, List.nil_append]

theorem takes_readArgument {width n : Nat} (hwidth : width < 4) (hn : n < Nat.pow 256 (1 <<< width)) :
    Takes (readArgument (24 + width)) (Bytes.ofNat (1 <<< width) n) (some n) := by
  intro more
  have hbytes := takes_readBytes (Bytes.ofNat (1 <<< width) n) more
  rw [Bytes.length_ofNat] at hbytes
  rw [readArgument, if_neg (by omega), if_pos (by omega), Nat.add_sub_cancel_left]
  refine bind_eq_ok.mpr ⟨_, hbytes, ?_⟩
  simp only [Bytes.toNat_ofNat hn]

/-- A head is read from its initial byte and what this byte says of its argument. -/
theorem takes_initial {major info : Nat} {front : Bytes} {argument : Option Nat} {head : Head}
    (hmajor : major < 8) (hinfo : info < 32) (hargument : Takes (readArgument info) front argument)
    (hhead : Head.ofArgument major info argument = .ok head) :
    Takes readHead (UInt8.ofNat (major * 32 + info) :: front) head := by
  intro more
  have hbyte : (UInt8.ofNat (major * 32 + info)).toNat = major * 32 + info :=
    UInt8.toNat_ofNat_of_lt' (by show _ < 256; omega)
  have hlow : (major * 32 + info) % 32 = info := by omega
  have hhigh : (major * 32 + info) / 32 = major := by omega
  rw [List.cons_append, readHead, hbyte, hlow, hhigh]
  exact bind_eq_ok.mpr ⟨_, hargument more, bind_eq_ok.mpr ⟨_, hhead, rfl⟩⟩

theorem takes_encodeHead (major : Nat) {n : Nat} {head : Head} (hmajor : major < 8) (hn : n < UInt64.size)
    (hhead : ∀ info, Head.ofArgument major info (some n) = .ok head) :
    Takes readHead (encodeHead major n) head := by
  have wide (width : Nat) (hwidth : width < 4) (hfits : n < Nat.pow 256 (1 <<< width)) :=
    takes_initial hmajor (by omega) (takes_readArgument hwidth hfits) (hhead (24 + width))
  unfold encodeHead
  split
  next hsmall => exact takes_initial hmajor (by omega) (takes_readArgument_of_lt hsmall) (hhead n)
  next =>
    split
    next h8 => exact wide 0 (by decide) h8
    next =>
      split
      next h16 => exact wide 1 (by decide) h16
      next =>
        split
        next h32 => exact wide 2 (by decide) h32
        next => exact wide 3 (by decide) hn

variable {read : Reader Item}

theorem takes_encodeItems {items : List Item} (h : ∀ item ∈ items, Takes read item.encode item) :
    Takes (readCount read items.length) (encodeItems items) items := by
  induction items with
  | nil => exact fun _ => rfl
  | cons item items ih =>
    obtain ⟨hitem, hitems⟩ := List.forall_mem_cons.mp h
    intro more
    rw [encodeItems, List.append_assoc, List.length_cons, readCount]
    exact bind_eq_ok.mpr ⟨_, hitem _, bind_eq_ok.mpr ⟨_, ih hitems more, rfl⟩⟩

theorem takes_entry {key value : Item} (hkey : Takes read key.encode key) (hvalue : Takes read value.encode value) :
    Takes (readEntry read) (key.encode ++ value.encode) (key, value) := by
  intro more
  rw [List.append_assoc]
  exact bind_eq_ok.mpr ⟨_, hkey _, bind_eq_ok.mpr ⟨_, hvalue more, rfl⟩⟩

theorem takes_encodeEntries {entries : Entries}
    (hkeys : ∀ entry ∈ entries, Takes read entry.1.encode entry.1)
    (hvalues : ∀ entry ∈ entries, Takes read entry.2.encode entry.2) :
    Takes (readCount (readEntry read) entries.length) (encodeEntries entries) entries := by
  induction entries with
  | nil => exact fun _ => rfl
  | cons entry entries ih =>
    obtain ⟨key, value⟩ := entry
    obtain ⟨hkey, hkeys⟩ := List.forall_mem_cons.mp hkeys
    obtain ⟨hvalue, hvalues⟩ := List.forall_mem_cons.mp hvalues
    intro more
    have hentry := takes_entry hkey hvalue
    rw [encodeEntries, ← List.append_assoc, List.append_assoc, List.length_cons, readCount]
    exact bind_eq_ok.mpr ⟨_, hentry _, bind_eq_ok.mpr ⟨_, ih hkeys hvalues more, rfl⟩⟩

theorem takes_readItem {depth : Nat} {opening content : Bytes} {head : Head} {item : Item}
    {array : Option Nat → Reader (List Item)} {map : Option Nat → Reader (List (Item × Item))}
    {nested : Reader Item}
    (hread : ∀ bs, readItem depth bs = readHead bs >>= fun p => readContent array map nested p.1 p.2)
    (hopening : Takes readHead opening head)
    (hcontent : Takes (readContent array map nested head) content item) :
    Takes (readItem depth) (opening ++ content) item := by
  intro more
  rw [hread, List.append_assoc]
  exact bind_eq_ok.mpr ⟨_, hopening _, hcontent more⟩

/-- What a head announces that has no items nested in it is read alike at every depth. -/
theorem takes_flat {depth : Nat} {opening content : Bytes} {head : Head} {item : Item}
    (hopening : Takes readHead opening head)
    (hcontent : ∀ array map nested, Takes (readContent array map nested head) content item) :
    Takes (readItem depth) (opening ++ content) item := by
  cases depth with
  | zero => exact takes_readItem (fun _ => rfl) hopening (hcontent _ _ _)
  | succ depth => exact takes_readItem (fun _ => rfl) hopening (hcontent _ _ _)

theorem takes_simple {depth n : Nat} {item : Item} (hn : n < 24) (hitem : simpleItem n = .ok item) :
    Takes (readItem depth) [UInt8.ofNat (7 * 32 + n)] item := by
  have hplain : n ≠ 25 ∧ n ≠ 26 ∧ n ≠ 27 := by omega
  have hhead : Head.ofArgument 7 n (some n) = .ok (.simple n) := by
    simp only [Head.ofArgument]
    split <;> simp_all
  have hopening := takes_initial (by decide) (by omega) (takes_readArgument_of_lt hn) hhead
  rw [← List.append_nil [_]]
  refine takes_flat hopening fun _ _ _ more => ?_
  exact bind_eq_ok.mpr ⟨_, hitem, rfl⟩

theorem Writable.takes {depth : Nat} {item : Item} (h : Writable depth item) :
    Takes (readItem depth) item.encode item := by
  induction h with
  | unsigned n =>
    have hhead := takes_encodeHead 0 (by decide) n.toNat_lt (fun _ => rfl)
    rw [Item.encode, ← List.append_nil (encodeHead _ _)]
    refine takes_flat hhead fun _ _ _ more => ?_
    rw [readContent, UInt64.ofNat_toNat, List.nil_append]
  | negative n =>
    have hhead := takes_encodeHead 1 (by decide) n.toNat_lt (fun _ => rfl)
    rw [Item.encode, ← List.append_nil (encodeHead _ _)]
    refine takes_flat hhead fun _ _ _ more => ?_
    rw [readContent, UInt64.ofNat_toNat, List.nil_append]
  | @bytes depth bs fits =>
    have hhead := takes_encodeHead 2 (by decide) fits (fun _ => rfl)
    rw [Item.encode]
    exact takes_flat hhead fun _ _ _ more => bind_eq_ok.mpr ⟨_, takes_readBytes bs more, rfl⟩
  | @text depth s fits =>
    have hhead := takes_encodeHead 3 (by decide) fits (fun _ => rfl)
    rw [Item.encode]
    exact takes_flat hhead fun _ _ _ more => bind_eq_ok.mpr ⟨_, takes_readTextSegment s more, rfl⟩
  | bool b =>
    cases b with
    | false => exact takes_simple (n := 20) (by decide) rfl
    | true => exact takes_simple (n := 21) (by decide) rfl
  | null => exact takes_simple (n := 22) (by decide) rfl
  | @array depth items fits _ ih =>
    have hhead := takes_encodeHead 4 (by decide) fits (fun _ => rfl)
    rw [Item.encode]
    refine takes_readItem (fun _ => rfl) hhead fun more => ?_
    exact bind_eq_ok.mpr ⟨_, takes_encodeItems ih more, rfl⟩
  | @map depth entries fits _ _ hkeys hvalues =>
    have hhead := takes_encodeHead 5 (by decide) fits (fun _ => rfl)
    rw [Item.encode]
    refine takes_readItem (fun _ => rfl) hhead fun more => ?_
    exact bind_eq_ok.mpr ⟨_, takes_encodeEntries hkeys hvalues more, rfl⟩

inductive Item.IsScalar : Item → Prop
  | unsigned (n : UInt64) : IsScalar (.unsigned n)
  | negative (n : UInt64) : IsScalar (.negative n)
  | bytes (bs : Bytes) : IsScalar (.bytes bs)
  | text (s : String) : IsScalar (.text s)

theorem Item.isScalar_ofInt (n : Int) : (Item.ofInt n).IsScalar := by
  unfold ofInt
  split
  next => exact .unsigned _
  next => exact .negative _

/-- Items without tags and floats, in which at most `depth` containers stand around one another. -/
inductive Plain : (depth : Nat) → Item → Prop
  | unsigned {depth : Nat} (n : UInt64) : Plain depth (.unsigned n)
  | negative {depth : Nat} (n : UInt64) : Plain depth (.negative n)
  | bytes {depth : Nat} (bs : Bytes) : Plain depth (.bytes bs)
  | text {depth : Nat} (s : String) : Plain depth (.text s)
  | bool {depth : Nat} (b : Bool) : Plain depth (.bool b)
  | null {depth : Nat} : Plain depth .null
  | array {depth : Nat} {items : List Item} (content : ∀ item ∈ items, Plain depth item) :
    Plain (depth + 1) (.array items)
  | map {depth : Nat} {entries : Entries} (keys : ∀ entry ∈ entries, Plain depth entry.1)
    (values : ∀ entry ∈ entries, Plain depth entry.2) : Plain (depth + 1) (.map entries)

theorem Item.IsScalar.plain {depth : Nat} {item : Item} (h : item.IsScalar) : Plain depth item := by
  cases h with
  | unsigned n => exact .unsigned n
  | negative n => exact .negative n
  | bytes bs => exact .bytes bs
  | text s => exact .text s

theorem encodeHead_length_pos (major n : Nat) : 0 < (encodeHead major n).length := by
  unfold encodeHead
  repeat' split
  all_goals simp

theorem encodeFloat_length_pos (bits : Nat) : 0 < (encodeFloat bits).length := by
  unfold encodeFloat
  repeat' split
  all_goals simp

theorem Item.encode_length_pos (item : Item) : 0 < item.encode.length := by
  have hhead := encodeHead_length_pos
  cases item with
  | unsigned n => exact hhead 0 _
  | negative n => exact hhead 1 _
  | bool b => cases b <;> exact Nat.one_pos
  | null => exact Nat.one_pos
  | float bits => exact encodeFloat_length_pos _
  | _ =>
    rw [encode, List.length_append]
    exact Nat.add_pos_left (hhead _ _) _

theorem item_length_le {items : List Item} {item : Item} (h : item ∈ items) :
    item.encode.length ≤ (encodeItems items).length := by
  induction h with
  | head =>
    simp only [encodeItems, List.length_append]
    omega
  | tail other _ ih =>
    simp only [encodeItems, List.length_append]
    omega

theorem length_le_encodeItems (items : List Item) : items.length ≤ (encodeItems items).length := by
  induction items with
  | nil => exact Nat.zero_le _
  | cons item items ih =>
    have hpos := item.encode_length_pos
    simp only [encodeItems, List.length_append, List.length_cons]
    omega

theorem entry_length_le {entries : Entries} {entry : Item × Item} (h : entry ∈ entries) :
    entry.1.encode.length + entry.2.encode.length ≤ (encodeEntries entries).length := by
  induction h with
  | head =>
    simp only [encodeEntries, List.length_append]
    omega
  | tail other _ ih =>
    simp only [encodeEntries, List.length_append]
    omega

theorem length_le_encodeEntries (entries : Entries) :
    entries.length ≤ (encodeEntries entries).length := by
  induction entries with
  | nil => exact Nat.zero_le _
  | cons entry entries ih =>
    have hpos := entry.1.encode_length_pos
    simp only [encodeEntries, List.length_append, List.length_cons]
    omega

/-- What is written in as many bytes as a memory holds fits its own heads, and those of all that is nested
in it. -/
theorem Plain.writable {depth : Nat} {item : Item} (h : Plain depth item)
    (hfits : item.encode.length < UInt64.size) : Writable depth item := by
  induction h with
  | unsigned n => exact .unsigned n
  | negative n => exact .negative n
  | bool b => exact .bool b
  | null => exact .null
  | bytes bs =>
    rw [Item.encode, List.length_append] at hfits
    exact .bytes (by omega)
  | text s =>
    rw [Item.encode, List.length_append] at hfits
    exact .text (by omega)
  | @array depth items _ ih =>
    rw [Item.encode, List.length_append] at hfits
    have hcount := length_le_encodeItems items
    refine .array (by omega) fun item hitem => ih item hitem ?_
    have hle := item_length_le hitem
    omega
  | @map depth entries _ _ hkeys hvalues =>
    rw [Item.encode, List.length_append] at hfits
    have hcount := length_le_encodeEntries entries
    refine .map (by omega) (fun entry hentry => hkeys entry hentry ?_)
      fun entry hentry => hvalues entry hentry ?_
    · have hle := entry_length_le hentry
      omega
    · have hle := entry_length_le hentry
      omega

theorem decode_encode {item : Item} (h : Writable depthLimit item) : decode item.encode = .ok item :=
  decode_eq_ok.mpr h.takes

theorem decodeMap_encode {entries : Entries} (h : Writable depthLimit (.map entries)) :
    decodeMap (Item.map entries).encode = .ok entries :=
  bind_eq_ok.mpr ⟨_, decode_encode h, rfl⟩

end RelyingParty.Cbor
