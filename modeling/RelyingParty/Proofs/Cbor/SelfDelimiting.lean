import RelyingParty.Cbor.Decoder
import RelyingParty.Proofs.Outcome

namespace RelyingParty.Cbor

variable {α β : Type}

/-- The reader answers `x` on the bytes `front`, whatever follows. -/
def Takes (read : Reader α) (front : Bytes) (x : α) : Prop :=
  ∀ more, read (front ++ more) = .ok (x, more)

/-- What a reader answers depends only on the bytes that it takes. -/
structure Local (read : Reader α) : Prop where
  takes : ∀ {bs x rest}, read bs = .ok (x, rest) → ∃ front, bs = front ++ rest ∧ Takes read front x

theorem Takes.alone {read : Reader α} {front : Bytes} {x : α} (h : Takes read front x) :
    read front = .ok (x, []) := by
  simpa using h []

theorem Local.pure (x : α) : Local fun bs => .ok (x, bs) where
  takes h := by
    obtain ⟨rfl, rfl⟩ := Prod.mk.inj (Except.ok.inj h)
    exact ⟨[], rfl, fun _ => rfl⟩

theorem Local.error (e : DecodeError) : Local (α := α) fun _ => .error e where
  takes h := by cases h

theorem Local.bind {read : Reader α} {next : α → Reader β} (hread : Local read)
    (hnext : ∀ x, Local (next x)) : Local fun bs => read bs >>= fun p => next p.1 p.2 where
  takes h := by
    obtain ⟨⟨x, mid⟩, hx, hy⟩ := bind_eq_ok.mp h
    obtain ⟨front, rfl, hfront⟩ := hread.takes hx
    obtain ⟨back, rfl, hback⟩ := (hnext x).takes hy
    refine ⟨front ++ back, by rw [List.append_assoc], ?_⟩
    intro more
    rw [List.append_assoc]
    exact bind_eq_ok.mpr ⟨(x, back ++ more), hfront _, hback more⟩

theorem Local.map {read : Reader α} (h : Local read) (f : α → β) :
    Local fun bs => read bs >>= fun p => .ok (f p.1, p.2) :=
  h.bind fun x => .pure (f x)

theorem Local.ofExcept {x : Except DecodeError α} {next : α → Reader β} (h : ∀ a, Local (next a)) :
    Local fun bs => x >>= fun a => next a bs := by
  cases x with
  | error e => exact .error e
  | ok a => exact h a

theorem readBytes_local (n : Nat) : Local (readBytes n) where
  takes h := by
    unfold readBytes at h
    split at h
    next front rest hsplit =>
      obtain ⟨rfl, rfl⟩ := Prod.mk.inj (Except.ok.inj h)
      obtain ⟨rfl, hlength⟩ := Bytes.split?_eq_some.mp hsplit
      refine ⟨front, rfl, ?_⟩
      intro more
      rw [readBytes, ← hlength, Bytes.split?_append]
    next => cases h

theorem readArgument_local (info : Nat) : Local (readArgument info) := by
  unfold readArgument
  split
  next => exact .pure (some info)
  next =>
    split
    next => exact (readBytes_local (1 <<< (info - 24))).map fun argument => some argument.toNat
    next =>
      split
      next => exact .pure none
      next => exact .error .malformed

/-- A head takes at least its initial byte. -/
theorem readHead_takes {bs rest : Bytes} {head : Head} (h : readHead bs = .ok (head, rest)) :
    ∃ b front, bs = b :: front ++ rest ∧ Takes readHead (b :: front) head := by
  cases bs with
  | nil => cases h
  | cons b bs =>
    have hlocal : Local fun bs => readArgument (b.toNat % 32) bs >>= fun p =>
        Head.ofArgument (b.toNat / 32) (b.toNat % 32) p.1 >>= fun head => .ok (head, p.2) :=
      (readArgument_local _).bind fun argument =>
        .ofExcept (x := Head.ofArgument (b.toNat / 32) (b.toNat % 32) argument) fun head => .pure head
    obtain ⟨front, rfl, htakes⟩ := hlocal.takes h
    exact ⟨b, front, rfl, htakes⟩

theorem readTextSegment_local (n : Nat) : Local (readTextSegment n) where
  takes h := by
    obtain ⟨⟨content, left⟩, hcontent, htext⟩ := bind_eq_ok.mp h
    obtain ⟨front, rfl, htakes⟩ := (readBytes_local n).takes hcontent
    cases hs : content.toText? with
    | none =>
      simp only [hs] at htext
      cases htext
    | some s =>
      simp only [hs] at htext
      obtain ⟨rfl, rfl⟩ := Prod.mk.inj (Except.ok.inj htext)
      refine ⟨front, rfl, ?_⟩
      intro more
      exact bind_eq_ok.mpr ⟨(content, more), htakes more, by simp only [hs]⟩

variable {segment : Nat → Reader α} {length? : Head → Option (Option Nat)} {fuel depth : Nat}
  {bs rest : Bytes} {head : Head}

theorem readSegments_of_stop_zero (h : readHead bs = .ok (.stop, rest)) :
    readSegments segment length? (fuel + 1) 0 bs = .ok ([], rest) := by
  rw [readSegments, h]
  rfl

theorem readSegments_of_stop_succ (h : readHead bs = .ok (.stop, rest)) :
    readSegments segment length? (fuel + 1) (depth + 1) bs =
      readSegments segment length? fuel depth rest := by
  rw [readSegments, h]
  rfl

theorem readSegments_of_head (h : readHead bs = .ok (head, rest)) (hstop : head ≠ .stop) :
    readSegments segment length? (fuel + 1) depth bs =
      match length? head with
      | none => .error .malformed
      | some none => readSegments segment length? fuel (depth + 1) rest
      | some (some n) => segment n rest >>= fun p =>
        readSegments segment length? fuel depth p.2 >>= fun q => .ok (p.1 :: q.1, q.2) := by
  rw [readSegments, h]
  cases head <;> first | rfl | exact absurd rfl hstop

/-- A bound on the steps that is not below the number of bytes to take allows for one step, and for
what is taken after it. -/
theorem fuel_of_length_le {b : UInt8} {opening front : Bytes}
    (h : (b :: opening ++ front).length ≤ fuel) : ∃ fuel', fuel = fuel' + 1 ∧ front.length ≤ fuel' := by
  cases fuel with
  | zero => simp at h
  | succ fuel =>
    simp only [List.cons_append, List.length_cons, List.length_append] at h
    exact ⟨fuel, rfl, by omega⟩

/-- Any bound on the steps will do that is not below the number of bytes taken. -/
theorem readSegments_takes (hsegment : ∀ n, Local (segment n)) {pieces : List α}
    (h : readSegments segment length? fuel depth bs = .ok (pieces, rest)) :
    ∃ front, bs = front ++ rest ∧ ∀ fuel', front.length ≤ fuel' →
      Takes (readSegments segment length? fuel' depth) front pieces := by
  induction fuel generalizing depth bs rest pieces with
  | zero => cases h
  | succ fuel ih =>
    obtain ⟨⟨head, mid⟩, hhead, _⟩ := bind_eq_ok.mp h
    obtain ⟨b, opening, rfl, hopening⟩ := readHead_takes hhead
    by_cases hstop : head = .stop
    · subst hstop
      cases depth with
      | zero =>
        rw [readSegments_of_stop_zero hhead] at h
        obtain ⟨rfl, rfl⟩ := Prod.mk.inj (Except.ok.inj h)
        refine ⟨b :: opening, rfl, ?_⟩
        intro fuel' hle more
        cases fuel' with
        | zero => simp at hle
        | succ fuel' => exact readSegments_of_stop_zero (hopening more)
      | succ depth =>
        rw [readSegments_of_stop_succ hhead] at h
        obtain ⟨front, rfl, htakes⟩ := ih h
        refine ⟨b :: opening ++ front, by rw [List.append_assoc], ?_⟩
        intro fuel' hle more
        obtain ⟨fuel', rfl, hroom⟩ := fuel_of_length_le hle
        rw [List.append_assoc, readSegments_of_stop_succ (hopening _)]
        exact htakes fuel' hroom more
    · rw [readSegments_of_head hhead hstop] at h
      split at h
      next => cases h
      next hlength =>
        obtain ⟨front, rfl, htakes⟩ := ih h
        refine ⟨b :: opening ++ front, by rw [List.append_assoc], ?_⟩
        intro fuel' hle more
        obtain ⟨fuel', rfl, hroom⟩ := fuel_of_length_le hle
        rw [List.append_assoc, readSegments_of_head (hopening _) hstop, hlength]
        exact htakes fuel' hroom more
      next n hlength =>
        obtain ⟨⟨piece, after⟩, hpiece, h⟩ := bind_eq_ok.mp h
        obtain ⟨⟨others, last⟩, hothers, h⟩ := bind_eq_ok.mp h
        obtain ⟨rfl, rfl⟩ := Prod.mk.inj (Except.ok.inj h)
        obtain ⟨content, rfl, hcontent⟩ := (hsegment n).takes hpiece
        obtain ⟨front, rfl, htakes⟩ := ih hothers
        refine ⟨b :: opening ++ (content ++ front), by simp only [List.append_assoc], ?_⟩
        intro fuel' hle more
        rw [← List.append_assoc, List.cons_append] at hle
        obtain ⟨fuel', rfl, hroom⟩ := fuel_of_length_le hle
        rw [List.append_assoc, readSegments_of_head (hopening _) hstop, hlength, List.append_assoc]
        exact bind_eq_ok.mpr ⟨_, hcontent _, bind_eq_ok.mpr ⟨_, htakes fuel' hroom more, rfl⟩⟩

theorem readSegments_local (hsegment : ∀ n, Local (segment n)) :
    Local fun bs => readSegments segment length? bs.length depth bs where
  takes h := by
    obtain ⟨front, rfl, htakes⟩ := readSegments_takes hsegment h
    refine ⟨front, rfl, ?_⟩
    intro more
    exact htakes _ (by simp) more

theorem readByteString_local (length : Option Nat) : Local (readByteString length) := by
  cases length with
  | some n => exact readBytes_local n
  | none => exact (readSegments_local readBytes_local).map List.flatten

theorem readText_local (length : Option Nat) : Local (readText length) := by
  cases length with
  | some n => exact readTextSegment_local n
  | none => exact (readSegments_local readTextSegment_local).map String.join

structure Consumes (read : Reader α) : Prop where
  takes : ∀ {bs x rest}, read bs = .ok (x, rest) →
    ∃ b front, bs = b :: front ++ rest ∧ Takes read (b :: front) x

theorem Consumes.toLocal {read : Reader α} (h : Consumes read) : Local read where
  takes hread := by
    obtain ⟨b, front, heq, htakes⟩ := h.takes hread
    exact ⟨b :: front, heq, htakes⟩

theorem Consumes.bind {read : Reader α} {next : α → Reader β} (hread : Consumes read)
    (hnext : ∀ x, Local (next x)) : Consumes fun bs => read bs >>= fun p => next p.1 p.2 where
  takes h := by
    obtain ⟨⟨x, mid⟩, hx, hy⟩ := bind_eq_ok.mp h
    obtain ⟨b, front, rfl, hfront⟩ := hread.takes hx
    obtain ⟨back, rfl, hback⟩ := (hnext x).takes hy
    refine ⟨b, front ++ back, by simp, ?_⟩
    intro more
    rw [← List.cons_append, List.append_assoc]
    exact bind_eq_ok.mpr ⟨(x, back ++ more), hfront _, hback more⟩

theorem readCount_local {read : Reader α} (h : Local read) (n : Nat) : Local (readCount read n) := by
  induction n with
  | zero => exact .pure []
  | succ n ih => exact h.bind fun x => ih.map fun xs => x :: xs

theorem readUntilStop_of_ne {read : Reader α} {b : UInt8} (hb : b ≠ 0xff) (bs : Bytes) :
    readUntilStop read (fuel + 1) (b :: bs) = read (b :: bs) >>= fun p =>
      readUntilStop read fuel p.2 >>= fun q => .ok (p.1 :: q.1, q.2) := by
  rw [readUntilStop]
  intro rest h
  exact hb (List.cons.inj h).1

/-- Any bound on the items will do that is not below the number of bytes taken. -/
theorem readUntilStop_takes {read : Reader α} (hread : Consumes read) {xs : List α}
    (h : readUntilStop read fuel bs = .ok (xs, rest)) :
    ∃ front, bs = front ++ rest ∧ ∀ fuel', front.length ≤ fuel' →
      Takes (readUntilStop read fuel') front xs := by
  induction fuel generalizing bs rest xs with
  | zero => cases h
  | succ fuel ih =>
    rw [readUntilStop.eq_def] at h
    split at h
    next => contradiction
    next =>
      obtain ⟨rfl, rfl⟩ := Prod.mk.inj (Except.ok.inj h)
      refine ⟨[0xff], rfl, ?_⟩
      intro fuel' hle more
      cases fuel' with
      | zero => simp at hle
      | succ fuel' => rfl
    next bytes fuel' hfuel hne =>
      cases hfuel
      obtain ⟨⟨x, mid⟩, hx, h⟩ := bind_eq_ok.mp h
      obtain ⟨⟨others, last⟩, hothers, h⟩ := bind_eq_ok.mp h
      obtain ⟨rfl, rfl⟩ := Prod.mk.inj (Except.ok.inj h)
      obtain ⟨b, front, rfl, hfront⟩ := hread.takes hx
      obtain ⟨back, rfl, hback⟩ := ih hothers
      have hb : b ≠ 0xff := by
        rintro rfl
        exact hne _ rfl
      refine ⟨b :: front ++ back, by simp, ?_⟩
      intro fuel' hle more
      obtain ⟨fuel', rfl, hroom⟩ := fuel_of_length_le hle
      rw [List.append_assoc, List.cons_append, readUntilStop_of_ne hb]
      exact bind_eq_ok.mpr ⟨_, hfront _, bind_eq_ok.mpr ⟨_, hback fuel' hroom more, rfl⟩⟩

theorem readSequence_local {read : Reader α} (h : Consumes read) (length : Option Nat) :
    Local (readSequence read length) := by
  cases length with
  | some n => exact readCount_local h.toLocal n
  | none =>
    refine ⟨?_⟩
    intro bs xs rest hread
    obtain ⟨front, rfl, htakes⟩ := readUntilStop_takes h hread
    refine ⟨front, rfl, ?_⟩
    intro more
    exact htakes _ (by simp) more

theorem readEntry_consumes {read : Reader Item} (h : Consumes read) : Consumes (readEntry read) :=
  h.bind fun key => h.toLocal.map fun value => (key, value)

structure ReadsItem (read : Reader Item) : Prop extends Consumes read where
  headed : ∀ {bs x rest}, read bs = .ok (x, rest) →
    ∃ head mid, readHead bs = .ok (head, mid) ∧ rest <:+ mid

theorem refuseDepth_readsItem : ReadsItem refuseDepth where
  takes h := by cases h
  headed h := by cases h

theorem readHead_consumes : Consumes readHead := ⟨readHead_takes⟩

/-- Reading a head and then its content reads an item. -/
theorem readsItem_of_content {content : Head → Reader Item} (h : ∀ head, Local (content head)) :
    ReadsItem fun bs => readHead bs >>= fun p => content p.1 p.2 where
  toConsumes := readHead_consumes.bind h
  headed hread := by
    obtain ⟨⟨head, mid⟩, hhead, hcontent⟩ := bind_eq_ok.mp hread
    obtain ⟨front, heq, _⟩ := (h head).takes hcontent
    exact ⟨head, mid, hhead, front, heq.symm⟩

/-- What follows an item does not change the head that it starts with. -/
theorem ReadsItem.head_of_takes {read : Reader Item} (h : ReadsItem read) {front : Bytes} {x : Item}
    (hread : read (front ++ rest) = .ok (x, rest)) :
    ∃ head mid, ∀ more, readHead (front ++ more) = .ok (head, mid ++ more) := by
  obtain ⟨head, mid, hhead, middle, rfl⟩ := h.headed hread
  obtain ⟨b, opening, heq, hopening⟩ := readHead_takes hhead
  have hfront : front = b :: opening ++ middle := by
    rw [← List.append_assoc] at heq
    exact List.append_cancel_right heq
  refine ⟨head, middle, ?_⟩
  intro more
  rw [hfront, List.append_assoc]
  exact hopening _

theorem readPlainTag_local {content : Reader Item} (h : ReadsItem content) (number : Nat) :
    Local (readPlainTag content number) :=
  h.toLocal.map (Item.tag (UInt64.ofNat number))

/-- Whether a tag makes a number of its content is seen from the head of the content. -/
theorem readTagged_local {content : Reader Item} (h : ReadsItem content) (number : Nat) :
    Local (readTagged content number) where
  takes {bs x rest} hread := by
    by_cases hnumber : number = 2 ∨ number = 3
    · rw [readTagged, if_pos hnumber] at hread
      obtain ⟨⟨head, mid⟩, hhead, hrest⟩ := bind_eq_ok.mp hread
      cases hlength : head.magnitudeLength? with
      | none =>
        simp only [hlength] at hrest
        obtain ⟨⟨item, last⟩, hitem, hx⟩ := bind_eq_ok.mp hrest
        obtain ⟨rfl, rfl⟩ := Prod.mk.inj (Except.ok.inj hx)
        obtain ⟨front, rfl, htakes⟩ := h.toLocal.takes hitem
        obtain ⟨head', middle, hhead'⟩ := h.head_of_takes hitem
        have hsame : head' = head := by
          have hboth := (hhead' last).symm.trans hhead
          exact (Prod.mk.inj (Except.ok.inj hboth)).1
        refine ⟨front, rfl, ?_⟩
        intro more
        rw [readTagged, if_pos hnumber]
        refine bind_eq_ok.mpr ⟨(head', middle ++ more), hhead' more, ?_⟩
        simp only [hsame, hlength]
        exact bind_eq_ok.mpr ⟨_, htakes more, rfl⟩
      | some n =>
        simp only [hlength] at hrest
        obtain ⟨b, opening, rfl, hopening⟩ := readHead_takes hhead
        have hnumeral : Local fun bs => readBytes n bs >>= fun p =>
            bigNumber (number = 3) p.1 >>= fun item => .ok (item, p.2) :=
          (readBytes_local n).bind fun magnitude =>
            .ofExcept (x := bigNumber (number = 3) magnitude) fun item => .pure item
        obtain ⟨front, rfl, htakes⟩ := hnumeral.takes hrest
        refine ⟨b :: opening ++ front, by rw [List.append_assoc], ?_⟩
        intro more
        rw [readTagged, if_pos hnumber, List.append_assoc]
        refine bind_eq_ok.mpr ⟨(head, front ++ more), hopening _, ?_⟩
        simp only [hlength]
        exact htakes more
    · rw [readTagged, if_neg hnumber] at hread
      obtain ⟨front, rfl, htakes⟩ := (readPlainTag_local h number).takes hread
      refine ⟨front, rfl, ?_⟩
      intro more
      rw [readTagged, if_neg hnumber]
      exact htakes more

theorem readContent_local {array : Option Nat → Reader (List Item)}
    {map : Option Nat → Reader (List (Item × Item))} {content : Reader Item}
    (harray : ∀ length, Local (array length)) (hmap : ∀ length, Local (map length))
    (hcontent : ReadsItem content) (head : Head) : Local (readContent array map content head) := by
  cases head with
  | unsigned n => exact .pure (Item.unsigned (UInt64.ofNat n))
  | negative n => exact .pure (Item.negative (UInt64.ofNat n))
  | bytes length => exact (readByteString_local length).map Item.bytes
  | text length => exact (readText_local length).map Item.text
  | array length => exact (harray length).map Item.array
  | map length => exact (hmap length).map Item.map
  | tag number => exact readTagged_local hcontent number
  | simple n => exact .ofExcept (x := simpleItem n) fun item => .pure item
  | float bits => exact .pure (Item.float (UInt64.ofNat bits))
  | stop => exact .error .meaningless

theorem refuseDepth_local : Local (refuseDepth (α := α)) := .error .tooDeep

theorem readItem_readsItem (depth : Nat) : ReadsItem (readItem depth) := by
  induction depth with
  | zero =>
    exact readsItem_of_content
      (readContent_local (fun _ => refuseDepth_local) (fun _ => refuseDepth_local) refuseDepth_readsItem)
  | succ depth ih =>
    exact readsItem_of_content (readContent_local (readSequence_local ih.toConsumes)
      (readSequence_local (readEntry_consumes ih.toConsumes)) ih)

/-- A byte string is an item exactly if a reader takes all of it wherever it stands. -/
theorem decode_eq_ok {item : Item} : decode bs = .ok item ↔ Takes (readItem depthLimit) bs item := by
  constructor
  · intro h
    obtain ⟨⟨x, rest⟩, hread, hend⟩ := bind_eq_ok.mp h
    obtain ⟨front, rfl, htakes⟩ := (readItem_readsItem depthLimit).toLocal.takes hread
    cases rest with
    | nil =>
      obtain rfl := Except.ok.inj hend
      rwa [List.append_nil]
    | cons b rest => cases hend
  · intro h
    exact bind_eq_ok.mpr ⟨(item, []), h.alone, rfl⟩

/-- The first item of a byte string is the item that its first bytes are by themselves. -/
theorem decodeFirst_eq_ok {item : Item} {n : Nat} : decodeFirst bs = .ok (item, n) ↔
    ∃ front rest, bs = front ++ rest ∧ front.length = n ∧ decode front = .ok item := by
  constructor
  · intro h
    obtain ⟨⟨x, rest⟩, hread, h⟩ := bind_eq_ok.mp h
    obtain ⟨rfl, rfl⟩ := Prod.mk.inj (Except.ok.inj h)
    obtain ⟨front, rfl, htakes⟩ := (readItem_readsItem depthLimit).toLocal.takes hread
    exact ⟨front, rest, rfl, by simp, decode_eq_ok.mpr htakes⟩
  · rintro ⟨front, rest, rfl, rfl, hdecode⟩
    exact bind_eq_ok.mpr ⟨(item, rest), decode_eq_ok.mp hdecode rest, by simp⟩

theorem ne_nil_of_decode {item : Item} (h : decode bs = .ok item) : bs ≠ [] := by
  rintro rfl
  cases h

end RelyingParty.Cbor
