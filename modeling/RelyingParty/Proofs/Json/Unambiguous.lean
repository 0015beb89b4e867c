import RelyingParty.Proofs.Json.Object

namespace RelyingParty.Json

variable {w w' before before' after rest rest' : Bytes} {m m' : String × Bytes} {members members' : List (String × Bytes)}

theorem IsValue.skipSpace (h : IsValue w) (hbefore : IsBlank before) (rest : Bytes) :
    skipSpace (before ++ (w ++ rest)) = w ++ rest := by
  obtain ⟨b, w, rfl, hspace, _⟩ := h.skipped.starts
  rw [skipSpace_blank hbefore, List.cons_append, skipSpace_cons hspace]

theorem IsValue.unique (h : IsValue w) (h' : IsValue w') (hbefore : IsBlank before) (hbefore' : IsBlank before')
    (hrest : Delimits rest) (hrest' : Delimits rest') (heq : before ++ (w ++ rest) = before' ++ (w' ++ rest')) :
    w = w' ∧ rest = rest' := by
  have hskips := h.skipsTo hbefore hrest
  rw [heq] at hskips
  obtain rfl := hskips.unique (h'.skipsTo hbefore' hrest')
  have hvalue := congrArg Json.skipSpace heq
  rw [h.skipSpace hbefore, h'.skipSpace hbefore'] at hvalue
  exact ⟨List.append_cancel_right hvalue, rfl⟩

theorem Spelling.unique {name name' : String} (h : Spelling w name.toList) (h' : Spelling w' name'.toList)
    (heq : w ++ 0x22 :: rest = w' ++ 0x22 :: rest') : name = name' ∧ rest = rest' := by
  have hread := h.readQuoted rest
  rw [heq, h'.readQuoted] at hread
  obtain ⟨rfl, rfl⟩ := Prod.mk.inj (Except.ok.inj hread)
  exact ⟨rfl, rfl⟩

theorem IsNamed.unique (h : IsNamed m w) (h' : IsNamed m' w') (hvalue : IsValue m.2) (hvalue' : IsValue m'.2)
    (hrest : Delimits rest) (hrest' : Delimits rest') (heq : w ++ rest = w' ++ rest') : m = m' ∧ rest = rest' := by
  obtain ⟨name, value⟩ := m
  obtain ⟨name', value'⟩ := m'
  obtain ⟨body, hbody, ⟨hbefore, hafter⟩⟩ := h
  obtain ⟨body', hbody', ⟨hbefore', hafter'⟩⟩ := h'
  simp only [List.cons_append, List.append_assoc, List.cons.injEq, true_and] at heq
  obtain ⟨rfl, heq⟩ := hbody.unique hbody' heq
  have hcolon := congrArg Json.skipSpace heq
  rw [skipSpace_blank hbefore, skipSpace_blank hbefore', skipSpace_cons (by decide), skipSpace_cons (by decide)] at hcolon
  obtain ⟨rfl, rfl⟩ := hvalue.unique hvalue' hafter hafter' hrest hrest' (List.cons.inj hcolon).2
  exact ⟨rfl, rfl⟩

theorem IsNamed.skipSpace (h : IsNamed m w) (hbefore : IsBlank before) (rest : Bytes) :
    skipSpace (before ++ (w ++ rest)) = w ++ rest := by
  obtain ⟨_, _, ⟨_, _⟩⟩ := h
  rw [skipSpace_blank hbefore, List.cons_append, skipSpace_cons (by decide)]

/-- What stands after the last member is the closing brace, and after another member a comma. -/
theorem Listed.first (h : Listed IsNamed members w) (rest : Bytes) :
    ∃ m others text more, members = m :: others ∧ IsNamed m text ∧ Delimits more ∧
      skipSpace (w ++ 0x7d :: rest) = text ++ more ∧
      ((others = [] ∧ skipSpace more = 0x7d :: rest) ∨
        ∃ w', Listed IsNamed others w' ∧ skipSpace more = 0x2c :: (w' ++ 0x7d :: rest)) := by
  cases h with
  | @last m before w after hw hbefore hafter =>
    refine ⟨m, [], w, after ++ 0x7d :: rest, rfl, hw, delimits_blank hafter (delimits_cons (.inr (.inr rfl)) _),
      ?_, .inl ⟨rfl, ?_⟩⟩
    · rw [List.append_assoc, List.append_assoc, hw.skipSpace hbefore]
    · rw [skipSpace_blank hafter, skipSpace_cons (by decide)]
  | @next m others before w after tail hw hbefore hafter hrest =>
    refine ⟨m, others, w, after ++ 0x2c :: (tail ++ 0x7d :: rest), rfl, hw,
      delimits_blank hafter (delimits_cons (.inl rfl) _), ?_, .inr ⟨tail, hrest, ?_⟩⟩
    · rw [List.append_assoc, List.append_assoc, List.append_assoc, List.cons_append, hw.skipSpace hbefore]
    · rw [skipSpace_blank hafter, skipSpace_cons (by decide)]

theorem Listed.unique (h : Listed IsNamed members w) (h' : Listed IsNamed members' w')
    (hvalues : ∀ m ∈ members, IsValue m.2) (hvalues' : ∀ m ∈ members', IsValue m.2)
    (heq : w ++ 0x7d :: rest = w' ++ 0x7d :: rest') : members = members' := by
  induction members generalizing w w' members' with
  | nil =>
    obtain ⟨_, _, _, _, heq, _⟩ := h.first rest
    cases heq
  | cons m members ih =>
    obtain ⟨_, _, text, more, hcons, hm, hmore, hskip, hothers⟩ := h.first rest
    obtain ⟨rfl, rfl⟩ := List.cons.inj hcons
    obtain ⟨m', members', text', more', rfl, hm', hmore', hskip', hothers'⟩ := h'.first rest'
    obtain ⟨hvalue, hvaluesOthers⟩ := List.forall_mem_cons.mp hvalues
    obtain ⟨hvalue', hvaluesOthers'⟩ := List.forall_mem_cons.mp hvalues'
    rw [heq, hskip'] at hskip
    obtain ⟨rfl, rfl⟩ := hm'.unique hm hvalue' hvalue hmore' hmore hskip
    obtain ⟨rfl, hclose⟩ | ⟨w, hlisted, hcomma⟩ := hothers
    · obtain ⟨rfl, _⟩ | ⟨_, _, hcomma'⟩ := hothers'
      · rfl
      · cases hclose.symm.trans hcomma'
    · obtain ⟨_, hclose'⟩ | ⟨w', hlisted', hcomma'⟩ := hothers'
      · cases hcomma.symm.trans hclose'
      · have hrest := (List.cons.inj (hcomma.symm.trans hcomma')).2
        rw [ih hlisted hlisted' hvaluesOthers hvaluesOthers' hrest]

theorem Listed.ne_blank (h : Listed IsNamed members w) (hblank : IsBlank before) :
    before ++ [0x7d] ≠ w ++ [0x7d] := by
  intro heq
  obtain ⟨_, _, _, _, _, ⟨_, _, ⟨_, _⟩⟩, _, hskip, _⟩ := h.first []
  rw [← heq, skipSpace_blank hblank, skipSpace_cons (by decide)] at hskip
  cases hskip

theorem Enclosed.between (h : Enclosed IsNamed 0x7b 0x7d members w) : ∃ body, w = 0x7b :: (body ++ [0x7d]) ∧
    (members = [] ∧ IsBlank body ∨ Listed IsNamed members body) := by
  cases h with
  | nothing hblank => exact ⟨_, rfl, .inl ⟨rfl, hblank⟩⟩
  | items hlisted => exact ⟨_, rfl, .inr hlisted⟩

/-- The members of an object and their order can be told from its text. -/
theorem IsObject.unique (h : IsObject members w) (h' : IsObject members' w) : members = members' := by
  obtain ⟨body, rfl, hbody⟩ := h.layout.between
  obtain ⟨body', hsame, hbody'⟩ := h'.layout.between
  have heq := (List.cons.inj hsame).2
  obtain ⟨rfl, hblank⟩ | hlisted := hbody
  · obtain ⟨rfl, _⟩ | hlisted' := hbody'
    · rfl
    · exact absurd heq (hlisted'.ne_blank hblank)
  · obtain ⟨rfl, hblank'⟩ | hlisted' := hbody'
    · exact absurd heq.symm (hlisted.ne_blank hblank')
    · exact hlisted.unique hlisted' h.values h'.values heq

end RelyingParty.Json
