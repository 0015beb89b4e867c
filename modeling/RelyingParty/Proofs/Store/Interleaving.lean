import RelyingParty.Proofs.Store.Locality
import RelyingParty.Proofs.Store.Provenance

namespace RelyingParty

namespace Table

variable {α : Type} {t u u' v : Table α} {taken others : List Bytes} {w : Write α}

/-- The tables agree under every key that is not taken. -/
def AgreesOff (taken : List Bytes) (t u : Table α) : Prop :=
  ∀ key, key ∉ taken → u.get? key = t.get? key

theorem AgreesOff.write (h : AgreesOff taken t u) (w : Write α) :
    AgreesOff taken (t.write w) (u.write w) :=
  fun key hkey => get?_write_congr w (h key hkey)

theorem AgreesOff.write_taken (h : AgreesOff taken t u) (hw : ∀ key ∈ w.key?, key ∈ taken) :
    AgreesOff taken t (u.write w) :=
  fun key hkey => (get?_write_of_ne u fun hmem => hkey (hw key hmem)).trans (h key hkey)

/-- Where two lists have no key in common, every key is off one of them. -/
theorem AgreesOff.get?_eq (disjoint : ∀ key ∈ taken, key ∉ others) (htu : AgreesOff others t u)
    (hvu : AgreesOff taken v u) (htu' : AgreesOff others t u') (hvu' : AgreesOff taken v u') (key : Bytes) :
    u'.get? key = u.get? key := by
  by_cases hkey : key ∈ taken
  · rw [htu key (disjoint key hkey), htu' key (disjoint key hkey)]
  · rw [hvu key hkey, hvu' key hkey]

end Table

namespace Store

inductive Side where
  | first
  | second

/-- A list made of two others, each in its own order, by the turns that `order` gives. -/
inductive Interleaves {α : Type} : List Side → List α → List α → List α → Prop where
  | nil : Interleaves [] [] [] []
  | first {order : List Side} {a : α} {as bs both : List α} (rest : Interleaves order as bs both) :
    Interleaves (.first :: order) (a :: as) bs (a :: both)
  | second {order : List Side} {b : α} {as bs both : List α} (rest : Interleaves order as bs both) :
    Interleaves (.second :: order) as (b :: bs) (b :: both)

def Call.IsLocal : Call → Bool
  | .countCredentials | .removeExpired => false
  | _ => true

def challengesOf (calls : List TimedCall) : List Bytes := calls.filterMap (·.call.challengeId?)

def credentialsOf (calls : List TimedCall) : List Bytes := calls.filterMap (·.call.credentialId?)

/-- Calls that see single records only, and name no challenge and no credential in common. -/
structure Unrelated (first second : List TimedCall) : Prop where
  single : ∀ c ∈ first ++ second, c.call.IsLocal = true
  challenges : ∀ challengeId ∈ challengesOf first, challengeId ∉ challengesOf second
  credentials : ∀ credentialId ∈ credentialsOf first, credentialId ∉ credentialsOf second

variable {first second mine theirs calls : List TimedCall} {order : List Side} {c : TimedCall}
  {s t u : Store}

theorem Unrelated.symm (h : Unrelated first second) : Unrelated second first where
  single c hc := h.single c (List.mem_append.mpr (List.mem_append.mp hc).symm)
  challenges challengeId hid hother := h.challenges challengeId hother hid
  credentials credentialId hid hother := h.credentials credentialId hother hid

theorem mem_challengesOf {challengeId : Bytes} (hc : c ∈ calls) (h : challengeId ∈ c.call.challengeId?) :
    challengeId ∈ challengesOf calls := List.mem_filterMap.mpr ⟨c, hc, h⟩

theorem mem_credentialsOf {credentialId : Bytes} (hc : c ∈ calls)
    (h : credentialId ∈ c.call.credentialId?) : credentialId ∈ credentialsOf calls :=
  List.mem_filterMap.mpr ⟨c, hc, h⟩

structure AgreesOff (calls : List TimedCall) (s u : Store) : Prop where
  ceremonies : Table.AgreesOff (challengesOf calls) s.ceremonies u.ceremonies
  credentials : Table.AgreesOff (credentialsOf calls) s.credentials u.credentials

theorem agreesOff_self (calls : List TimedCall) (s : Store) : AgreesOff calls s s :=
  ⟨fun _ _ => rfl, fun _ _ => rfl⟩

theorem AgreesOff.looksAlike (h : AgreesOff second s u) (unrelated : Unrelated first second)
    (hc : c ∈ first) : s.LooksAlike u c.time c.call := by
  have single := unrelated.single c (List.mem_append_left second hc)
  have challenge : ∀ challengeId ∈ c.call.challengeId?,
      u.ceremonies.get? challengeId = s.ceremonies.get? challengeId := fun challengeId hid =>
    h.ceremonies challengeId (unrelated.challenges challengeId (mem_challengesOf hc hid))
  have credential : ∀ credentialId ∈ c.call.credentialId?,
      u.credentials.get? credentialId = s.credentials.get? credentialId := fun credentialId hid =>
    h.credentials credentialId (unrelated.credentials credentialId (mem_credentialsOf hc hid))
  have noTable : ∀ {call}, c.call = call → call.IsLocal = true := fun hcall => hcall ▸ single
  constructor
  case noPurge => exact fun hcall => absurd (noTable hcall) (by decide)
  case used =>
    intro ceremony hcall
    exact Table.contains_congr (challenge ceremony.challengeId (by rw [hcall]; rfl))
  case live => exact fun challengeId hid => liveCeremony_congr (challenge challengeId hid)
  case credential => exact credential
  case count => exact fun hcall => absurd (noTable hcall) (by decide)

/-- A call of the one side acts in the same way where the other side was active before. -/
theorem AgreesOff.own (h : AgreesOff second s u) (unrelated : Unrelated first second) (hc : c ∈ first) :
    (u.perform c.time c.call).2 = (s.perform c.time c.call).2 ∧
      AgreesOff second (s.perform c.time c.call).1 (u.perform c.time c.call).1 := by
  obtain ⟨w, answer, _, hs, hu⟩ := (h.looksAlike unrelated hc).actsAlike
  rw [hs, hu]
  exact ⟨rfl, h.ceremonies.write w.ceremony, h.credentials.write w.credential⟩

/-- What the other side does is not seen. -/
theorem AgreesOff.other (h : AgreesOff first t u) (unrelated : Unrelated first second) (hc : c ∈ first) :
    AgreesOff first t (u.perform c.time c.call).1 := by
  have unseen := (agreesOff_self second u).looksAlike unrelated hc
  obtain ⟨w, answer, within, hu, _⟩ := unseen.actsAlike
  rw [hu]
  exact ⟨h.ceremonies.write_taken fun _ hkey => mem_challengesOf hc (within.ceremony _ hkey),
    h.credentials.write_taken fun _ hkey => mem_credentialsOf hc (within.credential _ hkey)⟩

/-- The store `u` of both sides shows what `s` would show the first, and what `t` would show the second. -/
structure Joins (first second : List TimedCall) (s t u : Store) : Prop where
  showsFirst : AgreesOff second s u
  showsSecond : AgreesOff first t u

theorem Joins.symm (h : Joins first second s t u) : Joins second first t s u := ⟨h.showsSecond, h.showsFirst⟩

theorem Joins.step (h : Joins first second s t u) (unrelated : Unrelated first second) (hc : c ∈ first) :
    (u.perform c.time c.call).2 = (s.perform c.time c.call).2 ∧
      Joins first second (s.perform c.time c.call).1 t (u.perform c.time c.call).1 := by
  obtain ⟨hanswer, hown⟩ := h.showsFirst.own unrelated hc
  exact ⟨hanswer, hown, h.showsSecond.other unrelated hc⟩

/-- Each side runs as it does alone. -/
theorem Joins.run (joins : Joins first second s t u) (unrelated : Unrelated first second)
    (turns : Interleaves order mine theirs calls) (hmine : mine ⊆ first) (htheirs : theirs ⊆ second) :
    Interleaves order (s.journal mine) (t.journal theirs) (u.journal calls) ∧
      Joins first second (s.run mine) (t.run theirs) (u.run calls) := by
  induction turns generalizing s t u with
  | nil => exact ⟨.nil, joins⟩
  | first rest ih =>
    obtain ⟨hc, hmine⟩ := List.cons_subset.mp hmine
    obtain ⟨hanswer, hnext⟩ := joins.step unrelated hc
    obtain ⟨hjournal, hrun⟩ := ih hnext hmine htheirs
    refine ⟨?_, hrun⟩
    simp only [journal, hanswer]
    exact .first hjournal
  | second rest ih =>
    obtain ⟨hc, htheirs⟩ := List.cons_subset.mp htheirs
    obtain ⟨hanswer, hnext⟩ := joins.symm.step unrelated.symm hc
    obtain ⟨hjournal, hrun⟩ := ih hnext.symm hmine htheirs
    refine ⟨?_, hrun⟩
    simp only [journal, hanswer]
    exact .second hjournal

/-- Calls that name no challenge and no credential in common do not interfere. In every interleaving each
call gets the answer that it gets when its own side runs alone, and every interleaving leaves the same
records. -/
theorem unrelated_calls_do_not_interfere (s : Store) (unrelated : Unrelated first second)
    (turns : Interleaves order first second calls) :
    Interleaves order (s.journal first) (s.journal second) (s.journal calls) ∧
      ∀ order' calls', Interleaves order' first second calls' →
        (∀ challengeId, (s.run calls').ceremonies.get? challengeId =
          (s.run calls).ceremonies.get? challengeId) ∧
        ∀ credentialId, (s.run calls').credentials.get? credentialId =
          (s.run calls).credentials.get? credentialId := by
  have start : Joins first second s s s := ⟨agreesOff_self second s, agreesOff_self first s⟩
  obtain ⟨answers, joins⟩ := start.run unrelated turns (List.Subset.refl _) (List.Subset.refl _)
  refine ⟨answers, ?_⟩
  intro order' calls' turns'
  -- both runs join the same two: each record is what one side, running alone, makes of it
  obtain ⟨_, joins'⟩ := start.run unrelated turns' (List.Subset.refl _) (List.Subset.refl _)
  exact ⟨joins.showsFirst.ceremonies.get?_eq unrelated.challenges joins.showsSecond.ceremonies
      joins'.showsFirst.ceremonies joins'.showsSecond.ceremonies,
    joins.showsFirst.credentials.get?_eq unrelated.credentials joins.showsSecond.credentials
      joins'.showsFirst.credentials joins'.showsSecond.credentials⟩

def sampleOther : Ceremony := .begin [3] "other" .create none 5

def sampleOtherCredential : Credential := { sampleCredential with rawId := [8], sessionId := "other" }

def sampleSides : List TimedCall × List TimedCall :=
  ([⟨0, .putCeremony sampleRegistration⟩, ⟨1, .writeCredential sampleRegistration sampleCredential⟩],
    [⟨5, .putCeremony sampleOther⟩, ⟨4, .getCeremony [3]⟩,
      ⟨6, .writeCredential sampleOther sampleOtherCredential⟩])

def sampleTurns : List TimedCall :=
  [⟨0, .putCeremony sampleRegistration⟩, ⟨5, .putCeremony sampleOther⟩, ⟨4, .getCeremony [3]⟩,
    ⟨1, .writeCredential sampleRegistration sampleCredential⟩,
    ⟨6, .writeCredential sampleOther sampleOtherCredential⟩]

theorem unrelated_calls_do_not_interfere_sample :
    Interleaves [.first, .second, .second, .first, .second] (empty.journal sampleSides.1)
      (empty.journal sampleSides.2) (empty.journal sampleTurns) ∧
    (empty.run (sampleSides.1 ++ sampleSides.2)).ceremonies.get? [1] =
      (empty.run sampleTurns).ceremonies.get? [1] ∧
    (empty.run (sampleSides.1 ++ sampleSides.2)).credentials.get? [8] =
      (empty.run sampleTurns).credentials.get? [8] ∧
    (empty.run sampleTurns).credentials.get? [8] = some sampleOtherCredential := by
  have unrelated : Unrelated sampleSides.1 sampleSides.2 := ⟨by decide, by decide, by decide⟩
  have turns : Interleaves [.first, .second, .second, .first, .second] sampleSides.1 sampleSides.2
    sampleTurns := .first (.second (.second (.first (.second .nil))))
  have inOrder : Interleaves [.first, .first, .second, .second, .second] sampleSides.1 sampleSides.2
    (sampleSides.1 ++ sampleSides.2) := .first (.first (.second (.second (.second .nil))))
  obtain ⟨answers, tables⟩ := unrelated_calls_do_not_interfere empty unrelated turns
  obtain ⟨ceremonies, credentials⟩ := tables _ _ inOrder
  exact ⟨answers, ceremonies [1], credentials [8], rfl⟩

end Store

end RelyingParty
