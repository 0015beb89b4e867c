import RelyingParty.Proofs.Store.Provenance
import RelyingParty.Proofs.Store.Refusals

namespace RelyingParty.Store

/-- Requests of which one decides the race for all. While none has won the store is `Open`, and once
`a` has it is `Closed a`. -/
structure Race (α : Type) where
  call : α → TimedCall
  answered : α → Except StoreError Unit → Event
  attempt : α → Store → Store × Except StoreError Unit
  journal_call : ∀ s a, s.journal [call a] = [answered a (attempt a s).2]
  run_call : ∀ s a, s.run [call a] = (attempt a s).1
  Wins : α → Prop
  refusal : α → StoreError
  Open : Store → Prop
  Closed : α → Store → Prop
  loses : ∀ {s a}, Open s → ¬ Wins a → ∃ s', attempt a s = (s', .error (refusal a)) ∧ Open s'
  wins : ∀ {s a}, Open s → Wins a → ∃ s', attempt a s = (s', .ok ()) ∧ Closed a s'
  late : ∀ {s a b}, Closed a s → attempt b s = (s, .error .notFound)

namespace Race

variable {α : Type} (race : Race α) {s : Store}

theorem journal_cons (s : Store) (a : α) (rest : List α) :
    s.journal ((a :: rest).map race.call) =
      race.answered a (race.attempt a s).2 :: (race.attempt a s).1.journal (rest.map race.call) := by
  rw [List.map_cons, ← List.singleton_append, journal_append, race.journal_call, race.run_call]
  rfl

theorem run_cons (s : Store) (a : α) (rest : List α) :
    s.run ((a :: rest).map race.call) = (race.attempt a s).1.run (rest.map race.call) := by
  rw [List.map_cons, ← List.singleton_append, run_append, race.run_call]

/-- Nobody wins: every request is refused for its own fault. -/
theorem of_losers (hopen : race.Open s) (losers : List α) (h : ∀ a ∈ losers, ¬ race.Wins a) :
    s.journal (losers.map race.call) =
        losers.map (fun a => race.answered a (.error (race.refusal a))) ∧
      race.Open (s.run (losers.map race.call)) := by
  induction losers generalizing s with
  | nil => exact ⟨rfl, hopen⟩
  | cons a rest ih =>
    obtain ⟨ha, hrest⟩ := List.forall_mem_cons.mp h
    obtain ⟨s', hattempt, hopen'⟩ := race.loses hopen ha
    obtain ⟨hjournal, hrun⟩ := ih hopen' hrest
    rw [race.journal_cons, race.run_cons, hattempt]
    exact ⟨congrArg (_ :: ·) hjournal, hrun⟩

/-- The race is over: no request finds the ceremony, and the store stays as it is. -/
theorem of_closed {a : α} (hclosed : race.Closed a s) (later : List α) :
    s.journal (later.map race.call) = later.map (fun b => race.answered b (.error .notFound)) ∧
      s.run (later.map race.call) = s := by
  induction later with
  | nil => exact ⟨rfl, rfl⟩
  | cons b rest ih =>
    rw [race.journal_cons, race.run_cons, race.late hclosed]
    exact ⟨congrArg (_ :: ·) ih.1, ih.2⟩

theorem of_first (hopen : race.Open s) {earlier : List α} {winner : α} (later : List α)
    (h : ∀ a ∈ earlier, ¬ race.Wins a) (hwinner : race.Wins winner) :
    s.journal ((earlier ++ winner :: later).map race.call) =
        earlier.map (fun a => race.answered a (.error (race.refusal a))) ++
          race.answered winner (.ok ()) ::
            later.map (fun b => race.answered b (.error .notFound)) ∧
      race.Closed winner (s.run ((earlier ++ winner :: later).map race.call)) := by
  obtain ⟨hearlier, hopen'⟩ := race.of_losers hopen earlier h
  obtain ⟨s', hattempt, hclosed⟩ := race.wins hopen' hwinner
  obtain ⟨hlater, hstays⟩ := race.of_closed hclosed later
  rw [List.map_append, journal_append, run_append, hearlier, race.journal_cons, race.run_cons,
    hattempt, hlater, hstays]
  exact ⟨rfl, hclosed⟩

end Race

/-- A request to complete a login, at the time at which the store gets to it. -/
structure LoginAttempt where
  time : UInt64
  count : UInt32

namespace LoginAttempt

def call (credentialId challengeId : Bytes) (r : LoginAttempt) : TimedCall :=
  ⟨r.time, .moveCounter credentialId r.count challengeId⟩

def answered (credentialId challengeId : Bytes) (r : LoginAttempt) (answer : Except StoreError Unit) :
    Event :=
  ⟨r.call credentialId challengeId, answer⟩

/-- The attempt may complete the ceremony where the stored counter is `stored`. -/
def Wins (c : Ceremony) (stored : UInt32) (r : LoginAttempt) : Prop :=
  r.time.toNat < c.expiry ∧ stored ≤ r.count

instance (c : Ceremony) (stored : UInt32) (r : LoginAttempt) : Decidable (r.Wins c stored) :=
  inferInstanceAs (Decidable (_ ∧ _))

/-- How an attempt that may not is refused. -/
def refusal (c : Ceremony) (stored : UInt32) (r : LoginAttempt) : StoreError :=
  if r.time.toNat < c.expiry then .counterNotMonotone stored r.count else .notFound

end LoginAttempt

/-- The ceremony stands, and the counter of the credential is `stored`. -/
def AwaitsLogin (s : Store) (challengeId credentialId : Bytes) (c : Ceremony) (stored : UInt32) : Prop :=
  s.ceremonies.get? challengeId = some c ∧
    ∃ credential, s.credentials.get? credentialId = some credential ∧ credential.signCounter = stored

/-- The ceremony is gone, and the counter of the credential is `count`. -/
def LoggedIn (s : Store) (challengeId credentialId : Bytes) (count : UInt32) : Prop :=
  s.ceremonies.get? challengeId = none ∧
    ∃ credential, s.credentials.get? credentialId = some credential ∧ credential.signCounter = count

section Login

variable {s : Store} {challengeId credentialId : Bytes} {c : Ceremony} {stored : UInt32}

theorem AwaitsLogin.logsIn (h : s.AwaitsLogin challengeId credentialId c stored) (kind : c.kind = .get)
    (admits : c.admits credentialId = true) {now : UInt64} (intime : now.toNat < c.expiry) :
    ∃ credential, s.LogsIn now credentialId challengeId c credential ∧
      credential.signCounter = stored := by
  obtain ⟨hc, credential, hfound, hcounter⟩ := h
  exact ⟨credential, ⟨⟨hc, intime⟩, kind, admits, hfound⟩, hcounter⟩

theorem moveCounter_loses (h : s.AwaitsLogin challengeId credentialId c stored) (kind : c.kind = .get)
    (admits : c.admits credentialId = true) {r : LoginAttempt} (loses : ¬ r.Wins c stored) :
    ∃ s', s.moveCounter r.time credentialId r.count challengeId = (s', .error (r.refusal c stored)) ∧
      s'.AwaitsLogin challengeId credentialId c stored := by
  by_cases intime : r.time.toNat < c.expiry
  · have hlt : r.count < stored := UInt32.not_le.mp fun hle => loses ⟨intime, hle⟩
    obtain ⟨credential, due, rfl⟩ := h.logsIn kind admits intime
    have hrefusal : r.refusal c credential.signCounter =
        .counterNotMonotone credential.signCounter r.count := if_pos intime
    rw [hrefusal]
    exact ⟨_, moveCounter_of_lt due hlt, h.1, _, Table.get?_insert_self _ _ _, rfl⟩
  · have hrefusal : r.refusal c stored = .notFound := if_neg intime
    rw [hrefusal]
    exact ⟨s, moveCounter_of_not_live (not_hasLive_of_late h.1 intime), h⟩

theorem moveCounter_wins (h : s.AwaitsLogin challengeId credentialId c stored) (kind : c.kind = .get)
    (admits : c.admits credentialId = true) {r : LoginAttempt} (wins : r.Wins c stored) :
    ∃ s', s.moveCounter r.time credentialId r.count challengeId = (s', .ok ()) ∧
      s'.LoggedIn challengeId credentialId r.count := by
  obtain ⟨credential, due, rfl⟩ := h.logsIn kind admits wins.1
  exact ⟨_, moveCounter_of_le due wins.2, Table.get?_erase_self _ _, _,
    Table.get?_insert_self _ _ _, rfl⟩

def loginRace (challengeId credentialId : Bytes) (c : Ceremony) (stored : UInt32) (kind : c.kind = .get)
    (admits : c.admits credentialId = true) : Race LoginAttempt where
  call r := r.call credentialId challengeId
  answered r := r.answered credentialId challengeId
  attempt r s := s.moveCounter r.time credentialId r.count challengeId
  journal_call _ _ := rfl
  run_call _ _ := rfl
  Wins r := r.Wins c stored
  refusal r := r.refusal c stored
  Open s := s.AwaitsLogin challengeId credentialId c stored
  Closed r s := s.LoggedIn challengeId credentialId r.count
  loses h := moveCounter_loses h kind admits
  wins h := moveCounter_wins h kind admits
  late h := moveCounter_of_not_live (not_hasLive_of_none h.1)

end Login

/-- A request to complete a registration, at the time at which the store gets to it. -/
structure RegistrationAttempt (challengeId : Bytes) where
  time : UInt64
  ceremony : Ceremony
  credential : Credential
  named : ceremony.challengeId = challengeId

namespace RegistrationAttempt

variable {challengeId : Bytes}

def call (r : RegistrationAttempt challengeId) : TimedCall :=
  ⟨r.time, .writeCredential r.ceremony r.credential⟩

def answered (r : RegistrationAttempt challengeId) (answer : Except StoreError Unit) : Event :=
  ⟨r.call, answer⟩

/-- The attempt may complete the ceremony in the store. -/
def Wins (s : Store) (c : Ceremony) (r : RegistrationAttempt challengeId) : Prop :=
  r.time.toNat < c.expiry ∧ r.ceremony.sessionId = c.sessionId ∧
    s.credentials.get? r.credential.rawId = none

instance (s : Store) (c : Ceremony) (r : RegistrationAttempt challengeId) : Decidable (r.Wins s c) :=
  inferInstanceAs (Decidable (_ ∧ _ ∧ _))

/-- How an attempt that may not is refused. -/
def refusal (c : Ceremony) (r : RegistrationAttempt challengeId) : StoreError :=
  if r.time.toNat < c.expiry then
    if r.ceremony.sessionId = c.sessionId then .alreadyExists else .conditionFailed .otherSession
  else .notFound

end RegistrationAttempt

/-- The credential stands in the place of the ceremony. -/
def registered (s : Store) (challengeId : Bytes) (credential : Credential) : Store :=
  ⟨s.ceremonies.erase challengeId, s.credentials.insert credential.rawId credential⟩

section Registration

variable {s : Store} {challengeId : Bytes} {c : Ceremony} {r : RegistrationAttempt challengeId}

theorem writeCredential_loses (h : s.ceremonies.get? challengeId = some c) (kind : c.kind = .create)
    (loses : ¬ r.Wins s c) :
    s.commit (s.writeCredential r.time r.ceremony r.credential) = (s, .error (r.refusal c)) := by
  obtain ⟨time, ceremony, credential, rfl⟩ := r
  by_cases intime : time.toNat < c.expiry
  · have live : s.HasLive time ceremony.challengeId c := ⟨h, intime⟩
    by_cases session : ceremony.sessionId = c.sessionId
    · have known : s.credentials.get? credential.rawId ≠ none :=
        fun fresh => loses ⟨intime, session, fresh⟩
      rw [writeCredential_of_known live session.symm kind known]
      simp only [commit, RegistrationAttempt.refusal, intime, session, if_true]
    · rw [writeCredential_of_otherSession live (Ne.symm session)]
      simp only [commit, RegistrationAttempt.refusal, intime, session, if_true, if_false]
  · rw [writeCredential_of_not_live (not_hasLive_of_late h intime)]
    simp only [commit, RegistrationAttempt.refusal, intime, if_false]

theorem writeCredential_wins (h : s.ceremonies.get? challengeId = some c) (kind : c.kind = .create)
    (wins : r.Wins s c) :
    s.commit (s.writeCredential r.time r.ceremony r.credential) =
      (s.registered challengeId r.credential, .ok ()) := by
  obtain ⟨time, ceremony, credential, rfl⟩ := r
  obtain ⟨intime, session, fresh⟩ := wins
  have due : s.Registers time ceremony credential c := ⟨⟨h, intime⟩, session.symm, kind, fresh⟩
  rw [writeCredential_eq_ok.mpr ⟨⟨c, due⟩, rfl⟩]
  rfl

theorem writeCredential_late {credential : Credential} :
    (s.registered challengeId credential).commit
        ((s.registered challengeId credential).writeCredential r.time r.ceremony r.credential) =
      (s.registered challengeId credential, .error .notFound) := by
  have hgone : (s.registered challengeId credential).ceremonies.get? r.ceremony.challengeId = none := by
    rw [r.named]
    exact Table.get?_erase_self _ _
  rw [writeCredential_of_not_live (not_hasLive_of_none hgone)]
  rfl

def registrationRace (s : Store) (challengeId : Bytes) (c : Ceremony)
    (h : s.ceremonies.get? challengeId = some c) (kind : c.kind = .create) :
    Race (RegistrationAttempt challengeId) where
  call r := r.call
  answered r := r.answered
  attempt r s := s.commit (s.writeCredential r.time r.ceremony r.credential)
  journal_call _ _ := rfl
  run_call _ _ := rfl
  Wins r := r.Wins s c
  refusal r := r.refusal c
  Open t := t = s
  Closed r t := t = s.registered challengeId r.credential
  loses := by
    rintro t r rfl loses
    exact ⟨t, writeCredential_loses h kind loses, rfl⟩
  wins := by
    rintro t r rfl wins
    exact ⟨_, writeCredential_wins h kind wins, rfl⟩
  late := by
    rintro t r other rfl
    exact writeCredential_late

theorem credentialCount_registered {credential : Credential}
    (fresh : s.credentials.get? credential.rawId = none) :
    (s.registered challengeId credential).credentialCount = s.credentialCount + 1 := by
  have hsize := Table.size_erase_of_get?_eq_none fresh
  change (s.credentials.insert credential.rawId credential).size = s.credentials.size + 1
  rw [Table.size_insert, hsize]

end Registration

/-- Racing completions of a ceremony have one winner, the first request that may complete it. While the
ceremony of a login is live, a request below the stored counter is told so and leaves the ceremony to the
next; while that of a registration is, a request of another session or with a known credential is. Once
one has won, no other finds the ceremony. -/
theorem first_completion_wins :
    (∀ (s : Store) (challengeId credentialId : Bytes) (c : Ceremony) (credential : Credential),
      s.ceremonies.get? challengeId = some c → c.kind = .get →
      (c.credentialId = none ∨ c.credentialId = some credentialId) →
      s.credentials.get? credentialId = some credential →
      (∀ requests : List LoginAttempt, (∀ r ∈ requests, ¬ r.Wins c credential.signCounter) →
        s.journal (requests.map (·.call credentialId challengeId)) =
            requests.map (fun r => r.answered credentialId challengeId
              (.error (r.refusal c credential.signCounter))) ∧
          (s.run (requests.map (·.call credentialId challengeId))).AwaitsLogin challengeId credentialId c
            credential.signCounter) ∧
      ∀ (earlier later : List LoginAttempt) (winner : LoginAttempt),
        (∀ r ∈ earlier, ¬ r.Wins c credential.signCounter) → winner.Wins c credential.signCounter →
        s.journal ((earlier ++ winner :: later).map (·.call credentialId challengeId)) =
            earlier.map (fun r => r.answered credentialId challengeId
              (.error (r.refusal c credential.signCounter))) ++
              winner.answered credentialId challengeId (.ok ()) ::
                later.map (·.answered credentialId challengeId (.error .notFound)) ∧
          (s.run ((earlier ++ winner :: later).map (·.call credentialId challengeId))).LoggedIn
            challengeId credentialId winner.count) ∧
    ∀ (s : Store) (challengeId : Bytes) (c : Ceremony),
      s.ceremonies.get? challengeId = some c → c.kind = .create →
      (∀ requests : List (RegistrationAttempt challengeId), (∀ r ∈ requests, ¬ r.Wins s c) →
        s.journal (requests.map (·.call)) = requests.map (fun r => r.answered (.error (r.refusal c))) ∧
          s.run (requests.map (·.call)) = s) ∧
      ∀ (earlier later : List (RegistrationAttempt challengeId))
        (winner : RegistrationAttempt challengeId),
        (∀ r ∈ earlier, ¬ r.Wins s c) → winner.Wins s c →
        s.journal ((earlier ++ winner :: later).map (·.call)) =
            earlier.map (fun r => r.answered (.error (r.refusal c))) ++
              winner.answered (.ok ()) :: later.map (·.answered (.error .notFound)) ∧
          s.run ((earlier ++ winner :: later).map (·.call)) =
            s.registered challengeId winner.credential ∧
          (s.registered challengeId winner.credential).credentialCount = s.credentialCount + 1 := by
  refine ⟨?_, ?_⟩
  · intro s challengeId credentialId c credential hc kind bound hfound
    let race := loginRace challengeId credentialId c credential.signCounter kind
      (admits_iff.mpr bound)
    have hopen : race.Open s := ⟨hc, credential, hfound, rfl⟩
    exact ⟨fun requests losers => race.of_losers hopen requests losers,
      fun earlier later winner losers wins => race.of_first hopen later losers wins⟩
  · intro s challengeId c hc kind
    let race := registrationRace s challengeId c hc kind
    have hopen : race.Open s := rfl
    refine ⟨fun requests losers => race.of_losers hopen requests losers, ?_⟩
    intro earlier later winner losers wins
    obtain ⟨hjournal, hrun⟩ := race.of_first hopen later losers wins
    exact ⟨hjournal, hrun, credentialCount_registered wins.2.2⟩

def sampleNext : Ceremony := .begin [3] "session" .create none 4

/-- Credential `[9]` has counter 5, one ceremony waits for its next login and one for a registration. -/
def sampleContested : Store :=
  empty.run (sampleCalls ++ [⟨3, .moveCounter [9] 5 [2]⟩, ⟨4, .putCeremony sampleLogin⟩,
    ⟨4, .putCeremony sampleNext⟩])

def sampleAttempt (time : UInt64) (sessionId : String) (id : UInt8) : RegistrationAttempt [3] where
  time := time
  ceremony := { sampleNext with sessionId := sessionId }
  credential := { sampleCredential with rawId := [id] }
  named := rfl

theorem first_completion_wins_sample :
    sampleContested.journal ([⟨5, 4⟩, ⟨6, 7⟩, ⟨7, 8⟩].map (LoginAttempt.call [9] [2])) =
        [LoginAttempt.answered [9] [2] ⟨5, 4⟩ (.error (.counterNotMonotone 5 4)),
          LoginAttempt.answered [9] [2] ⟨6, 7⟩ (.ok ()),
          LoginAttempt.answered [9] [2] ⟨7, 8⟩ (.error .notFound)] ∧
      (sampleContested.run ([⟨5, 4⟩, ⟨6, 7⟩, ⟨7, 8⟩].map (LoginAttempt.call [9] [2]))).LoggedIn
        [2] [9] 7 ∧
      (sampleContested.run ([⟨5, 4⟩, ⟨302, 7⟩].map (LoginAttempt.call [9] [2]))).AwaitsLogin
        [2] [9] sampleLogin 5 ∧
      sampleContested.journal ([sampleAttempt 5 "other" 8, sampleAttempt 6 "session" 9,
          sampleAttempt 7 "session" 8, sampleAttempt 8 "session" 7].map (·.call)) =
        [(sampleAttempt 5 "other" 8).answered (.error (.conditionFailed .otherSession)),
          (sampleAttempt 6 "session" 9).answered (.error .alreadyExists),
          (sampleAttempt 7 "session" 8).answered (.ok ()),
          (sampleAttempt 8 "session" 7).answered (.error .notFound)] ∧
      sampleContested.run ([sampleAttempt 6 "session" 9].map (·.call)) = sampleContested := by
  obtain ⟨login, registration⟩ := first_completion_wins
  obtain ⟨nobody, winner⟩ := login sampleContested [2] [9] sampleLogin
    { sampleCredential with signCounter := 5, updatedAt := 3 } rfl rfl (.inr rfl) rfl
  obtain ⟨nobody', winner'⟩ := registration sampleContested [3] sampleNext rfl rfl
  obtain ⟨hjournal, hrun⟩ := winner [⟨5, 4⟩] [⟨7, 8⟩] ⟨6, 7⟩ (by decide) (by decide)
  obtain ⟨hjournal', _⟩ := winner' [sampleAttempt 5 "other" 8, sampleAttempt 6 "session" 9]
    [sampleAttempt 8 "session" 7] (sampleAttempt 7 "session" 8) (by decide) (by decide)
  exact ⟨hjournal, hrun, (nobody [⟨5, 4⟩, ⟨302, 7⟩] (by decide)).2, hjournal',
    (nobody' [sampleAttempt 6 "session" 9] (by decide)).2⟩

end RelyingParty.Store
