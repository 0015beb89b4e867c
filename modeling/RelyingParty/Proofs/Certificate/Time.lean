import RelyingParty.Proofs.Certificate.Chain

namespace RelyingParty

namespace Calendar

/-- The year of an era of 400 years, counted from March; its last year is the one with the leap day more. -/
theorem yearOfEra_bounds {day year : Int} (hlow : 0 ≤ day) (hhigh : day < 146097)
    (hyear : year = (day - day / 1460 + day / 36524 - day / 146096) / 365) :
    0 ≤ year ∧ year ≤ 399 ∧ (year = 399 ↔ 145731 ≤ day) := by
  subst hyear
  omega

theorem year_of_days (days : Int) : ((dateOfDays days).1 ≤ 9999 ↔ days ≤ 2932896) ∧
    (0 ≤ days → 1600 ≤ (dateOfDays days).1) := by
  simp only [dateOfDays]
  generalize hera : (days + 719468) / 146097 = era
  generalize hday : (days + 719468) % 146097 = day
  generalize hyear : (day - day / 1460 + day / 36524 - day / 146096) / 365 = year
  have hbounds := yearOfEra_bounds (by omega) (by omega) hyear.symm
  refine ⟨?_, fun hpos => ?_⟩
  · -- the year 9999 ends in the last of the eras from 0 to 24
    obtain hearlier | rfl | hlater := Int.lt_trichotomy era 24
    · omega
    · omega
    · omega
  · omega

/-- A point in time whose year has at most four digits. -/
def IsDated (time : Timestamp) : Prop :=
  -9999 ≤ (DateTime.ofTimestamp time).year ∧ (DateTime.ofTimestamp time).year ≤ 9999

instance (time : Timestamp) : Decidable (IsDated time) := inferInstanceAs (Decidable (_ ∧ _))

theorem isDated_iff {time : Timestamp} (h : 0 ≤ time) : IsDated time ↔ time ≤ lastTimestamp := by
  have hdays (n : Int) : n / 86400 ≤ 2932896 ↔ n ≤ 253402300799 := by omega
  obtain ⟨hlast, hfirst⟩ := year_of_days (time / 86400)
  have hyear : (DateTime.ofTimestamp time).year ≤ 9999 ↔ time ≤ lastTimestamp := hlast.trans (hdays time)
  have hpos : 1600 ≤ (DateTime.ofTimestamp time).year := hfirst (Int.ediv_nonneg h (by decide))
  rw [← hyear]
  constructor
  · exact And.right
  · intro hle
    exact ⟨by omega, hle⟩

end Calendar

theorem Certificate.checkTime_of_nonneg {time : Timestamp} (h : 0 ≤ time) :
    checkTime time = if Calendar.IsDated time then .ok time else .error .dateOutOfRange := by
  rw [checkTime, if_neg (Int.not_lt.mpr h)]
  by_cases hdated : Calendar.IsDated time
  · rw [if_pos hdated, if_neg (Int.not_lt.mpr ((Calendar.isDated_iff h).mp hdated))]
  · rw [if_neg hdated, if_pos (Int.not_le.mp (mt (Calendar.isDated_iff h).mpr hdated))]

/-- What a clock shows that counts the seconds from the beginning of 1970 in a signed word. -/
structure ClockTime where
  seconds : Int64

namespace ClockTime

def epoch : ClockTime := ⟨0⟩

/-- What the clock shows `n` seconds later, if its word has room for it. -/
def after? (shown : ClockTime) (n : UInt64) : Option ClockTime :=
  if shown.seconds.toInt + n.toNat < 0x8000000000000000 then
    some ⟨Int64.ofInt (shown.seconds.toInt + n.toNat)⟩
  else none

def since? (shown start : ClockTime) : Option UInt64 :=
  if start.seconds ≤ shown.seconds then some (shown.seconds - start.seconds).toUInt64 else none

/-- The point in time at which certificates are checked: the word of the seconds since 1970 is taken for a
signed one, which has to have a date. -/
def timestamp (shown : ClockTime) : Except ChainFault Timestamp :=
  match shown.since? epoch with
  | none => .error .beforeEpoch
  | some n => if Calendar.IsDated n.toInt64.toInt then .ok n.toInt64.toInt else .error .dateOutOfRange

theorem after?_epoch (n : UInt64) : (epoch.after? n).map (·.seconds.toInt) =
    if n.toNat < 0x8000000000000000 then some (n.toNat : Int) else none := by
  have hzero : epoch.seconds.toInt = 0 := rfl
  unfold after?
  rw [hzero, Int.zero_add]
  by_cases hfits : n.toNat < 0x8000000000000000
  · have hword : (Int64.ofInt n.toNat).toInt = n.toNat := Int64.toInt_ofInt_of_le (by omega) (by omega)
    rw [if_pos hfits, if_pos (by omega), Option.map_some, hword]
  · rw [if_neg hfits, if_neg (by omega), Option.map_none]

theorem since?_epoch (shown : ClockTime) : shown.since? epoch =
    if 0 ≤ shown.seconds.toInt then some shown.seconds.toUInt64 else none := by
  have hzero : epoch.seconds = 0 := rfl
  unfold since?
  rw [hzero, Int64.sub_zero]
  simp only [Int64.le_iff_toInt_le, Int64.toInt_zero]

theorem timestamp_eq_checkTime (shown : ClockTime) :
    shown.timestamp = Certificate.checkTime shown.seconds.toInt := by
  unfold timestamp
  rw [since?_epoch]
  by_cases hpos : 0 ≤ shown.seconds.toInt
  · rw [if_pos hpos, Certificate.checkTime_of_nonneg hpos]
    simp only [Int64.toInt64_toUInt64]
  · rw [if_neg hpos, Certificate.checkTime, if_pos (Int.not_le.mp hpos)]

end ClockTime

namespace Certificate

variable {time time' : Timestamp} {root c : Certificate} {certificates : List Certificate}
  {position : Nat}

/-- Only the check of its validity refuses a link for a time. -/
theorem linkOutcome_eq_notValidAt {index index' : Nat} {issuer : Certificate} {check : LinkCheck} :
    linkOutcome time index c issuer check = .error (.notValidAt index' time') ↔
      check = .validity ∧ index' = index ∧ time' = time ∧ c.validity.includes time = false := by
  cases check with
  | validity =>
    simp only [linkOutcome, ensure_eq_error, Bool.not_eq_true, ChainFault.notValidAt.injEq, true_and]
    constructor
    · rintro ⟨hinvalid, rfl, rfl⟩
      exact ⟨rfl, rfl, hinvalid⟩
    · rintro ⟨rfl, rfl, hinvalid⟩
      exact ⟨hinvalid, rfl, rfl⟩
  | issuer => simp [linkOutcome, ensure_eq_error]
  | signature =>
    cases hscheme : scheme? c.signatureAlgorithm issuer.subjectKey <;>
      simp [linkOutcome, ensure_eq_error, hscheme]
  | authority => simp [linkOutcome, ensure_eq_error]

/-- A chain is refused for a time exactly if that time is the one of the check, and the first certificate that
is not linked is not valid then. -/
theorem checkChain_eq_notValidAt :
    checkChain time root 0 certificates = .error (.notValidAt position time') ↔ time' = time ∧
      ∃ c, (certificates ++ [root])[position]? = some c ∧ c.validity.includes time = false ∧
        ∀ earlier < position, ∀ d, (certificates ++ [root])[earlier]? = some d →
          Linked time earlier d (issuerAt root certificates earlier) := by
  rw [checkChain_eq_error]
  simp only [FirstUnlinked, Nat.zero_add]
  constructor
  · rintro ⟨at', c, hc, hearlier, first, check, later, _, _, hfault⟩
    obtain ⟨_, rfl, rfl, hinvalid⟩ := linkOutcome_eq_notValidAt.mp hfault
    exact ⟨rfl, c, hc, hinvalid, hearlier⟩
  · rintro ⟨rfl, c, hc, hinvalid, hearlier⟩
    refine ⟨position, c, hc, hearlier, [], .validity, _, rfl, by simp, ?_⟩
    exact linkOutcome_eq_notValidAt.mpr ⟨rfl, rfl, rfl, hinvalid⟩

theorem includes_of_checkChain (h : checkChain time root 0 certificates = .ok ())
    (hc : c ∈ certificates ++ [root]) : c.validity.notBefore ≤ time ∧ time ≤ c.validity.notAfter := by
  obtain ⟨position, hposition⟩ := List.mem_iff_getElem?.mp hc
  have hvalid := ((checkChain_eq_ok 0).mp h position c hposition).valid
  simpa [Validity.includes] using hvalid

end Certificate

end RelyingParty
