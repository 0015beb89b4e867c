import RelyingParty.Proofs.Attestation.ChainTime
import RelyingParty.Proofs.StoredRecord

namespace RelyingParty.CommandLine

open Attestation (Statement)
open Attestation.AppleAppAttest (Presented CheckedAt)

variable {invocation : Invocation} {now : UInt64} {files : Files} {command : AttestationCommand}

/-- The time of the settings is what a clock shows that goes on from the beginning of 1970. -/
theorem Invocation.settings?_eq_clock (invocation : Invocation) (now : UInt64) : invocation.settings? now =
    (ClockTime.epoch.after? (invocation.time.getD now)).map fun shown =>
      ⟨invocation.environment, shown.seconds.toInt, invocation.policy⟩ := by
  have htime : invocation.timestamp? now =
      (ClockTime.epoch.after? (invocation.time.getD now)).map (·.seconds.toInt) := by
    rw [ClockTime.after?_epoch]
    rfl
  rw [settings?, htime, Option.map_map]
  rfl

theorem Files.read_ne_timeOutOfRange {path : String} : files.read path ≠ .error .timeOutOfRange := by
  rw [Files.read]
  cases files path <;> exact nofun

theorem Files.readBase64_ne_timeOutOfRange {path : String} :
    files.readBase64 path ≠ .error .timeOutOfRange := by
  intro h
  obtain hread | ⟨content, _, h⟩ := bind_eq_error.mp h
  · exact Files.read_ne_timeOutOfRange hread
  · split at h
    next => cases h
    next => split at h <;> cases h

theorem Files.readOptional_ne_timeOutOfRange {path : Option String} :
    files.readOptional path ≠ .error .timeOutOfRange := by
  cases path with
  | none => exact nofun
  | some path =>
    intro h
    obtain hread | ⟨_, _, h⟩ := bind_eq_error.mp h
    · exact Files.read_ne_timeOutOfRange hread
    · cases h

theorem readChallenge_ne_timeOutOfRange {text : String} : readChallenge text ≠ .error .timeOutOfRange := by
  unfold readChallenge
  split <;> exact nofun

/-- The files of a registration can be read, and so can its challenge. -/
structure AttestationCommand.Readable (command : AttestationCommand) (files : Files) : Prop where
  clientData : ∃ bs, files.read command.clientData = .ok bs
  attestationObject : ∃ bs, files.readBase64 command.attestationObject = .ok bs
  signedClientData : ∃ bs?, files.readOptional command.signedClientData = .ok bs?
  challenge : ∃ bs, readChallenge command.challenge = .ok bs

/-- A registration whose inputs can be read stops for its time, and only for it, before it is checked. -/
theorem AttestationCommand.run_eq_timeOutOfRange : command.run invocation now files = .error .timeOutOfRange ↔
    command.Readable files ∧ invocation.settings? now = none := by
  constructor
  · intro h
    obtain ⟨_, hclient, h⟩ := (bind_eq_error_of_ne Files.read_ne_timeOutOfRange).mp h
    obtain ⟨_, hobject, h⟩ := (bind_eq_error_of_ne Files.readBase64_ne_timeOutOfRange).mp h
    obtain ⟨_, hsigned, h⟩ := (bind_eq_error_of_ne Files.readOptional_ne_timeOutOfRange).mp h
    obtain ⟨_, hchallenge, h⟩ := (bind_eq_error_of_ne readChallenge_ne_timeOutOfRange).mp h
    refine ⟨⟨⟨_, hclient⟩, ⟨_, hobject⟩, ⟨_, hsigned⟩, ⟨_, hchallenge⟩⟩, ?_⟩
    split at h
    next hnone => exact hnone
    next settings _ =>
      obtain ⟨_, _, hcause⟩ := mapError_eq_error.mp h
      cases hcause
  · rintro ⟨⟨⟨_, hclient⟩, ⟨_, hobject⟩, ⟨_, hsigned⟩, ⟨_, hchallenge⟩⟩, hnone⟩
    rw [run, hclient, ok_bind, hobject, ok_bind, hsigned, ok_bind, hchallenge, ok_bind, hnone]

theorem Invocation.run_eq_error {failure : Failure} (h : invocation.command = .attestation command) :
    invocation.run now files = .error failure ↔ command.run invocation now files = .error failure := by
  have hopen : invocation.run now files = command.run invocation now files >>= fun credential =>
      .ok credential.toJson.pretty := by
    rw [run, h]
    simp only
    cases command.run invocation now files <;> rfl
  rw [hopen, bind_eq_error]
  simp

/-- A time below `2^63` seconds is taken as it is, by a clock and as the time of a certificate, and the
certificates of a statement are checked at it if its year has four digits; a statement is refused for it if it
has more. From `2^63` seconds on no clock can show the time, and a registration stops. -/
theorem given_time_is_checked_or_refused (invocation : Invocation) (seconds now : UInt64)
    (hgiven : invocation.time = some seconds) :
    (seconds.toNat < 0x8000000000000000 → ∃ shown settings, ClockTime.epoch.after? seconds = some shown ∧
      invocation.settings? now = some settings ∧
      settings = ⟨invocation.environment, seconds.toNat, invocation.policy⟩ ∧
      shown.timestamp = (if Calendar.IsDated seconds.toNat then .ok (seconds.toNat : Timestamp)
        else .error .dateOutOfRange) ∧
      (∀ command files, AttestationCommand.run command invocation now files ≠ .error .timeOutOfRange) ∧
      ∀ s leaf others receipt, Presented settings.environment s leaf others receipt →
        (Calendar.IsDated seconds.toNat → ∃ root, Attestation.AppleAppAttest.root? = some root ∧
          CheckedAt settings s (leaf :: others) root seconds.toNat) ∧
        (¬ Calendar.IsDated seconds.toNat → ∃ e, Attestation.AppleAppAttest.check settings s = .error e ∧
          e = .chainInvalid .dateOutOfRange ∧ e.message = "certificate chain: invalid date")) ∧
    (0x8000000000000000 ≤ seconds.toNat → ClockTime.epoch.after? seconds = none ∧
      invocation.settings? now = none ∧
      ∀ command files, invocation.command = .attestation command → command.Readable files →
        ∃ failure, invocation.run now files = .error failure ∧ failure = .timeOutOfRange ∧
          failure.exitCode = 101) := by
  have hclock := ClockTime.after?_epoch seconds
  have hsettings := invocation.settings?_eq_clock now
  rw [hgiven, Option.getD_some] at hsettings
  refine ⟨fun hlt => ?_, fun hle => ?_⟩
  · rw [if_pos hlt] at hclock
    obtain ⟨shown, hshown, hseconds⟩ := Option.map_eq_some_iff.mp hclock
    rw [hshown, Option.map_some, hseconds] at hsettings
    have hpos : (0 : Timestamp) ≤ seconds.toNat := Int.natCast_nonneg _
    refine ⟨shown, _, hshown, hsettings, rfl, ?_, ?_, fun s leaf others receipt h => ⟨fun hdated => ?_, ?_⟩⟩
    · rw [shown.timestamp_eq_checkTime, hseconds, Certificate.checkTime_of_nonneg hpos]
    · intro command files hstops
      have hnone := (AttestationCommand.run_eq_timeOutOfRange.mp hstops).2
      rw [hsettings] at hnone
      cases hnone
    · obtain ⟨_, root, _, _, hroot, _⟩ := Attestation.AppleAppAttest.exists_root
      exact ⟨root, hroot, Attestation.AppleAppAttest.checkedAt_of_presented h hroot hpos hdated⟩
    · intro hdated
      exact ⟨_, Attestation.AppleAppAttest.check_of_not_dated h hpos hdated, rfl, rfl⟩
  · rw [if_neg (Nat.not_lt.mpr hle)] at hclock
    have hnone := Option.map_eq_none_iff.mp hclock
    rw [hnone, Option.map_none] at hsettings
    refine ⟨hnone, hsettings, fun command files hcommand hreadable => ?_⟩
    have hrun := AttestationCommand.run_eq_timeOutOfRange.mpr ⟨hreadable, hsettings⟩
    exact ⟨_, (Invocation.run_eq_error hcommand).mpr hrun, rfl, rfl⟩

def sampleAt (seconds : UInt64) : Invocation := { sampleInvocation with time := some seconds }

theorem readable_sampleAttestation : sampleAttestation.Readable sampleFiles where
  clientData := ⟨_, rfl⟩
  attestationObject := ⟨RegistrationRequest.sampleKeyless.attestationObject, by decide +kernel⟩
  signedClientData := ⟨none, rfl⟩
  challenge := ⟨[1], by decide +kernel⟩

/-- The first time that no clock can show is not refused: there are no settings for it. -/
theorem first_time_past_clocks_stops : (¬ ∃ settings, (sampleAt 0x8000000000000000).settings? 5 = some settings) ∧
    (sampleAt 0x8000000000000000).run 5 sampleFiles = .error .timeOutOfRange ∧
    (sampleAt 0x8000000000000000).run 5 sampleFiles ≠
      .error (.verification (.chainInvalid .dateOutOfRange)) := by
  have hnone : (sampleAt 0x8000000000000000).settings? 5 = none := rfl
  have hstops : sampleAttestation.run (sampleAt 0x8000000000000000) 5 sampleFiles = .error .timeOutOfRange :=
    AttestationCommand.run_eq_timeOutOfRange.mpr ⟨readable_sampleAttestation, hnone⟩
  have hrun : (sampleAt 0x8000000000000000).run 5 sampleFiles = .error .timeOutOfRange :=
    (Invocation.run_eq_error rfl).mpr hstops
  rw [hnone, hrun]
  exact ⟨nofun, rfl, nofun⟩

def sampleCertified (der : Bytes) : Statement :=
  ⟨[], 0, ⟨AppEnvironment.production.aaguid, [], []⟩, ⟨List.replicate 32 0x13, rfl⟩,
    [(.text "x5c", .array [.bytes der]), (.text "receipt", .bytes [])]⟩

/-- The root alone in the year 2286, in the last second that a clock can show, and in the next one. -/
theorem given_time_is_checked_or_refused_sample :
    ∃ der, Base64.decodeStandard? Attestation.AppleAppAttest.rootText = some der ∧
      (∃ settings, (sampleAt 10000000000).settings? 5 = some settings ∧
        Attestation.AppleAppAttest.check settings (sampleCertified der) =
          .error (.chainInvalid (.notValidAt 0 10000000000))) ∧
      (∃ settings, (sampleAt 0x7fffffffffffffff).settings? 5 = some settings ∧
        Attestation.AppleAppAttest.check settings (sampleCertified der) =
          .error (.chainInvalid .dateOutOfRange)) ∧
      ∃ failure, (sampleAt 0x8000000000000000).run 5 sampleFiles = .error failure ∧ failure.exitCode = 101 := by
  obtain ⟨der, root, hder, hcertificate, hroot, _, hlast⟩ := Attestation.AppleAppAttest.exists_root
  have hpresented : Presented .production (sampleCertified der) root [] [] := {
    fresh := rfl
    environment := rfl
    certificates := ⟨[.bytes der], Cbor.Entries.getText?_eq_some.mp rfl, .cons ⟨der, rfl, hcertificate⟩ .nil⟩
    receipt := Cbor.Entries.getText?_eq_some.mp rfl }
  refine ⟨der, hder, ?_, ?_, ?_⟩
  · obtain ⟨_, settings, _, hsettings, rfl, _, _, hchecked⟩ :=
      (given_time_is_checked_or_refused (sampleAt 10000000000) 10000000000 5 rfl).1 (by decide)
    obtain ⟨_, _, hat⟩ := (hchecked _ _ _ _ hpresented).1 (by decide +kernel)
    refine ⟨_, hsettings, (hat.invalid 0 _).mpr ⟨rfl, root, rfl, ?_, nofun⟩⟩
    simp [Certificate.Validity.includes, hlast]
  · obtain ⟨_, settings, _, hsettings, rfl, _, _, hchecked⟩ :=
      (given_time_is_checked_or_refused (sampleAt 0x7fffffffffffffff) 0x7fffffffffffffff 5 rfl).1 (by decide)
    obtain ⟨_, hrefused, rfl, _⟩ := (hchecked _ _ _ _ hpresented).2 (by decide +kernel)
    exact ⟨_, hsettings, hrefused⟩
  · obtain ⟨_, _, hstops⟩ :=
      (given_time_is_checked_or_refused (sampleAt 0x8000000000000000) 0x8000000000000000 5 rfl).2 (by decide)
    obtain ⟨failure, hrun, _, hcode⟩ := hstops sampleAttestation sampleFiles rfl readable_sampleAttestation
    exact ⟨failure, hrun, hcode⟩

end RelyingParty.CommandLine
