import RelyingParty.Key.Cose
import RelyingParty.Proofs.Cbor.Entries
import RelyingParty.Proofs.Checks

namespace RelyingParty

open Cbor.Item (InWord)

variable {entries : Cbor.Entries} {algorithm : Algorithm} {curve : EcCurve} {key : PublicKey}

theorem Algorithm.ofId?_eq_some {n : Int} : ofId? n = some algorithm ↔ n = algorithm.id := by
  constructor
  · intro h
    have hid := List.find?_some h
    exact (beq_iff_eq.mp hid).symm
  · rintro rfl
    exact ofId?_id algorithm

theorem EcCurve.ofId?_eq_some {n : Int} : ofId? n = some curve ↔ n = curve.id := by
  constructor
  · intro h
    have hid := List.find?_some h
    exact (beq_iff_eq.mp hid).symm
  · rintro rfl
    exact ofId?_id curve

theorem Algorithm.inWord_id (algorithm : Algorithm) : InWord algorithm.id := by
  cases algorithm <;> decide

theorem EcCurve.inWord_id (curve : EcCurve) : InWord curve.id := by
  cases curve <;> decide

namespace PublicKey

/-- A key of one of the three kinds with the algorithm of its kind. -/
inductive WellFormed : PublicKey → Prop
  | ec2 (curve : EcCurve) {x y : Bytes} (hx : x.length = curve.width) (hy : y.length = curve.width) :
    WellFormed (.ec2 curve.algorithm curve x y)
  | rsa (modulus exponent : Bytes) : WellFormed (.rsa .rs256 modulus exponent)
  | okp {x : Bytes} (hx : x.length = 32) : WellFormed (.okp .edDsa x)

theorem ofCoordinates_eq_ok {x y : Bytes} : ofCoordinates algorithm curve x y = .ok key ↔
    curve.algorithm = algorithm ∧ x.length = curve.width ∧ y.length = curve.width ∧
      key = .ec2 algorithm curve x y := by
  unfold ofCoordinates
  rw [refuse_eq_ensure (q := curve.algorithm = algorithm) (by simp),
    refuse_eq_ensure (q := x.length = curve.width ∧ y.length = curve.width) (by simp; tauto),
    ensure_bind_eq_ok, ensure_bind_eq_ok, and_assoc, Except.ok.injEq, eq_comm (a := key)]

theorem wellFormed_of_ofCoordinates {x y : Bytes} (h : ofCoordinates algorithm curve x y = .ok key) :
    key.WellFormed := by
  obtain ⟨rfl, hx, hy, rfl⟩ := ofCoordinates_eq_ok.mp h
  exact .ec2 curve hx hy

end PublicKey

namespace Cose

def keyType : PublicKey → Int
  | .ec2 .. => ec2Type
  | .rsa .. => rsaType
  | .okp .. => okpType

def parameters : PublicKey → List (Int × Cbor.Item)
  | .ec2 algorithm curve x y =>
    [(keyTypeLabel, .ofInt ec2Type), (algorithmLabel, .ofInt algorithm.id), (curveLabel, .ofInt curve.id),
      (xLabel, .bytes x), (yLabel, .bytes y)]
  | .rsa algorithm modulus exponent =>
    [(keyTypeLabel, .ofInt rsaType), (algorithmLabel, .ofInt algorithm.id), (modulusLabel, .bytes modulus),
      (exponentLabel, .bytes exponent)]
  | .okp algorithm x =>
    [(keyTypeLabel, .ofInt okpType), (algorithmLabel, .ofInt algorithm.id),
      (curveLabel, .ofInt ed25519Curve), (xLabel, .bytes x)]

theorem entries_eq (key : PublicKey) :
    Cose.entries key = (parameters key).map fun parameter => entry parameter.1 parameter.2 := by
  cases key <;> rfl

theorem getInt_eq_ok {label n : Int} :
    getInt entries label = .ok n ↔ entries.Labels label (.ofInt n) ∧ InWord n := by
  rw [← Cbor.Entries.getInt?_bind_int?]
  unfold getInt
  cases (entries.getInt? label).bind Cbor.Item.int? <;> simp

theorem getBytes_eq_ok {label : Int} {bs : Bytes} :
    getBytes entries label = .ok bs ↔ entries.Labels label (.bytes bs) := by
  rw [← Cbor.Entries.getInt?_bind_bytes?]
  unfold getBytes
  cases (entries.getInt? label).bind Cbor.Item.bytes? <;> simp

theorem algorithmOf_eq_ok {id : Int} : algorithmOf id = .ok algorithm ↔ id = algorithm.id := by
  rw [← Algorithm.ofId?_eq_some]
  unfold algorithmOf
  cases Algorithm.ofId? id <;> simp

theorem curveOf_eq_ok {id : Int} : curveOf id = .ok curve ↔ id = curve.id := by
  rw [← EcCurve.ofId?_eq_some]
  unfold curveOf
  cases EcCurve.ofId? id <;> simp

theorem readEc2_eq_ok : readEc2 entries algorithm = .ok key ↔ ∃ curve x y,
    entries.Labels curveLabel (.ofInt curve.id) ∧ entries.Labels xLabel (.bytes x) ∧
      entries.Labels yLabel (.bytes y) ∧ PublicKey.ofCoordinates algorithm curve x y = .ok key := by
  unfold readEc2
  simp only [bind_eq_ok, getInt_eq_ok, getBytes_eq_ok, curveOf_eq_ok]
  constructor
  · rintro ⟨_, ⟨hcurve, _⟩, curve, rfl, x, hx, y, hy, h⟩
    exact ⟨curve, x, y, hcurve, hx, hy, h⟩
  · rintro ⟨curve, x, y, hcurve, hx, hy, h⟩
    exact ⟨_, ⟨hcurve, curve.inWord_id⟩, curve, rfl, x, hx, y, hy, h⟩

theorem readRsa_eq_ok : readRsa entries algorithm = .ok key ↔ algorithm = .rs256 ∧
    ∃ modulus exponent, entries.Labels modulusLabel (.bytes modulus) ∧
      entries.Labels exponentLabel (.bytes exponent) ∧ key = .rsa algorithm modulus exponent := by
  unfold readRsa
  rw [refuse_eq_ensure (q := algorithm = .rs256) (by simp), ensure_bind_eq_ok]
  simp only [bind_eq_ok, getBytes_eq_ok, Except.ok.injEq, eq_comm (b := key), exists_and_left]

theorem readOkp_eq_ok : readOkp entries algorithm = .ok key ↔ algorithm = .edDsa ∧
    entries.Labels curveLabel (.ofInt ed25519Curve) ∧
      ∃ x, entries.Labels xLabel (.bytes x) ∧ x.length = 32 ∧ key = .okp algorithm x := by
  have hlast (x : Bytes) :
      (if x.length ≠ 32 then .error (.invalid .edwardsWidth) else .ok (.okp algorithm x) :
        Except KeyError PublicKey) = .ok key ↔ x.length = 32 ∧ key = .okp algorithm x := by
    rw [refuse_eq_ensure (q := x.length = 32) (by simp), ensure_bind_eq_ok, Except.ok.injEq,
      eq_comm (a := key)]
  unfold readOkp
  simp only [bind_eq_ok, getInt_eq_ok]
  constructor
  · rintro ⟨curve, ⟨hlabel, _⟩, h⟩
    rw [refuse_eq_ensure (q := curve = ed25519Curve) (by simp), ensure_bind_eq_ok,
      refuse_eq_ensure (q := algorithm = .edDsa) (by simp), ensure_bind_eq_ok] at h
    obtain ⟨rfl, halgorithm, h⟩ := h
    obtain ⟨x, hx, h⟩ := bind_eq_ok.mp h
    obtain ⟨hwidth, hkey⟩ := (hlast x).mp h
    exact ⟨halgorithm, hlabel, x, getBytes_eq_ok.mp hx, hwidth, hkey⟩
  · rintro ⟨halgorithm, hlabel, x, hx, hwidth, hkey⟩
    refine ⟨_, ⟨hlabel, by decide⟩, ?_⟩
    rw [if_neg (not_not.mpr rfl), if_neg (not_not.mpr halgorithm)]
    exact bind_eq_ok.mpr ⟨x, getBytes_eq_ok.mpr hx, (hlast x).mpr ⟨hwidth, hkey⟩⟩

theorem readEntries_eq_ok : readEntries entries = .ok key ↔
    key.WellFormed ∧ ∀ parameter ∈ parameters key, entries.Labels parameter.1 parameter.2 := by
  unfold readEntries
  simp only [bind_eq_ok, getInt_eq_ok, algorithmOf_eq_ok]
  constructor
  · rintro ⟨keyType, ⟨hkeyType, _⟩, _, ⟨halgorithm, _⟩, algorithm, rfl, h⟩
    split at h
    next htype =>
      obtain ⟨curve, x, y, hcurve, hx, hy, h⟩ := readEc2_eq_ok.mp h
      have hkey := PublicKey.wellFormed_of_ofCoordinates h
      obtain ⟨_, _, _, rfl⟩ := PublicKey.ofCoordinates_eq_ok.mp h
      exact ⟨hkey, by simp [parameters, htype ▸ hkeyType, halgorithm, hcurve, hx, hy]⟩
    next =>
      split at h
      next htype =>
        obtain ⟨rfl, modulus, exponent, hmodulus, hexponent, rfl⟩ := readRsa_eq_ok.mp h
        exact ⟨.rsa _ _, by simp [parameters, htype ▸ hkeyType, halgorithm, hmodulus, hexponent]⟩
      next =>
        split at h
        next htype =>
          obtain ⟨rfl, hcurve, x, hx, hwidth, rfl⟩ := readOkp_eq_ok.mp h
          exact ⟨.okp hwidth, by simp [parameters, htype ▸ hkeyType, halgorithm, hcurve, hx]⟩
        next => cases h
  · rintro ⟨hkey, h⟩
    cases hkey with
    | @ec2 curve x y hx hy =>
      simp only [parameters, List.forall_mem_cons] at h
      obtain ⟨htype, halgorithm, hcurve, hxs, hys, _⟩ := h
      refine ⟨_, ⟨htype, by decide⟩, _, ⟨halgorithm, Algorithm.inWord_id _⟩, _, rfl, ?_⟩
      rw [if_pos rfl]
      exact readEc2_eq_ok.mpr ⟨curve, x, y, hcurve, hxs, hys,
        PublicKey.ofCoordinates_eq_ok.mpr ⟨rfl, hx, hy, rfl⟩⟩
    | rsa modulus exponent =>
      simp only [parameters, List.forall_mem_cons] at h
      obtain ⟨htype, halgorithm, hmodulus, hexponent, _⟩ := h
      refine ⟨_, ⟨htype, by decide⟩, _, ⟨halgorithm, Algorithm.inWord_id _⟩, _, rfl, ?_⟩
      rw [if_neg (by decide), if_pos rfl]
      exact readRsa_eq_ok.mpr ⟨rfl, modulus, exponent, hmodulus, hexponent, rfl⟩
    | @okp x hx =>
      simp only [parameters, List.forall_mem_cons] at h
      obtain ⟨htype, halgorithm, hcurve, hxs, _⟩ := h
      refine ⟨_, ⟨htype, by decide⟩, _, ⟨halgorithm, Algorithm.inWord_id _⟩, _, rfl, ?_⟩
      rw [if_neg (by decide), if_neg (by decide), if_pos rfl]
      exact readOkp_eq_ok.mpr ⟨rfl, hcurve, x, hxs, hx, rfl⟩

end Cose

end RelyingParty
