import RelyingParty.Proofs.Store.Run
import RelyingParty.Store.Flow

namespace RelyingParty

inductive Move (σ : Type) where
  | call (call : Store.Call) (next : Except StoreError call.Reply → σ)
  | compute (next : UInt64 → σ)
  | rest

structure Registration where
  challengeId : Bytes
  request : RegistrationRequest
  party : Party
  settings : RegistrationSettings

inductive Registration.Stage where
  | asked
  | begun (ceremony : Ceremony)
  | verified (ceremony : Ceremony) (credential : Credential)
  | ended (outcome : Except ServiceError Credential)

def Registration.next (r : Registration) : Stage → Move Stage
  | .asked => .call (.getCeremony r.challengeId) fun answer =>
    match answer with
    | .ok ceremony => .begun ceremony
    | .error e => .ended (.error (.store e))
  | .begun ceremony => .compute fun now =>
    match r.request.verify ceremony.challengeId r.party r.settings now with
    | .ok credential => .verified ceremony credential
    | .error e => .ended (.error (.verification e))
  | .verified ceremony credential => .call (.writeCredential ceremony credential) fun answer =>
    match answer with
    | .ok () => .ended (.ok credential)
    | .error e => .ended (.error (.store e))
  | .ended _ => .rest

structure Login where
  challengeId : Bytes
  request : AssertionRequest
  party : Party
  policy : Policy

inductive Login.Stage where
  | asked
  | begun (ceremony : Ceremony) (credential : Credential)
  | verified (assertion : VerifiedAssertion)
  | ended (outcome : Except ServiceError VerifiedAssertion)

def Login.next (l : Login) : Stage → Move Stage
  | .asked => .call (.getCeremonyAndCredential l.challengeId l.request.credentialId) fun answer =>
    match answer with
    | .ok (ceremony, credential) => .begun ceremony credential
    | .error e => .ended (.error (.store e))
  | .begun ceremony credential => .compute fun _ =>
    match l.request.verify ceremony.challengeId credential l.party l.policy with
    | .ok assertion => .verified assertion
    | .error e => .ended (.error (.verification e))
  | .verified assertion =>
    .call (.moveCounter l.request.credentialId assertion.signCounter l.challengeId) fun answer =>
      match answer with
      | .ok () => .ended (.ok assertion)
      | .error e => .ended (.error (.store e))
  | .ended _ => .rest

inductive Flow where
  | registration (r : Registration) (stage : Registration.Stage)
  | login (l : Login) (stage : Login.Stage)

namespace Flow

def challengeId : Flow → Bytes
  | registration r _ => r.challengeId
  | login l _ => l.challengeId

def clientData : Flow → Bytes
  | registration r _ => r.request.clientData
  | login l _ => l.request.clientData

def succeeded : Flow → Bool
  | registration _ (.ended (.ok _)) => true
  | login _ (.ended (.ok _)) => true
  | _ => false

def advance (flow : Flow) (s : Store) (now : UInt64) : Store × Flow × Option Store.Event :=
  match flow with
  | registration r stage => step (r.next stage) (registration r)
  | login l stage => step (l.next stage) (login l)
where
  step {σ : Type} (move : Move σ) (wrap : σ → Flow) : Store × Flow × Option Store.Event :=
    match move with
    | .call call next =>
      let (s', answer) := s.perform now call
      (s', wrap (next answer), some ⟨⟨now, call⟩, answer⟩)
    | .compute next => (s, wrap (next now), none)
    | .rest => (s, flow, none)

/-- The store and the flow after three steps in a row, which is all that a flow takes. -/
def finish (flow : Flow) (s : Store) (now : UInt64) : Store × Flow :=
  let (s₁, flow₁, _) := flow.advance s now
  let (s₂, flow₂, _) := flow₁.advance s₁ now
  let (s₃, flow₃, _) := flow₂.advance s₂ now
  (s₃, flow₃)

/-- A registration that nothing interrupts. -/
theorem finish_registration (r : Registration) (s : Store) (now : UInt64) :
    (registration r .asked).finish s now =
      match s.register now r.challengeId r.request r.party r.settings with
      | .ok (s', credential) => (s', registration r (.ended (.ok credential)))
      | .error e => (s, registration r (.ended (.error e))) := by
  unfold Store.register
  cases hc : s.liveCeremony now r.challengeId with
  | error e =>
    simp [finish, advance, advance.step, Registration.next, Store.perform, hc, bind, Except.bind,
      Except.mapError]
  | ok ceremony =>
    cases hv : r.request.verify ceremony.challengeId r.party r.settings now with
    | error e =>
      simp [finish, advance, advance.step, Registration.next, Store.perform, hc, hv, bind,
        Except.bind, Except.mapError]
    | ok credential =>
      cases hw : s.writeCredential now ceremony credential <;>
        simp [finish, advance, advance.step, Registration.next, Store.perform, Store.commit, hc, hv, hw,
          bind, Except.bind, Except.mapError]

theorem finish_login (l : Login) (s : Store) (now : UInt64) :
    (login l .asked).finish s now =
      ((s.login now l.challengeId l.request l.party l.policy).1,
        login l (.ended (s.login now l.challengeId l.request l.party l.policy).2)) := by
  unfold Store.login
  cases hc : s.ceremonyAndCredential now l.challengeId l.request.credentialId with
  | error e => simp [finish, advance, advance.step, Login.next, Store.perform, hc]
  | ok found =>
    obtain ⟨ceremony, credential⟩ := found
    cases hv : l.request.verify ceremony.challengeId credential l.party l.policy with
    | error e => simp [finish, advance, advance.step, Login.next, Store.perform, hc, hv]
    | ok assertion =>
      simp only [finish, advance, advance.step, Login.next, Store.perform, hc, hv]
      cases (s.moveCounter now l.request.credentialId assertion.signCounter l.challengeId) with
      | mk s' answer => cases answer <;> simp

end Flow

/-- A call on the store, and the flow that made it, if one did. -/
structure Entry where
  flow : Option Nat
  event : Store.Event

structure Service where
  store : Store
  flows : List Flow
  journal : List Entry

inductive Action where
  | call (call : Store.Call)
  | register (r : Registration)
  | logIn (l : Login)
  | proceed (i : Nat)

structure TimedAction where
  time : UInt64
  action : Action

namespace Service

def initial : Service := ⟨.empty, [], []⟩

def step (v : Service) (now : UInt64) : Action → Service
  | .call call =>
    let (s', answer) := v.store.perform now call
    ⟨s', v.flows, v.journal ++ [⟨none, ⟨now, call⟩, answer⟩]⟩
  | .register r => { v with flows := v.flows ++ [.registration r .asked] }
  | .logIn l => { v with flows := v.flows ++ [.login l .asked] }
  | .proceed i =>
    match v.flows[i]? with
    | none => v
    | some flow =>
      let (s', flow', event) := flow.advance v.store now
      ⟨s', v.flows.set i flow', v.journal ++ event.toList.map (⟨some i, ·⟩)⟩

def run (v : Service) (actions : List TimedAction) : Service :=
  actions.foldl (fun v a => v.step a.time a.action) v

end Service

end RelyingParty
