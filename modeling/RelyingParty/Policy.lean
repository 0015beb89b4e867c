import RelyingParty.Bytes

namespace RelyingParty

/-- A relying party: the identifier that authenticators hash and the web origin that client data
comes from. -/
structure Party where
  id : String
  origin : String
  appId : Option String

/-- The identifier of credentials registered before: the origin, if none is given. -/
def Party.legacyAppId (party : Party) : String := party.appId.getD party.origin

inductive CounterPolicy where
  | allowEqual
  | strictlyIncreasing
  deriving DecidableEq

def CounterPolicy.accepts (policy : CounterPolicy) (stored received : UInt32) : Bool :=
  match policy with
  | allowEqual => stored ≤ received
  | strictlyIncreasing => stored < received || (received = 0 && stored = 0)

structure Policy where
  requireUserPresence : Bool
  requireUserVerification : Bool
  counter : CounterPolicy

inductive AppEnvironment where
  | production
  | development
  deriving DecidableEq

def AppEnvironment.aaguid : AppEnvironment → FixedBytes 16
  | production =>
    ⟨[0x61, 0x70, 0x70, 0x61, 0x74, 0x74, 0x65, 0x73, 0x74, 0, 0, 0, 0, 0, 0, 0], rfl⟩
  | development =>
    ⟨[0x61, 0x70, 0x70, 0x61, 0x74, 0x74, 0x65, 0x73, 0x74, 0x64, 0x65, 0x76, 0x65, 0x6c, 0x6f, 0x70],
      rfl⟩

end RelyingParty
