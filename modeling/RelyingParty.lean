import RelyingParty.Ceremony.Challenge
import RelyingParty.Main
import RelyingParty.Store.Flow
import RelyingParty.Proofs.Outcome
import RelyingParty.Proofs.Checks
import RelyingParty.Proofs.Store.Operations
import RelyingParty.Proofs.Store.Run
import RelyingParty.Proofs.Store.Provenance
import RelyingParty.Proofs.Store.Lifecycle
import RelyingParty.Proofs.Store.Atomicity
import RelyingParty.Proofs.Store.Refusals
import RelyingParty.Proofs.Store.Races
import RelyingParty.Proofs.Store.CounterHistory
import RelyingParty.Proofs.Store.Locality
import RelyingParty.Proofs.Store.Purge
import RelyingParty.Proofs.Store.Interleaving
import RelyingParty.Proofs.ClientData.Verification
import RelyingParty.Proofs.ClientData
import RelyingParty.Proofs.Service.Basic
import RelyingParty.Proofs.Service.ReplayProtection
import RelyingParty.Proofs.Service.Atomicity
import RelyingParty.Proofs.Service.Traces
import RelyingParty.Proofs.Authenticator.Layout
import RelyingParty.Proofs.Authenticator.Expectation
import RelyingParty.Proofs.Authenticator.InPlace
import RelyingParty.Proofs.Assertion.Verification
import RelyingParty.Proofs.Assertion.ErrorKinds
import RelyingParty.Proofs.Assertion.SavedData
import RelyingParty.Proofs.Assertion.Payload
import RelyingParty.Proofs.Attestation.Object
import RelyingParty.Proofs.Attestation.Statement
import RelyingParty.Proofs.Attestation.AppleAppAttest
import RelyingParty.Proofs.Attestation.Packed
import RelyingParty.Proofs.Registration.Verification
import RelyingParty.Proofs.Registration.StoredKey
import RelyingParty.Proofs.Service.UninterruptedLogin
import RelyingParty.Proofs.Service.CounterOrder
import RelyingParty.Proofs.Service.Sessions
import RelyingParty.Proofs.Text
import RelyingParty.Proofs.Base64
import RelyingParty.Proofs.Base64.Canonical
import RelyingParty.Proofs.Base64.Digits
import RelyingParty.Proofs.Base64.File
import RelyingParty.Proofs.Base64.Reading
import RelyingParty.Proofs.Cbor.RoundTrip
import RelyingParty.Proofs.Json.Quotation
import RelyingParty.Proofs.Json.Record
import RelyingParty.Proofs.Json.Accepted
import RelyingParty.Proofs.Json.ByteString
import RelyingParty.Proofs.ByteMembers
import RelyingParty.Proofs.Key.Cose
import RelyingParty.Proofs.Key.RawPoint
import RelyingParty.Proofs.Key.Scheme
import RelyingParty.Proofs.Key.Library
import RelyingParty.Proofs.Key.Faults
import RelyingParty.Proofs.Der.Element
import RelyingParty.Proofs.Der.Nesting
import RelyingParty.Proofs.Certificate.Chain
import RelyingParty.Proofs.Policy
import RelyingParty.Proofs.Assertion.Tampering
import RelyingParty.Proofs.Service.Device
import RelyingParty.Proofs.Service.HonestRun
import RelyingParty.Proofs.Text.Parts
import RelyingParty.Proofs.WebOrigin.Reading
import RelyingParty.Proofs.WebOrigin.WebUrl
import RelyingParty.Proofs.ClientData.Origin
import RelyingParty.Proofs.ClientData.Members
import RelyingParty.Proofs.Json.Unambiguous
import RelyingParty.Proofs.StoredRecord
import RelyingParty.Proofs.Der.Splitting
import RelyingParty.Proofs.Cbor.Encoding
import RelyingParty.Proofs.CommandLine.VerificationTime
import RelyingParty.Proofs.Access.Readers
