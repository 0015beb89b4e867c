import RelyingParty.Hash.Sha1

namespace RelyingParty

inductive HashFunction where
  | sha1
  | sha256
  | sha384
  | sha512
  deriving DecidableEq

namespace HashFunction

def digest : HashFunction → Bytes → Bytes
  | sha1, message => RelyingParty.sha1 message
  | sha256, message => (RelyingParty.sha256 message).bytes
  | sha384, message => RelyingParty.sha384 message
  | sha512, message => RelyingParty.sha512 message

def length : HashFunction → Nat
  | sha1 => 20
  | sha256 => 32
  | sha384 => 48
  | sha512 => 64

def mark : HashFunction → Bytes
  | sha1 => [0x30, 0x21, 0x30, 0x09, 0x06, 0x05, 0x2b, 0x0e, 0x03, 0x02, 0x1a, 0x05, 0x00, 0x04, 0x14]
  | sha256 => wideMark 0x31 0x01 0x20
  | sha384 => wideMark 0x41 0x02 0x30
  | sha512 => wideMark 0x51 0x03 0x40
where
  wideMark (total function length : UInt8) : Bytes :=
    [0x30, total, 0x30, 0x0d, 0x06, 0x09, 0x60, 0x86, 0x48, 0x01, 0x65, 0x03, 0x04, 0x02, function, 0x05,
      0x00, 0x04, length]

end HashFunction

end RelyingParty
