import RelyingParty.Cbor.Encoder
import RelyingParty.Key.PublicKey

namespace RelyingParty.Cose

def keyTypeLabel : Int := 1
def algorithmLabel : Int := 3

def curveLabel : Int := -1
def xLabel : Int := -2
def yLabel : Int := -3

def modulusLabel : Int := -1
def exponentLabel : Int := -2

def okpType : Int := 1
def ec2Type : Int := 2
def rsaType : Int := 3

def ed25519Curve : Int := 6

def getInt (entries : Cbor.Entries) (label : Int) : Except KeyError Int :=
  match (entries.getInt? label).bind Cbor.Item.int? with
  | some n => .ok n
  | none => .error (.missingParameter label)

def getBytes (entries : Cbor.Entries) (label : Int) : Except KeyError Bytes :=
  match (entries.getInt? label).bind Cbor.Item.bytes? with
  | some bs => .ok bs
  | none => .error (.missingParameter label)

def algorithmOf (id : Int) : Except KeyError Algorithm :=
  match Algorithm.ofId? id with
  | some algorithm => .ok algorithm
  | none => .error (.unsupportedAlgorithm id)

def curveOf (id : Int) : Except KeyError EcCurve :=
  match EcCurve.ofId? id with
  | some curve => .ok curve
  | none => .error (.unsupportedCurve id)

def readEc2 (entries : Cbor.Entries) (algorithm : Algorithm) : Except KeyError PublicKey := do
  let curve ← curveOf (← getInt entries curveLabel)
  let x ← getBytes entries xLabel
  let y ← getBytes entries yLabel
  PublicKey.ofCoordinates algorithm curve x y

def readRsa (entries : Cbor.Entries) (algorithm : Algorithm) : Except KeyError PublicKey :=
  if algorithm ≠ .rs256 then .error (.mismatchedAlgorithm algorithm .rsa)
  else do
    let modulus ← getBytes entries modulusLabel
    let exponent ← getBytes entries exponentLabel
    .ok (.rsa algorithm modulus exponent)

def readOkp (entries : Cbor.Entries) (algorithm : Algorithm) : Except KeyError PublicKey := do
  let curve ← getInt entries curveLabel
  if curve ≠ ed25519Curve then .error (.unsupportedCurve curve)
  else if algorithm ≠ .edDsa then .error (.mismatchedAlgorithm algorithm .ed25519)
  else do
    let x ← getBytes entries xLabel
    if x.length ≠ 32 then .error (.invalid .edwardsWidth)
    else .ok (.okp algorithm x)

def readEntries (entries : Cbor.Entries) : Except KeyError PublicKey := do
  let keyType ← getInt entries keyTypeLabel
  let algorithm ← algorithmOf (← getInt entries algorithmLabel)
  if keyType = ec2Type then readEc2 entries algorithm
  else if keyType = rsaType then readRsa entries algorithm
  else if keyType = okpType then readOkp entries algorithm
  else .error (.unsupportedKeyType keyType)

def readItem : Cbor.Item → Except KeyError PublicKey
  | .map entries => readEntries entries
  | _ => .error .notMap

def entry (label : Int) (value : Cbor.Item) : Cbor.Item × Cbor.Item :=
  (.ofInt label, value)

def entries : PublicKey → Cbor.Entries
  | .ec2 algorithm curve x y =>
    [entry keyTypeLabel (.ofInt ec2Type), entry algorithmLabel (.ofInt algorithm.id),
      entry curveLabel (.ofInt curve.id), entry xLabel (.bytes x), entry yLabel (.bytes y)]
  | .rsa algorithm modulus exponent =>
    [entry keyTypeLabel (.ofInt rsaType), entry algorithmLabel (.ofInt algorithm.id),
      entry modulusLabel (.bytes modulus), entry exponentLabel (.bytes exponent)]
  | .okp algorithm x =>
    [entry keyTypeLabel (.ofInt okpType), entry algorithmLabel (.ofInt algorithm.id),
      entry curveLabel (.ofInt ed25519Curve), entry xLabel (.bytes x)]

end RelyingParty.Cose

namespace RelyingParty.PublicKey

def ofCose (bs : Bytes) : Except KeyError PublicKey :=
  match Cbor.decodeMap bs with
  | .ok entries => Cose.readEntries entries
  | .error cause => .error (.undecodable cause)

def toCose (key : PublicKey) : Bytes := (Cbor.Item.map (Cose.entries key)).encode

end RelyingParty.PublicKey
