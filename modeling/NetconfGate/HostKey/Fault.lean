import NetconfGate.Encoding.Der
import NetconfGate.SystemError
import NetconfGate.Text.Quoted

/-!
# Host key errors

Why a private key cannot be decoded, and why a set of host keys cannot be had.
-/

namespace NetconfGate.HostKey

/-- Faults of the length-prefixed fields of the SSH wire format. -/
inductive WireFault where
  | length
  | overflow
  | characters
  | label (text : String)
  | trailing (count : Nat)
deriving DecidableEq

def WireFault.message : WireFault → String
  | length => "length invalid"
  | overflow => "internal overflow error"
  | characters => "character encoding invalid"
  | label text => "invalid label: '" ++ text ++ "'"
  | trailing count =>
      "unexpected trailing data at end of message (" ++ toString count ++ " bytes)"

inductive PuttyFault where
  | header (text : String)
  | version (number : Nat)
  | body
deriving DecidableEq

def PuttyFault.message : PuttyFault → String
  | header text => "PPK parsing error: invalid header: " ++ Text.quoted text
  | version number => "PPK parsing error: unsupported format version: " ++ toString number
  | body => "PPK parsing error: unexpected end of file"

inductive OpenSshFault where
  | wire (fault : WireFault)
  | format
  | cryptographic
  | publicKey
  | algorithm
  | point
  | putty (fault : PuttyFault)
deriving DecidableEq

def OpenSshFault.message : OpenSshFault → String
  | wire fault => fault.message
  | format => "format encoding error"
  | cryptographic => "cryptographic error"
  | publicKey => "public key is incorrect"
  | algorithm => "unknown algorithm"
  | point => "ECDSA encoding error: elliptic curve point encoding error"
  | putty fault => fault.message

/-- Faults of a private key container. -/
inductive Pkcs8Fault where
  | encoding (error : Der.Error)
  | keyData
  | parameters
deriving DecidableEq

def Pkcs8Fault.message : Pkcs8Fault → String
  | encoding error => "PKCS#8 ASN.1 error: " ++ error.message
  | keyData => "PKCS#8 cryptographic key data malformed"
  | parameters => "PKCS#8 algorithm parameters malformed"

inductive Pkcs1Fault where
  | encoding (error : Der.Error)
  | container (fault : Pkcs8Fault)
deriving DecidableEq

def Pkcs1Fault.message : Pkcs1Fault → String
  | encoding error => "PKCS#1 ASN.1 error: " ++ error.message
  | container fault => fault.message

/-- Faults of an algorithm's parameters. -/
inductive ParametersFault where
  | missing
  | encoding (error : Der.Error)
deriving DecidableEq

def ParametersFault.message : ParametersFault → String
  | missing => "AlgorithmIdentifier parameters missing"
  | encoding error => "ASN.1 error: " ++ error.message

inductive RsaFault where
  | prime
  | exponent
  | modulus
  | modulusTooLarge
  | exponentTooSmall
  | exponentTooLarge
deriving DecidableEq

def RsaFault.message : RsaFault → String
  | prime => "invalid prime value"
  | exponent => "invalid exponent"
  | modulus => "invalid modulus"
  | modulusTooLarge => "modulus too large"
  | exponentTooSmall => "public exponent too small"
  | exponentTooLarge => "public exponent too large"

/-- Faults of text in base 64, with the place of the digit. -/
inductive Base64Fault where
  | symbol
  | length
  | padding
  | trailingBits
deriving DecidableEq

def Base64Fault.message : Base64Fault → String
  | symbol => "invalid symbol"
  | length => "invalid length"
  | padding => "invalid padding length"
  | trailingBits => "non-zero trailing bits"

/-- Why a text is no private key that can be used. -/
inductive DecodeFault where
  | unreadable
  | encrypted
  | corrupt
  | algorithm (id : Der.Identifier)
  | base64 (fault : Base64Fault) (place : Nat)
  | openSsh (fault : OpenSshFault)
  | der (error : Der.Error)
  | pkcs1 (fault : Pkcs1Fault)
  | pkcs8 (fault : Pkcs8Fault)
  | parameters (fault : ParametersFault)
  | rsa (fault : RsaFault)
deriving DecidableEq

def DecodeFault.message : DecodeFault → String
  | unreadable => "Could not read key"
  | encrypted => "The key is encrypted"
  | corrupt => "The key is corrupt"
  | algorithm id => "Unknown key algorithm: " ++ id.text
  | base64 fault place =>
      "Base64 decoding error: " ++ fault.message ++ " at " ++ toString place
  | openSsh fault => "SshKey: " ++ fault.message
  | der error => "Der: " ++ error.message
  | pkcs1 fault => "Pkcs1: " ++ fault.message
  | pkcs8 fault => "Pkcs8: " ++ fault.message
  | parameters fault => "Spki: " ++ fault.message
  | rsa fault => "Rsa: " ++ fault.message

/-- Why there are no host keys. -/
inductive Error where
  | access (path : String) (cause : SystemError)
  | decode (path : String) (fault : DecodeFault)
  | encode
  | empty
deriving DecidableEq

namespace Error

/-- A key that cannot be written out fails in the cryptographic layer. -/
def encodeText : String := OpenSshFault.cryptographic.message

def message : Error → String
  | access path cause => "Failed to access host key file " ++ path ++ ": " ++ cause.message
  | decode path fault => "Failed to decode host key " ++ path ++ ": " ++ fault.message
  | encode => "Failed to encode generated host key: " ++ encodeText
  | empty => "No host keys available"

def causes : Error → List String
  | access _ cause => [cause.message]
  | decode _ fault => [fault.message]
  | encode => [encodeText]
  | empty => []

end Error

end NetconfGate.HostKey
