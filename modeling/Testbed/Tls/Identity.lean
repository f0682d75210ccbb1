import Testbed.Tls.Pem
import Testbed.Tls.Certificate
import Testbed.Tls.PrivateKey
import Testbed.Text.Quoted

/-!
# The identity of a server

A certificate and the private key to it, as texts of sections. An identity is made from any two
texts that hold such sections (`Identity.ofPem`); whether a server can use it, that is, whether the
key is one and the certificate is for its public half, is checked when the server starts
(`Identity.protocols`).
-/

namespace Testbed.Tls

/-- Why an identity cannot be made or used. -/
inductive IdentityError where
  | certificatePem (fault : Pem.Fault)
  | privateKeyPem (fault : Pem.Fault)
  | badKey
  | badCertificate (fault : Certificate.Fault)
  | keyMismatch

def IdentityError.message : IdentityError → String
  | certificatePem fault => "invalid PEM: certificate: " ++ fault.message
  | privateKeyPem fault => "invalid PEM: private key: " ++ fault.message
  | badKey =>
    "invalid TLS configuration: unexpected error: failed to parse private key as RSA, ECDSA, or EdDSA"
  | badCertificate fault =>
    "invalid TLS configuration: invalid peer certificate: " ++ fault.message
  | keyMismatch => "invalid TLS configuration: keys may not be consistent: KeyMismatch"

/-- A certificate and the private key to it. -/
structure Identity where
  /-- The text with the certificate. -/
  certificatePem : String
  /-- The text with the key. -/
  privateKeyPem : String
  /-- The certificate. -/
  certificate : Bytes
  /-- The form of the key. -/
  keyForm : KeyForm
  /-- The key. -/
  key : Bytes

namespace Identity

/-- The section that holds a certificate. -/
def certificateLabel (l : Pem.Label) : Option Unit :=
  if l = .certificate then some () else none

/-- The sections that hold private keys. -/
def keyLabel : Pem.Label → Option KeyForm
  | .privateKey => some .general
  | .rsaPrivateKey => some .rsa
  | .ecPrivateKey => some .curve
  | _ => none

/-- The identity in two texts: the first certificate of one and the first private key of the
other. -/
def ofPem (certificatePem privateKeyPem : String) : Except IdentityError Identity :=
  match Pem.first certificateLabel certificatePem with
  | .error f => .error (.certificatePem f)
  | .ok (_, certificate) =>
    match Pem.first keyLabel privateKeyPem with
    | .error f => .error (.privateKeyPem f)
    | .ok (keyForm, key) => .ok { certificatePem, privateKeyPem, certificate, keyForm, key }

/-- The protocols that a server with this identity offers, if it can use it: the key must be one,
and the certificate must be for its public half. -/
def protocols (i : Identity) : Except IdentityError (List String) :=
  match PrivateKey.publicKeyInfo? i.keyForm i.key with
  | none => .error .badKey
  | some info =>
    match Certificate.publicKeyInfo i.certificate with
    | .error f => .error (.badCertificate f)
    | .ok certified => if certified = info then .ok ["http/1.1"] else .error .keyMismatch

/-- An identity as text, which hides the key. -/
def shown (_ : Identity) : String :=
  "ServerTlsConfig \x7b private_key_pem: " ++ Text.quote "<redacted>" ++ ", .. \x7d"

end Identity
end Testbed.Tls
