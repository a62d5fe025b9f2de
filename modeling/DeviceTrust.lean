import DeviceTrust.Bytes.Lemmas
import DeviceTrust.Payload
import DeviceTrust.Key.Agreement
import DeviceTrust.Certificate.Chain
import DeviceTrust.Logging.Loggers
import DeviceTrust.Proofs.Outcome
import DeviceTrust.Proofs.Cbor.Entries
import DeviceTrust.Proofs.Cbor.Coercion
import DeviceTrust.Proofs.Cbor.OnWire
import DeviceTrust.Proofs.Cbor.Heads
import DeviceTrust.Proofs.Cbor.Items
import DeviceTrust.Proofs.Cbor.RoundTrip
import DeviceTrust.Proofs.Cbor.Scalar
import DeviceTrust.Proofs.Cbor.Framing
import DeviceTrust.Proofs.Cose.Key
import DeviceTrust.Proofs.Cose.Forms
import DeviceTrust.Proofs.Cose.RoundTrip
import DeviceTrust.Proofs.Cose.Published
import DeviceTrust.Proofs.Cose.Verification
import DeviceTrust.Proofs.Cose.Signing
import DeviceTrust.Proofs.Cose.Covered
import DeviceTrust.Proofs.Cose.RawSignature
import DeviceTrust.Proofs.Key.Reading
import DeviceTrust.Proofs.Key.Checks
import DeviceTrust.Proofs.Key.Writing
import DeviceTrust.Proofs.Key.RoundTrip
import DeviceTrust.Proofs.Key.Workspace
import DeviceTrust.Proofs.Key.Agreement
import DeviceTrust.Proofs.Key.Context
import DeviceTrust.Proofs.Payload
import DeviceTrust.Proofs.Payload.Failures
import DeviceTrust.Proofs.Certificate.Verification
import DeviceTrust.Proofs.Certificate.Chain
import DeviceTrust.Proofs.Certificate.Issued
import DeviceTrust.Proofs.Certificate.Extraction
import DeviceTrust.Proofs.Certificate.Built
import DeviceTrust.Proofs.Certificate.Published
import DeviceTrust.Proofs.Cose.ReadBack
import DeviceTrust.Proofs.Certificate.Agreement
import DeviceTrust.Proofs.Cbor.Essence
import DeviceTrust.Proofs.Certificate.Forms
import DeviceTrust.Proofs.Certificate.Pinning
import DeviceTrust.Proofs.Cose.Concealed
import DeviceTrust.Proofs.Certificate.Concealed
import DeviceTrust.Operation
import DeviceTrust.Proofs.Operation
import DeviceTrust.Proofs.Provider
import DeviceTrust.Proofs.Cbor.Ordinary
import DeviceTrust.Proofs.Cose.Ordinary
import DeviceTrust.Proofs.Cose.Hash
import DeviceTrust.Proofs.Number.Exact
import DeviceTrust.Proofs.Cbor.Written
import DeviceTrust.Proofs.Key.Labels
import DeviceTrust.Proofs.Key.Canonical
import DeviceTrust.Proofs.Cbor.Unwritable
import DeviceTrust.Proofs.Certificate.Targets
import DeviceTrust.Proofs.Certificate.Expected
import DeviceTrust.Proofs.Key.RawBytes
import DeviceTrust.Proofs.Text.Numeral
import DeviceTrust.Proofs.Logging.Settings
import DeviceTrust.Proofs.Hash.Hkdf
import DeviceTrust.Proofs.Key.Derivation
import DeviceTrust.Proofs.Key.Identifier
import DeviceTrust.Proofs.Operation.Records
import DeviceTrust.Proofs.Logging.Loggers
import DeviceTrust.Proofs.Cose.Header
import DeviceTrust.Proofs.Cbor.WireKind
import DeviceTrust.Proofs.Key.Wiping
