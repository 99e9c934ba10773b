import Kerberos.Proofs.CommandLine.FileTree
import Kerberos.Main
import Kerberos.Proofs.Asn1.Content
import Kerberos.Proofs.Asn1.Guarded
import Kerberos.Proofs.Cipher.Refusals
import Kerberos.Proofs.Cipher.RoundTrip
import Kerberos.Proofs.CommandLine.ExitCodes
import Kerberos.Proofs.Message.Sequence
import Kerberos.Proofs.Cipher.StreamRoundTrip
import Kerberos.Proofs.Registry.History
import Kerberos.Proofs.Text.Utf8Canonical
import Kerberos.Proofs.Asn1.Failures
import Kerberos.Proofs.Enctype
import Kerberos.Proofs.CommandLine.Arguments
import Kerberos.Proofs.CommandLine.RoundTrip
import Kerberos.Proofs.Cipher.Mac
import Kerberos.Proofs.Hmac.Outcome
import Kerberos.Proofs.Registry.Checksum
import Kerberos.Proofs.Des.GoodKeys
import Kerberos.Proofs.Asn1.Reader
import Kerberos.Proofs.Asn1.Windows
import Kerberos.Proofs.Message.Lockstep
import Kerberos.Proofs.Cipher.RelatedKeys
import Kerberos.Proofs.Cipher.OtherRoles
import Kerberos.Proofs.Cipher.EncryptedLength
import Kerberos.Proofs.Pbkdf2
import Kerberos.Proofs.CommandLine.Passwords
import Kerberos.Proofs.CommandLine.Help
import Kerberos.Proofs.Asn1.Rendering
