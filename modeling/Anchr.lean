import Anchr.Attachments.Blossom
import Anchr.Attachments.Properties.BlobRoundTrip
import Anchr.Customer.Properties.RecoveryKept
import Anchr.Exchange.Properties.Parties
import Anchr.Exchange.RelayWait
import Anchr.Frost.Properties.AggregationSets
import Anchr.Frost.Properties.DkgDiscipline
import Anchr.Frost.Properties.MultiProof
import Anchr.Frost.Properties.PeerLock
import Anchr.Frost.Properties.Redemption
import Anchr.Frost.Properties.SessionLookup
import Anchr.Frost.Properties.SignerGate
import Anchr.Frost.Properties.SigningFinal
import Anchr.Oracle.Properties.Commitment
import Anchr.Oracle.Properties.OneVerdict
import Anchr.Oracle.Properties.Redelivery
import Anchr.Oracle.Properties.Retention
import Anchr.Payments.Properties.AcceptedLock
import Anchr.Payments.Properties.BoundLock
import Anchr.Payments.Properties.Durability
import Anchr.Payments.Properties.HoldTerms
import Anchr.Payments.Properties.PreimageMatch
import Anchr.Payments.Properties.RedeemedValue
import Anchr.Payments.Properties.SpendAuthorised
import Anchr.Payments.Properties.TokenVerified
import Anchr.Proofs.Base64
import Anchr.Proofs.Properties.EvidenceBound
import Anchr.Proofs.Properties.GpsBinding
import Anchr.Proofs.Properties.GpsSigns
import Anchr.Proofs.Properties.GuardRecency
import Anchr.Proofs.Properties.PresentationOnce
import Anchr.Proofs.Properties.ReferenceBundles
import Anchr.Proofs.Properties.ServerIdentity
import Anchr.Provider.Properties.Redelivery
import Anchr.Requests.Properties.Artifact
import Anchr.Requests.Properties.Deadline
import Anchr.Requests.Properties.Locktime
import Anchr.Requests.Properties.OracleChoice
import Anchr.Requests.Properties.SelectionRace
import Anchr.Requests.Properties.ServiceRefines
import Anchr.Requests.Properties.Terms
import Anchr.Requests.Properties.Unattested
