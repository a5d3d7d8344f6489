import Issuance.Main
import Issuance.Proofs.Catalog.Insertion
import Issuance.Proofs.Cli.Arguments
import Issuance.Proofs.Cli.Effects
import Issuance.Proofs.Cli.Issuing
import Issuance.Proofs.Credential.Completion
import Issuance.Proofs.Credential.Consumption
import Issuance.Proofs.Credential.Delivery
import Issuance.Proofs.Credential.DollarPath
import Issuance.Proofs.Credential.Embedding
import Issuance.Proofs.Credential.Finished
import Issuance.Proofs.Credential.GeneratedSkeleton
import Issuance.Proofs.Credential.NamedContext
import Issuance.Proofs.Credential.Noninterference
import Issuance.Proofs.Credential.ObjectSkeleton
import Issuance.Proofs.Credential.OneBody
import Issuance.Proofs.Credential.Printed
import Issuance.Proofs.Credential.Serialisation
import Issuance.Proofs.Credential.TextSkeleton
import Issuance.Proofs.Credential.TokenId
import Issuance.Proofs.Interview
import Issuance.Proofs.Placeholder.Occurrence
import Issuance.Proofs.Placeholder.OnePass
import Issuance.Proofs.Template.FieldFormats
import Issuance.Proofs.Template.WrittenWpml
import Issuance.Proofs.Template.ObjectFormat
import Issuance.Proofs.Text.Words
import Issuance.Proofs.Template.FieldAttributes
import Issuance.Proofs.Calendar
import Issuance.Proofs.Credential.OneInstant
import Issuance.Proofs.Template.FieldRecords
import Issuance.Proofs.Placeholder.Records
import Issuance.Proofs.Accounting
import Issuance.Proofs.Catalog.History
import Issuance.Proofs.Field.TypeString
import Issuance.Proofs.Template.RequiredMark
