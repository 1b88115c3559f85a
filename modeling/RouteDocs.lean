import RouteDocs.Json.Reader
import RouteDocs.Main
import RouteDocs.Proofs.Agreement
import RouteDocs.Proofs.Annotations
import RouteDocs.Proofs.ApplicationUrl
import RouteDocs.Proofs.Dedenting
import RouteDocs.Proofs.Faults
import RouteDocs.Proofs.Inspection
import RouteDocs.Proofs.Json.Document
import RouteDocs.Proofs.Limits
import RouteDocs.Proofs.ManifestRoundTrip
import RouteDocs.Proofs.PathKeys
import RouteDocs.Proofs.Unresolvable
import RouteDocs.Proofs.SettingsTrouble
import RouteDocs.Proofs.Redefinition
import RouteDocs.Proofs.Module.Inheritance
import RouteDocs.Proofs.Inheritance
import RouteDocs.Proofs.Containment
import RouteDocs.Proofs.ParameterNames
import RouteDocs.Proofs.SearchPath
import RouteDocs.Proofs.SourceReading
import RouteDocs.Proofs.Responses
import RouteDocs.Proofs.Verbs
import RouteDocs.Proofs.TableDocumentation
import RouteDocs.Proofs.Placeholders
import RouteDocs.Proofs.Controllers
