import Credentials.Client.Call
import Credentials.Drafting
import Credentials.Files.Tree
import Credentials.Options.Reader
import Credentials.Main
import Credentials.Program
import Credentials.Proofs.Document.Reread
import Credentials.Proofs.Json.Lexeme
import Credentials.Proofs.Json.ReadBack
import Credentials.Proofs.Document.Text
import Credentials.Proofs.Client
import Credentials.Proofs.Http.Transport
import Credentials.Proofs.Http.Storage
import Credentials.Proofs.Http.Percent
import Credentials.Proofs.Http.Identifier
import Credentials.Proofs.Circulation
import Credentials.Proofs.Document.Permission
import Credentials.Proofs.Json.Edit
import Credentials.Proofs.Document.Agreement
import Credentials.Proofs.Document.Similar
import Credentials.Proofs.Client.Classification
import Credentials.Proofs.Config.Load
import Credentials.Proofs.Config.ServerUrl
import Credentials.Proofs.Document.Written
import Credentials.Proofs.Command.Arguments
import Credentials.Proofs.Command.Contact
import Credentials.Proofs.Command.Validation
import Credentials.Proofs.Command.Journal
import Credentials.Proofs.Command.Secrecy
import Credentials.Proofs.Instant.Unambiguous
import Credentials.Proofs.Json.Equality
import Credentials.Proofs.Document.Correspondence
import Credentials.Proofs.Drafting
import Credentials.Proofs.Config.Precedence
import Credentials.Proofs.Http.Form
import Credentials.Proofs.Http.NameQuery
import Credentials.Proofs.Permission.Granting
import Credentials.Proofs.Permission.Grant
import Credentials.Proofs.Command.Relevance
import Credentials.Proofs.Options
import Credentials.Proofs.Name.Segments
import Credentials.Proofs.Permission.Actor
import Credentials.Proofs.Name.Readers
