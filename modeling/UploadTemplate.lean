import UploadTemplate.Command.Help
import UploadTemplate.Command.Run
import UploadTemplate.Command.Sources
import UploadTemplate.Destination.Json
import UploadTemplate.Destination.Migration
import UploadTemplate.Destination.Yaml
import UploadTemplate.Main
import UploadTemplate.Naming.Interpret
import UploadTemplate.Proofs.Command.Migrate
import UploadTemplate.Proofs.Destination.Normalized
import UploadTemplate.Proofs.Destination.QueryCut
import UploadTemplate.Proofs.Destination.ResponseCall
import UploadTemplate.Proofs.Json.Path
import UploadTemplate.Proofs.Naming.Alike
import UploadTemplate.Proofs.Naming.Counter
import UploadTemplate.Proofs.Naming.Numbering
import UploadTemplate.Proofs.Naming.Preview
import UploadTemplate.Proofs.Naming.SinglePass
import UploadTemplate.Proofs.Naming.Title
import UploadTemplate.Proofs.Naming.UrlNames
import UploadTemplate.Proofs.Naming.Values
import UploadTemplate.Proofs.Template.BuiltIn
import UploadTemplate.Proofs.Template.Decoding
import UploadTemplate.Proofs.Template.Dispatch
import UploadTemplate.Proofs.Template.Dollar
import UploadTemplate.Proofs.Template.Encodings
import UploadTemplate.Proofs.Template.Ends
import UploadTemplate.Proofs.Template.Patterns
import UploadTemplate.Proofs.Template.Protected
import UploadTemplate.Proofs.Template.Unmarked
import UploadTemplate.Proofs.Template.Written
import UploadTemplate.Proofs.Upload.Checks
import UploadTemplate.Proofs.Upload.Counter
import UploadTemplate.Proofs.Upload.JsonBody
import UploadTemplate.Proofs.Upload.JsonTokens
import UploadTemplate.Proofs.Upload.Links
import UploadTemplate.Proofs.Upload.QueryData
import UploadTemplate.Proofs.Upload.RequestUrl
import UploadTemplate.Proofs.Upload.Sending
import UploadTemplate.Store
import UploadTemplate.Upload
