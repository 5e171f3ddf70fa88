import SignedRest.Text.Form
import SignedRest.Text.Base64
import SignedRest.Chunks
import SignedRest.Json.Reader
import SignedRest.Json.Writer
import SignedRest.Json.Basic
import SignedRest.Time.Rfc3339
import SignedRest.Digest.Sha1
import SignedRest.Digest.Sha256
import SignedRest.Host.International
import SignedRest.Unicode.Printable
import SignedRest.Host.Basic
import SignedRest.Url.Change
import SignedRest.Url.Join
import SignedRest.Request
import SignedRest.Headers
import SignedRest.Config
import SignedRest.Multipart
import SignedRest.Xml.Reader
import SignedRest.Endpoint
import SignedRest.Log
import SignedRest.Http.Response
import SignedRest.OAuth1.Signature
import SignedRest.Call.Task
import SignedRest.OAuth1.Client
import SignedRest.OAuth2.Client
import SignedRest.Description.Auth
import SignedRest.Multipart.Reader
import SignedRest.OAuth1.Verification
import SignedRest.Proofs.Percent
import SignedRest.Proofs.BaseString
import SignedRest.Proofs.FormPairs
import SignedRest.Proofs.QueryAppending
import SignedRest.Proofs.AuthorizationHeader
import SignedRest.Proofs.HeaderLookup
import SignedRest.Proofs.Parameters
import SignedRest.Proofs.Preparing
import SignedRest.Proofs.SignedCall
import SignedRest.Proofs.WireVerification
import SignedRest.Proofs.AnyTransport
import SignedRest.Proofs.CallRun
import SignedRest.Proofs.FieldRefinement
import SignedRest.Proofs.SentOnce
import SignedRest.Proofs.HostControls
import SignedRest.Proofs.LooseEnd
import SignedRest.Proofs.QueryRefused
import SignedRest.Proofs.RebuiltBase
import SignedRest.Proofs.MultipartReading
import SignedRest.Proofs.Base64
import SignedRest.Proofs.CarriedSignature
import SignedRest.Proofs.ClientRun
import SignedRest.Proofs.TokenSwap
import SignedRest.Proofs.TokenExpiry
import SignedRest.Proofs.StatusAgreement
import SignedRest.Proofs.QueryArrival
import SignedRest.Proofs.PartHeaders
import SignedRest.Proofs.SharedBinding
import SignedRest.Proofs.SendingModes
import SignedRest.Proofs.TaskRace
import SignedRest.Proofs.TokenSteps
import SignedRest.Proofs.XmlRoundTrip
import SignedRest.Proofs.HeaderGrammar
import SignedRest.Proofs.SecretPair
import SignedRest.Proofs.BaseUrl
import SignedRest.Proofs.SignatureHost
import SignedRest.Proofs.ParameterShapes
import SignedRest.Proofs.ConsentUrl
import SignedRest.Proofs.SignedBusiness
import SignedRest.Proofs.FunctionJoining
import SignedRest.Proofs.ExpiryArithmetic
import SignedRest.Proofs.InsertionOrder
import SignedRest.Proofs.HeaderNames
import SignedRest.Proofs.Diagnostics
import SignedRest.Proofs.JsonPaths
import SignedRest.Proofs.UploadProgress
import SignedRest.Proofs.CodeChallenge
import SignedRest.Proofs.DocumentOrder
