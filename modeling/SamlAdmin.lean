import SamlAdmin.Binary64
import SamlAdmin.Channels
import SamlAdmin.Client
import SamlAdmin.Draft
import SamlAdmin.Draft.Setter
import SamlAdmin.EnvFile
import SamlAdmin.Factory
import SamlAdmin.FieldMap
import SamlAdmin.Host.Domain
import SamlAdmin.Host.Ipv4
import SamlAdmin.Host.Ipv6
import SamlAdmin.Host.Label
import SamlAdmin.Host.NameMapping
import SamlAdmin.Host.NamePoint
import SamlAdmin.Host.Punycode
import SamlAdmin.Host.Registered
import SamlAdmin.Http.ContentType
import SamlAdmin.Http.Header
import SamlAdmin.Http.Reply
import SamlAdmin.Http.Request
import SamlAdmin.Http.Status
import SamlAdmin.Json.Body
import SamlAdmin.Json.Fault
import SamlAdmin.Json.Printer
import SamlAdmin.Json.Reader
import SamlAdmin.Log
import SamlAdmin.Members
import SamlAdmin.Problem
import SamlAdmin.Proofs.Client.Address
import SamlAdmin.Proofs.Client.Addressing
import SamlAdmin.Proofs.Client.Course
import SamlAdmin.Proofs.Client.ItemByItem
import SamlAdmin.Proofs.Client.Mishap
import SamlAdmin.Proofs.Client.Ownership
import SamlAdmin.Proofs.Client.Paging
import SamlAdmin.Proofs.Client.Plan
import SamlAdmin.Proofs.Client.Project
import SamlAdmin.Proofs.Client.QueryValues
import SamlAdmin.Proofs.Client.ReadBack
import SamlAdmin.Proofs.Client.Refusal
import SamlAdmin.Proofs.Client.Sending
import SamlAdmin.Proofs.Client.Taking
import SamlAdmin.Proofs.Client.UpdateMask
import SamlAdmin.Proofs.Draft.Alike
import SamlAdmin.Proofs.Draft.Build
import SamlAdmin.Proofs.Draft.Checks
import SamlAdmin.Proofs.Draft.CreateBody
import SamlAdmin.Proofs.Draft.History
import SamlAdmin.Proofs.Draft.InPlace
import SamlAdmin.Proofs.Draft.Record
import SamlAdmin.Proofs.Draft.Setting
import SamlAdmin.Proofs.Draft.UpdateOutcome
import SamlAdmin.Proofs.Except
import SamlAdmin.Proofs.Factory.Process
import SamlAdmin.Proofs.Factory.Recovery
import SamlAdmin.Proofs.Factory.Shared
import SamlAdmin.Proofs.FieldMap.Body
import SamlAdmin.Proofs.FieldMap.Change
import SamlAdmin.Proofs.FieldMap.Conflict
import SamlAdmin.Proofs.FieldMap.Frame
import SamlAdmin.Proofs.FieldMap.Insert
import SamlAdmin.Proofs.FieldMap.Leaves
import SamlAdmin.Proofs.FieldMap.Mask
import SamlAdmin.Proofs.FieldMap.Present
import SamlAdmin.Proofs.FieldMap.Rebuild
import SamlAdmin.Proofs.FieldMap.Rows
import SamlAdmin.Proofs.FieldMap.Store
import SamlAdmin.Proofs.FieldMap.Walk
import SamlAdmin.Proofs.FieldMap.WriteOrder
import SamlAdmin.Proofs.Http.ContentType
import SamlAdmin.Proofs.Http.Header
import SamlAdmin.Proofs.Json.Octets
import SamlAdmin.Proofs.Json.RoundTrip
import SamlAdmin.Proofs.Members
import SamlAdmin.Proofs.ProviderId
import SamlAdmin.Proofs.Resource.Agreement
import SamlAdmin.Proofs.Resource.Effective
import SamlAdmin.Proofs.Resource.Listing
import SamlAdmin.Proofs.Resource.NormalForm
import SamlAdmin.Proofs.Resource.OfFields
import SamlAdmin.Proofs.Resource.Problems
import SamlAdmin.Proofs.Resource.Shape
import SamlAdmin.Proofs.ServerError
import SamlAdmin.Proofs.Session.Law
import SamlAdmin.Proofs.Session.Refused
import SamlAdmin.Proofs.Session.Run
import SamlAdmin.Proofs.Text.Ascii
import SamlAdmin.Proofs.Text.Charset
import SamlAdmin.Proofs.Text.Length
import SamlAdmin.Proofs.Text.Split
import SamlAdmin.Proofs.Text.Trim
import SamlAdmin.Proofs.Text.Unicode
import SamlAdmin.Proofs.Text.Utf8
import SamlAdmin.Proofs.Text.Utf8Strict
import SamlAdmin.Proofs.Transport.Answers
import SamlAdmin.Proofs.Transport.Call
import SamlAdmin.Proofs.Transport.Log
import SamlAdmin.Proofs.Transport.Reported
import SamlAdmin.Proofs.Transport.Traffic
import SamlAdmin.Proofs.Url.Escapes
import SamlAdmin.Proofs.Url.Form
import SamlAdmin.Proofs.Url.LastSegment
import SamlAdmin.Proofs.Url.Percent
import SamlAdmin.Proofs.Url.Refused
import SamlAdmin.Proofs.Url.Settled
import SamlAdmin.Proofs.Url.Target
import SamlAdmin.ProviderConfig
import SamlAdmin.ProviderId
import SamlAdmin.Resource
import SamlAdmin.Resource.Reading
import SamlAdmin.ServerError
import SamlAdmin.Session
import SamlAdmin.Settings
import SamlAdmin.Text
import SamlAdmin.Text.Base64
import SamlAdmin.Text.Blank
import SamlAdmin.Text.Charset
import SamlAdmin.Text.CodePage
import SamlAdmin.Text.Decimal
import SamlAdmin.Text.Integer
import SamlAdmin.Text.Literal
import SamlAdmin.Text.Unencodable
import SamlAdmin.Text.Utf8
import SamlAdmin.Text.Wide
import SamlAdmin.Transport
import SamlAdmin.Unicode.Case
import SamlAdmin.Unicode.Cased
import SamlAdmin.Unicode.CombiningClass
import SamlAdmin.Unicode.Decomposition
import SamlAdmin.Unicode.Direction
import SamlAdmin.Unicode.Joining
import SamlAdmin.Unicode.Mapping
import SamlAdmin.Unicode.Mark
import SamlAdmin.Unicode.Normalization
import SamlAdmin.Unicode.Printable
import SamlAdmin.Unicode.Ranges
import SamlAdmin.Unicode.Script
import SamlAdmin.Url.Acceptance
import SamlAdmin.Url.Form
import SamlAdmin.Url.Join
import SamlAdmin.Url.Percent
import SamlAdmin.Url.Target
import SamlAdmin.Value
