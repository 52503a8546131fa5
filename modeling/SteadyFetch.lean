import SteadyFetch.Bytes
import SteadyFetch.Channel
import SteadyFetch.Channel.Drain
import SteadyFetch.Channel.Opener
import SteadyFetch.Checksum
import SteadyFetch.Checksum.Hasher
import SteadyFetch.Checksum.OfFile
import SteadyFetch.Checksum.Register
import SteadyFetch.Checksum.Sha256
import SteadyFetch.Command
import SteadyFetch.Command.Arguments
import SteadyFetch.Command.Download
import SteadyFetch.Command.Segment
import SteadyFetch.Config
import SteadyFetch.Config.Load
import SteadyFetch.Decimal.Binary64
import SteadyFetch.Fault
import SteadyFetch.Fault.IoKind
import SteadyFetch.Fault.SystemText
import SteadyFetch.Fault.TransferCode
import SteadyFetch.Http.Body
import SteadyFetch.Http.Fetch
import SteadyFetch.Http.Head
import SteadyFetch.Http.MediaRequest
import SteadyFetch.Http.Opener
import SteadyFetch.Http.Redirect
import SteadyFetch.Http.Settings
import SteadyFetch.Http.Transfer
import SteadyFetch.Http.Verdict
import SteadyFetch.Http.Wire
import SteadyFetch.Json.Reader
import SteadyFetch.Json.Records
import SteadyFetch.Json.Value
import SteadyFetch.Log
import SteadyFetch.Machine.Disk
import SteadyFetch.Machine.Internet
import SteadyFetch.Main
import SteadyFetch.Object.ByteRange
import SteadyFetch.Object.Options
import SteadyFetch.Object.Ref
import SteadyFetch.Object.Request
import SteadyFetch.Places
import SteadyFetch.Program
import SteadyFetch.Rehearsal
import SteadyFetch.Rehearsal.Server
import SteadyFetch.Retry.Adviser
import SteadyFetch.Retry.FaultClass
import SteadyFetch.Retry.Policy
import SteadyFetch.Retry.ReadFailure
import SteadyFetch.Retry.Settings
import SteadyFetch.Retry.Span
import SteadyFetch.Segment
import SteadyFetch.Storage.Destination
import SteadyFetch.Storage.FileTree
import SteadyFetch.Storage.Files
import SteadyFetch.Storage.Marker
import SteadyFetch.Storage.PartFile
import SteadyFetch.Text.Base64
import SteadyFetch.Text.Blank
import SteadyFetch.Text.Canonical
import SteadyFetch.Text.Canonical.Decomposition
import SteadyFetch.Text.Canonical.Order
import SteadyFetch.Text.CharMap
import SteadyFetch.Text.CharSet
import SteadyFetch.Text.Direction
import SteadyFetch.Text.Joining
import SteadyFetch.Text.Marks
import SteadyFetch.Text.Numeral
import SteadyFetch.Text.Quoted
import SteadyFetch.Text.Search
import SteadyFetch.Text.Unprintable
import SteadyFetch.Text.Utf8
import SteadyFetch.Toml.Document
import SteadyFetch.Toml.Scalar
import SteadyFetch.Toml.Value
import SteadyFetch.Url
import SteadyFetch.Url.Address
import SteadyFetch.Url.DomainName
import SteadyFetch.Url.DomainName.Excluded
import SteadyFetch.Url.DomainName.Folding
import SteadyFetch.Url.Form
import SteadyFetch.Url.Parse
import SteadyFetch.Url.Percent
import SteadyFetch.Url.Punycode
import SteadyFetch.Proofs.After
import SteadyFetch.Proofs.Segmentation
import SteadyFetch.Proofs.Answers
import SteadyFetch.Proofs.Bodies
import SteadyFetch.Proofs.Delivery
import SteadyFetch.Proofs.Draining
import SteadyFetch.Proofs.ContentRanges
import SteadyFetch.Proofs.Opening
import SteadyFetch.Proofs.ServiceDraining
import SteadyFetch.Proofs.ChangingService
import SteadyFetch.Proofs.Downloads
import SteadyFetch.Proofs.Invariants
import SteadyFetch.Proofs.Histories
import SteadyFetch.Proofs.Transfers
import SteadyFetch.Proofs.RangedReads
import SteadyFetch.Proofs.Endings
import SteadyFetch.Proofs.Responses
import SteadyFetch.Proofs.Provenance
import SteadyFetch.Proofs.Checksums
import SteadyFetch.Proofs.Versions
import SteadyFetch.Proofs.Heads
import SteadyFetch.Proofs.Footprint
import SteadyFetch.Proofs.Hashing
import SteadyFetch.Proofs.SegmentedFiles
import SteadyFetch.Proofs.Ledgers
import SteadyFetch.Proofs.Markers
import SteadyFetch.Proofs.Courses
import SteadyFetch.Proofs.Questions
import SteadyFetch.Proofs.Attempts
import SteadyFetch.Proofs.Bounds
import SteadyFetch.Proofs.Finality
import SteadyFetch.Proofs.Resolutions
import SteadyFetch.Proofs.BodyReads
import SteadyFetch.Proofs.PartSessions
import SteadyFetch.Proofs.Placement
import SteadyFetch.Proofs.Records
import SteadyFetch.Proofs.MediaPaths
import SteadyFetch.Proofs.MediaQueries
import SteadyFetch.Proofs.Interruptions
import SteadyFetch.Proofs.Rehearsals
import SteadyFetch.Proofs.BufferSizes
import SteadyFetch.Proofs.Backoff
import SteadyFetch.Proofs.Ranges
import SteadyFetch.Proofs.Base64
import SteadyFetch.Proofs.Hosts
import SteadyFetch.Proofs.UrlCharacters
import SteadyFetch.Proofs.MediaRequests
import SteadyFetch.Proofs.Widening
import SteadyFetch.Proofs.Settings
import SteadyFetch.Proofs.Refusals
