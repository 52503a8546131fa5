import SteadyFetch.Channel
import SteadyFetch.Checksum.OfFile
import SteadyFetch.Command
import SteadyFetch.Http.Opener
import SteadyFetch.Http.Settings
import SteadyFetch.Storage.Destination
import SteadyFetch.Storage.PartFile

set_option autoImplicit false

/-! # Downloading

An object is read into the part file of its destination, which is moved into place once the read is
complete. As soon as the generation is known, a marker beside the part file names it, before any of
its octets are written. A download is resumed where the part file ends, on the marker's generation; if
the marker names something else than what is asked for, nothing is touched.

The number of reads is limited from outside; a download that is not over by then has no result. -/

namespace SteadyFetch

/-- Why a download failed. -/
inductive DownloadError where
  | destination (e : NoFileName)
  | marker (e : MarkerError)
  /-- The part file holds something else. -/
  | otherObject (path : String) (held wanted : ObjectRef)
  | part (e : PartError)
  | endpoint (e : EndpointError)
  /-- The configured base delay is longer than any span. -/
  | delay
  | read (object : ObjectRef) (failure : ReadFailure)
  | write (path : String) (fault : IoFault)
  | checksum (e : ChecksumError)
  deriving DecidableEq

/-- The error for readers, the outermost cause first. -/
def DownloadError.causes : DownloadError → List String
  | .destination e => [e.message]
  | .marker e => e.causes
  | .otherObject path held wanted =>
    [s!"{path} holds a partial download of {held.text}, not {wanted.text}"]
  | .part e => e.causes
  | .endpoint e => e.causes
  | .delay => ["download task join",
      "cannot convert float seconds to Duration: value is either too big or NaN"]
  | .read object failure =>
    s!"download {object.text}" :: failure.text :: (failure.source?.map (·.text)).toList
  | .write path fault => [s!"write {path}", fault.text]
  | .checksum e => e.causes

/-- What a download came to. -/
structure DownloadSummary where
  path : String
  generation : Option Int
  /-- The octets that were there already. -/
  resumedFrom : Nat
  checksum : Checksum
  deriving DecidableEq

/-- The summary for readers. -/
def DownloadSummary.text (s : DownloadSummary) : String :=
  let resumed := if 0 < s.resumedFrom then s!"Resumed at byte {s.resumedFrom}\n" else ""
  let generation := match s.generation with
    | some g => s!"{g}"
    | none => "-"
  s!"{resumed}{s.path}  {s.checksum.length} bytes  generation {generation}  crc32c {s.checksum.base64}\n"

/-- What a download works with, in a context `m` of effects. -/
structure DownloadContext (m : Type → Type) (η : Type) where
  files : Files m η
  network : Network m
  /-- Lets a delay pass. -/
  pause : Span → m Unit
  /-- The most reads of files, reads of the channel, and turns of one such read. -/
  limit : Nat

namespace DownloadArgs

/-- Where the object goes. -/
def destination (args : DownloadArgs) : Except NoFileName String :=
  match args.output with
  | some path => .ok path
  | none => defaultDestination args.object

/-- The object that is asked for. -/
def objectRef (args : DownloadArgs) : ObjectRef := ⟨args.bucket, args.object, args.generation⟩

/-- The options of every open. -/
def options (args : DownloadArgs) : ReadOptions where
  userProject := args.userProject
  encryptionKey := args.encryptionKey.map EncryptionKey.mk

end DownloadArgs

namespace Download

variable {m : Type → Type} {η : Type} [Monad m]

/-- The octets of one read. -/
def bufferSize : Nat := 262144

/-- An object and the part file for it. -/
abbrev Prepared (η : Type) := ObjectRef × PartFile η

/-- An empty part file. -/
def prepareFresh (files : Files m η) (path : String) (object : ObjectRef) :
    m (Except DownloadError (Prepared η)) := do
  match ← PartFile.create files path with
  | .error e => return .error (.part e)
  | .ok part => return .ok (object, part)

/-- The part file that a marker stands beside, if the marker admits the object. -/
def prepareResumed (files : Files m η) (path : String) (object : ObjectRef)
    (marker : ResumeMarker) : m (Except DownloadError (Prepared η)) := do
  if marker.admits object then
    let object := { object with generation := object.generation <|> marker.object.generation }
    match ← PartFile.resume files path with
    | .error e => return .error (.part e)
    | .ok part => return .ok (object, part)
  else return .error (.otherObject path marker.object object)

/-- Opens the part file, and settles which generation a resumed download must stay on. -/
def prepare (files : Files m η) (limit : Nat) (path : String) (object : ObjectRef)
    (resume : Bool) : m (Option (Except DownloadError (Prepared η))) := do
  if !resume then return some (← prepareFresh files path object)
  match ← ResumeMarker.load files limit path with
  | none => return none
  | some (.error e) => return some (.error (.marker e))
  | some (.ok none) => return some (← prepareFresh files path object)
  | some (.ok (some marker)) => return some (← prepareResumed files path object marker)

/-- Saves a marker for the resolved object, if there is one. -/
def saveResolved (files : Files m η) (path : String) (resolved : Option ObjectRef) :
    m (Except DownloadError Unit) := do
  match resolved with
  | none => return .ok ()
  | some object =>
    match ← ResumeMarker.save files ⟨object⟩ path with
    | .error e => return .error (.marker e)
    | .ok () => return .ok ()

/-- A download under way. -/
structure State (η : Type) where
  channel : Channel BodyStream
  part : PartFile η

/-- Takes up what one read gave; none for the end. -/
def takeUp (files : Files m η) (path : String) (s : State η) (outcome : Outcome) :
    m (Except DownloadError (Option (State η))) := do
  match ← saveResolved files path outcome.resolved with
  | .error e => return .error e
  | .ok () =>
    match outcome.progress with
    | .endOfStream => return .ok none
    | .octets bs =>
      match ← s.part.write files bs with
      | (.error fault, part) => return .error (.write part.path fault)
      | (.ok (), part) => return .ok (some { s with part := part })

/-- Reads on until the end of the object. -/
def copy (context : DownloadContext m η) (opener : Opener m BodyStream) (adviser : Adviser m)
    (path : String) : Nat → State η → m (Option (Except DownloadError (State η)))
  | 0, _ => return none
  | reads + 1, s => do
    match ← s.channel.read opener adviser context.limit [bufferSize] with
    | none => return none
    | some (.error failure, channel) =>
      return some (.error (.read channel.request.object failure))
    | some (.ok outcome, channel) =>
      let s := { s with channel := channel }
      match ← takeUp context.files path s outcome with
      | .error e => return some (.error e)
      | .ok none => return some (.ok s)
      | .ok (some s) => copy context opener adviser path reads s

/-- Moves the part file into place. -/
def finish (files : Files m η) (path : String) (part : PartFile η) :
    m (Except DownloadError Unit) := do
  match ← part.sync files with
  | .error e => return .error (.part e)
  | .ok () =>
    match ← part.finalize files path with
    | .error e => return .error (.part e)
    | .ok () => return .ok ()

/-- Moves the part file into place and sums up. -/
def conclude (context : DownloadContext m η) (path : String) (resumedFrom : Nat) (s : State η) :
    m (Option (Except DownloadError DownloadSummary)) := do
  match ← finish context.files path s.part with
  | .error e => return some (.error e)
  | .ok () =>
    match ← Checksum.ofFile context.files context.limit path with
    | none => return none
    | some (.error e) => return some (.error (.checksum e))
    | some (.ok checksum) =>
      return some (.ok ⟨path, s.channel.generation, resumedFrom, checksum⟩)

/-- Downloads into a part file that is open. -/
def transfer (context : DownloadContext m η) (config : Config) (options : ReadOptions)
    (path : String) (prepared : Prepared η) :
    m (Option (Except DownloadError DownloadSummary)) := do
  let (object, part) := prepared
  match config.endpointUrl, config.retrySettings.policy? with
  | .error e, _ => return some (.error (.endpoint e))
  | .ok _, none => return some (.error .delay)
  | .ok endpoint, some policy =>
    let request : ReadRequest := ⟨object, options, .onward part.length⟩
    let opener := httpOpener context.network endpoint
    let adviser := policy.adviser context.pause
    match ← copy context opener adviser path context.limit ⟨.start request, part⟩ with
    | none => return none
    | some (.error e) => return some (.error e)
    | some (.ok s) => conclude context path part.length s

/-- Downloads an object. -/
def run (context : DownloadContext m η) (config : Config) (args : DownloadArgs) :
    m (Option (Except DownloadError DownloadSummary)) := do
  match args.destination with
  | .error e => return some (.error (.destination e))
  | .ok path =>
    match ← prepare context.files context.limit path args.objectRef args.resume with
    | none => return none
    | some (.error e) => return some (.error e)
    | some (.ok prepared) => transfer context config args.options path prepared

end Download

end SteadyFetch
