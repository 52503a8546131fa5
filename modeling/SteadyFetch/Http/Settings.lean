import SteadyFetch.Config
import SteadyFetch.Text.Quoted
import SteadyFetch.Url.Parse

set_option autoImplicit false

/-! # Transfer settings

Where the service is and how patient transfers are, as the configuration says. -/

namespace SteadyFetch

/-- How transfers are made. -/
structure TransferSettings where
  /-- Longest wait for a connection. -/
  connectTimeout : Span
  /-- A transfer is slow below so many octets a second. -/
  lowSpeedLimit : Nat
  /-- How long a transfer may be slow. -/
  lowSpeedTime : Span
  /-- Frames that may wait for the reader. -/
  channelCapacity : Nat
  deriving DecidableEq, Repr

/-- A configured endpoint that is no URL. -/
structure EndpointError where
  endpoint : String
  cause : UrlError
  deriving DecidableEq, Repr

/-- The error for readers, the outermost cause first. -/
def EndpointError.causes (e : EndpointError) : List String :=
  [s!"invalid endpoint {quoted e.endpoint}", e.cause.message]

/-- Reads an endpoint. -/
def parseEndpoint (endpoint : String) : Except EndpointError Url :=
  match Url.parse endpoint with
  | .ok url => .ok url
  | .error cause => .error ⟨endpoint, cause⟩

namespace Config

/-- How transfers are made. -/
def transferSettings (c : Config) : TransferSettings where
  connectTimeout := .ofSeconds c.connectTimeout
  lowSpeedLimit := 1024
  lowSpeedTime := .ofSeconds c.lowSpeedTime
  channelCapacity := 16

/-- Where the service is. -/
def endpointUrl (c : Config) : Except EndpointError Url := parseEndpoint c.endpoint

end Config

end SteadyFetch
