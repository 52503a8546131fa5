import SteadyFetch.Http.Body
import SteadyFetch.Http.Head
import SteadyFetch.Text.Utf8

set_option autoImplicit false

/-! # Transfers

A transfer reports header lines and chunks of a body as they come, and at its end whether it failed. Its
frames are the head that belongs to the body, then the body: a status line discards the lines of the
head before it, so heads of redirects and interim heads are never seen, and once the body has begun,
header lines no longer count. A transfer that fails before its body began has no head. -/

namespace SteadyFetch

/-- One report of a transfer. -/
inductive TransferEvent where
  /-- A line of a head, or one that follows a body in chunks. -/
  | line (octets : Bytes)
  /-- A chunk of the body. -/
  | chunk (octets : Bytes)
  deriving DecidableEq

/-- A transfer from its first report to its end. -/
structure Transfer where
  events : List TransferEvent
  failure : Option TransferCode
  /-- The status of the last response, zero if there was none. -/
  status : Nat
  deriving DecidableEq

/-- A head under way: what its status line said, and the lines after it. -/
structure PendingHead where
  status : Nat
  lines : List String

namespace PendingHead

/-- Nothing was read yet. -/
def empty : PendingHead := ⟨0, []⟩

/-- Takes up a line; blanks at its end do not count, and lines that are no text are left out. -/
def add (h : PendingHead) (octets : Bytes) : PendingHead :=
  match Utf8.decode? octets with
  | none => h
  | some text =>
    let line := String.ofList (trimEnd text.toList)
    match statusOfLine? line with
    | some status => ⟨status, []⟩
    | none => if line.isEmpty then h else { h with lines := h.lines ++ [line] }

/-- The head as a frame. -/
def frame (h : PendingHead) : Frame := .head h.status h.lines

end PendingHead

namespace Transfer

/-- The chunks among events, as frames. -/
def bodyFrames (events : List TransferEvent) : List Frame :=
  events.filterMap fun
    | .line _ => none
    | .chunk bs => some (.body bs)

/-- The frames of what is left of a transfer whose body has not begun. -/
def framesFrom (t : Transfer) (h : PendingHead) : List TransferEvent → List Frame
  | [] =>
    match t.failure with
    | some code => [.done (some code)]
    | none =>
      let status := if t.status = 0 then h.status else t.status
      [.head status h.lines, .done none]
  | .line octets :: rest => t.framesFrom (h.add octets) rest
  | .chunk bs :: rest => h.frame :: .body bs :: bodyFrames rest ++ [.done t.failure]

/-- The frames of a transfer. -/
def frames (t : Transfer) : List Frame := t.framesFrom .empty t.events

end Transfer

end SteadyFetch
