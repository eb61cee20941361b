import TelemetryGateway.Message.Response

/-!
# Subscription links

A link joins the two ends of a subscription: a bounded buffer from the device to the gateway, and a
close request that either side can see.  A close request comes before everything that is still
buffered.  The first closing event that the reader gets finishes the link for it: it sets the close
request, and from then on nothing else is delivered.
-/

namespace TelemetryGateway

/-- What a reader gets from a link. -/
inductive StreamEvent where
  | response (message : SubscribeResponse)
  | closed (reason : String)
deriving DecidableEq, Inhabited

/-- The state of a subscription between a device and its reader. -/
structure Link where
  capacity : Nat := 64
  /-- What was sent and not yet read, the oldest first. -/
  buffer : List StreamEvent := []
  closeRequested : Bool := false
  senderGone : Bool := false
  readerGone : Bool := false
  /-- The reader has got a closing event. -/
  finished : Bool := false
deriving DecidableEq, Inhabited

namespace Link

/-- Asks for the end of the subscription. -/
def close (l : Link) : Link := { l with closeRequested := true }

/-- The device goes away; what it has sent can still be read. -/
def dropSender (l : Link) : Link := { l with senderGone := true }

/-- The reader goes away, and with it what it has not read. -/
def dropReader (l : Link) : Link := { l with readerGone := true, buffer := [] }

def hasRoom (l : Link) : Bool := l.buffer.length < l.capacity

def push (l : Link) (e : StreamEvent) : Link := { l with buffer := l.buffer ++ [e] }

/-- Puts an event into the buffer if there is room and both ends are there; tells whether it did. -/
def offer (l : Link) (e : StreamEvent) : Bool × Link :=
  if !l.senderGone && !l.readerGone && l.hasRoom then (true, l.push e) else (false, l)

def finish (l : Link) : Link := { l with finished := true, closeRequested := true }

/-- What the reader gets next; `none` if it has to wait. -/
def next? (l : Link) : Option (StreamEvent × Link) :=
  if l.finished then some (.closed "subscription already closed", l)
  else if l.closeRequested then some (.closed "closed locally", l.finish)
  else
    match l.buffer with
    | .response m :: rest => some (.response m, { l with buffer := rest })
    | .closed reason :: rest => some (.closed reason, { l with buffer := rest }.finish)
    | [] => if l.senderGone then some (.closed "stream ended", l.finish) else none

end Link

end TelemetryGateway
