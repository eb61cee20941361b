import TelemetryGateway.Message.Update
import TelemetryGateway.Document.Decoder

/-!
# Malformed paths

Some devices report list entries keyed by the name of the list itself, such as
`/interfaces/interface[name=interface]`, or stream top-level containers that are no telemetry.
Updates for such paths are dropped before they reach a cache; that is no error.

A rejected update costs either itself alone or its whole notification, as the scope says.
-/

namespace TelemetryGateway

inductive Rejection where
  /-- A list entry below the container is keyed by the name of the list. -/
  | selfKeyedList (container : String)
  /-- The first element is never telemetry. -/
  | bogusRoot (root : String)
deriving DecidableEq, Inhabited

/-- What a rejection drops. -/
inductive RejectionScope where
  | update
  | notification
deriving DecidableEq, Inhabited

inductive Screening where
  /-- The notification, without its rejected updates. -/
  | forward (notification : Notification) (rejected : List Rejection)
  | drop (rejected : List Rejection)
deriving DecidableEq, Inhabited

namespace Rejection

def message : Rejection → String
  | .selfKeyedList container => "self-keyed list entry under /" ++ container
  | .bogusRoot root => "bogus root /" ++ root

/-- Containers with the list in them whose entries must not be keyed by the name of the list. -/
def selfKeyedLists : List (String × String) :=
  [("interfaces", "interface"), ("network-instances", "network-instance")]

def bogusRoots : List String := ["netconf-state"]

end Rejection

namespace Path

def rejection? (p : Path) : Option Rejection :=
  match p.elem with
  | [] => none
  | first :: rest =>
      if Rejection.bogusRoots.contains first.name then some (.bogusRoot first.name)
      else
        match rest with
        | [] => none
        | second :: _ =>
            match second.key.get? "name" with
            | none => none
            | some selfKey =>
                (Rejection.selfKeyedLists.find? fun (container, list) =>
                  first.name == container && second.name == list && selfKey == list).map
                    fun (container, _) => .selfKeyedList container

end Path

namespace RejectionScope

def name : RejectionScope → String
  | .update => "update"
  | .notification => "notification"

def names : List (String × RejectionScope) :=
  [("update", .update), ("notification", .notification)]

def decode : Decoder RejectionScope := .choice names

def encode (s : RejectionScope) : Document := .text s.name

end RejectionScope

namespace Notification

/-- Applies the denylist to every update.  Where one rejection drops the notification, the first one
is the reason; else the accepted updates stay in their order, and the notification is dropped only
if it had updates and nothing is left of it. -/
def screen (scope : RejectionScope) (n : Notification) : Screening :=
  match scope with
  | .notification =>
      match n.update.findSome? (fun u => u.path.rejection?) with
      | some reason => .drop [reason]
      | none => .forward n []
  | .update =>
      let accepted := n.update.filter (fun u => u.path.rejection?.isNone)
      let rejected := n.update.filterMap (fun u => u.path.rejection?)
      let rest := { n with update := accepted }
      if !n.update.isEmpty && rest.isEmpty then .drop rejected else .forward rest rejected

end Notification

end TelemetryGateway
