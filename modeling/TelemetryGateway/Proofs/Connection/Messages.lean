import TelemetryGateway.Proofs.Connection.Moves

/-!
# What a message comes to

While nobody has stopped a connection, what it tells its sink about a message depends on the message
alone, and so does whether it closes the subscription after it; the phase only decides whether the
sink hears of the connection first.  The functions of this file say it without a phase, and
`Phase.receive_of_streaming` that it is so.
-/

namespace TelemetryGateway

/-- A prefix path with a target designator: its own if it has one, else the given name.  No prefix
path stands for the root. -/
def Path.designated (prefixPath : Option Path) (name : String) : Path :=
  match prefixPath with
  | none => { target := name }
  | some base => if base.target = "" then { base with target := name } else base

namespace Notification

theorem addressedTo_eq (n : Notification) (name : String) :
    n.addressedTo name = { n with prefixPath := some (Path.designated n.prefixPath name) } := by
  unfold addressedTo base
  cases n.prefixPath with
  | none => rfl
  | some p => simp [Path.designated, Path.withTarget]

end Notification

namespace SubscribeResponse

variable (m : SubscribeResponse) (name : String) (scope : RejectionScope)

/-- The notification of a message as a connection of the given name hands it on, if it does: with a
target designator, and without what the denylist rejects. -/
def forwarded? : Option Notification :=
  match m.response with
  | some (.update n) =>
      let addressed : Notification := { n with prefixPath := some (.designated n.prefixPath name) }
      match addressed.screen scope with
      | .forward forwarded _ => some forwarded
      | .drop _ => none
  | _ => none

/-- The calls that a message comes to: one for a complete snapshot, one for a notification that is
handed on, none for anything else. -/
def calls : List SinkCall :=
  match m.response with
  | some (.sync _) => [.sync]
  | some (.update _) => ((m.forwarded? name scope).map SinkCall.update).toList
  | _ => []

/-- Whether the subscription is closed after a message: it carries an error or nothing, or a
notification that is handed on and that the sink refuses. -/
def fails (refuses : Notification → Bool) : Bool :=
  match m.response with
  | none | some (.error _) => true
  | some (.sync _) => false
  | some (.update _) => (m.forwarded? name scope).any refuses

end SubscribeResponse

namespace Phase

variable {p : Phase}

@[simp] theorem isStopped_lose (p : Phase) : p.lose.phase.isStopped = p.isStopped := by
  cases p <;> rfl

theorem isStopped_of_isConnected (h : p.isConnected = true) : p.isStopped = false := by
  cases p <;> simp_all [isConnected, isStopped]

theorem isStopped_next_dialStarted {q : Phase} (h : p.next .dialStarted = some q) :
    q.isStopped = p.isStopped := by
  obtain ⟨rfl, hp, -⟩ := eq_connecting_of_next h
  exact hp.symm

/-- The first message of a subscription connects the target, and no later one does. -/
theorem calls_greet (h : p.isStreaming = true) (hstop : p.isStopped = false) :
    p.greet.calls = if p.isConnected then [] else [.connect] := by
  cases p <;> simp_all [isStreaming, isStopped, greet, next, isConnected]

theorem calls_complete (h : p.isConnected = true) : p.complete.calls = [.sync] := by
  cases p <;> simp_all [isConnected, complete, next]

/-- What a connection that nobody has stopped does with a message from its link. -/
theorem receive_of_streaming (name : String) (scope : RejectionScope)
    (refuses : Notification → Bool) (m : SubscribeResponse) (h : p.isStreaming = true)
    (hstop : p.isStopped = false) :
    (p.receive name scope refuses m).1.phase.isConnected = true ∧
      (p.receive name scope refuses m).1.calls =
        (if p.isConnected then [] else [.connect]) ++ m.calls name scope ∧
      (p.receive name scope refuses m).2.isSome = m.fails name scope refuses := by
  have hgreet := isConnected_greet h hstop
  have hcalls := calls_greet h hstop
  simp only [receive, hstop, Bool.false_eq_true, if_false]
  cases hm : m.response with
  | none =>
      simp only [SubscribeResponse.calls, SubscribeResponse.fails, hm, List.append_nil]
      exact ⟨hgreet, hcalls, rfl⟩
  | some response =>
      cases response with
      | error e =>
          simp only [SubscribeResponse.calls, SubscribeResponse.fails, hm, List.append_nil]
          exact ⟨hgreet, hcalls, rfl⟩
      | sync marker =>
          simp only [SubscribeResponse.calls, SubscribeResponse.fails, hm]
          exact ⟨isConnected_complete hgreet, by rw [hcalls, calls_complete hgreet], rfl⟩
      | update n =>
          simp only [SubscribeResponse.calls, SubscribeResponse.fails,
            SubscribeResponse.forwarded?, hm, ← Notification.addressedTo_eq]
          cases (n.addressedTo name).screen scope with
          | forward forwarded rejected =>
              refine ⟨hgreet, by rw [hcalls]; rfl, ?_⟩
              cases hrefuses : refuses forwarded <;> simp [hrefuses]
          | drop rejected => exact ⟨hgreet, by rw [hcalls]; simp, rfl⟩

/-- At the end of a subscription the sink hears of it if it has heard of the connection. -/
theorem calls_lose (h : p.isStreaming = true) (hstop : p.isStopped = false) :
    p.lose.calls = if p.isConnected then [.disconnect, .reset] else [] := by
  cases p <;> simp_all [isStreaming, isStopped, lose, next, ownsCacheState, isConnected]

/-- A message neither stops a connection nor revives it. -/
theorem isStopped_receive (p : Phase) (name : String) (scope : RejectionScope)
    (refuses : Notification → Bool) (m : SubscribeResponse) :
    (p.receive name scope refuses m).1.phase.isStopped = p.isStopped := by
  have hgreet : p.greet.phase.isStopped = p.isStopped := by cases p <;> rfl
  have hcomplete : p.greet.phase.complete.phase.isStopped = p.isStopped := by cases p <;> rfl
  unfold receive
  split
  · rfl
  · simp only
    split
    · exact hgreet
    · exact hgreet
    · exact hcomplete
    · split <;> exact hgreet

end Phase

namespace Task

variable {t : Task} {c : Connection} (reply : Reply)

/-- No move of a task stops a connection or revives it. -/
theorem isStopped_resume :
    (t.resume c reply).connection.phase.isStopped = c.phase.isStopped := by
  fun_cases Task.resume t c reply
  all_goals simp_all +zetaDelta [giveUp]
  · -- a dial starts
    exact Phase.isStopped_next_dialStarted ‹_›
  · -- a message has arrived
    rename_i message refuses _ reaction error hreceive
    have := Phase.isStopped_receive c.phase c.name c.settings.rejectionScope refuses message
    rwa [hreceive] at this

/-- The move of a task that has got a message from its link. -/
theorem resume_of_message {l : Nat} (m : SubscribeResponse) (refuses : Notification → Bool)
    (hpoint : t.point = .streaming l) (hphase : c.phase.isStreaming = true)
    (hstop : c.phase.isStopped = false) :
    let move := t.resume c (.event (.response m) refuses)
    move.task = t ∧
      move.connection.phase.isConnected = true ∧
      Output.calls move.outputs =
        (if c.phase.isConnected then [] else [.connect]) ++
          m.calls c.name c.settings.rejectionScope ∧
      (.closeLink l ∈ move.outputs ↔ m.fails c.name c.settings.rejectionScope refuses = true) ∧
      .dropLink l ∉ move.outputs := by
  intro move
  obtain ⟨hconnected, hcalls, hfails⟩ :=
    Phase.receive_of_streaming c.name c.settings.rejectionScope refuses m hphase hstop
  have hmove : move = t.resume c (.event (.response m) refuses) := rfl
  simp only [resume, hpoint] at hmove
  rw [hmove, ← hfails]
  refine ⟨rfl, hconnected, ?_, ?_, ?_⟩
  · rw [← hcalls]
    cases (c.phase.receive c.name c.settings.rejectionScope refuses m).2 <;> simp [Output.call?]
  · cases (c.phase.receive c.name c.settings.rejectionScope refuses m).2 <;>
      simp [Reaction.outputs]
  · cases (c.phase.receive c.name c.settings.rejectionScope refuses m).2 <;>
      simp [Reaction.outputs]

end Task

end TelemetryGateway
