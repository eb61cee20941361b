import TelemetryGateway.Connection.Lifecycle

/-!
# What a sink is told

A connection tells its sink about one subscription after the other, and about each of them in the
same order: `connect`, then what the subscription delivers, then `disconnect` and `reset`.  The
sequences of calls of that shape are the `SessionWord`s.

At every time the calls made so far are a session word, followed by a session that is still open
exactly if the phase owns the state of the sink (`Transcript`).  The reactions of a connection are
compared with that shape by `Extends`: whatever was said before, the calls of the reaction continue
it from the one phase to the other.

* `Phase.extends_lose`, `Phase.extends_receive`: the reactions keep the shape;
* `Transcript.count_connect`, `Transcript.exists_word`: what the shape says about a sequence of
  calls;
* `Extends.count_connect`: what it says about the calls of one reaction alone.
-/

namespace TelemetryGateway

/-! ## Sequences of calls -/

/-- Whether a call hands on something that a subscription has delivered. -/
def SinkCall.isData : SinkCall → Bool
  | .sync | .update _ => true
  | _ => false

/-- The words of `(connect (update | sync)* disconnect reset)*`. -/
inductive SessionWord : List SinkCall → Prop
  | nil : SessionWord []
  | session {word data : List SinkCall} : SessionWord word →
      (∀ call ∈ data, call.isData = true) →
      SessionWord (word ++ .connect :: data ++ [.disconnect, .reset])

/-- Calls that are a session word, with an open session after it or without one. -/
inductive Transcript : Bool → List SinkCall → Prop
  | between {word : List SinkCall} : SessionWord word → Transcript false word
  | within {word data : List SinkCall} : SessionWord word →
      (∀ call ∈ data, call.isData = true) → Transcript true (word ++ .connect :: data)

/-- What was said before is continued by further calls, from a session that is open before or not
to one that is open after or not. -/
def Extends (before after : Bool) (calls : List SinkCall) : Prop :=
  ∀ earlier, Transcript before earlier → Transcript after (earlier ++ calls)

/-! ### Counting -/

private theorem count_data (call : SinkCall) (hcall : call.isData = false)
    {data : List SinkCall} (hdata : ∀ other ∈ data, other.isData = true) :
    data.count call = 0 := by
  apply List.count_eq_zero.mpr
  intro hmem
  rw [hdata call hmem] at hcall
  exact Bool.noConfusion hcall

theorem SessionWord.count_connect {word : List SinkCall} (h : SessionWord word) :
    word.count .connect = word.count .disconnect := by
  induction h with
  | nil => rfl
  | session _ hdata ih =>
      simp [List.count_append, ih, count_data .connect rfl hdata,
        count_data .disconnect rfl hdata]

namespace Transcript

variable {isOpen : Bool} {calls : List SinkCall}

theorem nil : Transcript false [] := .between .nil

/-- There is one `connect` more than there are `disconnect`s while a session is open, and as many
otherwise. -/
theorem count_connect (h : Transcript isOpen calls) :
    calls.count .connect = calls.count .disconnect + isOpen.toNat := by
  cases h with
  | between hword => simp [hword.count_connect]
  | within hword hdata =>
      simp [List.count_append, hword.count_connect,
        count_data .connect rfl hdata, count_data .disconnect rfl hdata]

/-- A transcript is the beginning of a session word. -/
theorem exists_word (h : Transcript isOpen calls) : ∃ word, SessionWord word ∧ calls <+: word := by
  cases h with
  | between hword => exact ⟨calls, hword, List.prefix_refl calls⟩
  | within hword hdata => exact ⟨_, .session hword hdata, List.prefix_append _ _⟩

/-- Without an open session a transcript is a session word. -/
theorem sessionWord (h : Transcript false calls) : SessionWord calls := by
  cases h with
  | between hword => exact hword

/-! ### Going on -/

theorem connect (h : Transcript false calls) : Transcript true (calls ++ [.connect]) := by
  cases h with
  | between hword => exact .within hword (by simp)

theorem data (h : Transcript true calls) {more : List SinkCall}
    (hmore : ∀ call ∈ more, call.isData = true) : Transcript true (calls ++ more) := by
  cases h with
  | @within word data hword hdata =>
      rw [List.append_assoc, List.cons_append]
      refine .within hword fun call hcall => ?_
      rcases List.mem_append.mp hcall with hcall | hcall
      · exact hdata call hcall
      · exact hmore call hcall

theorem close (h : Transcript true calls) :
    Transcript false (calls ++ [.disconnect, .reset]) := by
  cases h with
  | within hword hdata => exact .between (.session hword hdata)

end Transcript

namespace Extends

variable {before after : Bool} {calls : List SinkCall}

theorem nil (isOpen : Bool) : Extends isOpen isOpen [] := by
  intro earlier h
  rwa [List.append_nil]

theorem connect : Extends false true [.connect] := fun _ h => h.connect

theorem data (hdata : ∀ call ∈ calls, call.isData = true) : Extends true true calls :=
  fun _ h => h.data hdata

theorem close : Extends true false [.disconnect, .reset] := fun _ h => h.close

theorem trans {between : Bool} {more : List SinkCall} (h : Extends before between calls)
    (hmore : Extends between after more) : Extends before after (calls ++ more) := by
  intro earlier hearlier
  rw [← List.append_assoc]
  exact hmore _ (h earlier hearlier)

/-- The calls of one reaction open and close sessions as the phases before and after say. -/
theorem count_connect (h : Extends before after calls) :
    calls.count .connect + before.toNat = calls.count .disconnect + after.toNat := by
  cases before with
  | false =>
      have := (h [] .nil).count_connect
      simpa using this
  | true =>
      have := (h [.connect] Transcript.nil.connect).count_connect
      simp only [List.cons_append, List.nil_append, List.count_cons] at this
      simp at this ⊢
      omega

end Extends

/-! ## The reactions of a connection -/

namespace Phase

/-- No attempt to connect is under way. -/
def isResting : Phase → Bool
  | .idle | .disconnected | .stopped => true
  | _ => false

/-- An attempt to connect is under way that has not given a link yet. -/
def isDialing : Phase → Bool
  | .connecting | .stopped => true
  | _ => false

/-- A link is read. -/
def isStreaming : Phase → Bool
  | .connecting | .connected | .synced | .stopping | .stopped => true
  | _ => false

theorem ownsCacheState_iff (p : Phase) :
    p.ownsCacheState = true ↔ p = .connected ∨ p = .synced ∨ p = .stopping := by
  cases p <;> simp [ownsCacheState]

theorem isStreaming_of_isDialing {p : Phase} (h : p.isDialing = true) : p.isStreaming = true := by
  cases p <;> simp_all [isDialing, isStreaming]

theorem ownsCacheState_of_isResting {p : Phase} (h : p.isResting = true) :
    p.ownsCacheState = false := by
  cases p <;> simp_all [isResting, ownsCacheState]

theorem ownsCacheState_of_isDialing {p : Phase} (h : p.isDialing = true) :
    p.ownsCacheState = false := by
  cases p <;> simp_all [isDialing, ownsCacheState]

/-! ### Requests to stop -/

/-- A request to stop leaves the state of the sink to whom it belongs. -/
@[simp] theorem ownsCacheState_stop (p : Phase) :
    p.stop.phase.ownsCacheState = p.ownsCacheState := by
  cases p <;> rfl

theorem isResting_stop {p : Phase} (h : p.isResting = true) : p.stop.phase.isResting = true := by
  cases p <;> simp_all [isResting, stop, next]

theorem isDialing_stop {p : Phase} (h : p.isDialing = true) : p.stop.phase.isDialing = true := by
  cases p <;> simp_all [isDialing, stop, next]

theorem isStreaming_stop {p : Phase} (h : p.isStreaming = true) :
    p.stop.phase.isStreaming = true := by
  cases p <;> simp_all [isStreaming, stop, next]

/-! ### The end of an attempt -/

theorem isResting_lose (p : Phase) : p.lose.phase.isResting = true := by cases p <;> rfl

theorem extends_lose (p : Phase) :
    Extends p.ownsCacheState p.lose.phase.ownsCacheState p.lose.calls := by
  cases p with
  | connected => exact Extends.close
  | synced => exact Extends.close
  | stopping => exact Extends.close
  | _ => exact Extends.nil _

/-! ### Messages -/

/-- Once a message has arrived that counts, the target is connected. -/
theorem isConnected_greet {p : Phase} (h : p.isStreaming = true) (hstop : p.isStopped = false) :
    p.greet.phase.isConnected = true := by
  cases p <;> simp_all [isStreaming, greet, next, isConnected, isStopped]

theorem extends_greet (p : Phase) :
    Extends p.ownsCacheState p.greet.phase.ownsCacheState p.greet.calls := by
  cases p with
  | connecting => exact Extends.connect
  | _ => exact Extends.nil _

theorem ownsCacheState_of_isConnected {p : Phase} (h : p.isConnected = true) :
    p.ownsCacheState = true := by
  cases p <;> simp_all [isConnected, ownsCacheState]

theorem isStreaming_of_isConnected {p : Phase} (h : p.isConnected = true) :
    p.isStreaming = true := by
  cases p <;> simp_all [isConnected, isStreaming]

theorem isConnected_complete {p : Phase} (h : p.isConnected = true) :
    p.complete.phase.isConnected = true := by
  cases p <;> simp_all [isConnected, complete, next]

theorem extends_complete (p : Phase) :
    Extends p.ownsCacheState p.complete.phase.ownsCacheState p.complete.calls := by
  cases p with
  | connected => exact Extends.data (by simp [complete, next, SinkCall.isData])
  | synced => exact Extends.data (by simp [complete, next, SinkCall.isData])
  | _ => exact Extends.nil _

variable (name : String) (scope : RejectionScope) (refuses : Notification → Bool)
  (message : SubscribeResponse)

theorem isStreaming_receive {p : Phase} (h : p.isStreaming = true) :
    (p.receive name scope refuses message).1.phase.isStreaming = true := by
  unfold receive
  cases hstop : p.isStopped with
  | true => simpa using h
  | false =>
      have hgreet := isConnected_greet h hstop
      simp only [Bool.false_eq_true, if_false]
      split
      · exact isStreaming_of_isConnected hgreet
      · exact isStreaming_of_isConnected hgreet
      · exact isStreaming_of_isConnected (isConnected_complete hgreet)
      · split <;> exact isStreaming_of_isConnected hgreet

/-- However a message is handled, its calls continue what the sink was told. -/
theorem extends_receive {p : Phase} (h : p.isStreaming = true) :
    Extends p.ownsCacheState (p.receive name scope refuses message).1.phase.ownsCacheState
      (p.receive name scope refuses message).1.calls := by
  unfold receive
  cases hstop : p.isStopped with
  | true => exact Extends.nil _
  | false =>
      have hgreet := ownsCacheState_of_isConnected (isConnected_greet h hstop)
      have hfirst := extends_greet p
      simp only [Bool.false_eq_true, if_false]
      split
      · exact hfirst
      · exact hfirst
      · exact hfirst.trans (extends_complete _)
      · split
        · rw [hgreet] at hfirst ⊢
          exact hfirst.trans (Extends.data (by simp [SinkCall.isData]))
        · exact hfirst

end Phase

end TelemetryGateway
