import TelemetryGateway.Proofs.Supervisor.Run

/-!
# The stream of a subscription

A device sends on a link, ends it or goes away; whoever holds a handle of the link asks for its end;
the reader takes one event after the other.  All of this happens in any order.  `LinkHistory` keeps,
beside the link, what was put on it and what was got from it, and `Link.Carries` says how the three
agree: up to the first end that the reader gets, what was sent is what was got and then the buffer.

* `Link.Carries.push`, `Link.Carries.mark`, `Link.Carries.next`: what one act does to this;
* `LinkHistory.Agrees.perform`, `LinkHistory.Agrees.afterAll`: it holds in every run, and the marks
  of the link tell who has asked for its end and whether the device is there;
* `LinkHistory.streams_afterAll`: what this says of the events that the reader gets.
-/

namespace TelemetryGateway

/-! ## What is done with a link -/

/-- The message that an event is, if it is not the end. -/
def StreamEvent.message? : StreamEvent → Option SubscribeResponse
  | .response m => some m
  | .closed _ => none

/-- What the two sides do with a link. -/
inductive LinkAct where
  /-- The device sends a message; it does not if it sees that the end was asked for. -/
  | send (message : SubscribeResponse)
  /-- A message gets into the buffer for which the device has looked earlier whether the end was
  asked for, and which has waited for room since. -/
  | sendLate (message : SubscribeResponse)
  /-- The device ends the subscription with a reason. -/
  | endWith (reason : String)
  /-- The device goes away. -/
  | dropSender
  /-- Somebody who has a handle of the subscription asks for its end. -/
  | close
  /-- The reader looks for the next event; if there is none it has to look again. -/
  | next
deriving DecidableEq

/-- A link, what was put on it and what was got from it. -/
structure LinkHistory where
  link : Link
  sent : List StreamEvent := []
  got : List StreamEvent := []

namespace LinkHistory

/-- Puts an event on the link if there is room and both ends are there. -/
def put (h : LinkHistory) (e : StreamEvent) : LinkHistory :=
  match h.link.offer e with
  | (true, link) => { h with link, sent := h.sent ++ [e] }
  | (false, _) => h

/-- Does one act. -/
def perform (h : LinkHistory) : LinkAct → LinkHistory
  | .send m => if h.link.closeRequested then h else h.put (.response m)
  | .sendLate m => h.put (.response m)
  | .endWith reason => h.put (.closed reason)
  | .dropSender => { h with link := h.link.dropSender }
  | .close => { h with link := h.link.close }
  | .next =>
      match h.link.next? with
      | some (event, link) => { h with link, got := h.got ++ [event] }
      | none => h

/-- Does some acts. -/
def afterAll (h : LinkHistory) (acts : List LinkAct) : LinkHistory := acts.foldl perform h

/-- The messages that the reader has got. -/
def delivered (h : LinkHistory) : List SubscribeResponse := h.got.filterMap (·.message?)

/-- The reader has got an end. -/
def IsOver (h : LinkHistory) : Prop := ∃ reason, StreamEvent.closed reason ∈ h.got

theorem put_eq (h : LinkHistory) (e : StreamEvent) :
    h.put e = h ∨ h.put e = { h with link := h.link.push e, sent := h.sent ++ [e] } := by
  by_cases hroom : (!h.link.senderGone && !h.link.readerGone && h.link.hasRoom) = true
  · exact .inr (by rw [put, Link.offer, if_pos hroom])
  · exact .inl (by rw [put, Link.offer, if_neg hroom])

end LinkHistory

/-- What a device does with a session comes to an offer on its link: once the device has waited, the
event is put there if there is room and somebody reads. -/
theorem Network.deliver_eq_offer (s : Network) (l : Nat) (e : StreamEvent) {k : Link}
    (hk : (s.waitUntil (canSend l) (s.now + 1)).2.links[l]? = some k)
    (hsender : k.senderGone = false) :
    s.deliver l e =
      let waited := (s.waitUntil (canSend l) (s.now + 1)).2
      if (k.offer e).1 then (.queued, waited.touchLink l (·.push e))
      else (if k.readerGone then .gone else .full, waited) := by
  have hready := fst_waitUntil (canSend l) (fun _ _ => rfl) s (s.now + 1)
  unfold deliver
  generalize s.waitUntil (canSend l) (s.now + 1) = waited at hk hready ⊢
  obtain ⟨ok, waited⟩ := waited
  cases hroom : k.hasRoom <;> cases hreader : k.readerGone <;>
    simp_all [canSend, Link.offer]

/-! ## What a link carries -/

namespace Link

/-- How a link agrees with what was sent on it and what was got from it. -/
inductive Carries (sent : List StreamEvent) : List StreamEvent → Link → Prop
  /-- The reader has got messages only; they and the buffer are all that was sent. -/
  | running {k : Link} {messages : List SubscribeResponse} : k.finished = false →
      sent = messages.map .response ++ k.buffer → Carries sent (messages.map .response) k
  /-- The reader has got some messages, the first of those sent, and then the end. -/
  | ended {k : Link} {messages : List SubscribeResponse} {reasons : List String} :
      k.finished = true → reasons ≠ [] → messages <+: sent.filterMap (·.message?) →
      Carries sent (messages.map .response ++ reasons.map .closed) k

theorem filterMap_message?_responses (messages : List SubscribeResponse) :
    (messages.map StreamEvent.response).filterMap (·.message?) = messages := by
  rw [List.filterMap_map]
  exact List.filterMap_some

/-- Messages that came before all the rest are the first messages. -/
theorem prefix_filterMap_message? {messages : List SubscribeResponse} {sent rest : List StreamEvent}
    (h : sent = messages.map .response ++ rest) : messages <+: sent.filterMap (·.message?) := by
  rw [h, List.filterMap_append, filterMap_message?_responses]
  exact List.prefix_append _ _

theorem filterMap_message?_ends (reasons : List String) :
    (reasons.map StreamEvent.closed).filterMap (·.message?) = [] := by
  simp [StreamEvent.message?]

/-- Reading leaves the marks of a link alone, or it marks the end. -/
theorem marks_of_next? {k k' : Link} {e : StreamEvent} : k.next? = some (e, k') →
    k'.senderGone = k.senderGone ∧
      (k'.closeRequested = k.closeRequested ∧ k'.finished = k.finished ∨
        k'.closeRequested = true ∧ k'.finished = true) := by
  fun_cases next? k
  all_goals rintro ⟨⟩
  all_goals simp [Link.finish]

namespace Carries

variable {k k' : Link} {sent got : List StreamEvent} {e : StreamEvent}

/-- What the device sends comes behind all that it has sent. -/
theorem push (h : Carries sent got k) (e : StreamEvent) :
    Carries (sent ++ [e]) got (k.push e) := by
  cases h with
  | running hfinished hsent =>
      refine .running hfinished ?_
      rw [hsent, List.append_assoc]
      rfl
  | ended hfinished hreasons hsent =>
      refine .ended hfinished hreasons (hsent.trans ?_)
      rw [List.filterMap_append]
      exact List.prefix_append _ _

/-- To mark a link changes nothing of what it carries. -/
theorem mark (h : Carries sent got k) (hbuffer : k'.buffer = k.buffer)
    (hfinished : k'.finished = k.finished) : Carries sent got k' := by
  cases h with
  | running hopen hsent => exact .running (hfinished.trans hopen) (hbuffer ▸ hsent)
  | ended hover hreasons hsent => exact .ended (hfinished.trans hover) hreasons hsent

/-- The reader that has got messages only gets an end: what it has got is the first of what was
sent, whatever is left behind that. -/
theorem finish {messages : List SubscribeResponse} {rest : List StreamEvent} {reason : String}
    (hsent : sent = messages.map .response ++ rest) (hfinished : k.finished = true) :
    Carries sent (messages.map .response ++ [.closed reason]) k :=
  @Carries.ended sent k messages [reason] hfinished (List.cons_ne_nil _ _)
    (prefix_filterMap_message? hsent)

/-- The reader gets the oldest event of the buffer, or an end. -/
theorem next (h : Carries sent got k) : k.next? = some (e, k') → Carries sent (got ++ [e]) k' := by
  cases h with
  | @running _ messages hopen hsent =>
      fun_cases next? k with
      | case1 hover => simp [hopen] at hover
      | case2 => rintro ⟨⟩; exact finish hsent rfl
      | case3 _ _ m rest hbuffer =>
          rintro ⟨⟩
          have hgot : messages.map StreamEvent.response ++ [.response m] =
              (messages ++ [m]).map .response := by simp
          rw [hgot]
          refine .running hopen ?_
          rw [hsent, hbuffer, ← hgot, List.append_assoc]
          rfl
      | case4 => rintro ⟨⟩; exact finish hsent rfl
      | case5 => rintro ⟨⟩; exact finish hsent rfl
      | case6 => rintro ⟨⟩
  | @ended _ messages reasons hover hreasons hsent =>
      rw [next?, if_pos hover]
      rintro ⟨⟩
      have hgot : messages.map StreamEvent.response ++ reasons.map .closed ++
          [.closed "subscription already closed"] =
          messages.map .response ++
            (reasons ++ ["subscription already closed"]).map .closed := by simp
      rw [hgot]
      exact .ended hover (List.append_ne_nil_of_left_ne_nil hreasons _) hsent

/-- A link is finished exactly if its reader has got an end. -/
theorem finished_iff (h : Carries sent got k) :
    k.finished = true ↔ ∃ reason, StreamEvent.closed reason ∈ got := by
  cases h with
  | running hopen => simp [hopen]
  | @ended _ _ reasons hover hreasons =>
      obtain ⟨reason, hmem⟩ := List.exists_mem_of_ne_nil reasons hreasons
      simp only [hover, true_iff]
      exact ⟨reason, List.mem_append_right _ (List.mem_map_of_mem hmem)⟩

end Carries

end Link

/-! ## Runs -/

namespace LinkHistory

/-- What is known of a link after some acts: what it carries, who has asked for its end and whether
the device is there. -/
structure Agrees (acts : List LinkAct) (h : LinkHistory) : Prop where
  carries : Link.Carries h.sent h.got h.link
  closeRequested : h.link.closeRequested = true ↔ .close ∈ acts ∨ h.link.finished = true
  senderGone : h.link.senderGone = true ↔ .dropSender ∈ acts

variable {h : LinkHistory} {acts : List LinkAct} {a : LinkAct}

theorem agrees_of_new (capacity : Nat) : Agrees [] { link := { capacity } } where
  carries := @Link.Carries.running [] { capacity } [] rfl rfl
  closeRequested := by simp
  senderGone := by simp

/-- An act that leaves the marks of the link alone. -/
theorem Agrees.unmarked {h' : LinkHistory} (hagrees : Agrees acts h)
    (hcarries : Link.Carries h'.sent h'.got h'.link)
    (hasked : h'.link.closeRequested = h.link.closeRequested)
    (hfinished : h'.link.finished = h.link.finished)
    (hgone : h'.link.senderGone = h.link.senderGone) (hclose : .close ≠ a)
    (hdrop : .dropSender ≠ a) : Agrees (acts ++ [a]) h' where
  carries := hcarries
  closeRequested := by simp [hasked, hfinished, hagrees.closeRequested, hclose]
  senderGone := by simp [hgone, hagrees.senderGone, hdrop]

theorem Agrees.put (hagrees : Agrees acts h) (e : StreamEvent) (hclose : .close ≠ a)
    (hdrop : .dropSender ≠ a) : Agrees (acts ++ [a]) (h.put e) := by
  rcases put_eq h e with heq | heq <;> rw [heq]
  · exact hagrees.unmarked hagrees.carries rfl rfl rfl hclose hdrop
  · exact hagrees.unmarked (hagrees.carries.push e) rfl rfl rfl hclose hdrop

/-- What the reader gets leaves the marks alone, or it is the end, which is marked. -/
theorem Agrees.next (hagrees : Agrees acts h) : Agrees (acts ++ [.next]) (h.perform .next) := by
  unfold LinkHistory.perform
  cases hnext : h.link.next? with
  | none => exact hagrees.unmarked hagrees.carries rfl rfl rfl (by simp) (by simp)
  | some read =>
      obtain ⟨e, k⟩ := read
      have hcarries := hagrees.carries.next hnext
      obtain ⟨hgone, ⟨hasked, hfinished⟩ | ⟨hasked, hfinished⟩⟩ := Link.marks_of_next? hnext
      · exact hagrees.unmarked hcarries hasked hfinished hgone (by simp) (by simp)
      · refine ⟨hcarries, by simp [hasked, hfinished], ?_⟩
        simp [hgone, hagrees.senderGone]

/-- Every act keeps a link and what is known of it in agreement. -/
theorem Agrees.perform (hagrees : Agrees acts h) (a : LinkAct) :
    Agrees (acts ++ [a]) (h.perform a) := by
  cases a with
  | send m =>
      by_cases hasked : h.link.closeRequested = true
      · rw [LinkHistory.perform, if_pos hasked]
        exact hagrees.unmarked hagrees.carries rfl rfl rfl (by simp) (by simp)
      · rw [LinkHistory.perform, if_neg hasked]
        exact hagrees.put _ (by simp) (by simp)
  | sendLate m => exact hagrees.put _ (by simp) (by simp)
  | endWith reason => exact hagrees.put _ (by simp) (by simp)
  | dropSender =>
      constructor
      case carries => exact hagrees.carries.mark rfl rfl
      case closeRequested => simp [LinkHistory.perform, Link.dropSender, hagrees.closeRequested]
      case senderGone => simp [LinkHistory.perform, Link.dropSender]
  | close =>
      constructor
      case carries => exact hagrees.carries.mark rfl rfl
      case closeRequested => simp [LinkHistory.perform, Link.close]
      case senderGone => simp [LinkHistory.perform, Link.close, hagrees.senderGone]
  | next => exact hagrees.next

theorem Agrees.afterAll (hagrees : Agrees acts h) (more : List LinkAct) :
    Agrees (acts ++ more) (h.afterAll more) := by
  induction more generalizing h acts with
  | nil => rwa [List.append_nil]
  | cons a rest ih =>
      have hrest := ih (hagrees.perform a)
      rwa [List.append_assoc] at hrest

/-! ## The law -/

/-- Once a link is finished it stays so, and no message is delivered any more. -/
theorem put_of_finished (hfinished : h.link.finished = true) (e : StreamEvent) :
    (h.put e).link.finished = true ∧ (h.put e).delivered = h.delivered := by
  rcases put_eq h e with heq | heq <;> rw [heq]
  · exact ⟨hfinished, rfl⟩
  · exact ⟨hfinished, rfl⟩

theorem perform_of_finished (hfinished : h.link.finished = true) (a : LinkAct) :
    (h.perform a).link.finished = true ∧ (h.perform a).delivered = h.delivered := by
  cases a with
  | send m =>
      by_cases hasked : h.link.closeRequested = true
      · rw [perform, if_pos hasked]
        exact ⟨hfinished, rfl⟩
      · rw [perform, if_neg hasked]
        exact put_of_finished hfinished _
  | sendLate m => exact put_of_finished hfinished _
  | endWith reason => exact put_of_finished hfinished _
  | dropSender => exact ⟨hfinished, rfl⟩
  | close => exact ⟨hfinished, rfl⟩
  | next =>
      rw [perform, Link.next?, if_pos hfinished]
      refine ⟨hfinished, ?_⟩
      simp [delivered, StreamEvent.message?]

theorem afterAll_of_finished (hfinished : h.link.finished = true) (acts : List LinkAct) :
    (h.afterAll acts).link.finished = true ∧ (h.afterAll acts).delivered = h.delivered := by
  induction acts generalizing h with
  | nil => exact ⟨hfinished, rfl⟩
  | cons a rest ih =>
      obtain ⟨hnext, hsame⟩ := perform_of_finished hfinished a
      obtain ⟨hlast, hrest⟩ := ih hnext
      exact ⟨hlast, hrest.trans hsame⟩

/-- Where the first end comes from. -/
theorem Agrees.first (hagrees : Agrees acts h) (hopen : h.link.finished = false) {reason : String}
    {k : Link} : h.link.next? = some (.closed reason, k) →
      (∃ later, h.sent = h.got ++ .closed reason :: later) ∨
        (reason = "stream ended" ∧ h.sent = h.got ∧ .dropSender ∈ acts) ∨
        (reason = "closed locally" ∧ .close ∈ acts) := by
  -- nobody has got an end yet, so all that was sent is there
  have hsent : h.sent = h.got ++ h.link.buffer := by
    have hcarries := hagrees.carries
    generalize h.got = got at hcarries ⊢
    cases hcarries with
    | running _ hsent => exact hsent
    | ended hover => rw [hopen] at hover; cases hover
  fun_cases Link.next? h.link with
  | case1 hover => simp [hopen] at hover
  | case2 _ hasked =>
      rintro ⟨⟩
      exact .inr (.inr ⟨rfl, (hagrees.closeRequested.mp hasked).resolve_right (by simp [hopen])⟩)
  | case3 => rintro ⟨⟩
  | case4 _ _ _ rest hbuffer =>
      rintro ⟨⟩
      exact .inl ⟨rest, hbuffer ▸ hsent⟩
  | case5 _ _ hbuffer hgone =>
      rintro ⟨⟩
      rw [hbuffer, List.append_nil] at hsent
      exact .inr (.inl ⟨rfl, hsent, hagrees.senderGone.mp hgone⟩)
  | case6 => rintro ⟨⟩

/-- What is certain of the events that a reader has got from a link and of those it will get, after
some acts. -/
structure Streams (acts : List LinkAct) (h : LinkHistory) : Prop where
  /-- The reader has got messages and then ends; the messages are the first of those that were sent,
  each once and in their order. -/
  inOrder : (∃ reasons : List String,
      h.got = h.delivered.map .response ++ reasons.map .closed) ∧
    h.delivered <+: h.sent.filterMap (·.message?)
  /-- Once somebody has asked for the end, the reader gets it whatever is in the buffer. -/
  closesFirst : .close ∈ acts → ∃ reason k, h.link.next? = some (.closed reason, k)
  /-- The first end is the one that the device has sent behind all the messages that were delivered,
  or it says that the device has gone away after everything it has sent was delivered, or that
  somebody has asked for it. -/
  first : ¬ h.IsOver → ∀ reason k, h.link.next? = some (.closed reason, k) →
    (∃ later, h.sent = h.got ++ .closed reason :: later) ∨
      (reason = "stream ended" ∧ h.sent = h.got ∧ .dropSender ∈ acts) ∨
      (reason = "closed locally" ∧ .close ∈ acts)
  /-- After the first end the reader gets an end whenever it looks, whatever happens. -/
  final : h.IsOver → ∀ later : List LinkAct,
    (h.afterAll later).link.next? =
        some (.closed "subscription already closed", (h.afterAll later).link) ∧
      (h.afterAll later).delivered = h.delivered
  /-- After the first end every handle tells that the subscription is closed, and a message that the
  device sends on its session is refused. -/
  handle : h.IsOver → h.link.closeRequested = true ∧
    ∀ (s : Network) (session : Session), s.links[session.link]? = some h.link →
      s.isClosed session = true ∧ ∀ message, s.send session message = (.gone, s)

/-- What the reader has got are the messages delivered and then ends. -/
theorem Agrees.inOrder (hagrees : Agrees acts h) :
    (∃ reasons : List String, h.got = h.delivered.map .response ++ reasons.map .closed) ∧
      h.delivered <+: h.sent.filterMap (·.message?) := by
  have hcarries := hagrees.carries
  unfold delivered
  generalize h.got = got at hcarries ⊢
  cases hcarries with
  | @running _ messages _ hsent =>
      rw [Link.filterMap_message?_responses]
      exact ⟨⟨[], (List.append_nil _).symm⟩, Link.prefix_filterMap_message? hsent⟩
  | @ended _ messages reasons _ _ hsent =>
      rw [List.filterMap_append, Link.filterMap_message?_responses, Link.filterMap_message?_ends,
        List.append_nil]
      exact ⟨⟨reasons, rfl⟩, hsent⟩

theorem Agrees.streams (hagrees : Agrees acts h) : Streams acts h := by
  have hover : h.IsOver → h.link.finished = true := hagrees.carries.finished_iff.mpr
  constructor
  case inOrder => exact hagrees.inOrder
  case closesFirst =>
    intro hclose
    have hasked : h.link.closeRequested = true := hagrees.closeRequested.mpr (.inl hclose)
    by_cases hfinished : h.link.finished = true
    · exact ⟨_, _, by rw [Link.next?, if_pos hfinished]⟩
    · exact ⟨_, _, by rw [Link.next?, if_neg hfinished, if_pos hasked]⟩
  case first =>
    intro hnot reason k
    exact hagrees.first (Bool.eq_false_iff.mpr (mt hagrees.carries.finished_iff.mp hnot))
  case final =>
    intro hended later
    obtain ⟨hfinished, hsame⟩ := afterAll_of_finished (hover hended) later
    exact ⟨by rw [Link.next?, if_pos hfinished], hsame⟩
  case handle =>
    intro hended
    have hasked : h.link.closeRequested = true := hagrees.closeRequested.mpr (.inr (hover hended))
    refine ⟨hasked, fun s session hlink => ⟨?_, fun message => ?_⟩⟩
    · simp [Network.isClosed, hlink, hasked]
    · simp [Network.send, hlink, hasked]

/-- Whatever the two sides do with a new subscription, and in whatever order: the reader gets the
messages in the order in which they were sent and then the end, once and for all. -/
theorem streams_afterAll (capacity : Nat) (acts : List LinkAct) :
    Streams acts (afterAll { link := { capacity } } acts) :=
  ((agrees_of_new capacity).afterAll acts).streams

/-- A message that is still in the buffer when the end is asked for is not delivered. -/
example :
    let a : SubscribeResponse := .synced
    let acts : List LinkAct :=
      [.send a, .send a, .next, .close, .endWith "bye", .next, .sendLate a, .next]
    (afterAll { link := {} } acts).got =
      [.response a, .closed "closed locally", .closed "subscription already closed"] := by
  decide

end LinkHistory

end TelemetryGateway
