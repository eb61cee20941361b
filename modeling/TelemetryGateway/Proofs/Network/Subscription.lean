import Mathlib.Data.List.Induction
import TelemetryGateway.Proofs.Network.Alone

/-!
# One subscription from its dial to its end

A task that dials gets a link, greets its sink with the first message, handles the messages as they
come and, at the end of the link, takes leave of its sink.  Here a run is followed from the dial to
that leave.  `Stage` relates where the task is, what is left in the link and what the task has read
so far to what was sent on the link; `Hears` says what the sink has been told of it.

* `Stage.of_opening`, `Stage.of_message`, `Stage.of_ending`: what one move of the reading task does;
* `Network.Followed.beside`, `Network.Followed.step`: acts of others leave the reading task alone,
  and its own moves handle the messages in their order, none after one that has failed;
* `Network.followed_afterAll`: so it is in any run in which nobody stops the connection;
* `Network.calls_of_subscription`: what was handled is a beginning of what was sent, and the calls
  of the sink are those that the handled messages ask for.
-/

namespace TelemetryGateway

/-! ## What is sent and what is read -/

/-- A message that a task has read from its link, with what the sink refused at that time. -/
structure Receipt where
  message : SubscribeResponse
  refuses : Notification → Bool

/-- What a task has read from its link: a message or the end, which may have been asked for on this
side. -/
inductive Reading where
  | message (receipt : Receipt)
  | ending (reason : String) (asked : Bool)

/-- What a task has read if it was told this, and if somebody had asked for the end or not. -/
def Reading.ofReply? (asked : Bool) : Reply → Option Reading
  | .event (.response m) refuses => some (.message { message := m, refuses })
  | .event (.closed reason) _ => some (.ending reason asked)
  | _ => none

namespace Receipt

variable (name : String) (scope : RejectionScope)

/-- Whether the subscription is closed after the message. -/
def fails (r : Receipt) : Bool := r.message.fails name scope r.refuses

/-- What the sink is told about a subscription while it lasts. -/
def calls (handled : List Receipt) : List SinkCall :=
  if handled.isEmpty then []
  else .connect :: handled.flatMap fun r => r.message.calls name scope

/-- The events that some messages were. -/
def events (handled : List Receipt) : List StreamEvent :=
  handled.map fun r => .response r.message

theorem calls_concat (handled : List Receipt) (r : Receipt) :
    calls name scope (handled ++ [r]) =
      calls name scope handled ++ (if handled.isEmpty then [.connect] else []) ++
        r.message.calls name scope := by
  cases handled with
  | nil => simp [calls]
  | cons first rest => simp [calls]

end Receipt

/-- The messages among some events up to the first end. -/
def StreamEvent.messages : List StreamEvent → List SubscribeResponse
  | .response m :: rest => m :: messages rest
  | _ => []

theorem StreamEvent.messages_events_append (handled : List Receipt) (rest : List StreamEvent) :
    messages (Receipt.events handled ++ rest) = handled.map (·.message) ++ messages rest := by
  induction handled with
  | nil => rfl
  | cons r more ih =>
      show r.message :: messages (Receipt.events more ++ rest) = _
      rw [ih]
      rfl

theorem StreamEvent.messages_events (handled : List Receipt) :
    messages (Receipt.events handled) = handled.map (·.message) := by
  have h := messages_events_append handled []
  rwa [List.append_nil, show messages [] = [] from rfl, List.append_nil] at h

theorem StreamEvent.messages_prefix {events events' : List StreamEvent} (h : events <+: events') :
    messages events <+: messages events' := by
  induction events generalizing events' with
  | nil => exact List.nil_prefix
  | cons e rest ih =>
      obtain ⟨more, rfl⟩ := h
      cases e with
      | response m => exact List.cons_prefix_cons.mpr ⟨rfl, ih ⟨more, rfl⟩⟩
      | closed reason => exact List.prefix_refl _

/-! ## Reading a link -/

namespace Link

variable {k k' : Link}

/-- A message is read only while nobody has asked for the end, and it is the oldest event there. -/
theorem of_next?_response {m : SubscribeResponse} (hfinished : k.finished = false) :
    k.next? = some (.response m, k') →
      k.closeRequested = false ∧ ∃ rest, k.buffer = .response m :: rest ∧
        k' = { k with buffer := rest } := by
  fun_cases next? k <;> simp_all

/-- The end is read when somebody has asked for it, or when the device has ended the link and
nothing is left before that. -/
theorem of_next?_closed {reason : String} (hfinished : k.finished = false) :
    k.next? = some (.closed reason, k') →
      k'.closeRequested = true ∧ (k.closeRequested = false →
        StreamEvent.messages k.buffer = []) := by
  fun_cases next? k
  all_goals simp_all [finish]
  all_goals rintro rfl rfl
  all_goals simp [StreamEvent.messages]

/-- The end of a link can be read, now or after what is still there. -/
def IsOver (k : Link) : Prop :=
  k.closeRequested = true ∨ k.senderGone = true ∨ ∃ reason, .closed reason ∈ k.buffer

/-- A link that is over always gives something to read. -/
theorem exists_next?_of_isOver (h : k.IsOver) : ∃ event k', k.next? = some (event, k') := by
  fun_cases next? k
  case case6 hclosed hbuffer hsender =>
    rcases h with h | h | ⟨reason, h⟩
    · exact absurd h hclosed
    · exact absurd h hsender
    · rw [hbuffer] at h
      cases h
  all_goals exact ⟨_, _, rfl⟩

/-- Reading a message from a link that is over leaves it over. -/
theorem isOver_of_next?_response {m : SubscribeResponse} {rest : List StreamEvent} (h : k.IsOver)
    (hbuffer : k.buffer = .response m :: rest) : IsOver { k with buffer := rest } := by
  refine h.imp_right fun h => h.imp_right fun ⟨reason, hmem⟩ => ⟨reason, ?_⟩
  rw [hbuffer] at hmem
  exact (List.mem_cons.mp hmem).resolve_left nofun

theorem foldl_perform_of_mem {l : Nat} {outputs : List Output} (hclose : .closeLink l ∈ outputs)
    (hdrop : .dropLink l ∉ outputs) : outputs.foldl (Link.perform l) k = k.close := by
  induction outputs generalizing k with
  | nil => cases hclose
  | cons o rest ih =>
      have hdrop₁ : .dropLink l ∉ rest := fun h => hdrop (List.mem_cons_of_mem _ h)
      have hone : (k.perform l o).close = k.close := by
        cases o with
        | closeLink l' => by_cases hl : l' = l <;> simp [Link.perform, hl, close]
        | dropLink l' =>
            rw [Link.perform, if_neg fun hl => hdrop (by rw [hl]; exact List.mem_cons_self)]
        | _ => rfl
      rw [List.foldl_cons]
      by_cases hrest : .closeLink l ∈ rest
      · rw [ih hrest hdrop₁, hone]
      · obtain rfl : .closeLink l = o := (List.mem_cons.mp hclose).resolve_right hrest
        rw [foldl_perform_of_notMem hrest hdrop₁, Link.perform, if_pos rfl]

end Link

/-! ## A subscription under way -/

/-- Where a task is with its link, after some events were sent on it and some messages of them were
handled: the point, the link and what the task has read.  The end of the link is asked for if a
message fails or if the subscription is recalled by somebody else. -/
inductive Stage (l : Nat) (fails : Receipt → Bool) (sent : List StreamEvent) (recalled : Prop) :
    List Receipt → Point → Link → List Reading → Prop
  /-- Nothing was read. -/
  | opening {k : Link} : k.finished = false → (k.closeRequested = false → sent = k.buffer) →
      (k.closeRequested = true → recalled) →
      Stage l fails sent recalled [] (.opening l) k []
  /-- Unless somebody has asked for the end, what was sent was handled or is still there. -/
  | reading {k : Link} {handled : List Receipt} : k.finished = false →
      (k.closeRequested = false → sent = Receipt.events handled ++ k.buffer ∧
        ∀ r ∈ handled, fails r = false) →
      (k.closeRequested = true → recalled ∨ ∃ r ∈ handled, fails r = true) →
      Stage l fails sent recalled handled (.streaming l) k (handled.map .message)
  /-- Unless somebody has asked for the end, all messages before it were handled. -/
  | ended {k : Link} {handled : List Receipt} {reason : String} {asked : Bool} :
      k.closeRequested = true →
      (asked = false → StreamEvent.messages sent = handled.map (·.message) ∧
        ∀ r ∈ handled, fails r = false) →
      (asked = true → recalled ∨ ∃ r ∈ handled, fails r = true) →
      Stage l fails sent recalled handled (.closing l) k
        (handled.map .message ++ [.ending reason asked])

/-- The connection of a subscription of which some messages were handled: nobody has stopped it, and
its sink knows of it if there was a message. -/
structure Hears (c : Connection) (handled : List Receipt) : Prop where
  isStopped : c.phase.isStopped = false
  isStreaming : c.phase.isStreaming = true
  isConnected : c.phase.isConnected = !handled.isEmpty

namespace Stage

variable {l : Nat} {fails : Receipt → Bool} {sent : List StreamEvent} {recalled : Prop}
  {handled : List Receipt} {p : Point} {k : Link} {readings : List Reading}

theorem mono {recalled' : Prop} (h : Stage l fails sent recalled handled p k readings)
    (himp : recalled → recalled') : Stage l fails sent recalled' handled p k readings := by
  cases h with
  | opening hfinished hopen hasked => exact .opening hfinished hopen fun h => himp (hasked h)
  | reading hfinished hopen hasked =>
      exact .reading hfinished hopen fun h => (hasked h).imp_left himp
  | ended hclosed hall hasked => exact .ended hclosed hall fun h => (hasked h).imp_left himp

theorem close (h : Stage l fails sent recalled handled p k readings) (hrecalled : recalled) :
    Stage l fails sent recalled handled p k.close readings := by
  cases h with
  | opening hfinished _ _ => exact .opening hfinished nofun fun _ => hrecalled
  | reading hfinished _ _ => exact .reading hfinished nofun fun _ => .inl hrecalled
  | ended _ hall hasked => exact .ended rfl hall hasked

theorem dropSender (h : Stage l fails sent recalled handled p k readings) :
    Stage l fails sent recalled handled p k.dropSender readings := by
  cases h with
  | opening hfinished hopen hasked => exact .opening hfinished hopen hasked
  | reading hfinished hopen hasked => exact .reading hfinished hopen hasked
  | ended hclosed hall hasked => exact .ended hclosed hall hasked

theorem push (h : Stage l fails sent recalled handled p k readings) (e : StreamEvent) :
    Stage l fails (sent ++ if k.closeRequested then [] else [e]) recalled handled p (k.push e)
      readings := by
  cases h with
  | opening hfinished hopen hasked =>
      refine .opening hfinished (fun hclosed => ?_) hasked
      have hclosed : k.closeRequested = false := hclosed
      rw [hclosed, hopen hclosed]
      rfl
  | reading hfinished hopen hasked =>
      refine .reading hfinished (fun hclosed => ?_) hasked
      have hclosed : k.closeRequested = false := hclosed
      obtain ⟨hsent, hfails⟩ := hopen hclosed
      refine ⟨?_, hfails⟩
      rw [hclosed, hsent, List.append_assoc]
      rfl
  | ended hclosed hall hasked =>
      rw [hclosed, if_pos rfl, List.append_nil]
      exact .ended hclosed hall hasked

/-! ### The moves of the task -/

section Moves

variable {t : Task} {c : Connection}

/-- The task begins to read. -/
theorem of_opening (h : Stage l fails sent recalled handled t.point k readings)
    (hpoint : t.point = .opening l) (hc : Hears c handled) :
    let move := t.resume c .proceed
    Hears move.connection handled ∧ Output.calls move.outputs = [] ∧
      Stage l fails sent recalled handled move.task.point (move.outputs.foldl (Link.perform l) k)
        readings := by
  intro move
  have hmove : move = { connection := { c with client := some l }
                        task := { t with point := .streaming l } } := by
    simp [move, Task.resume, hpoint, hc.isStopped]
  rw [hmove]
  refine ⟨⟨hc.isStopped, hc.isStreaming, hc.isConnected⟩, rfl, ?_⟩
  rw [hpoint] at h
  cases h with
  | opening hfinished hopen hasked =>
      exact .reading hfinished (fun hclosed => ⟨hopen hclosed, by simp⟩) fun h => .inl (hasked h)

variable {reason : String} (refuses : Notification → Bool)

/-- The task reads a message: it is handled, and if it fails the end of the link is asked for. -/
theorem of_message {m : SubscribeResponse} {k' : Link}
    (h : Stage l (Receipt.fails c.name c.settings.rejectionScope) sent recalled handled t.point k
      readings)
    (hpoint : t.point = .streaming l) (hc : Hears c handled)
    (hnext : k.next? = some (.response m, k')) :
    let move := t.resume c (.event (.response m) refuses)
    let name := c.name
    let scope := c.settings.rejectionScope
    let handled' := handled ++ [{ message := m, refuses }]
    Hears move.connection handled' ∧
      Receipt.calls name scope handled ++ Output.calls move.outputs =
        Receipt.calls name scope handled' ∧
      Receipt.events handled' <+: sent ∧
      (∀ r ∈ handled, r.fails name scope = false) ∧
      Stage l (Receipt.fails name scope) sent recalled handled' move.task.point
        (move.outputs.foldl (Link.perform l) k')
        (readings ++ [.message { message := m, refuses }]) := by
  intro move name scope handled'
  obtain ⟨htask, hconnected, hcalls, hclose, hdrop⟩ :=
    Task.resume_of_message m refuses hpoint hc.isStreaming hc.isStopped
  rw [hpoint] at h
  cases h with
  | reading hfinished hopen _ =>
      obtain ⟨hclosed, rest, hbuffer, rfl⟩ := Link.of_next?_response hfinished hnext
      obtain ⟨hsent, hfails⟩ := hopen hclosed
      have hsent' : sent = Receipt.events handled' ++ rest := by
        rw [hsent, hbuffer]
        simp [handled', Receipt.events]
      refine ⟨⟨?_, ?_, ?_⟩, ?_, ⟨rest, hsent'.symm⟩, hfails, ?_⟩
      · exact Phase.isStopped_of_isConnected hconnected
      · exact Phase.isStreaming_of_isConnected hconnected
      · rw [hconnected]
        simp [handled']
      · rw [hcalls, Receipt.calls_concat, hc.isConnected, List.append_assoc]
        cases handled <;> rfl
      · rw [htask, hpoint, show handled.map Reading.message ++
          [Reading.message { message := m, refuses }] = handled'.map Reading.message by
            simp [handled']]
        by_cases hfail : m.fails name scope refuses = true
        · -- the end of the link is asked for, so nothing is left to say about its buffer
          rw [Link.foldl_perform_of_mem (hclose.mpr hfail) hdrop]
          exact .reading hfinished nofun fun _ =>
            .inr ⟨{ message := m, refuses }, by simp [handled'], hfail⟩
        · rw [Link.foldl_perform_of_notMem (mt hclose.mp hfail) hdrop]
          have hopen' : k.closeRequested = false := hclosed
          refine .reading hfinished (fun _ => ⟨hsent', fun r hr => ?_⟩) fun h => by
            rw [hopen'] at h
            cases h
          rcases List.mem_append.mp hr with hr | hr
          · exact hfails r hr
          · obtain rfl := List.mem_singleton.mp hr
            exact Bool.eq_false_iff.mpr hfail

/-- The task reads the end of the link. -/
theorem of_ending {k' : Link} (h : Stage l fails sent recalled handled t.point k readings)
    (hpoint : t.point = .streaming l) (hnext : k.next? = some (.closed reason, k')) :
    let move := t.resume c (.event (.closed reason) refuses)
    move.connection = c ∧ Output.calls move.outputs = [] ∧
      Stage l fails sent recalled handled move.task.point (move.outputs.foldl (Link.perform l) k')
        (readings ++ [.ending reason k.closeRequested]) := by
  intro move
  have hmove : move = { connection := c
                        task := { t with point := .closing l }
                        outputs := [.report (.subscriptionClosed reason)] } := by
    simp [move, Task.resume, hpoint]
  rw [hmove]
  refine ⟨rfl, rfl, ?_⟩
  rw [hpoint] at h
  cases h with
  | reading hfinished hopen hasked =>
      obtain ⟨hclosed, hempty⟩ := Link.of_next?_closed hfinished hnext
      refine .ended hclosed (fun hnobody => ?_) hasked
      obtain ⟨hsent, hfails⟩ := hopen hnobody
      refine ⟨?_, hfails⟩
      rw [hsent, StreamEvent.messages_events_append, hempty hnobody, List.append_nil]

end Moves

/-- The task of a stage reads the link. -/
theorem link?_eq (h : Stage l fails sent recalled handled p k readings) : p.link? = some l := by
  cases h <;> rfl

theorem point_eq (h : Stage l fails sent recalled handled p k readings) :
    p = .opening l ∨ p = .streaming l ∨ p = .closing l := by
  cases h <;> simp

end Stage

namespace Network

/-- What the acts of a run give, one after the other. -/
def collect {α : Type} (f : Network → Act → List α) (s : Network) : List Act → List α
  | [] => []
  | a :: rest => f s a ++ collect f (s.after a) rest

/-- What a task would read from its link in its next move. -/
def reading? (s : Network) (t : Nat) : Option Reading := do
  let e ← s.tasks[t]?
  let c ← s.connections[e.connection]?
  let l ← e.task.point.link?
  let k ← s.links[l]?
  let (reply, _) ← s.reply? e c
  Reading.ofReply? k.closeRequested reply

/-- What a task reads from its link in an act. -/
def readingIn (t : Nat) (s : Network) : Act → List Reading
  | .step t' => if t' = t then (s.reading? t).toList else []
  | _ => []

/-- What is put on a link in an act, as long as nobody has asked for the end of the link. -/
def sentIn (l : Nat) (s : Network) : Act → List StreamEvent
  | .send l' e => if l' = l ∧ (s.links[l]?.any fun k => !k.closeRequested) then [e] else []
  | _ => []

/-- What a task reads from its link in a run. -/
def readings (s : Network) (t : Nat) (acts : List Act) : List Reading :=
  s.collect (readingIn t) acts

/-- The messages that are sent on a link in a run: before the device ends it, and before anybody
asks for its end. -/
def sent (s : Network) (l : Nat) (acts : List Act) : List SubscribeResponse :=
  StreamEvent.messages (s.collect (sentIn l) acts)

variable {s : Network} {a : Act}

theorem collect_concat {α : Type} (f : Network → Act → List α) (s : Network) (acts : List Act)
    (a : Act) : s.collect f (acts ++ [a]) = s.collect f acts ++ f (s.afterAll acts) a := by
  induction acts generalizing s with
  | nil => simp [collect, afterAll]
  | cons b rest ih =>
      rw [List.cons_append, collect, collect, ih, List.append_assoc]
      rfl

theorem history_eq_collect (s : Network) (acts : List Act) :
    s.history acts = s.collect handovers acts := by
  induction acts generalizing s with
  | nil => rfl
  | cons a rest ih => rw [history, collect, ih]

theorem history_concat (s : Network) (acts : List Act) (a : Act) :
    s.history (acts ++ [a]) = s.history acts ++ (s.afterAll acts).handovers a := by
  rw [history_eq_collect, history_eq_collect, collect_concat]

/-! ## What a task reads -/

theorem reading?_of_none {t : Nat} (h : s.nextMove? t = none) : s.reading? t = none := by
  unfold nextMove? at h
  unfold reading?
  cases he : s.tasks[t]? with
  | none => rfl
  | some e =>
      cases hc : s.connections[e.connection]? with
      | none => simp [hc]
      | some c =>
          cases hreply : s.reply? e c with
          | none => simp [hc, hreply]
          | some answer => simp [he, hc, hreply] at h

theorem reading?_of_nextMove? {t l : Nat} {k : Link} {m : NextMove} {reply : Reply}
    (hmove : s.nextMove? t = some m)
    (hreply : s.reply? m.entry m.connection = some (reply, m.answered))
    (hlink : m.entry.task.point.link? = some l) (hk : s.links[l]? = some k) :
    s.reading? t = Reading.ofReply? k.closeRequested reply := by
  obtain ⟨he, hc, -⟩ := nextMove?_eq_some hmove
  unfold reading?
  simp [he, hc, hlink, hk, hreply]

theorem of_reply?_streaming {l : Nat} {e : TaskEntry} {c : Connection} {reply : Reply}
    {answered : Network} (hpoint : e.task.point = .streaming l)
    (h : s.reply? e c = some (reply, answered)) :
    ∃ (k k' : Link) (event : StreamEvent), s.links[l]? = some k ∧ k.next? = some (event, k') ∧
      reply = .event event (s.refuses c.sink) ∧ answered.links = s.links.set l k' := by
  simp only [reply?, hpoint, Point.ask] at h
  obtain ⟨⟨event, k'⟩, hread, hreply⟩ := Option.map_eq_some_iff.mp h
  obtain ⟨k, hk, hnext⟩ := Option.bind_eq_some_iff.mp hread
  cases hreply
  exact ⟨k, k', event, hk, hnext, rfl, rfl⟩

/-! ## Who has a link -/

/-- A link is there for one task and its connection: no other task reads it, and no other connection
knows it. -/
structure Reserved (s : Network) (t c l : Nat) : Prop where
  link_lt : l < s.links.length
  driver : ∃ d : Driver, s.drivers[t]? = some d ∧ d.connection = c
  tasks : ∀ (t' : Nat) (d : Driver), s.drivers[t']? = some d → t' ≠ t →
    d.task.point.link? ≠ some l
  clients : ∀ (c' : Nat) (conn : Connection), s.connections[c']? = some conn → c' ≠ c →
    conn.client ≠ some l

/-- A link that is there already is given to nobody any more. -/
theorem link?_ne_after {t l : Nat} (hl : l < s.links.length)
    (h : ∀ d : Driver, s.drivers[t]? = some d → d.task.point.link? ≠ some l) :
    ∀ d : Driver, (s.after a).drivers[t]? = some d → d.task.point.link? ≠ some l := by
  intro d' hd' hlink
  cases driverAfter hd' with
  | same hd => exact h _ hd hlink
  | move _ hmove =>
      obtain ⟨he, -, reply, hreply, hm⟩ := nextMove?_eq_some hmove
      simp only [hm] at hlink
      rcases Task.of_link?_resume reply hlink with hold | rfl
      · exact h _ (getElem?_drivers he) hold
      · have := (eq_of_answer_opened (answer_of_reply? hreply) rfl).1
        omega
  | taken => cases hlink
  | loop => cases hlink
  | attempt => cases hlink

theorem Reserved.after {t c l : Nat} (h : s.Reserved t c l) (a : Act) :
    (s.after a).Reserved t c l := by
  constructor
  case link_lt => exact link_lt_after h.link_lt
  case driver =>
    obtain ⟨d, hd, hc⟩ := h.driver
    obtain ⟨d', hd', hsame⟩ := exists_driver_after (a := a) hd
    exact ⟨d', hd', hsame.trans hc⟩
  case tasks =>
    intro t' d' hd' hne
    exact link?_ne_after h.link_lt (fun d hd => h.tasks t' d hd hne) d' hd'
  case clients =>
    intro c' conn' hconn' hne hclient
    cases hconn : s.connections[c']? with
    | none =>
        obtain ⟨conn, -, -, rfl⟩ := eq_fresh_of_new hconn hconn'
        cases hclient
    | some conn =>
        cases connectionAfter hconn hconn' with
        | same => exact h.clients c' _ hconn hne hclient
        | stop => exact h.clients c' _ hconn hne hclient
        | @move u m _ hmove hmc =>
            obtain ⟨he, hmconn, reply, -, hm⟩ := nextMove?_eq_some hmove
            rw [hm] at hclient
            rw [hmc] at hmconn
            rcases Task.client_resume reply hclient with hold | hlink
            · exact h.clients c' _ hmconn hne hold
            · refine h.tasks u _ (getElem?_drivers he) ?_ hlink
              rintro rfl
              obtain ⟨d, hd, hc⟩ := h.driver
              obtain rfl := Option.some_inj.mp ((getElem?_drivers he).symm.trans hd)
              exact hne (hmc.symm.trans hc)

/-! ## Runs -/

/-- A subscription that a task follows for a connection: what was sent on the link, what the sink
was told, what the task has read and which messages of it were handled. -/
structure Followed (s : Network) (t l c : Nat) (conn : Connection) (sent : List StreamEvent)
    (recalled : Prop) (calls : List SinkCall) (readings : List Reading) (handled : List Receipt) :
    Prop where
  connection : ∃ conn' : Connection, s.connections[c]? = some conn' ∧ conn'.fresh = conn.fresh ∧
    Hears conn' handled
  told : calls = Receipt.calls conn.name conn.settings.rejectionScope handled
  inOrder : Receipt.events handled <+: sent
  last : ∀ r ∈ handled.dropLast, r.fails conn.name conn.settings.rejectionScope = false
  stage : ∃ (d : Driver) (k : Link), s.drivers[t]? = some d ∧ d.connection = c ∧
    s.links[l]? = some k ∧
    Stage l (Receipt.fails conn.name conn.settings.rejectionScope) sent recalled handled
      d.task.point k readings

namespace Followed

variable {t l c : Nat} {conn : Connection} {sent : List StreamEvent} {recalled : Prop}
  {calls : List SinkCall} {readings : List Reading} {handled : List Receipt}

/-- Whatever happens beside the task that reads the link, the subscription goes on. -/
theorem beside (h : s.Followed t l c conn sent recalled calls readings handled)
    (hreserved : s.Reserved t c l) (halone : s.Alone t c) (hstep : a ≠ .step t)
    (hdestroy : a ≠ .destroy t) (hstop : a ≠ .disconnect c) :
    (s.after a).Followed t l c conn (sent ++ sentIn l s a) (recalled ∨ a = .reconnect c)
      (calls ++ Handover.callsOf c (s.handovers a)) (readings ++ readingIn t s a) handled := by
  obtain ⟨⟨conn', hconn', hfresh, hphase⟩, htold, horder, hlast, d, k, hd, hdc, hk, hstage⟩ := h
  have hread : readingIn t s a = [] := by
    cases a with
    | step u => exact if_neg fun heq => hstep (by rw [heq])
    | _ => rfl
  rw [halone.callsOf_handovers hconn' hstep, hread, List.append_nil, List.append_nil]
  refine ⟨⟨conn', halone.connection_after hconn' hstep hstop, hfresh, hphase⟩, htold,
    horder.trans (List.prefix_append _ _), hlast, d, ?_⟩
  obtain ⟨k', hk', hchange⟩ := exists_linkAfter (a := a) hk
  refine ⟨k', driver_after_of_ne hd hstep hdestroy, hdc, hk', ?_⟩
  by_cases hsend : ∃ e, a = .send l e
  · obtain ⟨e, rfl⟩ := hsend
    have hsent : sentIn l s (.send l e) = if k.closeRequested then [] else [e] := by
      cases hclosed : k.closeRequested <;> simp [sentIn, hk, hclosed]
    have hpushed : k' = k.push e := by
      have : (s.after (.send l e)).links[l]? = some (k.push e) := by
        simp [after, touchLink, modifyLink, wakeWhere, hk]
      exact Option.some_inj.mp (hk'.symm.trans this)
    rw [hsent, hpushed]
    exact (hstage.push e).mono .inl
  · have hsent : sentIn l s a = [] := by
      cases a with
      | send l' e => exact if_neg fun hl => hsend ⟨e, by rw [hl.1]⟩
      | _ => rfl
    rw [hsent, List.append_nil]
    have hstage : Stage l _ sent (recalled ∨ a = .reconnect c) handled d.task.point k readings :=
      hstage.mono .inl
    cases hchange with
    | same => exact hstage
    | @close c' known hact hknown hclient =>
        -- only this connection knows the link
        obtain rfl : c' = c :=
          Decidable.byContradiction fun hne => hreserved.clients c' known hknown hne hclient
        rcases hact with hact | hact
        · exact absurd hact hstop
        · exact hstage.close (.inr hact)
    | push hact => exact absurd ⟨_, hact⟩ hsend
    | dropSender => exact hstage.dropSender
    | @reader u d' _ hact hd' hlink =>
        by_cases hu : u = t
        · subst hu
          rcases hact with hact | hact
          · exact absurd hact hstep
          · exact absurd hact hdestroy
        · exact absurd hlink (hreserved.tasks u d' hd' hu)

/-- The task that reads the link makes its next move: it handles a message, or it comes to the end
of the link, or it is done with it. -/
theorem step (h : s.Followed t l c conn sent recalled calls readings handled) :
    (∀ d : Driver, (s.after (.step t)).drivers[t]? = some d → d.task.point.link? ≠ some l) ∨
      ∃ handled', (s.after (.step t)).Followed t l c conn sent recalled
        (calls ++ Handover.callsOf c (s.handovers (.step t)))
        (readings ++ readingIn t s (.step t)) handled' := by
  have hread : readingIn t s (.step t) = (s.reading? t).toList := if_pos rfl
  cases hmove : s.nextMove? t with
  | none =>
      have hquiet : s.handovers (.step t) = [] := by simp [handovers, hmove]
      rw [hread, reading?_of_none hmove, hquiet, after_step_of_none hmove]
      exact .inr ⟨handled, by simpa using h⟩
  | some m =>
      obtain ⟨⟨conn', hconn', hfresh, hhears⟩, htold, horder, hlast, d, k, hd, hdc, hk, hstage⟩ := h
      obtain ⟨he, hmconn, reply, hreply, hm⟩ := nextMove?_eq_some hmove
      obtain rfl : m.entry.driver = d := Option.some_inj.mp ((getElem?_drivers he).symm.trans hd)
      obtain rfl : m.entry.connection = c := hdc
      obtain rfl : m.connection = conn' := Option.some_inj.mp (hmconn.symm.trans hconn')
      have hm : m.move = m.entry.driver.task.resume m.connection reply := hm
      have hname := Connection.name_eq_of_fresh hfresh
      have hsettings := Connection.settings_eq_of_fresh hfresh
      have hfresh' : m.move.connection.fresh = conn.fresh := by
        rw [hm, Task.fresh_resume, hfresh]
      rw [hread, reading?_of_nextMove? hmove hreply hstage.link?_eq hk,
        callsOf_handovers_step hmove]
      have hdriver := driver_after_step hmove
      have hconnection := connection_after_step hmove
      have hlink := link_after_step hmove l
      rcases hstage.point_eq with hpoint | hpoint | hpoint
      · obtain ⟨rfl, hanswered⟩ : Reply.proceed = reply ∧ s = m.answered := by
          simpa [reply?, show m.entry.task.point = _ from hpoint, Point.ask] using hreply
        obtain ⟨hhears', hquiet, hstage'⟩ := hstage.of_opening hpoint hhears
        rw [← hm] at hhears' hquiet hstage'
        rw [← hanswered, hk] at hlink
        rw [hquiet]
        exact .inr ⟨handled, ⟨_, hconnection, hfresh', hhears'⟩, by simpa using htold, horder,
          hlast, _, _, hdriver, rfl, hlink, by simpa [Reading.ofReply?] using hstage'⟩
      · obtain ⟨_, k', event, hk', hnext, rfl, hlinks⟩ := of_reply?_streaming hpoint hreply
        obtain rfl := Option.some_inj.mp (hk.symm.trans hk')
        rw [hlinks, getElem?_set_of_getElem? hk] at hlink
        cases event with
        | response message =>
            rw [← hname, ← hsettings] at hstage htold
            obtain ⟨hhears', hcalls, horder', hlast', hstage'⟩ :=
              hstage.of_message (s.refuses m.connection.sink) hpoint hhears hnext
            rw [← hm] at hhears' hcalls hstage'
            rw [hname, hsettings] at hcalls hlast' hstage' htold
            exact .inr ⟨_, ⟨_, hconnection, hfresh', hhears'⟩, by rw [htold, hcalls], horder',
              by simpa using hlast', _, _, hdriver, rfl, hlink, hstage'⟩
        | closed reason =>
            obtain ⟨hsame, hquiet, hstage'⟩ :=
              hstage.of_ending (s.refuses m.connection.sink) hpoint hnext
            rw [← hm] at hsame hquiet hstage'
            rw [hquiet]
            exact .inr ⟨handled, ⟨_, hconnection, hfresh', by rwa [hsame]⟩, by simpa using htold,
              horder, hlast, _, _, hdriver, rfl, hlink, hstage'⟩
      · obtain rfl : Reply.proceed = reply := by
          simpa [reply?, show m.entry.task.point = _ from hpoint, Point.ask] using
            congrArg (Option.map Prod.fst) hreply
        refine .inl fun d' hd' hlink' => ?_
        rw [hdriver] at hd'
        cases hd'
        simp [hm, Task.resume, hpoint, Task.giveUp] at hlink'

end Followed

/-- A task is at a point. -/
def IsAt (s : Network) (t : Nat) (p : Point) : Prop :=
  ∃ e : TaskEntry, s.tasks[t]? = some e ∧ e.task.point = p

theorem not_isAt_of_link?_ne {t l : Nat} {p : Point}
    (h : ∀ d : Driver, s.drivers[t]? = some d → d.task.point.link? ≠ some l)
    (hp : p.link? = some l) : ¬ s.IsAt t p := by
  rintro ⟨e, he, rfl⟩
  exact h _ (getElem?_drivers he) hp

/-- A task that reads a link that is over comes nearer to its end with each move. -/
theorem Followed.step_of_isOver {t l c : Nat} {conn : Connection} {sent : List StreamEvent}
    {recalled : Prop} {calls : List SinkCall} {readings : List Reading} {handled : List Receipt}
    {k : Link} (h : s.Followed t l c conn sent recalled calls readings handled)
    (hpoint : s.IsAt t (.streaming l)) (hk : s.links[l]? = some k) (hover : k.IsOver) :
    (s.after (.step t)).IsAt t (.closing l) ∨
      (s.after (.step t)).IsAt t (.streaming l) ∧
        ∃ k' : Link, (s.after (.step t)).links[l]? = some k' ∧ k'.IsOver ∧
          k'.buffer.length < k.buffer.length := by
  obtain ⟨e, he, hpoint⟩ := hpoint
  obtain ⟨⟨conn', hconn', -, hhears⟩, -, -, -, d, _, hd, hdc, hk', hstage⟩ := h
  obtain rfl := Option.some_inj.mp (hk.symm.trans hk')
  obtain rfl : e.driver = d := Option.some_inj.mp ((getElem?_drivers he).symm.trans hd)
  obtain ⟨event, k', hnext⟩ := Link.exists_next?_of_isOver hover
  have hreply : s.reply? e conn' =
      some (.event event (s.refuses conn'.sink), { s with links := s.links.set l k' }) := by
    simp [reply?, hpoint, Point.ask, hk, hnext]
  have hmove : s.nextMove? t = some
      ⟨e, conn', { s with links := s.links.set l k' },
        e.task.resume conn' (.event event (s.refuses conn'.sink))⟩ := by
    simp [nextMove?, he, show s.connections[e.connection]? = _ from hdc ▸ hconn', hreply]
  have hentry : ∃ e' : TaskEntry, (s.after (.step t)).tasks[t]? = some e' ∧
      e'.task = (e.task.resume conn' (.event event (s.refuses conn'.sink))).task := by
    rw [tasks_after_step hmove]
    exact ⟨_, getElem?_set_of_getElem? he, rfl⟩
  obtain ⟨e', he', htask'⟩ := hentry
  have hlink := link_after_step hmove l
  rw [getElem?_set_of_getElem? hk, Option.map_some] at hlink
  cases event with
  | closed reason =>
      refine .inl ⟨e', he', ?_⟩
      rw [htask']
      simp [Task.resume, hpoint]
  | response message =>
      have hfinished : k.finished = false := by
        rw [show e.driver.task.point = _ from hpoint] at hstage
        cases hstage
        assumption
      obtain ⟨-, rest, hbuffer, rfl⟩ := Link.of_next?_response hfinished hnext
      have hover' := Link.isOver_of_next?_response hover hbuffer
      obtain ⟨htask, -, -, -, hdrop⟩ := Task.resume_of_message message (s.refuses conn'.sink) hpoint
        hhears.isStreaming hhears.isStopped
      refine .inr ⟨⟨e', he', by rw [htask', htask, hpoint]⟩, _, hlink, ?_⟩
      by_cases hclose : .closeLink l ∈
          (e.task.resume conn' (.event (.response message) (s.refuses conn'.sink))).outputs
      · rw [Link.foldl_perform_of_mem hclose hdrop]
        exact ⟨.inl rfl, by simp [Link.close, hbuffer]⟩
      · rw [Link.foldl_perform_of_notMem hclose hdrop]
        exact ⟨hover', by simp [hbuffer]⟩

/-- Once the end of a link can be read, its task comes to it by its own moves. -/
theorem Followed.exists_steps {t l c : Nat} {conn : Connection} {sent : List StreamEvent}
    {recalled : Prop} {calls : List SinkCall} {readings : List Reading} {handled : List Receipt}
    {k : Link} (h : s.Followed t l c conn sent recalled calls readings handled)
    (hpoint : s.IsAt t (.streaming l)) (hk : s.links[l]? = some k) (hover : k.IsOver) :
    ∃ n, (s.afterAll (List.replicate n (.step t))).IsAt t (.closing l) := by
  generalize hlength : k.buffer.length = length
  induction length using Nat.strongRecOn generalizing s calls readings handled k with
  | ind length ih =>
      subst hlength
      rcases h.step_of_isOver hpoint hk hover with hclosing | ⟨hpoint', k', hk', hover', hshorter⟩
      · exact ⟨1, hclosing⟩
      · rcases h.step with hleft | ⟨handled', h'⟩
        · exact absurd hpoint' (not_isAt_of_link?_ne hleft rfl)
        · obtain ⟨n, hn⟩ := ih _ hshorter h' hpoint' hk' hover' rfl
          exact ⟨n + 1, hn⟩

/-- In every run in which nobody else interferes, a subscription is followed until its task is done
with it. -/
theorem followed_afterAll {t l c : Nat} {conn : Connection} (hreserved : s.Reserved t c l)
    (hstart : s.Followed t l c conn [] False [] [] []) (acts : List Act)
    (halone : ∀ (first : List Act) (d : Driver), first <+: acts →
      (s.afterAll first).drivers[t]? = some d → d.connection = c →
      d.task.point.link? = some l → (s.afterAll first).Alone t c)
    (hstop : ∀ a ∈ acts, a ≠ .disconnect c) :
    (∀ d : Driver, (s.afterAll acts).drivers[t]? = some d → d.task.point.link? ≠ some l) ∨
      ∃ handled, (s.afterAll acts).Followed t l c conn (s.collect (sentIn l) acts)
        (.reconnect c ∈ acts) (Handover.callsOf c (s.history acts)) (s.readings t acts)
        handled := by
  have hreserved : ∀ acts : List Act, (s.afterAll acts).Reserved t c l := by
    intro acts
    induction acts using List.reverseRecOn with
    | nil => exact hreserved
    | append_singleton acts a ih =>
        rw [afterAll_concat]
        exact ih.after a
  induction acts using List.reverseRecOn with
  | nil => exact .inr ⟨[], by simpa [afterAll, collect, history, readings] using hstart⟩
  | append_singleton acts a ih =>
      have hbegin : ∀ first, first <+: acts → first <+: acts ++ [a] :=
        fun first h => h.trans (List.prefix_append _ _)
      rw [afterAll_concat, readings, collect_concat, collect_concat, history_concat,
        Handover.callsOf_append]
      rcases ih (fun first d h => halone first d (hbegin first h))
        (fun b hb => hstop b (List.mem_append_left _ hb)) with hleft | ⟨handled, h⟩
      · exact .inl (link?_ne_after (hreserved acts).link_lt hleft)
      · obtain ⟨d, k, hd, hdc, -, hstage⟩ := h.stage
        have halone := halone acts d (hbegin acts (List.prefix_refl _)) hd hdc hstage.link?_eq
        have hstop : a ≠ .disconnect c := hstop a (List.mem_append_right _ List.mem_cons_self)
        by_cases hstep : a = .step t
        · subst hstep
          rcases h.step with hleft | ⟨handled', h'⟩
          · exact .inl hleft
          · exact .inr ⟨handled', by simpa [sentIn, readings] using h'⟩
        · by_cases hdestroy : a = .destroy t
          · refine .inl fun d' hd' hlink => ?_
            cases driverAfter hd' with
            | same _ _ hkept => exact hkept hdestroy
            | move hact => exact hstep hact
            | taken => cases hlink
            | loop => cases hlink
            | attempt => cases hlink
          · refine .inr ⟨handled, ?_⟩
            have h' := h.beside (hreserved acts) halone hstep hdestroy hstop
            simpa [readings, eq_comm] using h'

/-! ### The beginning -/

/-- The move with which a dial gives a task its link. -/
theorem exists_move_of_opened {t l : Nat} {e : TaskEntry} {query : Query} {due giveUp : Nat}
    (he : s.tasks[t]? = some e) (hpoint : e.task.point = .dialing query due giveUp)
    (hopened : (s.after (.step t)).IsAt t (.opening l)) :
    ∃ m, s.nextMove? t = some m ∧ m.entry = e ∧
      s.reply? m.entry m.connection = some (.opened l, m.answered) ∧
      m.move = { connection := m.connection, task := { e.task with point := .opening l } } := by
  obtain ⟨e', he', hpoint'⟩ := hopened
  cases hmove : s.nextMove? t with
  | none =>
      rw [after_step_of_none hmove, he] at he'
      cases he'
      rw [hpoint] at hpoint'
      cases hpoint'
  | some m =>
      obtain ⟨hentry, -, reply, hreply, hm⟩ := nextMove?_eq_some hmove
      obtain rfl : m.entry = e := Option.some_inj.mp (hentry.symm.trans he)
      rw [tasks_after_step hmove, getElem?_set_of_getElem? he] at he'
      cases he'
      have hlink : (m.entry.task.resume m.connection reply).task.point.link? = some l := by
        rw [← hm, show m.move.task.point = _ from hpoint']
        rfl
      have hnone : m.entry.task.point.link? ≠ some l := by
        rw [hpoint]
        nofun
      obtain rfl := (Task.of_link?_resume reply hlink).resolve_left hnone
      exact ⟨m, rfl, rfl, hreply, by simp [hm, Task.resume, hpoint]⟩

variable {t l : Nat} {e : TaskEntry} {conn : Connection} {query : Query} {due giveUp : Nat}

/-- A new link is there for the task that has dialed and its connection. -/
theorem reserved_of_opened (hsound : s.Sound) (he : s.tasks[t]? = some e)
    (hpoint : e.task.point = .dialing query due giveUp)
    (hopened : (s.after (.step t)).IsAt t (.opening l)) :
    (s.after (.step t)).Reserved t e.connection l := by
  obtain ⟨m, hmove, rfl, hreply, hm⟩ := exists_move_of_opened he hpoint hopened
  obtain ⟨rfl, hlink⟩ := link_lt_after_of_opened hmove hreply
  constructor
  case link_lt => exact (List.getElem?_eq_some_iff.mp hlink).1
  case driver => exact ⟨_, driver_after_step hmove, rfl⟩
  case tasks =>
    intro t' d' hd' hne hread
    cases driverAfter hd' with
    | same hd => exact absurd (hsound.link_lt t' _ _ hd hread) (Nat.lt_irrefl _)
    | move hact =>
        cases hact
        exact hne rfl
    | taken => cases hread
    | loop => cases hread
    | attempt => cases hread
  case clients =>
    intro c' conn' hconn' hne hclient
    rw [connections_after_step hmove] at hconn'
    rcases of_getElem?_set hconn' with ⟨hc', -⟩ | ⟨-, hold⟩
    · exact hne hc'
    · exact absurd (hsound.client_lt c' _ _ hold hclient) (Nat.lt_irrefl _)

/-- With a new link nothing was sent and nothing was read. -/
theorem followed_of_opened (he : s.tasks[t]? = some e)
    (hconn : s.connections[e.connection]? = some conn)
    (hpoint : e.task.point = .dialing query due giveUp)
    (hopened : (s.after (.step t)).IsAt t (.opening l)) (hphase : conn.phase.isDialing = true)
    (hstop : conn.phase.isStopped = false) :
    (s.after (.step t)).Followed t l e.connection conn [] False [] [] [] := by
  obtain ⟨m, hmove, rfl, hreply, hm⟩ := exists_move_of_opened he hpoint hopened
  obtain ⟨-, hlink⟩ := link_lt_after_of_opened hmove hreply
  obtain rfl : m.connection = conn :=
    Option.some_inj.mp ((nextMove?_eq_some hmove).2.1.symm.trans hconn)
  have hconnection := connection_after_step hmove
  rw [hm] at hconnection hlink
  refine ⟨⟨m.connection, hconnection, rfl, hstop, Phase.isStreaming_of_isDialing hphase, ?_⟩, rfl,
    List.prefix_refl _, by simp, _, _, driver_after_step hmove, rfl, hlink, ?_⟩
  · generalize m.connection.phase = p at hphase
    cases p <;> simp_all [Phase.isDialing, Phase.isConnected]
  · rw [hm]
    exact .opening rfl (fun _ => rfl) (by simp)

/-! ### The end -/

/-- A task that has begun to read goes on from the link that it has got. -/
theorem Followed.step_opening {sent : List StreamEvent} {recalled : Prop} {calls : List SinkCall}
    {readings : List Reading} {handled : List Receipt} {c : Nat}
    (h : s.Followed t l c conn sent recalled calls readings handled)
    (hpoint : s.IsAt t (.opening l)) :
    (s.after (.step t)).IsAt t (.streaming l) ∧
      (s.after (.step t)).links[l]? = s.links[l]? := by
  obtain ⟨e, he, hpoint⟩ := hpoint
  obtain ⟨⟨conn', hconn', -, hhears⟩, -, -, -, d, k, hd, hdc, hk, -⟩ := h
  obtain rfl : e.driver = d := Option.some_inj.mp ((getElem?_drivers he).symm.trans hd)
  have hmove : s.nextMove? t = some
      ⟨e, conn', s, { connection := { conn' with client := some l }
                      task := { e.task with point := .streaming l } }⟩ := by
    simp [nextMove?, he, show s.connections[e.connection]? = _ from hdc ▸ hconn', reply?, hpoint,
      Point.ask, Task.resume, hhears.isStopped]
  refine ⟨⟨_, by rw [tasks_after_step hmove, getElem?_set_of_getElem? he], rfl⟩, ?_⟩
  rw [link_after_step hmove, hk]
  rfl

/-- When a task is done with a link, its sink hears of the end if it has heard of the connection. -/
theorem Followed.calls_of_closing {sent : List StreamEvent} {recalled : Prop}
    {calls : List SinkCall} {readings : List Reading} {handled : List Receipt} {c : Nat}
    (h : s.Followed t l c conn sent recalled calls readings handled)
    (hpoint : s.IsAt t (.closing l)) :
    Handover.callsOf c (s.handovers (.step t)) =
      if handled.isEmpty then [] else [.disconnect, .reset] := by
  obtain ⟨e, he, hpoint⟩ := hpoint
  obtain ⟨⟨conn', hconn', -, hhears⟩, -, -, -, d, k, hd, hdc, -⟩ := h
  obtain rfl : e.driver = d := Option.some_inj.mp ((getElem?_drivers he).symm.trans hd)
  have hmove : s.nextMove? t = some ⟨e, conn', s, e.task.resume conn' .proceed⟩ := by
    simp [nextMove?, he, show s.connections[e.connection]? = _ from hdc ▸ hconn', reply?, hpoint,
      Point.ask]
  have hquiet := callsOf_handovers_step hmove
  rw [show e.connection = c from hdc] at hquiet
  rw [hquiet]
  have hcalls := Phase.calls_lose hhears.isStreaming hhears.isStopped
  rw [hhears.isConnected] at hcalls
  cases hempty : handled.isEmpty <;> simp_all [Task.resume, Task.giveUp, Output.call?]

/-- Once the end of its link can be read, a task that has begun to read comes to it. -/
theorem Followed.exists_steps_to_closing {sent : List StreamEvent} {recalled : Prop}
    {calls : List SinkCall} {readings : List Reading} {handled : List Receipt} {c : Nat} {k : Link}
    (h : s.Followed t l c conn sent recalled calls readings handled)
    (hpoint : s.IsAt t (.opening l) ∨ s.IsAt t (.streaming l)) (hk : s.links[l]? = some k)
    (hover : k.IsOver) :
    ∃ n, (s.afterAll (List.replicate n (.step t))).IsAt t (.closing l) := by
  rcases hpoint with hopening | hstreaming
  · -- one move more until the link is read
    obtain ⟨hpoint', hlink⟩ := h.step_opening hopening
    rcases h.step with hleft | ⟨handled', h'⟩
    · exact absurd hpoint' (not_isAt_of_link?_ne hleft rfl)
    · obtain ⟨n, hn⟩ := h'.exists_steps hpoint' (hlink.trans hk) hover
      exact ⟨n + 1, hn⟩
  · exact h.exists_steps hstreaming hk hover

/-- What a task that is done with its link has read, and why. -/
theorem Followed.readings_of_closing {sent : List StreamEvent} {recalled : Prop}
    {calls : List SinkCall} {readings : List Reading} {handled : List Receipt} {c : Nat}
    (h : s.Followed t l c conn sent recalled calls readings handled)
    (hpoint : s.IsAt t (.closing l)) :
    ∃ (reason : String) (asked : Bool),
      readings = handled.map .message ++ [.ending reason asked] ∧
      (asked = false → handled.map (·.message) = StreamEvent.messages sent ∧
        ∀ r ∈ handled, r.fails conn.name conn.settings.rejectionScope = false) ∧
      (asked = true → recalled ∨
        ∃ r ∈ handled, r.fails conn.name conn.settings.rejectionScope = true) := by
  obtain ⟨-, -, -, -, d, k, hd, -, -, hstage⟩ := h
  obtain ⟨e, he, hpoint⟩ := hpoint
  obtain rfl : e.driver = d := Option.some_inj.mp ((getElem?_drivers he).symm.trans hd)
  rw [show e.driver.task.point = _ from hpoint] at hstage
  cases hstage with
  | @ended _ _ reason asked _ hall hasked =>
      refine ⟨reason, asked, rfl, fun hnot => ?_, hasked⟩
      obtain ⟨hsent, hfails⟩ := hall hnot
      exact ⟨hsent.symm, hfails⟩

/-- One subscription from its dial to its end, in any run: of a loop among loops, or of the only
task that its connection has ever had.  Nobody stops the connection.

Once the end of the link can be read, the task comes to it.  When it has, it has handled the first
of the messages that were sent, in their order, none after one that has failed.  If nobody on this
side had asked for the end before, these are all messages and none has failed; the end is asked for
only after a failed message or by `reconnect`.  The sink was told nothing if no message was handled,
and otherwise of the connection, of each message in its order, and of the end. -/
theorem calls_of_subscription (pools : List SlotPool) (locks : LockService)
    (before during : List Act) (t l : Nat) (e : TaskEntry) (conn : Connection) (query : Query)
    (due giveUp : Nat)
    (he : (afterAll { pools, locks } before).tasks[t]? = some e)
    (hpoint : e.task.point = .dialing query due giveUp)
    (hconn : (afterAll { pools, locks } before).connections[e.connection]? = some conn)
    (hopened : ((afterAll { pools, locks } before).after (.step t)).IsAt t (.opening l))
    (hstop : ∀ a ∈ before ++ during, a ≠ .disconnect e.connection)
    (halone : (∀ a ∈ before ++ during, a.byLoops = true) ∨
      (((afterAll { pools, locks } before).after (.step t)).afterAll during).Only t e.connection) :
    let opened := (afterAll { pools, locks } before).after (.step t)
    let now := opened.afterAll during
    let fails := Receipt.fails conn.name conn.settings.rejectionScope
    (now.IsAt t (.opening l) ∨ now.IsAt t (.streaming l) →
        (∃ k : Link, now.links[l]? = some k ∧ k.IsOver) →
        ∃ n, (now.afterAll (List.replicate n (.step t))).IsAt t (.closing l)) ∧
      (now.IsAt t (.closing l) →
        ∃ (handled : List Receipt) (reason : String) (asked : Bool),
          opened.readings t during = handled.map .message ++ [.ending reason asked] ∧
          handled.map (·.message) <+: opened.sent l during ∧
          (∀ r ∈ handled.dropLast, fails r = false) ∧
          (asked = false → handled.map (·.message) = opened.sent l during ∧
            ∀ r ∈ handled, fails r = false) ∧
          (asked = true → .reconnect e.connection ∈ during ∨ ∃ r ∈ handled, fails r = true) ∧
          Handover.callsOf e.connection (opened.history (during ++ [.step t])) =
            if handled.isEmpty then []
            else .connect ::
              handled.flatMap (fun r => r.message.calls conn.name conn.settings.rejectionScope) ++
                [.disconnect, .reset]) := by
  intro opened now fails
  have hstop₁ : ∀ a ∈ before, a ≠ .disconnect e.connection :=
    fun a ha => hstop a (List.mem_append_left _ ha)
  have hsound : (afterAll { pools, locks } before).Sound :=
    sound_afterAll (sound_of_nil rfl rfl) before
  have hrunning : conn.phase.isStopped = false := isStopped_afterAll rfl before hstop₁ conn hconn
  have hpoint' : e.driver.task.point = .dialing query due giveUp := hpoint
  have hphase : conn.phase.isDialing = true := by
    have hsuits := suits_of_isEngaged (s := { pools, locks }) rfl rfl
      (halone.imp (fun h a ha => h a (List.mem_append_left _ ha))
        fun h => (Only.of_afterAll h).of_after)
      (getElem?_drivers he) (by rw [hpoint']; rfl) hconn
    rwa [hpoint'] at hsuits
  have hothers : ∀ (first : List Act) (d : Driver), first <+: during →
      (opened.afterAll first).drivers[t]? = some d → d.connection = e.connection →
      d.task.point.link? = some l → (opened.afterAll first).Alone t e.connection := by
    rintro first d ⟨rest, rfl⟩ hd hdc hlink
    have hsame : afterAll { pools, locks } (before ++ .step t :: first) = opened.afterAll first :=
      afterAll_append _ _ _
    rw [← hdc, ← hsame]
    refine alone_of_isEngaged rfl rfl (halone.imp (fun h a ha => ?_) fun h => ?_) (hsame ▸ hd)
      (Point.isEngaged_of_isConnecting (Point.isConnecting_of_link? hlink))
    · simp only [List.mem_append, List.mem_cons] at ha h
      rcases ha with ha | rfl | ha
      · exact h a (.inl ha)
      · rfl
      · exact h a (.inr (.inl ha))
    · rw [hdc, hsame]
      rw [afterAll_append] at h
      exact Only.of_afterAll h
  rcases followed_afterAll (reserved_of_opened hsound he hpoint hopened)
    (followed_of_opened he hconn hpoint hopened hphase hrunning) during hothers
    (fun a ha => hstop a (List.mem_append_right _ ha)) with hleft | ⟨handled, h⟩
  · refine ⟨fun hat => ?_, fun hat => absurd hat (not_isAt_of_link?_ne hleft rfl)⟩
    rcases hat with hat | hat <;> exact absurd hat (not_isAt_of_link?_ne hleft rfl)
  · refine ⟨fun hat ⟨k, hk, hover⟩ => h.exists_steps_to_closing hat hk hover, fun hat => ?_⟩
    obtain ⟨reason, asked, hread, hall, hasked⟩ := h.readings_of_closing hat
    refine ⟨handled, reason, asked, hread, ?_, h.last, hall, hasked, ?_⟩
    · have := StreamEvent.messages_prefix h.inOrder
      rwa [StreamEvent.messages_events] at this
    · rw [history_concat, Handover.callsOf_append, h.told, h.calls_of_closing hat, Receipt.calls]
      cases handled <;> simp

/-- A notification with one update, below the given prefix path if there is one. -/
def uptime (prefixPath : Option Path) : Notification :=
  { prefixPath, update := [.ofValue (.ofNames ["uptime"]) (.int 7)] }

/-- The acts by which a new connection with a recorder comes to its first dial. -/
def upToDial : List Act :=
  [.recorder, .connection (.plain "leaf1" (.recorder 0)), .loop 0 0] ++ List.replicate 8 (.step 0)

/-- The acts by which a device sends an error between other messages and the link comes to its end.
The prefix paths are missing, without a target designator, and with one. -/
def errorAmongMessages : List Act :=
  [.send 0 (.response (.ofNotification (uptime none))), .send 0 (.response .synced),
    .send 0 (.response (.ofNotification (uptime (some { elem := [.named "system"] })))),
    .send 0 (.response (.ofNotification (uptime (some { target := "edge1" })))),
    .send 0 (.response (.ofError 3 "gone")),
    .send 0 (.response (.ofNotification (uptime none)))] ++
    List.replicate 7 (.step 0)

/-- What is sent before an error reaches the sink with a target designator, and what is sent behind
it does not. -/
theorem calls_of_subscription_with_error :
    let start : Network :=
      { pools := [{ capacity := 1, available := 1 }], locks := .registry {} }
    let opened := (start.afterAll upToDial).after (.step 0)
    let handled : List SubscribeResponse :=
      [.ofNotification (uptime none), .synced,
        .ofNotification (uptime (some { elem := [.named "system"] })),
        .ofNotification (uptime (some { target := "edge1" })), .ofError 3 "gone"]
    opened.sent 0 errorAmongMessages = handled ++ [.ofNotification (uptime none)] ∧
      Handover.callsOf 0 (opened.history (errorAmongMessages ++ [.step 0])) =
        [.connect, .update (uptime (some { target := "leaf1" })), .sync,
          .update (uptime (some { elem := [.named "system"], target := "leaf1" })),
          .update (uptime (some { target := "edge1" })), .disconnect, .reset] := by
  intro start opened handled
  let query : Query := (Connection.plain "leaf1" (.recorder 0)).query.toOption.getD default
  let dialing : TaskEntry :=
    { connection := 0, gate := some 0
      task := { isLoop := true, hasSlot := true, hasLock := true
                point := .dialing query 0 query.timeout } }
  let conn : Connection :=
    { Connection.plain "leaf1" (.recorder 0) with phase := .connecting, running := true }
  have hsent : opened.sent 0 errorAmongMessages =
      handled ++ [.ofNotification (uptime none)] := by
    decide +kernel
  have hconn : (start.afterAll upToDial).connections[0]? = some conn := by decide +kernel
  obtain ⟨-, hresult⟩ := calls_of_subscription [{ capacity := 1, available := 1 }] (.registry {})
    upToDial errorAmongMessages 0 0 dialing conn query 0 query.timeout rfl rfl hconn ⟨_, rfl, rfl⟩
    (by simp [upToDial, errorAmongMessages]) (.inl (by decide))
  obtain ⟨receipts, reason, asked, hread, hbegin, -, -, -, hcalls⟩ := hresult ⟨_, rfl, rfl⟩
  have hlength : receipts.length = 5 := by
    have hsix : (opened.readings 0 errorAmongMessages).length = 6 := by decide +kernel
    rw [hread] at hsix
    simpa using hsix
  have hmessages : receipts.map (·.message) = handled := by
    rw [hsent] at hbegin
    have := List.prefix_iff_eq_take.mp hbegin
    rwa [List.length_map, hlength] at this
  have hflat : receipts.flatMap (fun r => r.message.calls conn.name conn.settings.rejectionScope) =
      (receipts.map (·.message)).flatMap (·.calls conn.name conn.settings.rejectionScope) := by
    rw [List.flatMap_map]
  have hsome : receipts.isEmpty = false := by
    cases receipts with
    | nil => cases hlength
    | cons => rfl
  refine ⟨hsent, hcalls.trans ?_⟩
  rw [hsome, hflat, hmessages]
  decide +kernel

end Network

end TelemetryGateway
