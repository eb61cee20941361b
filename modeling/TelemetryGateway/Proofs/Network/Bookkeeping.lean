import TelemetryGateway.Proofs.Network.Acquisition

/-!
# What connections and links record in every run

Attempts to connect can run beside each other on one connection, and tasks can be taken away in the
middle of what they do.  Some records are right all the same, in every run whatever its acts are:

* `Network.matched_afterAll`: a connection has told its sink as often of a connection as of its end,
  once more while its phase owns the state of the sink;
* `Network.clientRead_afterAll`: the link that a connection knows is read by one of its tasks,
  unless a task of it was taken away;
* `Network.endsKnown_afterAll`: a task that has read the end of its link finds the link closed.
-/

namespace TelemetryGateway

/-! ## Calls -/

/-- Among some calls there are as many that open a session as that close one, if a session that is
open before or after them is counted too.  Nothing is said about the order of the calls. -/
def Matched (before after : Bool) (calls : List SinkCall) : Prop :=
  calls.count .connect + before.toNat = calls.count .disconnect + after.toNat

namespace Matched

variable {before between after : Bool} {calls more : List SinkCall}

theorem nil (isOpen : Bool) : Matched isOpen isOpen [] := rfl

theorem trans (h : Matched before between calls) (hmore : Matched between after more) :
    Matched before after (calls ++ more) := by
  unfold Matched at h hmore ⊢
  rw [List.count_append, List.count_append]
  omega

theorem update (isOpen : Bool) (n : Notification) : Matched isOpen isOpen [.update n] := rfl

theorem of_extends (h : Extends before after calls) : Matched before after calls :=
  h.count_connect

end Matched

namespace Phase

variable (p : Phase)

theorem matched_lose : Matched p.ownsCacheState p.lose.phase.ownsCacheState p.lose.calls :=
  .of_extends (extends_lose p)

/-- Also a message that arrives where none is expected opens a session only if it is counted. -/
theorem matched_receive (name : String) (scope : RejectionScope) (refuses : Notification → Bool)
    (message : SubscribeResponse) :
    Matched p.ownsCacheState (p.receive name scope refuses message).1.phase.ownsCacheState
      (p.receive name scope refuses message).1.calls := by
  have hgreet : Matched p.ownsCacheState p.greet.phase.ownsCacheState p.greet.calls :=
    .of_extends (extends_greet p)
  unfold receive
  split
  · exact .nil _
  · dsimp only
    split
    · exact hgreet
    · exact hgreet
    · exact hgreet.trans (.of_extends (extends_complete _))
    · split
      · exact hgreet.trans (.update _ _)
      · exact hgreet

/-- A dial that starts opens no session and closes none. -/
theorem ownsCacheState_of_next_dialStarted {p q : Phase} (h : p.next .dialStarted = some q) :
    p.ownsCacheState = q.ownsCacheState := by
  obtain ⟨rfl, -, hp⟩ := eq_connecting_of_next h
  exact hp

end Phase

namespace Task

variable {t : Task} {c : Connection} (reply : Reply)

/-- The calls of a move are matched, wherever the task is and in whatever phase it finds the
connection. -/
theorem matched_resume :
    Matched c.phase.ownsCacheState (t.resume c reply).connection.phase.ownsCacheState
      (Output.calls (t.resume c reply).outputs) := by
  fun_cases Task.resume t c reply
  all_goals simp_all +zetaDelta [giveUp, Output.call?, Matched.nil, Phase.matched_lose]
  · -- a dial starts
    rw [Phase.ownsCacheState_of_next_dialStarted ‹_›]
    exact .nil _
  · -- the dial has given a link
    split <;> exact .nil _
  · -- a message has arrived
    rename_i message refuses _ _ error hreceive
    have := c.phase.matched_receive c.name c.settings.rejectionScope refuses message
    rw [hreceive] at this
    cases error <;> simpa [Output.call?] using this
  · -- the loop is over
    split <;> split <;> exact .nil _

/-! ## Known links -/

/-- A connection comes to know a link only from the task that begins to read it. -/
theorem client_resume_cases {l : Nat} :
    (t.resume c reply).connection.client = some l →
      c.client = some l ∨ (t.resume c reply).task.point = .streaming l := by
  fun_cases Task.resume t c reply <;> simp_all +zetaDelta [giveUp]

end Task

/-- Whether a task at a point has told its connection of a link and not yet that it is over. -/
def Point.hasTold (p : Point) (l : Nat) : Prop := p = .streaming l ∨ p = .closing l

/-- As long as its connection knows a link, the task that has told it of the link reads it. -/
theorem Task.hasTold_resume {t : Task} {c : Connection} (reply : Reply) {l : Nat}
    (h : t.point.hasTold l) :
    (t.resume c reply).connection.client = some l → (t.resume c reply).task.point.hasTold l := by
  unfold Point.hasTold at h ⊢
  fun_cases Task.resume t c reply <;> simp_all +zetaDelta [giveUp]

namespace Network

variable {s : Network} {a : Act} {c : Nat}

/-! ### Calls of a connection -/

/-- The calls of a connection are matched, with its session if one is open. -/
structure MatchedCalls (s : Network) (c : Nat) (calls : List SinkCall) : Prop where
  known : ∀ conn : Connection, s.connections[c]? = some conn →
    Matched false conn.phase.ownsCacheState calls
  unknown : s.connections[c]? = none → calls = []

theorem MatchedCalls.after {calls : List SinkCall} (h : s.MatchedCalls c calls) (a : Act) :
    (s.after a).MatchedCalls c (calls ++ Handover.callsOf c (s.handovers a)) := by
  cases hconn : s.connections[c]? with
  | none =>
      have hquiet : Handover.callsOf c (s.handovers a) = [] := by
        rcases s.callsOf_handovers (a := a) (c := c) with hnone | ⟨t, m, -, hmove, rfl, -⟩
        · exact hnone
        · rw [(nextMove?_eq_some hmove).2.1] at hconn
          cases hconn
      rw [hquiet, List.append_nil, h.unknown hconn]
      refine ⟨fun conn' hconn' => ?_, fun _ => rfl⟩
      obtain ⟨conn, -, -, rfl⟩ := eq_fresh_of_new hconn hconn'
      exact .nil false
  | some conn =>
      have hbefore := h.known conn hconn
      obtain ⟨conn', hconn', hchange⟩ := exists_connectionAfter (a := a) hconn
      refine ⟨fun same hsame => ?_, fun hnone => by rw [hnone] at hconn'; cases hconn'⟩
      obtain rfl := Option.some_inj.mp (hconn'.symm.trans hsame)
      cases hchange with
      | same hothers =>
          rcases s.callsOf_handovers (a := a) (c := c) with hnone | ⟨t, m, hact, hmove, hmc, -⟩
          · rwa [hnone, List.append_nil]
          · exact absurd hmc (hothers t hact m hmove)
      | stop hact =>
          subst hact
          simp only [handovers, Handover.callsOf_nil, List.append_nil]
          exact (Phase.ownsCacheState_stop _).symm ▸ hbefore
      | move hact hmove hmc =>
          subst hact hmc
          obtain ⟨-, -, reply, -, hm⟩ := nextMove?_eq_some hmove
          obtain rfl := connection_eq_of_move hmove rfl hconn
          rw [callsOf_handovers_step hmove, hm]
          exact hbefore.trans (Task.matched_resume reply)

/-- In every run the calls of a connection are matched. -/
theorem matched_afterAll (hconnections : s.connections = []) (acts : List Act) (c : Nat) :
    (s.afterAll acts).MatchedCalls c (Handover.callsOf c (s.history acts)) := by
  refine afterAll_induction (fun _ => True)
    (motive := fun s history => s.MatchedCalls c (Handover.callsOf c history))
    (fun s earlier a _ h => ?_) ⟨by simp [hconnections], fun _ => rfl⟩ acts fun _ _ => trivial
  rw [Handover.callsOf_append]
  exact h.after a

/-- While no session is open, a connection has told its sink of as many ends as connections. -/
theorem count_connect_afterAll (hconnections : s.connections = []) {acts : List Act}
    {conn : Connection} (hconn : (s.afterAll acts).connections[c]? = some conn)
    (howns : conn.phase.ownsCacheState = false) :
    (Handover.callsOf c (s.history acts)).count .connect =
      (Handover.callsOf c (s.history acts)).count .disconnect := by
  have h := (matched_afterAll hconnections acts c).known conn hconn
  rwa [howns] at h

/-! ### The link that a connection knows -/

/-- A task of a connection was taken away. -/
def HasTaken (s : Network) (c : Nat) : Prop :=
  ∃ (t : Nat) (d : Driver), s.drivers[t]? = some d ∧ d.connection = c ∧
    d.task.point = .finished .aborted

/-- A task of a connection has told it of a link. -/
def IsToldOf (s : Network) (c l : Nat) : Prop :=
  ∃ (t : Nat) (d : Driver), s.drivers[t]? = some d ∧ d.connection = c ∧ d.task.point.hasTold l

/-- A task that was taken away does not come back. -/
theorem HasTaken.after (h : s.HasTaken c) (a : Act) : (s.after a).HasTaken c := by
  obtain ⟨t, d, hd, hc, hpoint⟩ := h
  obtain ⟨d', hd', hc'⟩ := exists_driver_after (a := a) hd
  refine ⟨t, d', hd', hc'.trans hc, ?_⟩
  have hlt := (List.getElem?_eq_some_iff.mp hd).1
  cases driverAfter hd' with
  | same hold =>
      obtain rfl := Option.some_inj.mp (hold.symm.trans hd)
      exact hpoint
  | move _ hmove =>
      rw [nextMove?_of_finished hd (by rw [hpoint]; rfl)] at hmove
      cases hmove
  | taken => rfl
  | loop ht => omega
  | attempt ht => omega

/-- A task that has told its connection of a link is still there, or was taken away, if the
connection has not forgotten the link in a move of the task. -/
theorem IsToldOf.after {l : Nat} (h : s.IsToldOf c l)
    (hclient : ∀ (t : Nat) (m : NextMove), a = .step t → s.nextMove? t = some m →
      m.entry.connection = c → m.move.connection.client = some l) :
    (s.after a).IsToldOf c l ∨ (s.after a).HasTaken c := by
  obtain ⟨t, d, hd, hc, htold⟩ := h
  obtain ⟨d', hd', hc'⟩ := exists_driver_after (a := a) hd
  have hlt := (List.getElem?_eq_some_iff.mp hd).1
  cases driverAfter hd' with
  | same hold =>
      obtain rfl := Option.some_inj.mp (hold.symm.trans hd)
      exact .inl ⟨t, _, hd', hc, htold⟩
  | @move m hact hmove =>
      obtain ⟨he, -, reply, -, hm⟩ := nextMove?_eq_some hmove
      obtain rfl := Option.some_inj.mp ((getElem?_drivers he).symm.trans hd)
      have hknown := hclient t m hact hmove hc
      rw [hm] at hknown
      refine .inl ⟨t, _, hd', hc, ?_⟩
      rw [hm]
      exact Task.hasTold_resume reply htold hknown
  | taken => exact .inr ⟨t, _, hd', hc'.trans hc, rfl⟩
  | loop ht => omega
  | attempt ht => omega

/-- A connection knows a link only if one of its tasks has told it, or was taken away. -/
def ClientRead (s : Network) (c : Nat) : Prop :=
  ∀ (conn : Connection) (l : Nat), s.connections[c]? = some conn → conn.client = some l →
    s.IsToldOf c l ∨ s.HasTaken c

theorem ClientRead.after (h : s.ClientRead c) (a : Act) : (s.after a).ClientRead c := by
  intro conn' l hconn' hclient
  cases hconn : s.connections[c]? with
  | none =>
      obtain ⟨conn, -, -, rfl⟩ := eq_fresh_of_new hconn hconn'
      cases hclient
  | some conn =>
      have hchange := connectionAfter hconn hconn'
      have hold (hknown : conn.client = some l)
          (hforgets : ∀ (t : Nat) (m : NextMove), a = .step t → s.nextMove? t = some m →
            m.entry.connection = c → m.move.connection.client = some l) :
          (s.after a).IsToldOf c l ∨ (s.after a).HasTaken c := by
        rcases h conn l hconn hknown with htold | htaken
        · exact htold.after hforgets
        · exact .inr (htaken.after a)
      cases hchange with
      | same hothers =>
          exact hold hclient fun t m hact hmove hmc => absurd hmc (hothers t hact m hmove)
      | stop hact => exact hold hclient fun t m hstep => by rw [hact] at hstep; cases hstep
      | @move t m hact hmove hmc =>
          subst hact
          obtain ⟨-, -, reply, -, hm⟩ := nextMove?_eq_some hmove
          obtain rfl := connection_eq_of_move hmove hmc hconn
          have hcases := hclient
          rw [hm] at hcases
          rcases Task.client_resume_cases reply hcases with hknown | hpoint
          · refine hold hknown fun t' m' hact' hmove' _ => ?_
            cases hact'
            obtain rfl := Option.some_inj.mp (hmove'.symm.trans hmove)
            exact hclient
          · refine .inl ⟨t, _, driver_after_step hmove, hmc, .inl ?_⟩
            rw [hm]
            exact hpoint

theorem clientRead_afterAll (hconnections : s.connections = []) (acts : List Act) (c : Nat) :
    (s.afterAll acts).ClientRead c := by
  refine afterAll_induction (fun _ => True) (motive := fun s _ => s.ClientRead c)
    (fun s _ a _ h => h.after a) ?_ acts fun _ _ => trivial
  intro conn l hconn
  simp [hconnections] at hconn

end Network

/-! ## Ends of links -/

/-- The links after an act: those that there were, later, and perhaps a new one. -/
structure LinksGrow (links links' : List Link) : Prop where
  exists_after : ∀ (l : Nat) (k : Link), links[l]? = some k →
    ∃ k' : Link, links'[l]? = some k' ∧ k.Later k'
  sound : (∀ (l : Nat) (k : Link), links[l]? = some k → k.IsSound) →
    ∀ (l : Nat) (k' : Link), links'[l]? = some k' → k'.IsSound

namespace LinksGrow

variable {links links' links'' : List Link}

theorem of_later (h : LinksLater links links') : LinksGrow links links' where
  exists_after l k hk := h.exists_after hk
  sound hsound l k' hk' := by
    obtain ⟨k, hk, hlater⟩ := h.exists_before l k' hk'
    exact hlater.sound (hsound l k hk)

theorem refl (links : List Link) : LinksGrow links links := of_later (.refl links)

theorem concat (links : List Link) : LinksGrow links (links ++ [({} : Link)]) where
  exists_after l k hk := ⟨k, getElem?_concat_of_getElem? hk, .refl k⟩
  sound hsound l k' hk' := by
    rcases of_getElem?_concat hk' with hold | ⟨-, rfl⟩
    · exact hsound l k' hold
    · intro hfinished
      cases hfinished

theorem trans (h : LinksGrow links links') (h' : LinksGrow links' links'') :
    LinksGrow links links'' where
  exists_after l k hk := by
    obtain ⟨k', hk', hlater⟩ := h.exists_after l k hk
    obtain ⟨k'', hk'', hlater'⟩ := h'.exists_after l k' hk'
    exact ⟨k'', hk'', hlater.trans hlater'⟩
  sound hsound := h'.sound (h.sound hsound)

theorem of_answer {s : Network} {d : Driver} {reply : Reply} {locks : LockService}
    (h : Answer s d reply locks links) : LinksGrow s.links links := by
  cases h with
  | lock | other => exact refl _
  | opened => exact concat _
  | event _ hk hnext => exact of_later (.set hk (Link.later_of_next? hnext))

theorem of_effect {s s' : Network} {a : Act} {handovers : List Handover}
    (h : Effect s a s' handovers) : LinksGrow s.links s'.links := by
  cases h with
  | quiet _ _ _ hlinks | stop _ _ _ hlinks => exact of_later hlinks
  | connection _ _ _ _ _ hlinks | loop _ _ _ _ hlinks =>
      rw [hlinks]
      exact refl _
  | move _ _ hanswer _ _ _ hlinks => exact (of_answer hanswer).trans (of_later hlinks)

end LinksGrow

namespace Network

variable {s : Network} {a : Act}

theorem linksGrow_after (s : Network) (a : Act) : LinksGrow s.links (s.after a).links := by
  cases a with
  | attempt c =>
      rw [after]
      split <;> exact .refl _
  | destroy t =>
      obtain ⟨_, _, _, links, heq, hlinks⟩ := s.exists_destroy t
      rw [after, heq]
      rcases hlinks with rfl | ⟨l, rfl⟩
      · exact .refl _
      · exact .of_later (.modify _ _ Link.later_dropReader)
  | _ => exact .of_effect (after_effect s _ rfl)

theorem linksLater_after_step {t : Nat} {m : NextMove} (h : s.nextMove? t = some m) :
    LinksLater m.answered.links (s.after (.step t)).links := by
  rw [after, step_eq_some h, Option.getD_some]
  exact linksLater_performAll (m.noted t) _ _ _

/-- A task that has read the end of its link finds the link closed. -/
structure EndsKnown (s : Network) : Prop where
  sound : ∀ (l : Nat) (k : Link), s.links[l]? = some k → k.IsSound
  closing : ∀ (t l : Nat) (d : Driver), s.drivers[t]? = some d → d.task.point = .closing l →
    ∃ k : Link, s.links[l]? = some k ∧ k.closeRequested = true

theorem EndsKnown.after (h : s.EndsKnown) (a : Act) : (s.after a).EndsKnown := by
  have hgrow := linksGrow_after s a
  refine ⟨hgrow.sound h.sound, fun t l d' hd' hpoint => ?_⟩
  have hstays (d : Driver) (hd : s.drivers[t]? = some d) (hclosing : d.task.point = .closing l) :
      ∃ k' : Link, (s.after a).links[l]? = some k' ∧ k'.closeRequested = true := by
    obtain ⟨k, hk, hclosed⟩ := h.closing t l d hd hclosing
    obtain ⟨k', hk', hlater⟩ := hgrow.exists_after l k hk
    exact ⟨k', hk', hlater.closeRequested hclosed⟩
  cases driverAfter hd' with
  | same hd => exact hstays _ hd hpoint
  | @move m hact hmove =>
      subst hact
      obtain ⟨he, -, reply, hreply, hm⟩ := nextMove?_eq_some hmove
      have hanswer := answer_of_reply? hreply
      have hlater := linksLater_after_step hmove
      generalize m.answered.locks = locks, m.answered.links = links at hanswer hlater
      rw [show m.move.task = _ from congrArg Move.task hm] at hpoint
      rcases Task.closing_of_resume reply hpoint with hbefore | ⟨reason, refuses, hstreaming, hend⟩
      · exact hstays _ (getElem?_drivers he) hbefore
      · -- what was read is the end of this very link
        cases hanswer with
        | lock hlock => cases hlock.symm.trans hstreaming
        | opened hdialing => cases hdialing.symm.trans hstreaming
        | @event l' k k' _ _ hreading hk hnext =>
            obtain rfl : l' = l := Point.streaming.inj (hreading.symm.trans hstreaming)
            cases hend
            obtain ⟨k'', hk'', hlater'⟩ := hlater.exists_after (getElem?_set_of_getElem? hk)
            exact ⟨k'', hk'', hlater'.closeRequested
              (Link.closeRequested_of_next? (h.sound l' k hk) hnext)⟩
        | other _ _ hevent => exact absurd hend (hevent _ _)
  | taken => cases hpoint
  | loop => cases hpoint
  | attempt => cases hpoint

theorem endsKnown_afterAll (hstart : s.EndsKnown) (acts : List Act) :
    (s.afterAll acts).EndsKnown := by
  induction acts generalizing s with
  | nil => exact hstart
  | cons a rest ih => exact ih (hstart.after a)

end Network

end TelemetryGateway
