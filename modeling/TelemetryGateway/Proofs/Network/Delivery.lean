import TelemetryGateway.Proofs.Network.Coherence

/-!
# What the sinks have got

A call that a connection hands over reaches its sink in the same move, and a sink gets nothing else
(`Network.delivers_after`).  So after every run a recorder keeps the calls that were handed to it,
and a cache is what these calls make of a new one (`Network.delivered_afterAll`).

For a cache the calls of a transcript have a simple end: it is connected while a session is open,
and between two sessions it is clear, that is as empty as it was when it was made
(`TargetCache.foldl_receive_of_transcript`). -/

namespace TelemetryGateway

/-! ## Sinks and transcripts -/

theorem Recorder.calls_foldl_receive (r : Recorder) (calls : List SinkCall) :
    (calls.foldl Recorder.receive r).calls.map (·.call) = r.calls.map (·.call) ++ calls := by
  induction calls generalizing r with
  | nil => simp
  | cons call rest ih =>
      rw [List.foldl_cons, ih]
      simp [Recorder.receive]

namespace TargetCache

/-- A cache in which nothing has been left behind. -/
def IsClear (k : TargetCache) : Prop := k.connected = false ∧ k.synced = false ∧ k.values = ∅

theorem isClear_new (name : String) : IsClear { name } := ⟨rfl, rfl, rfl⟩

variable {k : TargetCache}

theorem connected_receive_of_isData {call : SinkCall} (h : call.isData = true) :
    (k.receive call).connected = k.connected := by
  cases call with
  | update n =>
      by_cases hroot : hasRootUpdate n = true
      · rw [receive, update, if_pos hroot]
      · rw [receive, update, if_neg hroot]
  | sync => rfl
  | connect => cases h
  | disconnect => cases h
  | reset => cases h

theorem connected_foldl_receive {data : List SinkCall} (h : ∀ call ∈ data, call.isData = true) :
    (data.foldl receive k).connected = k.connected := by
  induction data generalizing k with
  | nil => rfl
  | cons call rest ih =>
      obtain ⟨hcall, hrest⟩ := List.forall_mem_cons.mp h
      rw [List.foldl_cons, ih hrest, connected_receive_of_isData hcall]

theorem isClear_foldl_receive {word : List SinkCall} (hk : k.IsClear) (h : SessionWord word) :
    (word.foldl receive k).IsClear := by
  cases h with
  | nil => exact hk
  | session _ _ =>
      -- whatever the sessions before were, the last two calls clear the cache
      rw [List.foldl_append]
      exact ⟨rfl, rfl, rfl⟩

/-- A cache that was clear before is connected exactly while a session is open, and otherwise clear
again. -/
theorem foldl_receive_of_transcript {isOpen : Bool} {calls : List SinkCall} (hk : k.IsClear)
    (h : Transcript isOpen calls) :
    (calls.foldl receive k).connected = isOpen ∧
      (isOpen = false → (calls.foldl receive k).IsClear) := by
  cases h with
  | between hword =>
      have hclear := isClear_foldl_receive hk hword
      exact ⟨hclear.1, fun _ => hclear⟩
  | within hword hdata =>
      refine ⟨?_, fun h => by cases h⟩
      rw [List.foldl_append, List.foldl_cons, connected_foldl_receive hdata]
      rfl

end TargetCache

namespace Network

variable {s s' : Network}

/-! ## What reaches the sinks in an act -/

/-- The calls that are handed over in an act reach the recorders and caches that there were before;
an act that makes a new one hands nothing over. -/
structure Delivers (s s' : Network) (handovers : List Handover) : Prop where
  recorder : ∀ (id : Nat) (r' : Recorder), s'.recorders[id]? = some r' →
    (∃ r : Recorder, s.recorders[id]? = some r ∧
      r'.calls.map (·.call) =
        r.calls.map (·.call) ++ Handover.callsTo (.recorder id) handovers) ∨
    (s.hasSink (.recorder id) = false ∧ handovers = [] ∧ r'.calls = [])
  cache : ∀ (id : Nat) (k' : TargetCache), s'.caches.cache? id = some k' →
    (∃ k : TargetCache, s.caches.cache? id = some k ∧
      k' = (Handover.callsTo (.cache id) handovers).foldl TargetCache.receive k) ∨
    (s.hasSink (.cache id) = false ∧ handovers = [] ∧ ∃ name, k' = { name })
  hasSink : ∀ sink, s.hasSink sink = true → s'.hasSink sink = true

theorem delivers_of_eq (hrecorders : s'.recorders = s.recorders) (hcaches : s'.caches = s.caches) :
    Delivers s s' [] where
  recorder id r' hr' := by
    rw [hrecorders] at hr'
    exact .inl ⟨r', hr', by simp⟩
  cache id k' hk' := by
    rw [hcaches] at hk'
    exact .inl ⟨k', hk', rfl⟩
  hasSink sink h := by
    cases sink <;> simpa [Network.hasSink, hrecorders, hcaches] using h

/-- Only the sinks matter for what reaches them. -/
theorem Delivers.of_start {start : Network} {handovers : List Handover}
    (h : Delivers start s' handovers) (hrecorders : start.recorders = s.recorders)
    (hcaches : start.caches = s.caches) : Delivers s s' handovers := by
  have hsinks : start.hasSink = s.hasSink := by
    funext sink
    cases sink <;> simp [Network.hasSink, hrecorders, hcaches]
  obtain ⟨hrecorder, hcache, hkeeps⟩ := h
  rw [hrecorders, hsinks] at hrecorder
  rw [hcaches, hsinks] at hcache
  rw [hsinks] at hkeeps
  exact ⟨hrecorder, hcache, hkeeps⟩

/-! ### The moves of a task -/

section Moves

variable (s : Network) (e : TaskEntry) {c : Connection} {id : Nat}

theorem perform_of_recorder (hsink : c.sink = .recorder id) (o : Output) :
    (s.perform e c o).recorders =
        s.recorders.modify id (fun r => o.call?.toList.foldl Recorder.receive r) ∧
      (s.perform e c o).caches = s.caches := by
  cases o with
  | call call => simp [perform, callSink, hsink, Output.call?]
  | _ => exact ⟨(List.modify_id _ _).symm, rfl⟩

theorem performAll_of_recorder (hsink : c.sink = .recorder id) (outputs : List Output) :
    (s.performAll e c outputs).recorders =
        s.recorders.modify id (fun r => (Output.calls outputs).foldl Recorder.receive r) ∧
      (s.performAll e c outputs).caches = s.caches := by
  induction outputs generalizing s with
  | nil => exact ⟨(List.modify_id _ _).symm, rfl⟩
  | cons o rest ih =>
      obtain ⟨hfirst, hfirst'⟩ := perform_of_recorder s e hsink o
      obtain ⟨hrest, hrest'⟩ := ih (s.perform e c o)
      rw [performAll_cons]
      refine ⟨?_, hrest'.trans hfirst'⟩
      rw [hrest, hfirst, List.modify_modify_eq]
      simp [Function.comp_def]

theorem perform_of_cache (hsink : c.sink = .cache id) (o : Output) :
    (s.perform e c o).recorders = s.recorders ∧
      (s.perform e c o).caches.caches =
        s.caches.caches.modify id (fun k => o.call?.toList.foldl TargetCache.receive k) := by
  cases o with
  | call call => simp [perform, callSink, hsink, Output.call?, CacheRegistry.modify]
  | _ => exact ⟨rfl, (List.modify_id _ _).symm⟩

theorem performAll_of_cache (hsink : c.sink = .cache id) (outputs : List Output) :
    (s.performAll e c outputs).recorders = s.recorders ∧
      (s.performAll e c outputs).caches.caches =
        s.caches.caches.modify id
          (fun k => (Output.calls outputs).foldl TargetCache.receive k) := by
  induction outputs generalizing s with
  | nil => exact ⟨rfl, (List.modify_id _ _).symm⟩
  | cons o rest ih =>
      obtain ⟨hfirst', hfirst⟩ := perform_of_cache s e hsink o
      obtain ⟨hrest', hrest⟩ := ih (s.perform e c o)
      rw [performAll_cons]
      refine ⟨hrest'.trans hfirst', ?_⟩
      rw [hrest, hfirst, List.modify_modify_eq]
      simp [Function.comp_def]

theorem delivers_performAll (outputs : List Output) :
    Delivers s (s.performAll e c outputs)
      (Handover.ofCalls e.connection c.sink (Output.calls outputs)) := by
  cases hsink : c.sink with
  | recorder id =>
      obtain ⟨hrecorders, hcaches⟩ := performAll_of_recorder s e hsink outputs
      constructor
      · intro i r' hr'
        rw [hrecorders, List.getElem?_modify] at hr'
        obtain ⟨r, hr, rfl⟩ := Option.map_eq_some_iff.mp hr'
        refine .inl ⟨r, hr, ?_⟩
        by_cases hi : id = i
        · subst hi
          rw [if_pos rfl, Recorder.calls_foldl_receive, Handover.callsTo_ofCalls_self]
        · rw [if_neg hi, Handover.callsTo_ofCalls_of_ne (by simpa using hi), List.append_nil]
      · intro i k' hk'
        rw [hcaches] at hk'
        exact .inl ⟨k', hk', by rw [Handover.callsTo_ofCalls_of_ne (by simp)]; rfl⟩
      · intro sink h
        cases sink <;> simpa [Network.hasSink, hrecorders, hcaches] using h
  | cache id =>
      obtain ⟨hrecorders, hcaches⟩ := performAll_of_cache s e hsink outputs
      constructor
      · intro i r' hr'
        rw [hrecorders] at hr'
        exact .inl ⟨r', hr', by rw [Handover.callsTo_ofCalls_of_ne (by simp), List.append_nil]⟩
      · intro i k' hk'
        rw [CacheRegistry.cache?, hcaches, List.getElem?_modify] at hk'
        obtain ⟨k, hk, rfl⟩ := Option.map_eq_some_iff.mp hk'
        refine .inl ⟨k, hk, ?_⟩
        by_cases hi : id = i
        · subst hi
          rw [if_pos rfl, Handover.callsTo_ofCalls_self]
        · rw [if_neg hi, Handover.callsTo_ofCalls_of_ne (by simpa using hi)]
          rfl
      · intro sink h
        cases sink <;> simpa [Network.hasSink, hrecorders, hcaches] using h

end Moves

/-! ### Every act -/

theorem delivers_disconnect (s : Network) (c : Nat) : Delivers s (s.disconnect c) [] :=
  delivers_of_eq (disconnect_frame s c).2.1 (disconnect_frame s c).2.2

theorem delivers_reconnect (s : Network) (c : Nat) : Delivers s (s.reconnect c) [] := by
  unfold reconnect
  split
  · exact delivers_of_eq rfl rfl
  · split <;> exact delivers_of_eq rfl rfl

theorem delivers_destroy (s : Network) (t : Nat) : Delivers s (s.destroy t) [] := by
  obtain ⟨_, _, _, _, heq, -⟩ := s.exists_destroy t
  rw [heq]
  exact delivers_of_eq rfl rfl

theorem delivers_step (s : Network) (t : Nat) :
    Delivers s (s.after (.step t)) (s.handovers (.step t)) := by
  show Delivers s ((s.step t).getD s) (((s.nextMove? t).map NextMove.handovers).getD [])
  rw [step_eq]
  cases hmove : s.nextMove? t with
  | none => exact delivers_of_eq rfl rfl
  | some m =>
      obtain ⟨-, -, reply, hreply, -⟩ := nextMove?_eq_some hmove
      obtain ⟨-, -, hrecorders, hcaches⟩ := reply?_frame hreply
      exact (delivers_performAll _ m.entry m.move.outputs).of_start hrecorders hcaches

/-- A new sink has got nothing, and whether a recorder refuses updates does not change what it has
got. -/
theorem delivers_recorder (s : Network) : Delivers s (s.after .recorder) [] where
  recorder id r' hr' := by
    rcases of_getElem?_concat hr' with hold | ⟨rfl, rfl⟩
    · exact .inl ⟨r', hold, by simp⟩
    · exact .inr ⟨by simp [Network.hasSink], rfl, rfl⟩
  cache id k' hk' := .inl ⟨k', hk', rfl⟩
  hasSink sink h := by
    cases sink with
    | recorder id =>
        simp only [Network.hasSink, after, List.length_append, decide_eq_true_eq] at h ⊢
        omega
    | cache id => exact h

theorem delivers_cache (s : Network) (name : String) : Delivers s (s.after (.cache name)) [] where
  recorder id r' hr' := .inl ⟨r', hr', by simp⟩
  cache id k' hk' := by
    rcases of_getElem?_concat hk' with hold | ⟨rfl, rfl⟩
    · exact .inl ⟨k', hold, rfl⟩
    · exact .inr ⟨by simp [Network.hasSink], rfl, name, rfl⟩
  hasSink sink h := by
    cases sink with
    | recorder id => exact h
    | cache id =>
        simp only [Network.hasSink, after, CacheRegistry.make, List.length_append,
          decide_eq_true_eq] at h ⊢
        omega

theorem delivers_refusing (s : Network) (changed : Nat) (on : Bool) :
    Delivers s (s.after (.refusing changed on)) [] where
  recorder id r' hr' := by
    simp only [after, List.getElem?_modify] at hr'
    obtain ⟨r, hr, rfl⟩ := Option.map_eq_some_iff.mp hr'
    refine .inl ⟨r, hr, ?_⟩
    split <;> simp
  cache id k' hk' := .inl ⟨k', hk', rfl⟩
  hasSink sink h := by
    cases sink with
    | recorder id => simpa [Network.hasSink, after] using h
    | cache id => exact h

theorem delivers_after (s : Network) (a : Act) : Delivers s (s.after a) (s.handovers a) := by
  cases a with
  | recorder => exact delivers_recorder s
  | cache name => exact delivers_cache s name
  | connection conn =>
      by_cases hsink : s.hasSink conn.sink = true
      · rw [after, if_pos hsink]
        exact delivers_of_eq rfl rfl
      · rw [after, if_neg hsink]
        exact delivers_of_eq rfl rfl
  | loop c p =>
      by_cases hc : c < s.connections.length
      · rw [after, if_pos hc]
        exact delivers_of_eq rfl rfl
      · rw [after, if_neg hc]
        exact delivers_of_eq rfl rfl
  | attempt c =>
      by_cases hc : c < s.connections.length
      · rw [after, if_pos hc]
        exact delivers_of_eq rfl rfl
      · rw [after, if_neg hc]
        exact delivers_of_eq rfl rfl
  | step t => exact delivers_step s t
  | disconnect c => exact delivers_disconnect s c
  | reconnect c => exact delivers_reconnect s c
  | destroy t => exact delivers_destroy s t
  | refusing id on => exact delivers_refusing s id on
  | _ => exact delivers_of_eq rfl rfl

/-! ## What the sinks have got in a run -/

/-- The connections have told what they have told, and that is what their sinks have got. -/
structure Delivered (s : Network) (history : List Handover) : Prop where
  told : s.Told history
  hasSink : ∀ (c : Nat) (conn : Connection), s.connections[c]? = some conn →
    s.hasSink conn.sink = true
  recorder : ∀ (id : Nat) (r : Recorder), s.recorders[id]? = some r →
    r.calls.map (·.call) = Handover.callsTo (.recorder id) history
  cache : ∀ (id : Nat) (k : TargetCache), s.caches.cache? id = some k →
    ∃ name, k = (Handover.callsTo (.cache id) history).foldl TargetCache.receive { name }

theorem delivered_of_new (pools : List SlotPool) (locks : LockService) :
    Delivered { pools, locks } [] where
  told := told_of_nil rfl rfl
  hasSink := by simp
  recorder := by simp
  cache := by simp [CacheRegistry.cache?]

namespace Delivered

variable {history : List Handover}

/-- A sink that does not exist has got nothing. -/
theorem callsTo_eq_nil (h : s.Delivered history) {sink : SinkRef} (hsink : s.hasSink sink = false) :
    Handover.callsTo sink history = [] := by
  rw [Handover.callsTo, List.map_eq_nil_iff, List.filter_eq_nil_iff]
  intro handover hmem hsame
  obtain ⟨conn, hconn, horigin⟩ := h.told.origin handover hmem
  have := h.hasSink _ conn hconn
  rw [horigin, beq_iff_eq.mp hsame, hsink] at this
  cases this

/-- A sink that only one connection has got what that connection has handed over. -/
theorem callsTo_eq_callsOf (h : s.Delivered history) {c : Nat} {conn : Connection}
    (hconn : s.connections[c]? = some conn)
    (hown : ∀ (c' : Nat) (conn' : Connection), s.connections[c']? = some conn' →
      conn'.sink = conn.sink → c' = c) :
    Handover.callsTo conn.sink history = Handover.callsOf c history := by
  rw [Handover.callsTo, Handover.callsOf]
  congr 1
  apply List.filter_congr
  intro handover hmem
  obtain ⟨conn', hconn', horigin⟩ := h.told.origin handover hmem
  rw [Bool.eq_iff_iff, beq_iff_eq, beq_iff_eq]
  constructor
  · intro hsink
    exact hown _ conn' hconn' (horigin.trans hsink)
  · rintro rfl
    rw [hconn] at hconn'
    cases hconn'
    exact horigin.symm

theorem after (h : s.Delivered history) {a : Act} (ha : a.byLoops = true) :
    (s.after a).Delivered (history ++ s.handovers a) := by
  have hnew := delivers_after s a
  have heffect := after_effect s a ha
  constructor
  case told =>
    exact h.told.effect heffect
  case hasSink =>
    intro c conn' hconn'
    apply hnew.hasSink
    rcases heffect.exists_before hconn' with ⟨conn, hconn, hfresh⟩ | ⟨conn, -, hsink, rfl⟩
    · rw [Connection.sink_eq_of_fresh hfresh]
      exact h.hasSink c conn hconn
    · exact hsink
  case recorder =>
    intro id r' hr'
    rw [Handover.callsTo_append]
    rcases hnew.recorder id r' hr' with ⟨r, hr, hcalls⟩ | ⟨hnone, hsilent, hcalls⟩
    · rw [hcalls, h.recorder id r hr]
    · rw [h.callsTo_eq_nil hnone, hsilent, hcalls]
      rfl
  case cache =>
    intro id k' hk'
    rw [Handover.callsTo_append]
    rcases hnew.cache id k' hk' with ⟨k, hk, rfl⟩ | ⟨hnone, hsilent, name, rfl⟩
    · obtain ⟨name, hname⟩ := h.cache id k hk
      exact ⟨name, by rw [List.foldl_append, ← hname]⟩
    · rw [h.callsTo_eq_nil hnone, hsilent]
      exact ⟨name, rfl⟩

end Delivered

theorem delivered_afterAll (hstart : s.Delivered []) (acts : List Act)
    (hacts : ∀ a ∈ acts, a.byLoops = true) : (s.afterAll acts).Delivered (s.history acts) :=
  afterAll_induction _ (fun _ _ _ ha h => h.after ha) hstart acts hacts

/-! ## The sink of one connection -/

/-- In every run the calls of a connection to its sink are the beginning of a session word, and a
session is open exactly while the phase owns the state of the sink.  If no other connection has the
sink, a recorder keeps just these calls, and a cache is connected in the phases connected, synced
and stopping and clear in all others. -/
theorem sessions_of_connection (pools : List SlotPool) (locks : LockService) (acts : List Act)
    (hacts : ∀ a ∈ acts, a.byLoops = true) (c : Nat) (conn : Connection)
    (hconn : (afterAll { pools, locks } acts).connections[c]? = some conn) :
    let s := afterAll { pools, locks } acts
    let calls := Handover.callsOf c (history { pools, locks } acts)
    (∃ word, SessionWord word ∧ calls <+: word) ∧
      calls.count .connect = calls.count .disconnect + conn.phase.ownsCacheState.toNat ∧
      (conn.phase.ownsCacheState = false → SessionWord calls) ∧
      ((∀ (c' : Nat) (conn' : Connection), s.connections[c']? = some conn' →
          conn'.sink = conn.sink → c' = c) →
        (∀ id, conn.sink = .recorder id → ∃ r : Recorder, s.recorders[id]? = some r ∧
          r.calls.map (·.call) = calls) ∧
        (∀ id, conn.sink = .cache id → ∃ k : TargetCache, s.caches.cache? id = some k ∧
          (k.connected = true ↔
            conn.phase = .connected ∨ conn.phase = .synced ∨ conn.phase = .stopping) ∧
          (k.connected = false → k.synced = false ∧ k.values = ∅))) := by
  intro s calls
  have h : s.Delivered (history { pools, locks } acts) :=
    delivered_afterAll (delivered_of_new pools locks) acts hacts
  have htranscript : Transcript conn.phase.ownsCacheState calls := h.told.transcript c conn hconn
  have hexists := h.hasSink c conn hconn
  refine ⟨htranscript.exists_word, htranscript.count_connect, fun hphase => ?_, fun hown => ?_⟩
  · rw [hphase] at htranscript
    exact htranscript.sessionWord
  · have hgot := h.callsTo_eq_callsOf hconn hown
    refine ⟨fun id hid => ?_, fun id hid => ?_⟩
    · rw [hid] at hgot hexists
      have hlt : id < s.recorders.length := by simpa [Network.hasSink] using hexists
      refine ⟨s.recorders[id], List.getElem?_eq_getElem hlt, ?_⟩
      rw [h.recorder id _ (List.getElem?_eq_getElem hlt), hgot]
    · rw [hid] at hgot hexists
      have hlt : id < s.caches.caches.length := by simpa [Network.hasSink] using hexists
      obtain ⟨name, hname⟩ := h.cache id _ (List.getElem?_eq_getElem hlt)
      obtain ⟨hconnected, hclear⟩ :=
        TargetCache.foldl_receive_of_transcript (TargetCache.isClear_new name) htranscript
      rw [hgot] at hname
      refine ⟨_, List.getElem?_eq_getElem hlt, ?_, fun hfalse => ?_⟩
      · rw [hname, hconnected, Phase.ownsCacheState_iff]
      · rw [hname, hconnected] at hfalse
        rw [hname]
        exact (hclear hfalse).2

/-- After its first message a connection has told its cache so. -/
theorem sessions_of_connection_first_message :
    let acts : List Act := .cache "leaf1" ::
      Act.untilFirstMessage (.plain "leaf1" (.cache 0)) 0 0 0 .synced
    let s : Network :=
      afterAll { pools := [{ capacity := 1, available := 1 }], locks := .registry {} } acts
    ∃ (conn : Connection) (k : TargetCache), s.connections[0]? = some conn ∧
      conn.phase = .synced ∧ s.caches.cache? 0 = some k ∧ k.connected = true := by
  intro acts s
  have hown : ∀ (c' : Nat) (conn' : Connection), s.connections[c']? = some conn' →
      conn'.sink = .cache 0 → c' = 0 := by
    intro c' conn' hconn' _
    have hlt := (List.getElem?_eq_some_iff.mp hconn').1
    have hlength : s.connections.length = 1 := rfl
    omega
  obtain ⟨-, -, -, hsink⟩ := sessions_of_connection [{ capacity := 1, available := 1 }]
    (.registry {}) acts (by decide) 0 _ rfl
  obtain ⟨k, hk, hconnected, -⟩ := (hsink hown).2 0 rfl
  exact ⟨_, k, rfl, rfl, hk, hconnected.mpr (.inr (.inl rfl))⟩

end Network

end TelemetryGateway
