import TelemetryGateway.Proofs.Network.Effect

/-!
# Loops and their connections

A connection does not hold a lock on itself: a loop sees that no other loop runs, marks the
connection as running and clears the mark at its end.  In every run this is enough
(`Network.Coherent`): at most one loop is engaged with a connection, the phase of the connection is
within the limits of the point of that loop, and a connection without one is at rest.

Since a sink is told about a connection only in the moves of its loop, it follows that the calls of
each connection form a transcript that is open exactly in the phases that own the state of the sink
(`Network.Told`).

* `Network.Coherent.effect`, `Network.coherent_afterAll`: the two are in step, in every run;
* `Network.Coherent.extends_move`, `Network.Told.effect`: the calls of each connection.
-/

namespace TelemetryGateway

namespace Network

/-! ## One loop for a connection -/

/-- Whether a loop is engaged with a connection. -/
def IsDriven (s : Network) (c : Nat) : Prop :=
  ∃ (t : Nat) (d : Driver),
    s.drivers[t]? = some d ∧ d.connection = c ∧ d.task.point.isEngaged = true

/-- The tasks are loops, at most one of them is engaged with each connection, and the connection is
where that loop believes it to be. -/
structure Coherent (s : Network) : Prop where
  isLoop : ∀ (t : Nat) (d : Driver), s.drivers[t]? = some d → d.task.isLoop = true
  exists_connection : ∀ (t : Nat) (d : Driver), s.drivers[t]? = some d →
    ∃ c, s.connections[d.connection]? = some c
  engaged : ∀ (t : Nat) (d : Driver) (c : Connection), s.drivers[t]? = some d →
    s.connections[d.connection]? = some c → d.task.point.isEngaged = true →
    c.running = true ∧ d.task.point.allows c.phase = true
  unique : ∀ (t t' : Nat) (d d' : Driver), s.drivers[t]? = some d → s.drivers[t']? = some d' →
    d.task.point.isEngaged = true → d'.task.point.isEngaged = true →
    d.connection = d'.connection → t = t'
  resting : ∀ (c : Nat) (conn : Connection), s.connections[c]? = some conn → ¬ s.IsDriven c →
    conn.phase.isResting = true

/-- A network without tasks and connections is coherent. -/
theorem coherent_of_nil {s : Network} (htasks : s.tasks = []) (hconnections : s.connections = []) :
    s.Coherent := by
  constructor <;> simp [drivers, htasks, hconnections]

/-- How a move of a task goes with the other tasks of its connection. -/
inductive Fits (s : Network) (t : Nat) (d : Driver) (conn : Connection) (m : Move) : Prop
  /-- The task has nothing to do with the connection, neither before the move nor after it. -/
  | idle : d.task.point.isEngaged = false → m.task.point.isEngaged = false →
      m.connection = conn → Fits s t d conn m
  /-- No other task is engaged with the connection, and it gets where the task believes it to be. -/
  | sole : (∀ (t' : Nat) (d' : Driver), s.drivers[t']? = some d' → t' ≠ t →
        d'.connection = d.connection → d'.task.point.isEngaged = false) →
      (m.task.point.isEngaged = true →
        m.connection.running = true ∧ m.task.point.allows m.connection.phase = true) →
      (m.task.point.isEngaged = false → m.connection.phase.isResting = true) → Fits s t d conn m

variable {s s' : Network}

/-- A task does not become engaged beside another one. -/
theorem Fits.not_engaged {t t' : Nat} {d d' : Driver} {conn : Connection} {m : Move}
    (h : s.Fits t d conn m) (hd' : s.drivers[t']? = some d') (hne : t' ≠ t)
    (hsame : d'.connection = d.connection) (hengaged : d'.task.point.isEngaged = true) :
    m.task.point.isEngaged = false := by
  cases h with
  | idle _ hidle _ => exact hidle
  | sole hothers _ _ =>
      rw [hothers t' d' hd' hne hsame] at hengaged
      cases hengaged

theorem IsDriven.congr {c : Nat} (h : s'.drivers = s.drivers) : s'.IsDriven c ↔ s.IsDriven c := by
  rw [IsDriven, IsDriven, h]

namespace Coherent

/-! ### Acts that move no task -/

theorem quiet (h : s.Coherent) (hdrivers : s'.drivers = s.drivers)
    (hconnections : s'.connections = s.connections) : s'.Coherent := by
  constructor
  case isLoop =>
    rw [hdrivers]
    exact h.isLoop
  case exists_connection =>
    rw [hdrivers, hconnections]
    exact h.exists_connection
  case engaged =>
    rw [hdrivers, hconnections]
    exact h.engaged
  case unique =>
    rw [hdrivers]
    exact h.unique
  case resting =>
    rw [hconnections]
    intro c conn hc hdriven
    exact h.resting c conn hc (mt (IsDriven.congr hdrivers).mpr hdriven)

theorem stop (h : s.Coherent) {c : Nat}
    (hconnections : s'.connections = s.connections.modify c Connection.stop)
    (hdrivers : s'.drivers = s.drivers) : s'.Coherent := by
  -- every connection is what it was, or stopped, and a request to stop keeps it within its limits
  have hback : ∀ (i : Nat) (conn' : Connection), s'.connections[i]? = some conn' →
      ∃ conn : Connection, s.connections[i]? = some conn ∧ (conn' = conn ∨ conn' = conn.stop) := by
    intro i conn' hi
    rw [hconnections, List.getElem?_modify] at hi
    obtain ⟨conn, hconn, rfl⟩ := Option.map_eq_some_iff.mp hi
    refine ⟨conn, hconn, ?_⟩
    split
    · exact .inr rfl
    · exact .inl rfl
  constructor
  case isLoop =>
    rw [hdrivers]
    exact h.isLoop
  case exists_connection =>
    intro t d hd
    rw [hdrivers] at hd
    obtain ⟨conn, hconn⟩ := h.exists_connection t d hd
    exact ⟨_, by rw [hconnections, List.getElem?_modify, hconn]; rfl⟩
  case engaged =>
    intro t d conn' hd hconn' hengaged
    rw [hdrivers] at hd
    obtain ⟨conn, hconn, rfl | rfl⟩ := hback _ _ hconn'
    · exact h.engaged t d conn' hd hconn hengaged
    · obtain ⟨hrunning, hallows⟩ := h.engaged t d conn hd hconn hengaged
      exact ⟨hrunning, Point.allows_stop hallows⟩
  case unique =>
    rw [hdrivers]
    exact h.unique
  case resting =>
    intro i conn' hconn' hdriven
    have hrest := mt (IsDriven.congr hdrivers).mpr hdriven
    obtain ⟨conn, hconn, rfl | rfl⟩ := hback _ _ hconn'
    · exact h.resting i conn' hconn hrest
    · exact Phase.isResting_stop (h.resting i conn hconn hrest)

theorem connection (h : s.Coherent) {conn : Connection}
    (hconnections : s'.connections = s.connections ++ [conn.fresh])
    (hdrivers : s'.drivers = s.drivers) : s'.Coherent := by
  constructor
  case isLoop =>
    rw [hdrivers]
    exact h.isLoop
  case exists_connection =>
    intro t d hd
    rw [hdrivers] at hd
    obtain ⟨old, hold⟩ := h.exists_connection t d hd
    exact ⟨old, by rw [hconnections, getElem?_concat_of_getElem? hold]⟩
  case engaged =>
    intro t d c hd hc hengaged
    rw [hdrivers] at hd
    obtain ⟨old, hold⟩ := h.exists_connection t d hd
    have hc' := getElem?_concat_of_getElem? (a := conn.fresh) hold
    rw [← hconnections, hc] at hc'
    cases hc'
    exact h.engaged t d c hd hold hengaged
  case unique =>
    rw [hdrivers]
    exact h.unique
  case resting =>
    intro i c hc hdriven
    rw [hconnections] at hc
    rcases of_getElem?_concat hc with hold | ⟨-, rfl⟩
    · exact h.resting i c hold (mt (IsDriven.congr hdrivers).mpr hdriven)
    · rfl

theorem loop (h : s.Coherent) {c : Nat} {conn : Connection} {gate : Option Nat}
    (hconn : s.connections[c]? = some conn)
    (hdrivers : s'.drivers = s.drivers ++ [⟨c, gate, .loop⟩])
    (hconnections : s'.connections = s.connections) : s'.Coherent := by
  constructor
  case isLoop =>
    intro t d hd
    rw [hdrivers] at hd
    rcases of_getElem?_concat hd with hold | ⟨-, rfl⟩
    · exact h.isLoop t d hold
    · rfl
  case exists_connection =>
    intro t d hd
    rw [hdrivers] at hd
    rw [hconnections]
    rcases of_getElem?_concat hd with hold | ⟨-, rfl⟩
    · exact h.exists_connection t d hold
    · exact ⟨conn, hconn⟩
  case engaged =>
    intro t d c' hd hc' hengaged
    rw [hdrivers] at hd
    rw [hconnections] at hc'
    rcases of_getElem?_concat hd with hold | ⟨-, rfl⟩
    · exact h.engaged t d c' hold hc' hengaged
    · cases hengaged
  case unique =>
    intro t t' d d' hd hd' hengaged hengaged' hsame
    rw [hdrivers] at hd hd'
    rcases of_getElem?_concat hd with hold | ⟨-, rfl⟩
    · rcases of_getElem?_concat hd' with hold' | ⟨-, rfl⟩
      · exact h.unique t t' d d' hold hold' hengaged hengaged' hsame
      · cases hengaged'
    · cases hengaged
  case resting =>
    intro i c' hc' hdriven
    rw [hconnections] at hc'
    refine h.resting i c' hc' fun ⟨t, d, hd, hi, hengaged⟩ => hdriven ⟨t, d, ?_, hi, hengaged⟩
    rw [hdrivers, getElem?_concat_of_getElem? hd]

/-! ### The move of a task -/

section Move

variable {t : Nat} {d : Driver} {conn : Connection}

/-- Whatever a task is told, its move fits. -/
theorem fits (h : s.Coherent) (reply : Reply) (hd : s.drivers[t]? = some d)
    (hconn : s.connections[d.connection]? = some conn) :
    s.Fits t d conn (d.task.resume conn reply) := by
  cases hengaged : d.task.point.isEngaged with
  | true =>
      have hothers : ∀ (t' : Nat) (d' : Driver), s.drivers[t']? = some d' → t' ≠ t →
          d'.connection = d.connection → d'.task.point.isEngaged = false := by
        intro t' d' hd' hne hsame
        cases hengaged' : d'.task.point.isEngaged with
        | false => rfl
        | true => exact absurd (h.unique t' t d' d hd' hd hengaged' hengaged hsame) hne
      obtain ⟨hrunning, hallows⟩ := h.engaged t d conn hd hconn hengaged
      rcases Task.resume_of_engaged reply (h.isLoop t d hd) hengaged hallows with
        ⟨hstays, hlimits, hmark⟩ | ⟨hleaves, hrest⟩
      · refine .sole hothers (fun _ => ⟨hmark.trans hrunning, hlimits⟩) fun hfalse => ?_
        rw [hstays] at hfalse
        cases hfalse
      · refine .sole hothers (fun htrue => ?_) fun _ => hrest
        rw [hleaves] at htrue
        cases htrue
  | false =>
      obtain ⟨-, hphase, ⟨hidle, hsame⟩ | ⟨hfree, hmark, hpoint⟩⟩ :=
        Task.resume_of_not_engaged (c := conn) reply hengaged
      · exact .idle hengaged hidle hsame
      · -- the loop begins: the mark says that no other one is engaged
        have hnone : ∀ (t' : Nat) (d' : Driver), s.drivers[t']? = some d' →
            d'.connection = d.connection → d'.task.point.isEngaged = false := by
          intro t' d' hd' hsame
          cases hengaged' : d'.task.point.isEngaged with
          | false => rfl
          | true =>
              rw [← hsame] at hconn
              obtain ⟨hrunning, -⟩ := h.engaged t' d' conn hd' hconn hengaged'
              rw [hfree] at hrunning
              cases hrunning
        have hrest : conn.phase.isResting = true := by
          refine h.resting d.connection conn hconn fun ⟨t', d', hd', hsame, hengaged'⟩ => ?_
          rw [hnone t' d' hd' hsame] at hengaged'
          cases hengaged'
        refine .sole (fun t' d' hd' _ hsame => hnone t' d' hd' hsame) (fun _ => ⟨hmark, ?_⟩) ?_
        · rw [hpoint, hphase]
          exact hrest
        · rw [hphase]
          exact fun _ => hrest

section After

variable {m : Move} (hd : s.drivers[t]? = some d)
  (hconn : s.connections[d.connection]? = some conn) (hfits : s.Fits t d conn m)
  (hdrivers : s'.drivers = s.drivers.set t { d with task := m.task })
  (hconnections : s'.connections = s.connections.set d.connection m.connection)

include hd hconn hfits hdrivers hconnections

theorem engaged_of_fits (h : s.Coherent) (t' : Nat) (d' : Driver) (c : Connection)
    (hd' : s'.drivers[t']? = some d') (hc : s'.connections[d'.connection]? = some c)
    (hengaged : d'.task.point.isEngaged = true) :
    c.running = true ∧ d'.task.point.allows c.phase = true := by
  rw [hdrivers] at hd'
  rw [hconnections] at hc
  rcases of_getElem?_set hd' with ⟨rfl, rfl⟩ | ⟨hne, hold⟩
  · rw [getElem?_set_of_getElem? hconn] at hc
    cases hc
    cases hfits with
    | idle _ hidle _ =>
        rw [hidle] at hengaged
        cases hengaged
    | sole _ hstays _ => exact hstays hengaged
  · rcases of_getElem?_set hc with ⟨hsame, rfl⟩ | ⟨-, hcold⟩
    · cases hfits with
      | idle _ _ heq =>
          rw [heq]
          rw [← hsame] at hconn
          exact h.engaged t' d' conn hold hconn hengaged
      | sole hothers _ _ =>
          rw [hothers t' d' hold hne hsame] at hengaged
          cases hengaged
    · exact h.engaged t' d' c hold hcold hengaged

omit hd hconn hconnections in
theorem unique_of_fits (h : s.Coherent) (t₁ t₂ : Nat) (d₁ d₂ : Driver)
    (hd₁ : s'.drivers[t₁]? = some d₁) (hd₂ : s'.drivers[t₂]? = some d₂)
    (hengaged₁ : d₁.task.point.isEngaged = true) (hengaged₂ : d₂.task.point.isEngaged = true)
    (hsame : d₁.connection = d₂.connection) : t₁ = t₂ := by
  rw [hdrivers] at hd₁ hd₂
  rcases of_getElem?_set hd₁ with ⟨rfl, rfl⟩ | ⟨hne₁, hold₁⟩
  · rcases of_getElem?_set hd₂ with ⟨rfl, rfl⟩ | ⟨hne₂, hold₂⟩
    · rfl
    · rw [hfits.not_engaged hold₂ hne₂ hsame.symm hengaged₂] at hengaged₁
      cases hengaged₁
  · rcases of_getElem?_set hd₂ with ⟨rfl, rfl⟩ | ⟨-, hold₂⟩
    · rw [hfits.not_engaged hold₁ hne₁ hsame hengaged₁] at hengaged₂
      cases hengaged₂
    · exact h.unique t₁ t₂ d₁ d₂ hold₁ hold₂ hengaged₁ hengaged₂ hsame

theorem resting_of_fits (h : s.Coherent) (i : Nat) (c : Connection)
    (hc : s'.connections[i]? = some c) (hdriven : ¬ s'.IsDriven i) :
    c.phase.isResting = true := by
  -- nobody is engaged with the connection afterwards, so at most the task that moves was before
  have hpoint : d.connection = i → m.task.point.isEngaged = false := by
    intro hi
    cases hengaged : m.task.point.isEngaged with
    | false => rfl
    | true =>
        refine absurd ⟨t, { d with task := m.task }, ?_, hi, hengaged⟩ hdriven
        rw [hdrivers, getElem?_set_of_getElem? hd]
  have hothers : ∀ (t' : Nat) (d' : Driver), s.drivers[t']? = some d' → t' ≠ t →
      d'.connection = i → d'.task.point.isEngaged = false := by
    intro t' d' hd' hne hi
    cases hengaged : d'.task.point.isEngaged with
    | false => rfl
    | true =>
        refine absurd ⟨t', d', ?_, hi, hengaged⟩ hdriven
        rw [hdrivers, List.getElem?_set_ne fun heq => hne heq.symm, hd']
  have hbefore : (d.connection = i → d.task.point.isEngaged = false) → ¬ s.IsDriven i := by
    rintro hidle ⟨t', d', hd', hi, hengaged⟩
    by_cases ht : t' = t
    · subst ht
      rw [hd] at hd'
      cases hd'
      rw [hidle hi] at hengaged
      cases hengaged
    · rw [hothers t' d' hd' ht hi] at hengaged
      cases hengaged
  rw [hconnections] at hc
  rcases of_getElem?_set hc with ⟨rfl, rfl⟩ | ⟨hne, hold⟩
  · cases hfits with
    | idle hidle _ heq =>
        rw [heq]
        exact h.resting d.connection conn hconn (hbefore fun _ => hidle)
    | sole _ _ hleaves => exact hleaves (hpoint rfl)
  · exact h.resting i c hold (hbefore fun hi => absurd hi.symm hne)

theorem move (h : s.Coherent) (hloop : m.task.isLoop = true) : s'.Coherent := by
  constructor
  case isLoop =>
    intro t' d' hd'
    rw [hdrivers] at hd'
    rcases of_getElem?_set hd' with ⟨rfl, rfl⟩ | ⟨-, hold⟩
    · exact hloop
    · exact h.isLoop t' d' hold
  case exists_connection =>
    intro t' d' hd'
    rw [hdrivers] at hd'
    have hback : ∃ c, s.connections[d'.connection]? = some c := by
      rcases of_getElem?_set hd' with ⟨rfl, rfl⟩ | ⟨-, hold⟩
      · exact ⟨conn, hconn⟩
      · exact h.exists_connection t' d' hold
    obtain ⟨c, hc⟩ := hback
    rw [hconnections]
    by_cases hsame : d'.connection = d.connection
    · exact ⟨_, by rw [hsame, getElem?_set_of_getElem? hconn]⟩
    · exact ⟨c, by rw [List.getElem?_set_ne fun heq => hsame heq.symm, hc]⟩
  case engaged => exact h.engaged_of_fits hd hconn hfits hdrivers hconnections
  case unique => exact h.unique_of_fits hfits hdrivers
  case resting => exact h.resting_of_fits hd hconn hfits hdrivers hconnections

end After

/-- The calls of a move continue what the sink was told. -/
theorem extends_move (h : s.Coherent) (reply : Reply) (hd : s.drivers[t]? = some d)
    (hconn : s.connections[d.connection]? = some conn) :
    Extends conn.phase.ownsCacheState
      (d.task.resume conn reply).connection.phase.ownsCacheState
      (Output.calls (d.task.resume conn reply).outputs) := by
  cases hengaged : d.task.point.isEngaged with
  | true =>
      obtain ⟨-, hallows⟩ := h.engaged t d conn hd hconn hengaged
      exact Task.extends_resume reply hengaged hallows
  | false =>
      obtain ⟨hcalls, hphase, -⟩ := Task.resume_of_not_engaged (c := conn) reply hengaged
      rw [hcalls, hphase]
      exact Extends.nil _

end Move

/-- Whatever happens, the loops and their connections stay coherent. -/
theorem effect (h : s.Coherent) {history : List Handover} {a : Act} (he : Effect s a s' history) :
    s'.Coherent := by
  cases he with
  | quiet hdrivers hconnections => exact h.quiet hdrivers hconnections
  | stop hconnections hdrivers => exact h.stop hconnections hdrivers
  | connection _ _ hconnections hdrivers => exact h.connection hconnections hdrivers
  | loop hconn hdrivers _ hconnections => exact h.loop hconn hdrivers hconnections
  | @move t d conn reply _ _ hd hconn _ hdrivers hconnections =>
      have hloop : (d.task.resume conn reply).task.isLoop = true := by
        rw [Task.isLoop_resume]
        exact h.isLoop t d hd
      exact h.move hd hconn (h.fits reply hd hconn) hdrivers hconnections hloop

end Coherent

theorem coherent_afterAll (hstart : s.Coherent) (acts : List Act)
    (hacts : ∀ a ∈ acts, a.byLoops = true) : (s.afterAll acts).Coherent :=
  afterAll_induction _ (motive := fun s _ => s.Coherent)
    (fun s _ a ha h => h.effect (after_effect s a ha)) hstart acts hacts

/-! ## The calls of a connection -/

/-- The network is coherent, and what each connection has handed over is a transcript that is open
in the phases that own the state of the sink. -/
structure Told (s : Network) (history : List Handover) : Prop where
  coherent : s.Coherent
  transcript : ∀ (c : Nat) (conn : Connection), s.connections[c]? = some conn →
    Transcript conn.phase.ownsCacheState (Handover.callsOf c history)
  origin : ∀ h ∈ history, ∃ conn : Connection,
    s.connections[h.connection]? = some conn ∧ conn.sink = h.sink

theorem told_of_nil (htasks : s.tasks = []) (hconnections : s.connections = []) : s.Told [] where
  coherent := coherent_of_nil htasks hconnections
  transcript := by simp [hconnections]
  origin := by simp

namespace Told

variable {history : List Handover}

/-- Nobody has said anything for a connection that does not exist. -/
theorem callsOf_eq_nil (h : s.Told history) {c : Nat} (hc : s.connections[c]? = none) :
    Handover.callsOf c history = [] := by
  rw [Handover.callsOf, List.map_eq_nil_iff, List.filter_eq_nil_iff]
  intro handover hmem hsame
  obtain ⟨conn, hconn, -⟩ := h.origin handover hmem
  rw [beq_iff_eq.mp hsame, hc] at hconn
  cases hconn

/-- Whatever happens, the calls of the connections stay transcripts. -/
theorem effect (h : s.Told history) {a : Act} {handovers : List Handover}
    (he : Effect s a s' handovers) : s'.Told (history ++ handovers) := by
  refine ⟨h.coherent.effect he, fun c conn' hconn' => ?_, fun handover hmem => ?_⟩
  · rw [Handover.callsOf_append]
    cases he with
    | quiet _ hconnections =>
        rw [hconnections] at hconn'
        rw [Handover.callsOf_nil, List.append_nil]
        exact h.transcript c conn' hconn'
    | stop hconnections =>
        rw [hconnections, List.getElem?_modify] at hconn'
        obtain ⟨conn, hconn, rfl⟩ := Option.map_eq_some_iff.mp hconn'
        rw [Handover.callsOf_nil, List.append_nil]
        have hbefore := h.transcript c conn hconn
        split
        · rwa [Connection.stop, Phase.ownsCacheState_stop]
        · exact hbefore
    | connection _ _ hconnections =>
        rw [hconnections] at hconn'
        rw [Handover.callsOf_nil, List.append_nil]
        rcases of_getElem?_concat hconn' with hold | ⟨rfl, rfl⟩
        · exact h.transcript c conn' hold
        · rw [h.callsOf_eq_nil (List.getElem?_eq_none (Nat.le_refl _))]
          exact .nil
    | loop _ _ _ hconnections =>
        rw [hconnections] at hconn'
        rw [Handover.callsOf_nil, List.append_nil]
        exact h.transcript c conn' hconn'
    | move hd hconn _ _ hconnections =>
        rw [hconnections] at hconn'
        rcases of_getElem?_set hconn' with ⟨rfl, rfl⟩ | ⟨hne, hold⟩
        · rw [Handover.callsOf_ofCalls_self]
          exact h.coherent.extends_move _ hd hconn _ (h.transcript _ _ hconn)
        · rw [Handover.callsOf_ofCalls_of_ne fun heq => hne heq.symm, List.append_nil]
          exact h.transcript c conn' hold
  · rcases List.mem_append.mp hmem with hold | hnew
    · obtain ⟨conn, hconn, hsink⟩ := h.origin handover hold
      obtain ⟨conn', hconn', hfresh⟩ := he.exists_after hconn
      exact ⟨conn', hconn', (Connection.sink_eq_of_fresh hfresh).trans hsink⟩
    · obtain ⟨conn, hconn, hsink⟩ := he.origin handover hnew
      obtain ⟨conn', hconn', hfresh⟩ := he.exists_after hconn
      exact ⟨conn', hconn', (Connection.sink_eq_of_fresh hfresh).trans hsink⟩

end Told

end Network

end TelemetryGateway
