import TelemetryGateway.Proofs.Network.Dials
import TelemetryGateway.Proofs.Supervisor.Liveness

/-!
# Applying a configuration again

A supervisor tells by the descriptor and the template of a connection whether a target is still as
it is configured.  Neither of them changes while its loop dials, is refused and dials again, so a
configuration that is applied twice is kept as a whole the second time.

* `Supervisor.Reconciled.kept_eq`, `Supervisor.Reconciled.eq_of_configured`: what is as it is
  configured is kept, and nothing else happens;
* `Supervisor.exists_apply_again`: so it is with the configuration that was applied last;
* `Supervisor.aimed_of_reachable`: the tasks of a supervisor dial the queries of their connections;
* `Supervisor.queries_of_redials`: the queries of all dials of a connection, and what they leave as
  it was.
-/

namespace TelemetryGateway

/-- Whether a connection is as it is configured can be told from what it was made for. -/
theorem Connection.IsConfigured.of_fresh {conn conn' : Connection} {c : TargetConfiguration}
    {d : TargetDescriptor} (h : conn.IsConfigured c d) (hfresh : conn'.fresh = conn.fresh) :
    conn'.IsConfigured c d where
  addresses := (congrArg (·.descriptor.addresses) hfresh).trans h.addresses
  credentials := (congrArg (·.descriptor.credentials) hfresh).trans h.credentials
  request := h.request.trans (congrArg (fun conn => some conn.request) hfresh).symm

/-- Nothing that a supervisor does to its network makes a task dial anything else. -/
theorem Network.isKept_aimed : IsKept Aimed where
  after h _ := h.after _
  report _ _ h := h
  caches _ h := h
  abort t h := by
    intro t' d q hd
    rw [show (Network.abort _ t).drivers = _ from drivers_modifyTask _ t fun _ => rfl] at hd
    exact h t' d q hd
  enlist h hs' _ := by
    intro t d q hd hpoint
    rw [hs'.drivers] at hd
    rcases of_getElem?_concat hd with hold | ⟨-, rfl⟩
    · obtain ⟨conn, hconn, hquery⟩ := h t d q hold hpoint
      exact ⟨conn, by rw [hs'.connections, getElem?_concat_of_getElem? hconn], hquery⟩
    · cases hpoint

namespace Supervisor

variable {c : TargetConfiguration} {s s' : Supervisor} {summary : ApplySummary}

section Configured

variable (h : Reconciled s c summary s')
  (hconfigured : ∀ name d, c.targets.get? name = some d → ∃ i conn,
    s.connection? name = some i ∧ s.network.connections[i]? = some conn ∧ conn.IsConfigured c d)

include h hconfigured

namespace Reconciled

/-- If each configured target is there as it is configured, all of them are kept. -/
theorem kept_eq : summary.kept = c.targets.keys := by
  refine Dictionary.eq_of_ascending (f := id) h.ascending.2.2.2 c.targets.pairwise_keys
    fun name => ⟨fun hname => ((h.mem_both name).mp (.inl hname)).1, fun hname => ?_⟩
  obtain ⟨d, hd⟩ := Dictionary.contains_iff.mp (Dictionary.mem_keys_iff.mp hname)
  obtain ⟨i, conn, hi, hconn, hconf⟩ := hconfigured name d hd
  obtain ⟨conn', hconn', hiff⟩ := h.mem_kept name i d hi hd
  obtain rfl := Option.some_inj.mp (hconn'.symm.trans hconn)
  exact hiff.mpr hconf

theorem replaced_eq_nil : summary.replaced = [] := by
  refine List.eq_nil_iff_forall_not_mem.mpr fun name hname => ?_
  -- it would be kept and replaced
  have hkept : name ∈ summary.kept := by
    rw [h.kept_eq hconfigured]
    exact ((h.mem_both name).mp (.inr hname)).1
  exact (List.nodup_append.mp h.nodup).2.2 name (by simp [hname]) name hkept rfl

/-- If the targets are the configured ones, each as it is configured, nothing else happens. -/
theorem eq_of_configured (hkeys : s.targets.keys = c.targets.keys) :
    summary = { kept := c.targets.keys } ∧ s'.targets = s.targets := by
  have hkept := h.kept_eq hconfigured
  have hreplaced := h.replaced_eq_nil hconfigured
  have hremoved : summary.removed = [] := List.eq_nil_iff_forall_not_mem.mpr fun name hname => by
    obtain ⟨hmem, hnot⟩ := (h.mem_removed name).mp hname
    exact hnot (hkeys ▸ hmem)
  have hadded : summary.added = [] := List.eq_nil_iff_forall_not_mem.mpr fun name hname => by
    obtain ⟨hmem, hnot⟩ := (h.mem_added name).mp hname
    exact hnot (hkeys ▸ hmem)
  refine ⟨?_, Dictionary.eq_of_get? fun name => ?_⟩
  · obtain ⟨added, replaced, removed, kept⟩ := summary
    simp_all
  · by_cases hname : name ∈ summary.kept
    · exact (h.kept name hname).1
    · have hnone : ∀ targets : Dictionary SupervisedTarget, targets.keys = c.targets.keys →
          targets.get? name = none := by
        intro targets heq
        rw [hkept, ← heq, Dictionary.mem_keys_iff, Dictionary.contains] at hname
        simpa using hname
      rw [hnone s'.targets h.keys, hnone s.targets hkeys]

end Reconciled

end Configured

theorem Reachable.of_apply {config : GatewayConfig} {locks : LockService}
    (hs : Reachable config locks s) (happly : s.apply c = (.ok summary, s')) :
    Reachable config locks s' := by
  have h := hs.apply c
  rwa [happly] at h

/-- Whatever the tasks of the targets do in between, a configuration that is applied again changes
nothing. -/
theorem exists_apply_again {config : GatewayConfig} {locks : LockService}
    (hs : Reachable config locks s) (happly : s.apply c = (.ok summary, s')) {acts : List Act}
    (hacts : s'.network.admitsAll acts = true) :
    ∃ s'', (s'.onNetwork (·.afterAll acts)).apply c = (.ok { kept := c.targets.keys }, s'') ∧
      s''.targets = s'.targets := by
  have hfault := (apply_eq_ok_iff.mp happly).1
  obtain ⟨first, after, happly', hfirst⟩ := exists_reconciled (staffed_of_reachable hs) hfault
  obtain ⟨rfl, rfl⟩ : first = summary ∧ after = s' := by
    rw [happly'] at happly
    cases happly
    exact ⟨rfl, rfl⟩
  obtain ⟨second, s'', hagain, hsecond⟩ :=
    exists_reconciled (staffed_of_reachable ((hs.of_apply happly).afterAll hacts)) hfault
  have hconfigured : ∀ name d, c.targets.get? name = some d → ∃ i conn,
      (after.onNetwork (·.afterAll acts)).connection? name = some i ∧
        (after.network.afterAll acts).connections[i]? = some conn ∧ conn.IsConfigured c d := by
    intro name d hd
    obtain ⟨i, conn, hi, hconn, hconf⟩ := hfirst.configured name d hd
    obtain ⟨conn', hconn', hfresh⟩ := Network.exists_fresh_afterAll hconn acts
    exact ⟨i, conn', hi, hconn', hconf.of_fresh hfresh⟩
  obtain ⟨rfl, htargets⟩ := hsecond.eq_of_configured hconfigured hfirst.keys
  exact ⟨s'', hagain, htargets⟩

theorem aimed_of_reachable {config : GatewayConfig} {locks : LockService}
    (hs : Reachable config locks s) : s.network.Aimed :=
  kept_of_reachable Network.isKept_aimed (fun _ htasks _ => Network.aimed_of_nil htasks) hs

/-- The queries of a connection do not drift, with a supervisor or without one.  In any run, all
queries that its tasks dial are the same one; it can be dialed and carries the name, the descriptor,
the settings and the template of the connection, with at most the target designator filled in, and a
connection without such a query never dials.  Nothing of this changes what the connection was made
for, so the configuration that was applied last keeps all targets when it is applied again. -/
theorem queries_of_redials :
    (∀ (pools : List SlotPool) (locks : LockService) (acts : List Act) (id : Nat)
        (conn : Connection), (Network.afterAll { pools, locks } acts).connections[id]? = some conn →
      Network.Redials { pools, locks } acts id conn) ∧
    ∀ (config : GatewayConfig) (locks : LockService) (s s' : Supervisor)
        (c : TargetConfiguration) (summary : ApplySummary) (acts : List Act),
      Reachable config locks s → s.apply c = (.ok summary, s') →
      s'.network.admitsAll acts = true →
      (∀ (id : Nat) (conn : Connection), (s'.network.afterAll acts).connections[id]? = some conn →
        s'.network.Redials acts id conn) ∧
      ∃ s'', (s'.onNetwork (·.afterAll acts)).apply c = (.ok { kept := c.targets.keys }, s'') ∧
        s''.targets = s'.targets := by
  constructor
  · intro pools locks acts id conn hconn
    exact Network.redials_afterAll (Network.aimed_of_nil rfl) acts hconn
  · intro config locks s s' c summary acts hs happly hacts
    have haimed := aimed_of_reachable (hs.of_apply happly)
    exact ⟨fun id conn hconn => Network.redials_afterAll haimed acts hconn,
      exists_apply_again hs happly hacts⟩

/-- The acts by which the first dial of a loop is refused and it dials again after its pause. -/
def redialing : List Act :=
  .device { failing := 1 } :: List.replicate 10 (.step 0) ++ [.clock 60000] ++
    List.replicate 6 (.step 0)

/-- A dial that was refused is made again with the same query, and the supervisor keeps the target.
-/
theorem queries_of_redials_after_refusal :
    let start : Network :=
      { pools := [{ capacity := 1, available := 1 }], locks := .registry {} }
    let acts : List Act :=
      [.recorder, .connection (.plain "leaf1" (.recorder 0)), .loop 0 0] ++ redialing
    (∃ q conn, start.dialed 0 acts = [q, q] ∧
      (start.afterAll acts).connections[0]? = some conn ∧ conn.Asks q) ∧
    ∃ s s' s'', Supervisor.new {} (.registry {}) = .ok s ∧
      s.apply (oneTarget "10.0.0.1") = (.ok { added := ["leaf1"] }, s') ∧
      (s'.network.dialed 0 redialing).length = 2 ∧
      (s'.onNetwork (·.afterAll redialing)).apply (oneTarget "10.0.0.1") =
        (.ok { kept := ["leaf1"] }, s'') := by
  intro start acts
  constructor
  · have hconn : ((start.afterAll acts).connections[0]?).isSome = true := by decide +kernel
    obtain ⟨conn, hconn⟩ := Option.isSome_iff_exists.mp hconn
    have h : start.Redials acts 0 conn :=
      queries_of_redials.1 [{ capacity := 1, available := 1 }] (.registry {}) acts 0 conn hconn
    have htwo : (start.dialed 0 acts).length = 2 := by decide +kernel
    obtain ⟨q, q', hdialed⟩ := List.length_eq_two.mp htwo
    have hq : q ∈ start.dialed 0 acts := by simp [hdialed]
    have hq' : q' ∈ start.dialed 0 acts := by simp [hdialed]
    obtain rfl := h.equal q hq q' hq'
    exact ⟨q, conn, hdialed, hconn, h.asks q hq⟩
  · obtain ⟨s, hnew, happly, hacts, hdialed⟩ : ∃ s, Supervisor.new {} (.registry {}) = .ok s ∧
        (s.apply (oneTarget "10.0.0.1")).1.toOption = some { added := ["leaf1"] } ∧
        (s.apply (oneTarget "10.0.0.1")).2.network.admitsAll redialing = true ∧
        ((s.apply (oneTarget "10.0.0.1")).2.network.dialed 0 redialing).length = 2 :=
      ⟨_, rfl, by decide +kernel, by decide +kernel, by decide +kernel⟩
    have happly := apply_eq_of_toOption happly
    obtain ⟨-, s'', hagain, -⟩ :=
      queries_of_redials.2 {} (.registry {}) s _ (oneTarget "10.0.0.1") _ redialing (.new hnew)
        happly hacts
    exact ⟨s, _, s'', hnew, happly, hdialed, hagain⟩

end Supervisor

end TelemetryGateway
