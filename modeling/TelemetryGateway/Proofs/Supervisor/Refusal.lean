import TelemetryGateway.Proofs.Supervisor.Reconciliation

/-!
# Refused configurations

A configuration is looked at twice: `validate` looks for faults before anything is touched, and the
loop that brings the targets up to date looks up the request of every target, when other targets
have been stopped already.  A failure of the second lookup would leave a supervisor halfway between
two configurations.

The two lookups agree: `Supervisor.exists_foldlM_reconcile` says that the loop never fails on a
configuration that was accepted, from whatever supervisor it starts.  So `apply` refuses what
`validate` refuses, with the same error, and it refuses before it has changed anything
(`Supervisor.refuses_iff_invalid`).
-/

namespace TelemetryGateway.Supervisor

variable {c : TargetConfiguration}

/-! ## The loop on an accepted configuration -/

/-- A target with a request is brought up to date, whatever has been done before. -/
theorem exists_reconcile {entry : String × TargetDescriptor} {request : SubscribeRequest}
    (hrequest : c.requestFor? entry.2 = some request) (s : Supervisor) (summary : ApplySummary) :
    ∃ next, reconcile c (s, summary) entry = .ok next := by
  cases hkeeps : s.keeps c entry with
  | true => exact ⟨_, reconcile_of_keeps hkeeps⟩
  | false => exact ⟨_, reconcile_of_not_keeps hrequest hkeeps⟩

/-- If every target has a request, the loop gets to its end. -/
theorem exists_foldlM_reconcile (entries : List (String × TargetDescriptor))
    (hrequest : ∀ entry ∈ entries, ∃ request, c.requestFor? entry.2 = some request)
    (state : Supervisor × ApplySummary) :
    ∃ next, entries.foldlM (reconcile c) state = .ok next := by
  induction entries generalizing state with
  | nil => exact ⟨state, rfl⟩
  | cons entry rest ih =>
      obtain ⟨request, hentry⟩ := hrequest entry List.mem_cons_self
      obtain ⟨next, hnext⟩ := exists_reconcile hentry state.1 state.2
      obtain ⟨last, hlast⟩ := ih (fun e he => hrequest e (List.mem_cons_of_mem _ he)) next
      exact ⟨last, by rw [List.foldlM_cons, hnext]; exact hlast⟩

/-! ## Two outcomes -/

/-- A configuration that is refused leaves the supervisor as it is. -/
theorem apply_of_invalid {e : GatewayError} (h : c.validate = .error e) (s : Supervisor) :
    s.apply c = (.error e, s) := by
  unfold TargetConfiguration.validate at h
  unfold apply
  cases hfault : c.fault? with
  | none => simp [hfault] at h
  | some fault =>
      rw [hfault] at h
      cases h
      rfl

/-- A configuration that is accepted is applied to every supervisor, also to one whose books are
not in order. -/
theorem exists_apply_of_valid (h : c.validate = .ok ()) (s : Supervisor) :
    ∃ summary s', s.apply c = (.ok summary, s') := by
  have hfault : c.fault? = none := by
    unfold TargetConfiguration.validate at h
    cases hfault : c.fault? with
    | none => rfl
    | some fault => simp [hfault] at h
  obtain ⟨⟨s', summary⟩, hfold⟩ := exists_foldlM_reconcile c.targets.entries
    (fun _ hentry => TargetConfiguration.exists_requestFor? h hentry)
    ((s.departed c).foldl removeTarget s.countApply, { removed := s.departed c })
  exact ⟨summary, s', apply_eq_ok_iff.mpr ⟨hfault, hfold⟩⟩

/-- Whether a configuration is refused, and with which error, is decided by `validate` alone.  A
refusal leaves the supervisor as it is: its targets and counters, and the network with all
connections, tasks, caches, slots and locks.  In an accepted configuration no target can be without
a usable request when the loop comes to it. -/
theorem refuses_iff_invalid (s : Supervisor) (c : TargetConfiguration) :
    (∀ e, (s.apply c).1 = .error e ↔ c.validate = .error e) ∧
      (∀ e, (s.apply c).1 = .error e → (s.apply c).2 = s) ∧
      (c.validate = .ok () → ∀ entry ∈ c.targets.entries, ∀ state,
        ∃ next, reconcile c state entry = .ok next) := by
  have hrefused : ∀ e, (s.apply c).1 = .error e ↔ c.validate = .error e := by
    intro e
    constructor
    · intro hresult
      cases hvalid : c.validate with
      | error e' =>
          rw [apply_of_invalid hvalid] at hresult
          cases hresult
          rfl
      | ok =>
          obtain ⟨summary, s', happly⟩ := exists_apply_of_valid hvalid s
          rw [happly] at hresult
          cases hresult
    · exact fun hinvalid => by rw [apply_of_invalid hinvalid]
  refine ⟨hrefused, fun e hresult => ?_, fun hvalid entry hentry state => ?_⟩
  · rw [apply_of_invalid ((hrefused e).mp hresult)]
  · obtain ⟨request, hrequest⟩ := TargetConfiguration.exists_requestFor? hvalid hentry
    exact exists_reconcile hrequest state.1 state.2

/-- One target is as before, one is gone, and the last one asks for a template that does not
exist. -/
def brokenTargets : TargetConfiguration :=
  { fourTargets with
    targets := .ofList [("leaf1", { addresses := ["10.0.0.1"], request := "default" }),
      ("leaf3", { addresses := ["10.0.0.3"], request := "missing" })] }

/-- A reload whose last target has no request stops none of the four targets before. -/
theorem refuses_brokenTargets :
    (∃ e, (ofFour.apply brokenTargets).1 = .error e) ∧
      (ofFour.apply brokenTargets).2 = ofFour ∧
      ∃ next, reconcile otherTargets (ofFour, {})
        ("leaf3", { addresses := ["10.0.1.3"], request := "same" }) = .ok next := by
  have hbroken : brokenTargets.fault? = some (.unknownRequest "leaf3" "missing") := by
    decide +kernel
  have hother : otherTargets.fault? = none := by decide +kernel
  obtain ⟨hrefused, hsame, -⟩ := refuses_iff_invalid ofFour brokenTargets
  have herror := (hrefused (.ofFault (.unknownRequest "leaf3" "missing"))).mpr
    (by rw [TargetConfiguration.validate, hbroken])
  exact ⟨⟨_, herror⟩, hsame _ herror,
    (refuses_iff_invalid ofFour otherTargets).2.2
      (by rw [TargetConfiguration.validate, hother]) _ (by decide +kernel) _⟩

end TelemetryGateway.Supervisor
