import TelemetryGateway.Proofs.Denylist

/-!
# Screening in the two scopes

The denylist is applied to a notification in one of two ways: update by update, or to the whole of
it at the first rejection.  Both are told here by one relation, `Notification.Sifts`, between the
updates that arrive, those that are accepted and the reasons why the others are not.

* `Notification.Sifts.eq`, `Notification.exists_sifts`: every list of updates is sifted in one way;
* `Notification.screen_update`, `Notification.screen_notification`: what either scope makes of it;
* `Notification.screen_of_isClean`, `Notification.isClean_of_forward`: nothing happens to a
  notification without rejected updates, and nothing else is forwarded;
* `Notification.screening_of_sifted`: the two scopes side by side.
-/

namespace TelemetryGateway

/-- Why updates were rejected, in their order. -/
def Screening.rejected : Screening → List Rejection
  | .forward _ rejected => rejected
  | .drop rejected => rejected

namespace Notification

/-- How updates are sifted by their own paths: those that are accepted and the reasons to reject the
others, both in the order in which they arrive. -/
inductive Sifts : List Update → List Update → List Rejection → Prop
  | nil : Sifts [] [] []
  | accept {u : Update} {updates accepted : List Update} {reasons : List Rejection} :
      u.path.rejection? = none → Sifts updates accepted reasons →
      Sifts (u :: updates) (u :: accepted) reasons
  | reject {u : Update} {updates accepted : List Update} {reason : Rejection}
      {reasons : List Rejection} :
      u.path.rejection? = some reason → Sifts updates accepted reasons →
      Sifts (u :: updates) accepted (reason :: reasons)

/-- No update is rejected. -/
def IsClean (n : Notification) : Prop := ∀ u ∈ n.update, u.path.rejection? = none

variable {n n' : Notification} {updates accepted : List Update} {reasons rejected : List Rejection}
  {scope : RejectionScope}

/-! ## Sifting -/

theorem exists_sifts (updates : List Update) :
    ∃ accepted reasons, Sifts updates accepted reasons := by
  induction updates with
  | nil => exact ⟨[], [], .nil⟩
  | cons u rest ih =>
      obtain ⟨accepted, reasons, hrest⟩ := ih
      cases hpath : u.path.rejection? with
      | none => exact ⟨u :: accepted, reasons, .accept hpath hrest⟩
      | some reason => exact ⟨accepted, reason :: reasons, .reject hpath hrest⟩

/-- There is one way to sift a list of updates. -/
theorem Sifts.eq (h : Sifts updates accepted reasons) :
    updates.filter (fun u => u.path.rejection?.isNone) = accepted ∧
      updates.filterMap (fun u => u.path.rejection?) = reasons := by
  induction h with
  | nil => exact ⟨rfl, rfl⟩
  | accept hpath _ ih => simp [hpath, ih.1, ih.2]
  | reject hpath _ ih => simp [hpath, ih.1, ih.2]

/-- The first reason is that of the first update that is rejected. -/
theorem Sifts.findSome?_eq (h : Sifts updates accepted reasons) :
    updates.findSome? (fun u => u.path.rejection?) = reasons.head? := by
  rw [← h.eq.2, List.head?_filterMap]

/-- Without reasons all updates are accepted. -/
theorem Sifts.eq_of_nil (h : Sifts updates accepted []) : accepted = updates := by
  rw [← h.eq.1, List.filter_eq_self]
  intro u hu
  rw [Option.isNone_iff_eq_none]
  exact List.findSome?_eq_none_iff.mp h.findSome?_eq u hu

/-- Updates of which none is accepted or rejected were not there. -/
theorem Sifts.isEmpty_eq (h : Sifts updates accepted reasons) :
    updates.isEmpty = (accepted.isEmpty && reasons.isEmpty) := by
  cases h <;> simp

/-! ## The two scopes -/

/-- In the scope of an update, a notification is dropped if updates were rejected and neither an
update nor a delete remains; else what is accepted takes the place of what has arrived. -/
theorem screen_update (h : Sifts n.update accepted reasons) :
    n.screen .update =
      if reasons ≠ [] ∧ accepted = [] ∧ n.delete = [] then .drop reasons
      else .forward { n with update := accepted } reasons := by
  have hcond : (!n.update.isEmpty && (accepted.isEmpty && n.delete.isEmpty)) = true ↔
      reasons ≠ [] ∧ accepted = [] ∧ n.delete = [] := by
    rw [h.isEmpty_eq]
    cases accepted <;> cases reasons <;> simp
  simp only [screen, isEmpty, h.eq.1, h.eq.2, hcond]

/-- In the scope of a notification, the first reason drops all of it. -/
theorem screen_notification (h : Sifts n.update accepted reasons) :
    n.screen .notification =
      reasons.head?.elim (.forward n []) (fun first => .drop [first]) := by
  simp only [screen, h.findSome?_eq]
  cases reasons <;> rfl

theorem isClean_iff (h : Sifts n.update accepted reasons) : n.IsClean ↔ reasons = [] := by
  rw [IsClean, ← List.findSome?_eq_none_iff, h.findSome?_eq, List.head?_eq_none_iff]

/-- A notification without rejected updates passes as it is. -/
theorem screen_of_isClean (h : n.IsClean) (scope : RejectionScope) :
    n.screen scope = .forward n [] := by
  obtain ⟨accepted, reasons, hsifts⟩ := exists_sifts n.update
  obtain rfl := (isClean_iff hsifts).mp h
  cases scope with
  | notification => exact screen_notification hsifts
  | update => rw [screen_update hsifts, if_neg fun hdrop => hdrop.1 rfl, hsifts.eq_of_nil]

/-- Nothing that is forwarded has a rejected update. -/
theorem isClean_of_forward (h : n.screen scope = .forward n' rejected) : n'.IsClean :=
  fun u hu => (((of_screen_eq_forward h).2.1 u).mp hu).2

/-- The scope of a notification forwards what has no rejected update, and nothing else. -/
theorem screen_notification_eq_forward_iff :
    n.screen .notification = .forward n' rejected ↔ n.IsClean ∧ n' = n ∧ rejected = [] := by
  obtain ⟨accepted, reasons, hsifts⟩ := exists_sifts n.update
  rw [screen_notification hsifts, isClean_iff hsifts]
  cases reasons with
  | nil => simp [eq_comm]
  | cons reason rest => simp

/-- The scope of an update tells no reason exactly if there is no rejected update. -/
theorem rejected_screen_update_eq_nil_iff : (n.screen .update).rejected = [] ↔ n.IsClean := by
  obtain ⟨accepted, reasons, hsifts⟩ := exists_sifts n.update
  have hreasons : (n.screen .update).rejected = reasons := by
    rw [screen_update hsifts]
    split <;> rfl
  rw [hreasons, isClean_iff hsifts]

/-- How a notification is screened, its updates being sifted.  By updates it is dropped, with all
reasons, if there are some and neither an update nor a delete remains; else it is forwarded with the
accepted updates in the place of its own, and all reasons are told.  As a whole it is dropped with
the first reason, or forwarded as it is.  So it is forwarded as a whole exactly if screening by
updates tells no reason, which then forwards the same; and to screen what was forwarded, in either
scope, changes nothing. -/
theorem screening_of_sifted (n : Notification) : ∃ accepted reasons,
    Sifts n.update accepted reasons ∧
      n.screen .update =
        (if reasons ≠ [] ∧ accepted = [] ∧ n.delete = [] then .drop reasons
        else .forward { n with update := accepted } reasons) ∧
      n.screen .notification =
        reasons.head?.elim (.forward n []) (fun first => .drop [first]) ∧
      ((∃ n' rejected, n.screen .notification = .forward n' rejected) ↔
        (n.screen .update).rejected = []) ∧
      (∀ n' rejected, n.screen .notification = .forward n' rejected →
        n.screen .update = .forward n' []) ∧
      ∀ scope scope' n' rejected, n.screen scope = .forward n' rejected →
        n'.screen scope' = .forward n' [] := by
  obtain ⟨accepted, reasons, hsifts⟩ := exists_sifts n.update
  refine ⟨accepted, reasons, hsifts, screen_update hsifts, screen_notification hsifts, ?_, ?_, ?_⟩
  · rw [rejected_screen_update_eq_nil_iff]
    constructor
    · rintro ⟨n', rejected, h⟩
      exact (screen_notification_eq_forward_iff.mp h).1
    · exact fun h => ⟨n, [], screen_of_isClean h .notification⟩
  · intro n' rejected h
    obtain ⟨hclean, rfl, -⟩ := screen_notification_eq_forward_iff.mp h
    exact screen_of_isClean hclean .update
  · exact fun scope scope' n' rejected h => screen_of_isClean (isClean_of_forward h) scope'

/-- A notification whose only acceptable update stands between two malformed ones, once with and
once without it. -/
example :
    let bad (name : String) : Update := { path := .ofNames ["netconf-state", name] }
    let good : Update := { path := .ofNames ["system"] }
    let reason : Rejection := .bogusRoot "netconf-state"
    let n : Notification := { timestamp := 7, update := [bad "a", good, bad "b"] }
    n.screen .update = .forward { timestamp := 7, update := [good] } [reason, reason] ∧
      n.screen .notification = .drop [reason] ∧
      ({ n with update := [bad "a", bad "b"] } : Notification).screen .update =
        .drop [reason, reason] := by
  decide

end Notification

end TelemetryGateway
