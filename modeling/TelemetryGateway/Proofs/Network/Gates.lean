import TelemetryGateway.Proofs.Lock.Owners
import TelemetryGateway.Proofs.Network.Paired

/-!
# Gates and what is recorded of them

A lock is recorded in up to three places: a loop believes that it has it, the gate of the loop has
marked it, and a registry keeps the name of its target.  In every run these agree, also if tasks
connect without a loop and if loops are taken away: each loop has a gate of its own that has marked
what the loop believes (`Network.Gated`), and the names that a registry records are those that its
gates have marked, each by one gate (`LockService.Faithful`).

* `Network.gated_afterAll`: each loop and its gate agree, in every run;
* `Network.faithful_afterAll`: the gates and the names of a registry agree, in every run.
-/

namespace TelemetryGateway

namespace LockService

variable {locks : LockService}

/-- A registry records the names that its gates have marked; a directory keeps no names beside what
its gates have locked. -/
def Faithful : LockService → Prop
  | .registry r => r.Faithful
  | .directory _ => True

namespace Faithful

theorem gate (h : locks.Faithful) (target : String) : (locks.gate target).2.Faithful := by
  cases locks with
  | registry r => exact LockRegistry.Faithful.gate h target
  | directory d => trivial

theorem tryAcquire (h : locks.Faithful) (gate : Nat) : (locks.tryAcquire gate).2.Faithful := by
  cases locks with
  | registry r => exact LockRegistry.Faithful.tryAcquire h gate
  | directory d => trivial

theorem unlock (h : locks.Faithful) (gate : Nat) : (locks.unlock gate).Faithful := by
  cases locks with
  | registry r => exact LockRegistry.Faithful.unlock h gate
  | directory d => trivial

theorem afterOutputs (h : locks.Faithful) (gate : Option Nat) (outputs : List Output) :
    (locks.afterOutputs gate outputs).Faithful := by
  induction outputs generalizing locks with
  | nil => exact h
  | cons o rest ih =>
      cases o with
      | unlock =>
          refine @ih (gate.elim locks locks.unlock) ?_
          cases gate with
          | none => exact h
          | some g => exact h.unlock g
      | _ => exact ih h

end Faithful

/-- Without a gate nothing can be given back. -/
theorem afterOutputs_none (locks : LockService) (outputs : List Output) :
    locks.afterOutputs none outputs = locks := by
  induction outputs with
  | nil => rfl
  | cons o rest ih => cases o <;> exact ih

end LockService

namespace Network

variable {s s' : Network} {a : Act}

/-- Only new tasks, moves and removals are about tasks and gates. -/
theorem after_cases (s : Network) (a : Act) :
    (∃ t, a = .step t) ∨ (∃ t, a = .destroy t) ∨ (∃ c p, a = .loop c p) ∨ (∃ c, a = .attempt c) ∨
      ((s.after a).drivers = s.drivers ∧ (s.after a).locks = s.locks) := by
  cases a with
  | step t => exact .inl ⟨t, rfl⟩
  | destroy t => exact .inr (.inl ⟨t, rfl⟩)
  | loop c p => exact .inr (.inr (.inl ⟨c, p, rfl⟩))
  | attempt c => exact .inr (.inr (.inr (.inl ⟨c, rfl⟩)))
  | connection conn =>
      refine .inr (.inr (.inr (.inr ?_)))
      rw [after]
      split <;> exact ⟨rfl, rfl⟩
  | disconnect c =>
      exact .inr (.inr (.inr (.inr ⟨drivers_disconnect s c, (disconnect_frame s c).1⟩)))
  | reconnect c =>
      refine .inr (.inr (.inr (.inr ⟨drivers_reconnect s c, ?_⟩)))
      rw [after, reconnect]
      split
      · rfl
      · split <;> rfl
  | abort t =>
      exact .inr (.inr (.inr (.inr ⟨drivers_modifyTask s t fun _ => rfl, rfl⟩)))
  | _ => exact .inr (.inr (.inr (.inr ⟨rfl, rfl⟩)))

/-! ## Gates of loops -/

/-- Every loop has a gate of its own, which has marked what the loop believes.  Who connects without
a loop has none. -/
structure Gated (s : Network) : Prop where
  gate : ∀ (t : Nat) (d : Driver), s.drivers[t]? = some d → d.task.isLoop = true →
    ∃ g, d.gate = some g ∧ s.locks.marks[g]? = some d.task.hasLock
  gateless : ∀ (t : Nat) (d : Driver), s.drivers[t]? = some d → d.task.isLoop = false →
    d.gate = none
  unique : ∀ (t t' g : Nat) (d d' : Driver), s.drivers[t]? = some d → s.drivers[t']? = some d' →
    d.gate = some g → d'.gate = some g → t = t'

namespace Gated

theorem of_nil (htasks : s.tasks = []) : s.Gated := by
  constructor <;> simp [drivers, htasks]

theorem congr (h : s.Gated) (hdrivers : s'.drivers = s.drivers) (hlocks : s'.locks = s.locks) :
    s'.Gated := by
  obtain ⟨hgate, hgateless, hunique⟩ := h
  constructor
  · rwa [hdrivers, hlocks]
  · rwa [hdrivers]
  · rwa [hdrivers]

section Set

variable {t : Nat} {d : Driver} {task : Task}

/-- One task changes, and its gate with it. -/
theorem set (h : s.Gated) (hd : s.drivers[t]? = some d)
    (hdrivers : s'.drivers = s.drivers.set t { d with task }) (hloop : task.isLoop = d.task.isLoop)
    (hmarks : s'.locks.marks =
      d.gate.elim s.locks.marks fun g => s.locks.marks.set g task.hasLock) : s'.Gated := by
  have hold (u : Nat) (d' : Driver) (hd' : s'.drivers[u]? = some d') :
      ∃ d₀ : Driver, s.drivers[u]? = some d₀ ∧ d'.gate = d₀.gate ∧
        d'.task.isLoop = d₀.task.isLoop ∧
        ((u = t ∧ d'.task = task) ∨ (u ≠ t ∧ d' = d₀)) := by
    rw [hdrivers] at hd'
    rcases of_getElem?_set hd' with ⟨rfl, rfl⟩ | ⟨hne, hsame⟩
    · exact ⟨d, hd, rfl, hloop, .inl ⟨rfl, rfl⟩⟩
    · exact ⟨d', hsame, rfl, rfl, .inr ⟨hne, rfl⟩⟩
  constructor
  case gate =>
    intro u d' hd' hisLoop
    obtain ⟨d₀, hd₀, hgate, hsame, hcases⟩ := hold u d' hd'
    obtain ⟨g, hg, hmark⟩ := h.gate u d₀ hd₀ (hsame ▸ hisLoop)
    refine ⟨g, hgate.trans hg, ?_⟩
    rw [hmarks]
    rcases hcases with ⟨rfl, htask⟩ | ⟨hne, rfl⟩
    · obtain rfl := Option.some_inj.mp (hd₀.symm.trans hd)
      rw [hg, Option.elim_some, htask]
      exact getElem?_set_of_getElem? hmark
    · cases hmover : d.gate with
      | none => exact hmark
      | some g' =>
          -- the gates of two tasks are different
          rw [Option.elim_some, List.getElem?_set_ne ?_, hmark]
          rintro rfl
          exact hne (h.unique u t g' _ d hd₀ hd hg hmover)
  case gateless =>
    intro u d' hd' hisLoop
    obtain ⟨d₀, hd₀, hgate, hsame, -⟩ := hold u d' hd'
    exact hgate.trans (h.gateless u d₀ hd₀ (hsame ▸ hisLoop))
  case unique =>
    intro u u' g d₁ d₂ hd₁ hd₂ hg₁ hg₂
    obtain ⟨d₁', hd₁', hgate₁, -⟩ := hold u d₁ hd₁
    obtain ⟨d₂', hd₂', hgate₂, -⟩ := hold u' d₂ hd₂
    exact h.unique u u' g d₁' d₂' hd₁' hd₂' (hgate₁ ▸ hg₁) (hgate₂ ▸ hg₂)

end Set

/-- The gate of a new task was never given to anybody. -/
theorem concat (h : s.Gated) {d : Driver} (hdrivers : s'.drivers = s.drivers ++ [d])
    (hmarks : ∀ (g : Nat) (held : Bool), s.locks.marks[g]? = some held →
      s'.locks.marks[g]? = some held)
    (hgate : d.task.isLoop = true → d.gate = some s.locks.marks.length ∧
      s'.locks.marks[s.locks.marks.length]? = some d.task.hasLock)
    (hgateless : d.task.isLoop = false → d.gate = none) : s'.Gated := by
  -- only loops have gates, and theirs are numbers of marks that exist
  have hlt (t g : Nat) (d₀ : Driver) (hd₀ : s.drivers[t]? = some d₀) (hg : d₀.gate = some g) :
      g < s.locks.marks.length := by
    cases hloop : d₀.task.isLoop with
    | true =>
        obtain ⟨g', hg', hmark⟩ := h.gate t d₀ hd₀ hloop
        obtain rfl := Option.some_inj.mp (hg.symm.trans hg')
        exact (List.getElem?_eq_some_iff.mp hmark).1
    | false =>
        rw [h.gateless t d₀ hd₀ hloop] at hg
        cases hg
  have hnew (g : Nat) (hg : d.gate = some g) : g = s.locks.marks.length := by
    cases hloop : d.task.isLoop with
    | true => exact Option.some_inj.mp (hg.symm.trans (hgate hloop).1)
    | false =>
        rw [hgateless hloop] at hg
        cases hg
  constructor
  case gate =>
    intro t d' hd' hloop
    rw [hdrivers] at hd'
    rcases of_getElem?_concat hd' with hold | ⟨-, rfl⟩
    · obtain ⟨g, hg, hmark⟩ := h.gate t d' hold hloop
      exact ⟨g, hg, hmarks g _ hmark⟩
    · exact ⟨_, hgate hloop⟩
  case gateless =>
    intro t d' hd' hloop
    rw [hdrivers] at hd'
    rcases of_getElem?_concat hd' with hold | ⟨-, rfl⟩
    · exact h.gateless t d' hold hloop
    · exact hgateless hloop
  case unique =>
    intro t t' g d₁ d₂ hd₁ hd₂ hg₁ hg₂
    rw [hdrivers] at hd₁ hd₂
    rcases of_getElem?_concat hd₁ with hold₁ | ⟨rfl, rfl⟩ <;>
      rcases of_getElem?_concat hd₂ with hold₂ | ⟨rfl, rfl⟩
    · exact h.unique t t' g d₁ d₂ hold₁ hold₂ hg₁ hg₂
    · exact absurd (hlt t g d₁ hold₁ hg₁) (by rw [hnew g hg₂]; exact Nat.lt_irrefl _)
    · exact absurd (hlt t' g d₂ hold₂ hg₂) (by rw [hnew g hg₁]; exact Nat.lt_irrefl _)
    · rfl

/-- After a move the marks are what they were, but for the gate of the loop that has moved. -/
theorem marks_after_step (h : s.Gated) {t : Nat} {m : NextMove} (hmove : s.nextMove? t = some m) :
    (s.after (.step t)).locks.marks = m.entry.gate.elim s.locks.marks fun g =>
      s.locks.marks.set g m.move.task.hasLock := by
  obtain ⟨he, -, reply, hreply, hm⟩ := nextMove?_eq_some hmove
  have hd := getElem?_drivers he
  have hanswer := answer_of_reply? hreply
  rw [locks_after_step hmove]
  generalize m.answered.locks = locks, m.answered.links = links at hanswer
  cases hgate : m.entry.gate with
  | none =>
      rw [LockService.afterOutputs_none, Option.elim_none]
      cases hanswer with
      | lock _ hown =>
          rw [show m.entry.driver.gate = none from hgate] at hown
          cases hown
      | opened | event | other => rfl
  | some g =>
      cases hloop : m.entry.task.isLoop with
      | false =>
          rw [show m.entry.gate = none from h.gateless t _ hd hloop] at hgate
          cases hgate
      | true =>
          obtain ⟨g', hg', hmark⟩ := h.gate t _ hd hloop
          obtain rfl := Option.some_inj.mp (hgate.symm.trans hg')
          rw [hm]
          exact marks_of_answer hanswer hgate hmark

theorem after (h : s.Gated) (a : Act) : (s.after a).Gated := by
  obtain ⟨t, rfl⟩ | ⟨t, rfl⟩ | ⟨c, p, rfl⟩ | ⟨c, rfl⟩ | ⟨hdrivers, hlocks⟩ := s.after_cases a
  · -- a task moves
    cases hmove : s.nextMove? t with
    | none => rwa [after_step_of_none hmove]
    | some m =>
        obtain ⟨he, -, reply, -, hm⟩ := nextMove?_eq_some hmove
        refine h.set (getElem?_drivers he) (drivers_after_step hmove) ?_ (h.marks_after_step hmove)
        rw [hm]
        exact Task.isLoop_resume reply
  · -- a task is taken away
    cases he : s.tasks[t]? with
    | none =>
        rw [Network.after, destroy, he]
        exact h
    | some e =>
        refine h.set (getElem?_drivers he) (drivers_destroy he) rfl ?_
        rw [Network.after, locks_destroy he, show e.driver.gate = e.gate from rfl]
        cases e.gate with
        | none => rfl
        | some g => exact LockService.marks_unlock _ _
  · -- a loop is started
    rw [Network.after]
    split
    · rename_i hc
      have hconn := List.getElem?_eq_getElem hc
      obtain ⟨hnumber, hmarks⟩ := s.locks.marks_gate s.connections[c].name
      refine h.concat (d := ⟨c, some (s.locks.gate s.connections[c].name).1, .loop⟩) ?_
        (fun g held hmark => ?_) (fun _ => ⟨?_, ?_⟩) fun hloop => by cases hloop
      · simp [drivers, spawn, Network.addTask, hconn, TaskEntry.driver]
      · simp only [spawn, hconn, Network.addTask, Option.map_some, Option.getD_some, hmarks]
        exact getElem?_concat_of_getElem? hmark
      · rw [hnumber]
      · simp only [spawn, hconn, Network.addTask, Option.map_some, Option.getD_some, hmarks]
        exact List.getElem?_concat_length
    · exact h
  · -- a single attempt is started
    rw [Network.after]
    split
    · refine h.concat (d := ⟨c, none, .attempt⟩) ?_ (fun _ _ => id)
        (fun hloop => by cases hloop) fun _ => rfl
      simp [drivers, connect, Network.addTask, TaskEntry.driver]
    · exact h
  · exact h.congr hdrivers hlocks

end Gated

/-- In every run each loop has a gate of its own that has marked what the loop believes. -/
theorem gated_afterAll (h : s.Gated) (acts : List Act) : (s.afterAll acts).Gated := by
  induction acts generalizing s with
  | nil => exact h
  | cons a rest ih => exact ih (h.after a)

theorem faithful_of_answer {d : Driver} {reply : Reply} {locks : LockService} {links : List Link}
    (h : s.locks.Faithful) (hanswer : Answer s d reply locks links) : locks.Faithful := by
  cases hanswer with
  | lock => exact h.tryAcquire _
  | opened | event | other => exact h

theorem faithful_after (h : s.locks.Faithful) (a : Act) : (s.after a).locks.Faithful := by
  obtain ⟨t, rfl⟩ | ⟨t, rfl⟩ | ⟨c, p, rfl⟩ | ⟨c, rfl⟩ | ⟨-, hlocks⟩ := s.after_cases a
  · cases hmove : s.nextMove? t with
    | none => rwa [after_step_of_none hmove]
    | some m =>
        obtain ⟨-, -, reply, hreply, -⟩ := nextMove?_eq_some hmove
        rw [locks_after_step hmove]
        exact (faithful_of_answer h (answer_of_reply? hreply)).afterOutputs _ _
  · cases he : s.tasks[t]? with
    | none =>
        rw [after, destroy, he]
        exact h
    | some e =>
        rw [after, locks_destroy he]
        cases e.gate with
        | none => exact h
        | some g => exact h.unlock g
  · rw [after]
    split
    · exact h.gate _
    · exact h
  · rw [after]
    split <;> exact h
  · rwa [hlocks]

/-- In every run the names that a registry records are those that its gates have marked. -/
theorem faithful_afterAll (h : s.locks.Faithful) (acts : List Act) :
    (s.afterAll acts).locks.Faithful := by
  induction acts generalizing s with
  | nil => exact h
  | cons a rest ih => exact ih (faithful_after h a)

end Network

end TelemetryGateway
