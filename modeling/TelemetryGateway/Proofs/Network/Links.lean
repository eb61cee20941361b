import TelemetryGateway.Proofs.Network.Effect

/-!
# Links and the loops that read them

A link is opened for a dial and read by the loop that has dialed, which leaves it only after its
end. So a link that is not closed is always in the hands of a loop (`LinksHeld`), and no loop has
two of them: the open links are no more than the loops inside an attempt to connect.

* `LinksHeld.answer`: what a loop is told leaves every open link with a loop;
* `LinksHeld.effect`: and so does everything that happens.
-/

namespace TelemetryGateway

/-- A link that is not closed is in the hands of a loop, which does not go on before it is closed.
-/
structure LinksHeld (drivers : List Driver) (links : List Link) : Prop where
  sound : ∀ (l : Nat) (k : Link), links[l]? = some k → k.IsSound
  held : ∀ (l : Nat) (k : Link), links[l]? = some k → k.closeRequested = false →
    ∃ (t : Nat) (d : Driver), drivers[t]? = some d ∧ d.task.point.link? = some l
  closing : ∀ (t l : Nat) (d : Driver), drivers[t]? = some d → d.task.point = .closing l →
    ∃ k : Link, links[l]? = some k ∧ k.closeRequested = true

namespace LinksHeld

variable {drivers : List Driver} {links links' : List Link}

theorem later (h : LinksHeld drivers links) (hlater : LinksLater links links') :
    LinksHeld drivers links' := by
  constructor
  case sound =>
    intro l k' hk'
    obtain ⟨k, hk, hkk'⟩ := hlater.exists_before l k' hk'
    exact hkk'.sound (h.sound l k hk)
  case held =>
    intro l k' hk' hopen
    obtain ⟨k, hk, hkk'⟩ := hlater.exists_before l k' hk'
    refine h.held l k hk ?_
    cases hclosed : k.closeRequested with
    | false => rfl
    | true =>
        rw [hkk'.closeRequested hclosed] at hopen
        cases hopen
  case closing =>
    intro t l d hd hpoint
    obtain ⟨k, hk, hclosed⟩ := h.closing t l d hd hpoint
    obtain ⟨k', hk', hkk'⟩ := hlater.exists_after hk
    exact ⟨k', hk', hkk'.closeRequested hclosed⟩

theorem loop (h : LinksHeld drivers links) (c : Nat) (gate : Option Nat) :
    LinksHeld (drivers ++ [⟨c, gate, .loop⟩]) links := by
  refine ⟨h.sound, fun l k hk hopen => ?_, fun t l d hd hpoint => ?_⟩
  · obtain ⟨t, d, hd, hlink⟩ := h.held l k hk hopen
    exact ⟨t, d, getElem?_concat_of_getElem? hd, hlink⟩
  · rcases of_getElem?_concat hd with hold | ⟨-, rfl⟩
    · exact h.closing t l d hold hpoint
    · cases hpoint

/-! ### The move of a task -/

section Move

variable {t : Nat} {d d' : Driver}

/-- A task that keeps its link, or leaves it after its end, leaves no open link behind. -/
theorem move (h : LinksHeld drivers links) (hd : drivers[t]? = some d)
    (hlink : ∀ l, d.task.point.link? = some l →
      d'.task.point.link? = some l ∨ d.task.point = .closing l)
    (hclosing : ∀ l, d'.task.point = .closing l →
      ∃ k : Link, links[l]? = some k ∧ k.closeRequested = true) :
    LinksHeld (drivers.set t d') links := by
  refine ⟨h.sound, fun l k hk hopen => ?_, fun t' l d'' hd'' hpoint => ?_⟩
  · obtain ⟨t', d'', hd'', hheld⟩ := h.held l k hk hopen
    by_cases ht : t = t'
    · subst ht
      rw [hd] at hd''
      cases hd''
      rcases hlink l hheld with hstays | hleft
      · exact ⟨t, d', getElem?_set_of_getElem? hd, hstays⟩
      · obtain ⟨same, hsame, hclosed⟩ := h.closing t l d hd hleft
        rw [hk] at hsame
        cases hsame
        rw [hclosed] at hopen
        cases hopen
    · exact ⟨t', d'', by rw [List.getElem?_set_ne ht, hd''], hheld⟩
  · rcases of_getElem?_set hd'' with ⟨rfl, rfl⟩ | ⟨-, hold⟩
    · exact hclosing l hpoint
    · exact h.closing t' l d'' hold hpoint

/-- The link that a dial gives is new, and its task has it at once. -/
theorem opened (h : LinksHeld drivers links) (hd : drivers[t]? = some d)
    (hnone : d.task.point.link? = none) (hpoint : d'.task.point = .opening links.length) :
    LinksHeld (drivers.set t d') (links ++ [({} : Link)]) := by
  constructor
  case sound =>
    intro l k hk
    rcases of_getElem?_concat hk with hold | ⟨-, rfl⟩
    · exact h.sound l k hold
    · intro hfinished
      cases hfinished
  case held =>
    intro l k hk hopen
    rcases of_getElem?_concat hk with hold | ⟨rfl, -⟩
    · obtain ⟨t', d'', hd'', hheld⟩ := h.held l k hold hopen
      -- the task that has dialed had no link, so somebody else holds this one
      have ht : t ≠ t' := by
        rintro rfl
        rw [hd] at hd''
        cases hd''
        rw [hnone] at hheld
        cases hheld
      exact ⟨t', d'', by rw [List.getElem?_set_ne ht, hd''], hheld⟩
    · exact ⟨t, d', getElem?_set_of_getElem? hd, by rw [hpoint]; rfl⟩
  case closing =>
    intro t' l d'' hd'' hclosing
    rcases of_getElem?_set hd'' with ⟨rfl, rfl⟩ | ⟨-, hold⟩
    · rw [hpoint] at hclosing
      cases hclosing
    · obtain ⟨k, hk, hclosed⟩ := h.closing t' l d'' hold hclosing
      exact ⟨k, getElem?_concat_of_getElem? hk, hclosed⟩

variable {s s' : Network} {reply : Reply} {locks : LockService}

/-- The link of a task whose question was answered is in its hands after the move. -/
theorem answer (h : LinksHeld s.drivers s.links) (conn : Connection) (hd : s.drivers[t]? = some d)
    (hanswer : Answer s d reply locks links) :
    LinksHeld (s.drivers.set t { d with task := (d.task.resume conn reply).task }) links := by
  have hkeeps : ∀ l, d.task.point.link? = some l →
      (d.task.resume conn reply).task.point.link? = some l ∨ d.task.point = .closing l :=
    fun l hl => Task.link?_resume reply hl
  have hcloses : ∀ l, (d.task.resume conn reply).task.point = .closing l →
      d.task.point = .closing l ∨
        ∃ reason refuses, d.task.point = .streaming l ∧ reply = .event (.closed reason) refuses :=
    fun l => Task.closing_of_resume reply
  cases hanswer with
  | lock hpoint =>
      refine h.move hd hkeeps fun l hl => ?_
      rcases hcloses l hl with hstays | ⟨_, _, hstreaming, -⟩
      · exact h.closing t l d hd hstays
      · rw [hpoint] at hstreaming
        cases hstreaming
  | opened hpoint =>
      refine h.opened hd (by rw [hpoint]; rfl) ?_
      exact Task.point_resume_of_opened hpoint
  | @event l k k' e refuses hpoint hk hnext =>
      have hafter := h.later (.set hk (Link.later_of_next? hnext))
      refine hafter.move hd hkeeps fun l' hl' => ?_
      rcases hcloses l' hl' with hstays | ⟨reason, _, hstreaming, hreply⟩
      · exact hafter.closing t l' d hd hstays
      · rw [hpoint] at hstreaming
        cases hstreaming
        cases hreply
        -- what was read is the end of this very link
        refine ⟨k', getElem?_set_of_getElem? hk, ?_⟩
        exact Link.closeRequested_of_next? (h.sound l k hk) hnext
  | other _ _ hevent =>
      refine h.move hd hkeeps fun l hl => ?_
      rcases hcloses l hl with hstays | ⟨reason, refuses, -, hreply⟩
      · exact h.closing t l d hd hstays
      · exact absurd hreply (hevent _ _)

end Move

theorem effect {s s' : Network} {a : Act} {handovers : List Handover}
    (h : LinksHeld s.drivers s.links) (he : Effect s a s' handovers) :
    LinksHeld s'.drivers s'.links := by
  cases he with
  | quiet hdrivers _ _ hlinks =>
      rw [hdrivers]
      exact h.later hlinks
  | stop _ hdrivers _ hlinks =>
      rw [hdrivers]
      exact h.later hlinks
  | connection _ _ _ hdrivers _ hlinks =>
      rw [hdrivers, hlinks]
      exact h
  | loop _ hdrivers _ _ hlinks =>
      rw [hdrivers, hlinks]
      exact h.loop _ _
  | move hd _ hanswer hdrivers _ _ hlinks =>
      rw [hdrivers]
      exact (h.answer _ hd hanswer).later hlinks

end LinksHeld

end TelemetryGateway
