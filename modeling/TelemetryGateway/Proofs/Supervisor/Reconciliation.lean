import TelemetryGateway.Proofs.Query
import TelemetryGateway.Proofs.Supervisor.Run

/-!
# What a configuration changes

To apply a configuration takes two loops over targets: one removes what is gone, the other brings
each configured target up to date.  `Removes` and `Progress` say what has become of a supervisor at
any time in the first and in the second, both in terms of the supervisor before it.

* `Removes.snoc`, `removes_foldl`: the connections of removed targets are stopped, and nothing
  happens to others;
* `Progress.keep`, `Progress.snoc_restart`, `exists_progress`: each configured target is kept, or
  gets a new connection after the stop of the old one;
* `reconciled_of_accepted`: what an accepted configuration makes of any reachable supervisor, and
  that the summary tells just that.
-/

namespace TelemetryGateway

/-- Whether a connection was made for a target as a configuration describes it, with the template
that the configuration has under the name that the target gives. -/
structure Connection.IsConfigured (conn : Connection) (c : TargetConfiguration)
    (d : TargetDescriptor) : Prop where
  addresses : conn.descriptor.addresses = d.addresses
  credentials : conn.descriptor.credentials = d.credentials
  request : c.requests.get? d.request = some conn.request

namespace Supervisor

variable {c : TargetConfiguration} {s start : Supervisor} {name : String}

/-! ## Removals -/

/-- What has become of a supervisor when some targets were removed. -/
structure Removes (start : Supervisor) (names : List String) (s : Supervisor) : Prop where
  staffed : s.Staffed
  targets : ∀ name, s.targets.get? name = if name ∈ names then none else start.targets.get? name
  length : s.network.standings.length = start.network.standings.length
  stopped : ∀ name ∈ names, ∀ i, start.connection? name = some i →
    ∃ st : Standing, s.network.standings[i]? = some st ∧ st.stopped = true
  others : ∀ i, (∀ name ∈ names, start.connection? name ≠ some i) →
    s.network.standings[i]? = start.network.standings[i]?

/-- A connection that was stopped stays so when another target is stopped. -/
theorem stopped_stopTarget {i : Nat} {st : Standing} (name : String)
    (hi : s.network.standings[i]? = some st) (hst : st.stopped = true) :
    ∃ st' : Standing, (s.stopTarget name).network.standings[i]? = some st' ∧
      st'.stopped = true := by
  rw [getElem?_standings_stopTarget, hi]
  split
  · exact ⟨st.stop, rfl, rfl⟩
  · exact ⟨st, rfl, hst⟩

theorem Removes.snoc {names : List String} (h : Removes start names s) (name : String) :
    Removes start (names ++ [name]) (s.removeTarget name) := by
  have hstandings : (s.removeTarget name).network.standings =
      (s.stopTarget name).network.standings := rfl
  have hconnection : ∀ i, s.connection? name = some i → start.connection? name = some i := by
    intro i hi
    obtain ⟨target, htarget, rfl⟩ := Option.map_eq_some_iff.mp hi
    rw [h.targets] at htarget
    split at htarget
    · cases htarget
    · rw [connection?, htarget, Option.map_some]
  constructor
  case staffed => exact h.staffed.removeTarget name
  case targets =>
    intro other
    show (s.stopTarget name).targets.get? other = _
    rw [get?_stopTarget, h.targets]
    by_cases hname : name = other
    · simp [hname]
    · simp [hname, Ne.symm hname]
  case length => rw [hstandings, length_standings_stopTarget, h.length]
  case stopped =>
    intro other hother i hi
    rw [hstandings]
    by_cases hmem : other ∈ names
    · obtain ⟨st, hst, hstopped⟩ := h.stopped other hmem i hi
      exact stopped_stopTarget name hst hstopped
    · obtain rfl : other = name := by simpa [hmem] using hother
      have hsame : s.connection? other = some i := by
        rw [connection?, h.targets, if_neg hmem]
        exact hi
      obtain ⟨st, hst⟩ := h.staffed.exists_standing hsame
      rw [getElem?_standings_stopTarget, if_pos hsame, hst]
      exact ⟨_, rfl, rfl⟩
  case others =>
    intro i hi
    rw [hstandings, getElem?_standings_stopTarget, if_neg fun hsame =>
      hi name (List.mem_append_right _ (List.mem_singleton.mpr rfl)) (hconnection i hsame)]
    exact h.others i fun other hother => hi other (List.mem_append_left _ hother)

theorem removes_foldl (hstart : start.Staffed) (names : List String) :
    Removes start names (names.foldl removeTarget start) := by
  suffices h : ∀ (rest removed : List String) (s : Supervisor), Removes start removed s →
      Removes start (removed ++ rest) (rest.foldl removeTarget s) from
    h names [] start {
      staffed := hstart
      targets := fun name => (if_neg List.not_mem_nil).symm
      length := rfl
      stopped := fun name hname => absurd hname List.not_mem_nil
      others := fun _ _ => rfl }
  intro rest
  induction rest with
  | nil => exact fun removed s h => by rwa [List.append_nil]
  | cons name rest ih =>
      intro removed s h
      have := ih _ _ (h.snoc name)
      rwa [List.append_assoc] at this

/-! ## Bringing targets up to date -/

/-- Whether a supervisor has a configured target already, as it is configured. -/
def keeps (s : Supervisor) (c : TargetConfiguration) (entry : String × TargetDescriptor) : Bool :=
  match s.targets.get? entry.1, c.requestFor? entry.2 with
  | some target, some request => s.serves target entry.2 request
  | _, _ => false

theorem contains_of_keeps {entry : String × TargetDescriptor} (h : s.keeps c entry = true) :
    s.targets.contains entry.1 = true := by
  unfold keeps at h
  split at h
  · next target _ htarget _ => exact Dictionary.contains_iff.mpr ⟨target, htarget⟩
  · cases h

/-- Whether a supervisor has a configured target, but not as it is configured. -/
def replaces (s : Supervisor) (c : TargetConfiguration) (entry : String × TargetDescriptor) :
    Bool :=
  s.targets.contains entry.1 && !s.keeps c entry

/-- Whether a target is served as configured can be told from the standing of its connection. -/
theorem serves_congr {s' : Supervisor} {target : SupervisedTarget}
    (h : s'.network.standings[target.connection]? = s.network.standings[target.connection]?)
    (d : TargetDescriptor) (request : SubscribeRequest) :
    s'.serves target d request = s.serves target d request := by
  have hserves : ∀ s : Supervisor, s.serves target d request =
      ((s.network.standings[target.connection]?).map fun st =>
        st.made.isFor d && st.made.request == request).getD false := by
    intro s
    unfold serves
    rw [Network.standings, List.getElem?_map]
    cases s.network.connections[target.connection]? <;> rfl
  rw [hserves, hserves, h]

/-- What is written into the journal when a target is brought up to date. -/
def occurrence (s : Supervisor) (name : String) : Occurrence :=
  if s.targets.contains name then .targetChanged else .targetAdded

/-- A target that is not kept is stopped, if it was supervised, and started. -/
theorem reconcile_of_not_keeps {summary : ApplySummary} {d : TargetDescriptor}
    {request : SubscribeRequest} (hrequest : c.requestFor? d = some request)
    (hkeeps : s.keeps c (name, d) = false) :
    reconcile c (s, summary) (name, d) =
      .ok (s.restart name (s.occurrence name) d request,
        if s.targets.contains name then { summary with replaced := summary.replaced ++ [name] }
        else { summary with added := summary.added ++ [name] }) := by
  unfold reconcile restart occurrence Dictionary.contains
  simp only [hrequest]
  cases htarget : s.targets.get? name with
  | none => simp [stopTarget_of_none htarget]
  | some target =>
      have hserves : s.serves target d request = false := by
        simpa [keeps, htarget, hrequest] using hkeeps
      simp [hserves]

theorem reconcile_of_keeps {summary : ApplySummary} {d : TargetDescriptor}
    (hkeeps : s.keeps c (name, d) = true) :
    reconcile c (s, summary) (name, d) =
      .ok (s, { summary with kept := summary.kept ++ [name] }) := by
  unfold keeps at hkeeps
  split at hkeeps
  · next target request htarget hrequest =>
    simp only at htarget hrequest
    simp [reconcile, htarget, hrequest, hkeeps]
  · cases hkeeps

/-- What has become of a supervisor when some configured targets were brought up to date. -/
structure Progress (start : Supervisor) (c : TargetConfiguration)
    (finished : List (String × TargetDescriptor)) (s : Supervisor) (summary : ApplySummary) :
    Prop where
  staffed : s.Staffed
  added : summary.added =
    (finished.filter fun entry => !start.targets.contains entry.1).map (·.1)
  replaced : summary.replaced = (finished.filter (start.replaces c)).map (·.1)
  kept : summary.kept = (finished.filter (start.keeps c)).map (·.1)
  length_le : start.network.standings.length ≤ s.network.standings.length
  ahead : ∀ name, (∀ entry ∈ finished, entry.1 ≠ name) →
    s.targets.get? name = start.targets.get? name
  keeping : ∀ entry ∈ finished, start.keeps c entry = true →
    s.targets.get? entry.1 = start.targets.get? entry.1
  started : ∀ entry ∈ finished, start.keeps c entry = false →
    ∃ i made, s.connection? entry.1 = some i ∧ start.network.standings.length ≤ i ∧
      s.network.standings[i]? = some ⟨made, false⟩ ∧ made.name = entry.1 ∧
      made.descriptor = entry.2 ∧ c.requestFor? entry.2 = some made.request
  stopped : ∀ entry ∈ finished, start.replaces c entry = true → ∀ i,
    start.connection? entry.1 = some i →
    ∃ st : Standing, s.network.standings[i]? = some st ∧ st.stopped = true
  others : ∀ i, i < start.network.standings.length →
    (∀ entry ∈ finished, start.replaces c entry = true → start.connection? entry.1 ≠ some i) →
    s.network.standings[i]? = start.network.standings[i]?

namespace Progress

variable {finished : List (String × TargetDescriptor)} {summary : ApplySummary}
  {d : TargetDescriptor} {request : SubscribeRequest}

theorem nil (hstart : start.Staffed) {names : List String} :
    Progress start c [] start { removed := names } where
  staffed := hstart
  added := rfl
  replaced := rfl
  kept := rfl
  length_le := Nat.le_refl _
  ahead _ _ := rfl
  keeping _ h := nomatch h
  started _ h := nomatch h
  stopped _ h := nomatch h
  others _ _ _ := rfl

/-- Whether a target is kept does not depend on those that came before it. -/
theorem keeps_eq (h : Progress start c finished s summary) (hstart : start.Staffed)
    (hname : ∀ entry ∈ finished, entry.1 ≠ name) :
    s.keeps c (name, d) = start.keeps c (name, d) := by
  unfold keeps
  rw [h.ahead name hname]
  cases htarget : start.targets.get? name with
  | none => rfl
  | some target =>
      cases c.requestFor? d with
      | none => rfl
      | some request =>
          refine serves_congr (h.others _ (hstart.connection_lt name target htarget) ?_) d request
          have hi : start.connection? name = some target.connection := by
            rw [connection?, htarget, Option.map_some]
          exact fun entry hentry _ hsame =>
            hname entry hentry (hstart.eq_of_connection? hsame hi)

/-- A target is kept. -/
theorem keep (h : Progress start c finished s summary)
    (hname : ∀ entry ∈ finished, entry.1 ≠ name) (hkeeps : start.keeps c (name, d) = true) :
    Progress start c (finished ++ [(name, d)]) s
      { summary with kept := summary.kept ++ [name] } := by
  have hcontains : start.targets.contains name = true := contains_of_keeps hkeeps
  have hreplaces : start.replaces c (name, d) = false := by simp [replaces, hkeeps]
  have hcases : ∀ entry ∈ finished ++ [(name, d)], entry ∈ finished ∨ entry = (name, d) := by
    simp
  constructor
  case staffed => exact h.staffed
  case added => simp [h.added, hcontains]
  case replaced => simp [h.replaced, hreplaces]
  case kept => simp [h.kept, hkeeps]
  case length_le => exact h.length_le
  case ahead =>
    intro other hother
    exact h.ahead other fun entry hentry => hother entry (List.mem_append_left _ hentry)
  case keeping =>
    intro entry hentry hkept
    rcases hcases entry hentry with hold | rfl
    · exact h.keeping entry hold hkept
    · exact h.ahead name hname
  case started =>
    intro entry hentry hnot
    rcases hcases entry hentry with hold | rfl
    · exact h.started entry hold hnot
    · rw [hkeeps] at hnot
      cases hnot
  case stopped =>
    intro entry hentry hreplaced
    rcases hcases entry hentry with hold | rfl
    · exact h.stopped entry hold hreplaced
    · rw [hreplaces] at hreplaced
      cases hreplaced
  case others =>
    intro i hi hnone
    exact h.others i hi fun entry hentry => hnone entry (List.mem_append_left _ hentry)

/-- A target is stopped, if it was supervised, and started. -/
theorem snoc_restart (h : Progress start c finished s summary)
    (hname : ∀ entry ∈ finished, entry.1 ≠ name) (hkeeps : start.keeps c (name, d) = false)
    (hrequest : c.requestFor? d = some request) (o : Occurrence) :
    Progress start c (finished ++ [(name, d)]) (s.restart name o d request)
      (if start.targets.contains name then { summary with replaced := summary.replaced ++ [name] }
        else { summary with added := summary.added ++ [name] }) := by
  have hreplaces : start.replaces c (name, d) = start.targets.contains name := by
    simp [replaces, hkeeps]
  have hcases : ∀ entry ∈ finished ++ [(name, d)], entry ∈ finished ∨ entry = (name, d) := by
    simp
  have hbefore : s.connection? name = start.connection? name := by
    rw [connection?, h.ahead name hname]
    rfl
  have hstaffed := h.staffed.restart name o d request
  have hrestarts := restarts_restart s name o d request
  generalize s.restart name o d request = s' at hstaffed hrestarts
  constructor
  case staffed => exact hstaffed
  case added =>
    cases hcontains : start.targets.contains name <;> simp [h.added, hcontains]
  case replaced =>
    cases hcontains : start.targets.contains name <;> simp [h.replaced, hreplaces, hcontains]
  case kept =>
    cases hcontains : start.targets.contains name <;> simp [h.kept, hkeeps]
  case length_le => exact Nat.le_trans h.length_le (Nat.le_of_lt hrestarts.length_lt)
  case ahead =>
    intro other hother
    have hne : other ≠ name :=
      Ne.symm (hother (name, d) (List.mem_append_right _ (List.mem_singleton.mpr rfl)))
    rw [hrestarts.targets other hne]
    exact h.ahead other fun entry hentry => hother entry (List.mem_append_left _ hentry)
  case keeping =>
    intro entry hentry hkept
    rcases hcases entry hentry with hfinished | rfl
    · rw [hrestarts.targets _ (hname entry hfinished)]
      exact h.keeping entry hfinished hkept
    · rw [hkeeps] at hkept
      cases hkept
  case started =>
    intro entry hentry hnot
    rcases hcases entry hentry with hfinished | rfl
    · obtain ⟨i, made, hi, hle, hst, hmade⟩ := h.started entry hfinished hnot
      -- the connection that is stopped is another one
      have hother : s.connection? name ≠ some i := fun hsame =>
        hname entry hfinished (h.staffed.eq_of_connection? hi hsame)
      refine ⟨i, made, ?_, hle, ?_, hmade⟩
      · rw [connection?, hrestarts.targets _ (hname entry hfinished)]
        exact hi
      · rw [hrestarts.others i (List.getElem?_eq_some_iff.mp hst).1 hother, hst]
    · obtain ⟨made, hmade, hdescriptor, hfor, hst⟩ := hrestarts.started
      exact ⟨_, made, hrestarts.connection?, h.length_le, hst, hmade, hdescriptor, hfor ▸ hrequest⟩
  case stopped =>
    intro entry hentry hreplaced i hi
    rcases hcases entry hentry with hfinished | rfl
    · obtain ⟨st, hst, hstopped⟩ := h.stopped entry hfinished hreplaced i hi
      by_cases hsame : s.connection? name = some i
      · exact ⟨st.stop, hrestarts.stopped i st hsame hst, rfl⟩
      · exact ⟨st, (hrestarts.others i (List.getElem?_eq_some_iff.mp hst).1 hsame).trans hst,
          hstopped⟩
    · obtain ⟨st, hst⟩ := h.staffed.exists_standing (hbefore.trans hi)
      exact ⟨st.stop, hrestarts.stopped i st (hbefore.trans hi) hst, rfl⟩
  case others =>
    intro i hi hnone
    have hnot : s.connection? name ≠ some i := by
      intro hc
      rw [hbefore] at hc
      refine hnone (name, d) (List.mem_append_right _ (List.mem_singleton.mpr rfl)) ?_ hc
      obtain ⟨target, htarget, -⟩ := Option.map_eq_some_iff.mp hc
      rw [hreplaces]
      exact Dictionary.contains_iff.mpr ⟨target, htarget⟩
    rw [hrestarts.others i (Nat.lt_of_lt_of_le hi h.length_le) hnot]
    exact h.others i hi fun entry hentry => hnone entry (List.mem_append_left _ hentry)

end Progress

/-- All configured targets are brought up to date, one after the other. -/
theorem exists_progress (hstart : start.Staffed) (names : List String)
    (hrequest : ∀ entry ∈ c.targets.entries, ∃ request, c.requestFor? entry.2 = some request) :
    ∃ s summary, c.targets.entries.foldlM (reconcile c) (start, { removed := names }) =
        .ok (s, summary) ∧
      Progress start c c.targets.entries s summary ∧ summary.removed = names := by
  suffices h : ∀ (rest finished : List (String × TargetDescriptor)) (s : Supervisor)
      (summary : ApplySummary), c.targets.entries = finished ++ rest →
      Progress start c finished s summary → summary.removed = names →
      ∃ s' summary', rest.foldlM (reconcile c) (s, summary) = .ok (s', summary') ∧
        Progress start c (finished ++ rest) s' summary' ∧ summary'.removed = names by
    obtain ⟨s, summary, hfold, hprogress, hremoved⟩ :=
      h c.targets.entries [] start { removed := names } rfl (.nil hstart) rfl
    exact ⟨s, summary, hfold, hprogress, hremoved⟩
  intro rest
  induction rest with
  | nil =>
      intro finished s summary _ h hremoved
      exact ⟨s, summary, rfl, by rwa [List.append_nil], hremoved⟩
  | cons entry rest ih =>
      intro finished s summary hentries h hremoved
      obtain ⟨name, d⟩ := entry
      have hsplit : c.targets.entries = (finished ++ [(name, d)]) ++ rest := by simp [hentries]
      have hmem : (name, d) ∈ c.targets.entries := by simp [hentries]
      obtain ⟨request, hfor⟩ := hrequest (name, d) hmem
      have hname : ∀ entry ∈ finished, entry.1 ≠ name := by
        have hascending := c.targets.ascending
        rw [hentries] at hascending
        intro entry hentry heq
        have hlt := (List.pairwise_append.mp hascending).2.2 entry hentry (name, d)
          List.mem_cons_self
        rw [heq] at hlt
        exact String.lt_irrefl _ hlt
      have hsame := h.keeps_eq (d := d) hstart hname
      rw [List.foldlM_cons]
      cases hkeeps : start.keeps c (name, d) with
      | true =>
          rw [reconcile_of_keeps (hsame.trans hkeeps)]
          obtain ⟨s', summary', hfold, hprogress, hremoved'⟩ :=
            ih _ _ _ hsplit (h.keep hname hkeeps) hremoved
          exact ⟨s', summary', hfold, by rwa [List.append_assoc] at hprogress, hremoved'⟩
      | false =>
          have hcontains : s.targets.contains name = start.targets.contains name := by
            rw [Dictionary.contains, h.ahead name hname]
            rfl
          rw [reconcile_of_not_keeps hfor (hsame.trans hkeeps), hcontains]
          obtain ⟨s', summary', hfold, hprogress, hremoved'⟩ :=
            ih _ _ _ hsplit (h.snoc_restart hname hkeeps hfor (s.occurrence name))
              (by split <;> exact hremoved)
          exact ⟨s', summary', hfold, by rwa [List.append_assoc] at hprogress, hremoved'⟩

/-! ## What a configuration comes to -/

/-- What a configuration makes of a supervisor, and what it tells of it. -/
structure Reconciled (s : Supervisor) (c : TargetConfiguration) (summary : ApplySummary)
    (s' : Supervisor) : Prop where
  /-- The four lists are in order. -/
  ascending : summary.added.Pairwise (· < ·) ∧ summary.replaced.Pairwise (· < ·) ∧
    summary.removed.Pairwise (· < ·) ∧ summary.kept.Pairwise (· < ·)
  /-- No list has a name twice, and no two lists have a name in common. -/
  nodup : (summary.added ++ summary.replaced ++ summary.removed ++ summary.kept).Nodup
  mem_removed : ∀ name, name ∈ summary.removed ↔ name ∈ s.targets.keys ∧ name ∉ c.targets.keys
  mem_added : ∀ name, name ∈ summary.added ↔ name ∈ c.targets.keys ∧ name ∉ s.targets.keys
  mem_both : ∀ name, name ∈ summary.kept ∨ name ∈ summary.replaced ↔
    name ∈ c.targets.keys ∧ name ∈ s.targets.keys
  /-- A target is kept exactly if its connection is as it is configured. -/
  mem_kept : ∀ name i d, s.connection? name = some i → c.targets.get? name = some d →
    ∃ conn : Connection, s.network.connections[i]? = some conn ∧
      (name ∈ summary.kept ↔ conn.IsConfigured c d)
  keys : s'.targets.keys = c.targets.keys
  /-- A target that is kept has the connection and the task that it had, and nobody has stopped it.
  -/
  kept : ∀ name ∈ summary.kept, s'.targets.get? name = s.targets.get? name ∧
    ∃ i conn conn', s.connection? name = some i ∧ s.network.connections[i]? = some conn ∧
      s'.network.connections[i]? = some conn' ∧ conn'.fresh = conn.fresh ∧
      conn'.phase.isStopped = conn.phase.isStopped
  /-- A target that is added or replaced has a connection that was not there before. -/
  started : ∀ name d, name ∈ summary.added ∨ name ∈ summary.replaced →
    c.targets.get? name = some d →
    ∃ i conn, s'.connection? name = some i ∧ s.network.connections[i]? = none ∧
      s'.network.connections[i]? = some conn ∧ conn.name = name ∧ conn.descriptor = d ∧
      c.requests.get? d.request = some conn.request ∧ conn.phase.isStopped = false
  /-- The connection of a target that is removed or replaced is stopped. -/
  stopped : ∀ name, name ∈ summary.removed ∨ name ∈ summary.replaced →
    ∃ i conn, s.connection? name = some i ∧ s'.network.connections[i]? = some conn ∧
      conn.phase.isStopped = true
  /-- Every target is served as it is configured. -/
  configured : ∀ name d, c.targets.get? name = some d →
    ∃ i conn, s'.connection? name = some i ∧ s'.network.connections[i]? = some conn ∧
      conn.IsConfigured c d
  balance : s'.metrics.targetsStarted =
    s'.metrics.targetsStopped + UInt64.ofNat s'.targets.size

theorem serves_iff {target : SupervisedTarget} {d : TargetDescriptor} {request : SubscribeRequest}
    {conn : Connection} (hconn : s.network.connections[target.connection]? = some conn)
    (hrequest : c.requestFor? d = some request) :
    s.serves target d request = true ↔ conn.IsConfigured c d := by
  unfold serves
  rw [hconn]
  simp only [Connection.isFor, TargetDescriptor.sameTarget, Bool.and_eq_true, beq_iff_eq]
  constructor
  · rintro ⟨⟨haddresses, hcredentials⟩, rfl⟩
    exact ⟨haddresses, hcredentials, hrequest⟩
  · rintro ⟨haddresses, hcredentials, hfor⟩
    exact ⟨⟨haddresses, hcredentials⟩, Option.some_inj.mp (hfor.symm.trans hrequest)⟩

theorem mem_departed : name ∈ s.departed c ↔ name ∈ s.targets.keys ∧ name ∉ c.targets.keys := by
  rw [departed, List.mem_filter, Dictionary.mem_keys_iff (d := c.targets)]
  simp

/-- The names among the targets of a configuration for which a test holds. -/
theorem mem_map_filter {p : String × TargetDescriptor → Bool} :
    name ∈ (c.targets.entries.filter p).map (·.1) ↔
      ∃ d, c.targets.get? name = some d ∧ p (name, d) = true := by
  constructor
  · intro h
    obtain ⟨⟨_, d⟩, hmem, rfl⟩ := List.mem_map.mp h
    obtain ⟨hentry, hp⟩ := List.mem_filter.mp hmem
    exact ⟨d, Dictionary.mem_entries_iff.mp hentry, hp⟩
  · rintro ⟨d, hd, hp⟩
    exact List.mem_map.mpr
      ⟨(name, d), List.mem_filter.mpr ⟨Dictionary.mem_entries_iff.mpr hd, hp⟩, rfl⟩

theorem pairwise_map_filter (p : String × TargetDescriptor → Bool) :
    ((c.targets.entries.filter p).map (·.1)).Pairwise (· < ·) :=
  List.pairwise_map.mpr (c.targets.ascending.filter p)

section Assembly

variable {s' : Supervisor} {summary : ApplySummary} {d : TargetDescriptor}

theorem Removes.get?_of_configured (h : Removes s (s.departed c) start)
    (hd : c.targets.get? name = some d) : start.targets.get? name = s.targets.get? name := by
  rw [h.targets, if_neg]
  rw [mem_departed, Dictionary.mem_keys_iff (d := c.targets)]
  exact fun hgone => hgone.2 (Dictionary.contains_iff.mpr ⟨d, hd⟩)

theorem Removes.standing_of_configured (h : Removes s (s.departed c) start) (hs : s.Staffed)
    (hd : c.targets.get? name = some d) {i : Nat} (hi : s.connection? name = some i) :
    start.network.standings[i]? = s.network.standings[i]? := by
  refine h.others i fun other hother hsame => ?_
  obtain rfl := hs.eq_of_connection? hsame hi
  rw [mem_departed, Dictionary.mem_keys_iff (d := c.targets)] at hother
  exact hother.2 (Dictionary.contains_iff.mpr ⟨d, hd⟩)

/-- Whether a target will be kept can be told before anything is removed. -/
theorem Removes.keeps_iff (h : Removes s (s.departed c) start) (hs : s.Staffed)
    (hd : c.targets.get? name = some d) (hrequest : ∃ request, c.requestFor? d = some request)
    {i : Nat} {conn : Connection} (hi : s.connection? name = some i)
    (hconn : s.network.connections[i]? = some conn) :
    start.keeps c (name, d) = true ↔ conn.IsConfigured c d := by
  obtain ⟨request, hrequest⟩ := hrequest
  have hstanding := h.standing_of_configured hs hd hi
  obtain ⟨target, htarget, rfl⟩ := Option.map_eq_some_iff.mp hi
  rw [← serves_iff hconn hrequest, ← serves_congr hstanding, keeps]
  simp only [h.get?_of_configured hd, htarget, hrequest]

theorem connection?_isSome : name ∈ s.targets.keys ↔ ∃ i, s.connection? name = some i := by
  rw [Dictionary.mem_keys_iff, Dictionary.contains_iff]
  constructor
  · rintro ⟨target, htarget⟩
    exact ⟨target.connection, by rw [connection?, htarget, Option.map_some]⟩
  · rintro ⟨i, hi⟩
    obtain ⟨target, htarget, -⟩ := Option.map_eq_some_iff.mp hi
    exact ⟨target, htarget⟩

theorem Removes.connection?_of_configured (h : Removes s (s.departed c) start)
    (hd : c.targets.get? name = some d) : start.connection? name = s.connection? name := by
  rw [connection?, h.get?_of_configured hd]
  rfl

theorem Removes.contains_of_configured (h : Removes s (s.departed c) start)
    (hd : c.targets.get? name = some d) :
    start.targets.contains name = true ↔ name ∈ s.targets.keys := by
  rw [Dictionary.contains, h.get?_of_configured hd, Dictionary.mem_keys_iff]
  rfl

theorem mem_keys_of_configured (hd : c.targets.get? name = some d) : name ∈ c.targets.keys :=
  Dictionary.mem_keys_iff.mpr (Dictionary.contains_iff.mpr ⟨d, hd⟩)

namespace Progress

variable (h : Progress start c c.targets.entries s' summary)
  (hremoves : Removes s (s.departed c) start)

include h hremoves

/-! ### Membership -/

theorem mem_added : name ∈ summary.added ↔ name ∈ c.targets.keys ∧ name ∉ s.targets.keys := by
  rw [h.added, mem_map_filter]
  constructor
  · rintro ⟨d, hd, hnot⟩
    refine ⟨mem_keys_of_configured hd, fun hmem => ?_⟩
    rw [(hremoves.contains_of_configured hd).mpr hmem] at hnot
    cases hnot
  · rintro ⟨hmem, hnot⟩
    obtain ⟨d, hd⟩ := Dictionary.contains_iff.mp (Dictionary.mem_keys_iff.mp hmem)
    refine ⟨d, hd, ?_⟩
    rw [Bool.not_eq_true', ← Bool.not_eq_true, hremoves.contains_of_configured hd]
    exact hnot

theorem mem_replaced : name ∈ summary.replaced ↔
    ∃ d, c.targets.get? name = some d ∧ name ∈ s.targets.keys ∧
      start.keeps c (name, d) = false := by
  rw [h.replaced, mem_map_filter]
  constructor
  · rintro ⟨d, hd, hreplaces⟩
    obtain ⟨hcontains, hnot⟩ := (Bool.and_eq_true _ _).mp hreplaces
    exact ⟨d, hd, (hremoves.contains_of_configured hd).mp hcontains, Bool.not_eq_true' _ ▸ hnot⟩
  · rintro ⟨d, hd, hmem, hnot⟩
    refine ⟨d, hd, (Bool.and_eq_true _ _).mpr
      ⟨(hremoves.contains_of_configured hd).mpr hmem, ?_⟩⟩
    rw [hnot, Bool.not_false]

theorem mem_kept : name ∈ summary.kept ↔
    ∃ d, c.targets.get? name = some d ∧ name ∈ s.targets.keys ∧
      start.keeps c (name, d) = true := by
  rw [h.kept, mem_map_filter]
  constructor
  · rintro ⟨d, hd, hkeeps⟩
    exact ⟨d, hd, (hremoves.contains_of_configured hd).mp (contains_of_keeps hkeeps), hkeeps⟩
  · rintro ⟨d, hd, -, hkeeps⟩
    exact ⟨d, hd, hkeeps⟩

theorem contains_eq : s'.targets.contains name = c.targets.contains name := by
  cases hd : c.targets.get? name with
  | none =>
      have hnotin : ∀ entry ∈ c.targets.entries, entry.1 ≠ name := by
        rintro ⟨_, d⟩ hentry rfl
        rw [Dictionary.mem_entries_iff.mp hentry] at hd
        cases hd
      have hnone : c.targets.contains name = false := by
        rw [Dictionary.contains, hd, Option.isSome_none]
      rw [hnone, Dictionary.contains, h.ahead name hnotin, hremoves.targets]
      split
      · rfl
      · next hstays =>
        -- a target that is not configured would be gone
        rw [mem_departed, Dictionary.mem_keys_iff, Dictionary.mem_keys_iff, hnone] at hstays
        simpa [Dictionary.contains] using hstays
  | some d =>
      have hentry := Dictionary.mem_entries_iff.mpr hd
      rw [Dictionary.contains_iff.mpr ⟨d, hd⟩]
      cases hkeeps : start.keeps c (name, d) with
      | true =>
          rw [Dictionary.contains, h.keeping _ hentry hkeeps]
          exact contains_of_keeps hkeeps
      | false =>
          obtain ⟨i, -, hi, -⟩ := h.started _ hentry hkeeps
          exact Dictionary.mem_keys_iff.mp (connection?_isSome.mpr ⟨i, hi⟩)

/-! ### Connections -/

/-- The connection of a target that is kept stands as it did. -/
theorem exists_kept (hs : s.Staffed) (hd : c.targets.get? name = some d)
    (hkeeps : start.keeps c (name, d) = true) {i : Nat} (hi : s.connection? name = some i) :
    s'.targets.get? name = s.targets.get? name ∧
      ∃ conn conn', s.network.connections[i]? = some conn ∧
        s'.network.connections[i]? = some conn' ∧ conn'.standing = conn.standing := by
  refine ⟨(h.keeping _ (Dictionary.mem_entries_iff.mpr hd) hkeeps).trans
    (hremoves.get?_of_configured hd), ?_⟩
  have hi' : start.connection? name = some i := (hremoves.connection?_of_configured hd).trans hi
  obtain ⟨st, hst⟩ := hs.exists_standing hi
  have hstart := (hremoves.standing_of_configured hs hd hi).trans hst
  have hlt := (List.getElem?_eq_some_iff.mp hstart).1
  have hsame : s'.network.standings[i]? = start.network.standings[i]? := by
    refine h.others i hlt ?_
    rintro ⟨other, d'⟩ hentry hreplaces hother
    obtain rfl : other = name := hremoves.staffed.eq_of_connection? hother hi'
    obtain rfl : d' = d :=
      Option.some_inj.mp ((Dictionary.mem_entries_iff.mp hentry).symm.trans hd)
    simp [replaces, hkeeps] at hreplaces
  obtain ⟨conn, hconn, hstanding⟩ := Network.exists_of_getElem?_standings hst
  obtain ⟨conn', hconn', hstanding'⟩ := Network.exists_of_getElem?_standings (hsame.trans hstart)
  exact ⟨conn, conn', hconn, hconn', hstanding'.trans hstanding.symm⟩

/-- The connection of a target that is not kept is new. -/
theorem exists_started (hd : c.targets.get? name = some d)
    (hkeeps : start.keeps c (name, d) = false) :
    ∃ i conn, s'.connection? name = some i ∧ s.network.connections[i]? = none ∧
      s'.network.connections[i]? = some conn ∧ conn.name = name ∧ conn.descriptor = d ∧
      c.requestFor? d = some conn.request ∧ conn.phase.isStopped = false := by
  obtain ⟨i, made, hi, hle, hst, hname, hdescriptor, hrequest⟩ :=
    h.started _ (Dictionary.mem_entries_iff.mpr hd) hkeeps
  obtain ⟨conn, hconn, hstanding⟩ := Network.exists_of_getElem?_standings hst
  have hmade : conn.fresh = made := congrArg Standing.made hstanding
  refine ⟨i, conn, hi, ?_, hconn, ?_, ?_, ?_, congrArg Standing.stopped hstanding⟩
  · rw [hremoves.length, Network.standings, List.length_map] at hle
    exact List.getElem?_eq_none hle
  · exact (congrArg Connection.name hmade).trans hname
  · exact (congrArg Connection.descriptor hmade).trans hdescriptor
  · rw [hrequest, ← hmade]
    rfl

/-- The connection of a target that is removed or replaced is stopped. -/
theorem exists_stopped (hs : s.Staffed)
    (hname : name ∈ s.departed c ∨ name ∈ summary.replaced) :
    ∃ i conn, s.connection? name = some i ∧ s'.network.connections[i]? = some conn ∧
      conn.phase.isStopped = true := by
  suffices hstanding : ∃ i st, s.connection? name = some i ∧
      s'.network.standings[i]? = some st ∧ st.stopped = true by
    obtain ⟨i, st, hi, hst, hstopped⟩ := hstanding
    obtain ⟨conn, hconn, rfl⟩ := Network.exists_of_getElem?_standings hst
    exact ⟨i, conn, hi, hconn, hstopped⟩
  rcases hname with hgone | hreplaced
  · obtain ⟨i, hi⟩ := connection?_isSome.mp (mem_departed.mp hgone).1
    obtain ⟨st, hst, hstopped⟩ := hremoves.stopped name hgone i hi
    refine ⟨i, st, hi, ?_, hstopped⟩
    -- no other target has the connection, so nothing more happens to it
    rw [h.others i (List.getElem?_eq_some_iff.mp hst).1 ?_, hst]
    rintro ⟨other, d⟩ hentry - hother
    have hd := Dictionary.mem_entries_iff.mp hentry
    rw [hremoves.connection?_of_configured hd] at hother
    obtain rfl : other = name := hs.eq_of_connection? hother hi
    exact (mem_departed.mp hgone).2 (mem_keys_of_configured hd)
  · obtain ⟨d, hd, hmem, hkeeps⟩ := (h.mem_replaced hremoves).mp hreplaced
    obtain ⟨i, hi⟩ := connection?_isSome.mp hmem
    have hreplaces : start.replaces c (name, d) = true := by
      simp [replaces, hkeeps, (hremoves.contains_of_configured hd).mpr hmem]
    obtain ⟨st, hst, hstopped⟩ := h.stopped _ (Dictionary.mem_entries_iff.mpr hd) hreplaces i
      ((hremoves.connection?_of_configured hd).trans hi)
    exact ⟨i, st, hi, hst, hstopped⟩

/-! ### The summary -/

omit hremoves in
theorem ascending (hgone : summary.removed = s.departed c) :
    summary.added.Pairwise (· < ·) ∧ summary.replaced.Pairwise (· < ·) ∧
      summary.removed.Pairwise (· < ·) ∧ summary.kept.Pairwise (· < ·) := by
  rw [h.added, h.replaced, hgone, h.kept]
  exact ⟨pairwise_map_filter _, pairwise_map_filter _, s.targets.pairwise_keys.filter _,
    pairwise_map_filter _⟩

theorem mem_both : name ∈ summary.kept ∨ name ∈ summary.replaced ↔
    name ∈ c.targets.keys ∧ name ∈ s.targets.keys := by
  rw [h.mem_kept hremoves, h.mem_replaced hremoves]
  constructor
  · rintro (⟨d, hd, hmem, -⟩ | ⟨d, hd, hmem, -⟩) <;> exact ⟨mem_keys_of_configured hd, hmem⟩
  · rintro ⟨hc, hmem⟩
    obtain ⟨d, hd⟩ := Dictionary.contains_iff.mp (Dictionary.mem_keys_iff.mp hc)
    cases hkeeps : start.keeps c (name, d) with
    | true => exact .inl ⟨d, hd, hmem, hkeeps⟩
    | false => exact .inr ⟨d, hd, hmem, hkeeps⟩

theorem notMem_kept_of_mem_replaced (hname : name ∈ summary.replaced) : name ∉ summary.kept := by
  intro hkept
  obtain ⟨d, hd, -, hkeeps⟩ := (h.mem_kept hremoves).mp hkept
  obtain ⟨d', hd', -, hnot⟩ := (h.mem_replaced hremoves).mp hname
  obtain rfl := Option.some_inj.mp (hd'.symm.trans hd)
  rw [hkeeps] at hnot
  cases hnot

theorem nodup (hgone : summary.removed = s.departed c) :
    (summary.added ++ summary.replaced ++ summary.removed ++ summary.kept).Nodup := by
  have hnodup : ∀ {names : List String}, names.Pairwise (· < ·) → names.Nodup :=
    fun hnames => hnames.imp fun {a b} (hlt : a < b) (heq : a = b) =>
      String.lt_irrefl b (heq ▸ hlt)
  have hadded : ∀ {name}, name ∈ summary.added → name ∈ c.targets.keys ∧ name ∉ s.targets.keys :=
    (h.mem_added hremoves).mp
  have hboth : ∀ {name}, name ∈ summary.kept ∨ name ∈ summary.replaced →
      name ∈ c.targets.keys ∧ name ∈ s.targets.keys := (h.mem_both hremoves).mp
  have hremoved : ∀ {name}, name ∈ summary.removed → name ∉ c.targets.keys := fun hname =>
    (mem_departed.mp (hgone ▸ hname)).2
  obtain ⟨hsorted₁, hsorted₂, hsorted₃, hsorted₄⟩ := h.ascending hgone
  rw [List.nodup_append, List.nodup_append, List.nodup_append]
  refine ⟨⟨⟨hnodup hsorted₁, hnodup hsorted₂, ?_⟩, hnodup hsorted₃, ?_⟩, hnodup hsorted₄, ?_⟩
  · rintro name hname _ hother rfl
    exact (hadded hname).2 (hboth (.inr hother)).2
  · rintro name hname _ hother rfl
    rcases List.mem_append.mp hname with hname | hname
    · exact hremoved hother (hadded hname).1
    · exact hremoved hother (hboth (.inr hname)).1
  · rintro name hname _ hother rfl
    rcases List.mem_append.mp hname with hname | hname
    · rcases List.mem_append.mp hname with hname | hname
      · exact (hadded hname).2 (hboth (.inl hother)).2
      · exact h.notMem_kept_of_mem_replaced hremoves hname hother
    · exact hremoved hname (hboth (.inl hother)).1

/-- A target that was supervised is kept exactly if its connection is as it is configured. -/
theorem mem_kept_iff (hs : s.Staffed) (hrequest : ∃ request, c.requestFor? d = some request)
    (hd : c.targets.get? name = some d) {i : Nat} (hi : s.connection? name = some i) :
    ∃ conn : Connection, s.network.connections[i]? = some conn ∧
      (name ∈ summary.kept ↔ conn.IsConfigured c d) := by
  obtain ⟨st, hst⟩ := hs.exists_standing hi
  obtain ⟨conn, hconn, -⟩ := Network.exists_of_getElem?_standings hst
  refine ⟨conn, hconn, ?_⟩
  rw [h.mem_kept hremoves, ← hremoves.keeps_iff hs hd hrequest hi hconn]
  constructor
  · rintro ⟨d', hd', -, hkeeps⟩
    obtain rfl := Option.some_inj.mp (hd'.symm.trans hd)
    exact hkeeps
  · exact fun hkeeps => ⟨d, hd, connection?_isSome.mpr ⟨i, hi⟩, hkeeps⟩

theorem keeps_eq_false (hd : c.targets.get? name = some d)
    (hname : name ∈ summary.added ∨ name ∈ summary.replaced) :
    start.keeps c (name, d) = false := by
  rcases hname with hname | hname
  · refine Bool.eq_false_iff.mpr fun hkeeps => ((h.mem_added hremoves).mp hname).2 ?_
    exact (hremoves.contains_of_configured hd).mp (contains_of_keeps hkeeps)
  · obtain ⟨d', hd', -, hkeeps⟩ := (h.mem_replaced hremoves).mp hname
    obtain rfl := Option.some_inj.mp (hd'.symm.trans hd)
    exact hkeeps

/-- Kept or not, a target has a connection as it is configured. -/
theorem exists_configured (hs : s.Staffed) (hrequest : ∃ request, c.requestFor? d = some request)
    (hd : c.targets.get? name = some d) :
    ∃ i conn, s'.connection? name = some i ∧ s'.network.connections[i]? = some conn ∧
      conn.IsConfigured c d := by
  cases hkeeps : start.keeps c (name, d) with
  | true =>
      have hmem := (hremoves.contains_of_configured hd).mp (contains_of_keeps hkeeps)
      obtain ⟨i, hi⟩ := connection?_isSome.mp hmem
      obtain ⟨htarget, conn, conn', hconn, hconn', hstanding⟩ :=
        h.exists_kept hremoves hs hd hkeeps hi
      have hmade : conn'.fresh = conn.fresh := congrArg Standing.made hstanding
      obtain ⟨haddresses, hcredentials, hfor⟩ :=
        (hremoves.keeps_iff hs hd hrequest hi hconn).mp hkeeps
      refine ⟨i, conn', ?_, hconn', ?_, ?_, ?_⟩
      · rw [connection?, htarget]
        exact hi
      · exact (congrArg (·.descriptor.addresses) hmade).trans haddresses
      · exact (congrArg (·.descriptor.credentials) hmade).trans hcredentials
      · exact hfor.trans (congrArg (fun conn => some conn.request) hmade).symm
  | false =>
      obtain ⟨i, conn, hi, -, hconn, -, hdescriptor, hrequest, -⟩ :=
        h.exists_started hremoves hd hkeeps
      exact ⟨i, conn, hi, hconn, by rw [hdescriptor], by rw [hdescriptor], hrequest⟩

end Progress

/-- When all targets are up to date the supervisor is reconciled with the configuration. -/
theorem reconciled_of_progress (hs : s.Staffed) (hremoves : Removes s (s.departed c) start)
    (hrequest : ∀ entry ∈ c.targets.entries, ∃ request, c.requestFor? entry.2 = some request)
    (h : Progress start c c.targets.entries s' summary)
    (hgone : summary.removed = s.departed c) : Reconciled s c summary s' := by
  have hsome : ∀ {name d}, c.targets.get? name = some d → ∃ request,
      c.requestFor? d = some request :=
    fun hd => hrequest _ (Dictionary.mem_entries_iff.mpr hd)
  constructor
  case ascending => exact h.ascending hgone
  case nodup => exact h.nodup hremoves hgone
  case mem_removed => exact fun name => by rw [hgone, mem_departed]
  case mem_added => exact fun _ => h.mem_added hremoves
  case mem_both => exact fun _ => h.mem_both hremoves
  case mem_kept => exact fun name i d hi hd => h.mem_kept_iff hremoves hs (hsome hd) hd hi
  case keys => exact Dictionary.keys_eq_of_contains fun name => h.contains_eq hremoves
  case kept =>
    intro name hname
    obtain ⟨d, hd, hmem, hkeeps⟩ := (h.mem_kept hremoves).mp hname
    obtain ⟨i, hi⟩ := connection?_isSome.mp hmem
    obtain ⟨htarget, conn, conn', hconn, hconn', hstanding⟩ :=
      h.exists_kept hremoves hs hd hkeeps hi
    exact ⟨htarget, i, conn, conn', hi, hconn, hconn', congrArg Standing.made hstanding,
      congrArg Standing.stopped hstanding⟩
  case started =>
    exact fun name d hname hd =>
      h.exists_started hremoves hd (h.keeps_eq_false hremoves hd hname)
  case stopped =>
    intro name hname
    rw [hgone] at hname
    exact h.exists_stopped hremoves hs hname
  case configured => exact fun name d hd => h.exists_configured hremoves hs (hsome hd) hd
  case balance => exact h.staffed.balance

end Assembly

/-- Every configured target was kept, or it got a new connection. -/
theorem Reconciled.kept_or_started {s' : Supervisor} {summary : ApplySummary}
    (h : Reconciled s c summary s') (hname : name ∈ c.targets.keys) :
    name ∈ summary.kept ∨ name ∈ summary.added ∨ name ∈ summary.replaced := by
  by_cases hold : name ∈ s.targets.keys
  · exact ((h.mem_both name).mpr ⟨hname, hold⟩).imp_right .inr
  · exact .inr (.inl ((h.mem_added name).mpr ⟨hname, hold⟩))

/-- A configuration without faults is applied to a supervisor whose books are in order. -/
theorem exists_reconciled (hs : s.Staffed) (hfault : c.fault? = none) :
    ∃ summary s', s.apply c = (.ok summary, s') ∧ Reconciled s c summary s' := by
  have hvalid : c.validate = .ok () := by rw [TargetConfiguration.validate, hfault]
  have hrequest : ∀ entry ∈ c.targets.entries, ∃ request, c.requestFor? entry.2 = some request :=
    fun _ hentry => TargetConfiguration.exists_requestFor? hvalid hentry
  have hcounted : s.countApply.Staffed := ⟨hs.connection_lt, hs.unique, hs.balance⟩
  have hfold := removes_foldl hcounted (s.departed c)
  have hremoves : Removes s (s.departed c) ((s.departed c).foldl removeTarget s.countApply) :=
    ⟨hfold.staffed, hfold.targets, hfold.length, hfold.stopped, hfold.others⟩
  obtain ⟨s', summary, hresult, hprogress, hgone⟩ :=
    exists_progress hremoves.staffed (s.departed c) hrequest
  exact ⟨summary, s', apply_eq_ok_iff.mpr ⟨hfault, hresult⟩,
    reconciled_of_progress hs hremoves hrequest hprogress hgone⟩

/-- A configuration that is accepted is applied. -/
theorem reconciled_of_accepted (config : GatewayConfig) (locks : LockService) (s : Supervisor)
    (hs : Reachable config locks s) (c : TargetConfiguration) (hc : c.validate = .ok ()) :
    ∃ summary s', s.apply c = (.ok summary, s') ∧ Reconciled s c summary s' := by
  refine exists_reconciled (staffed_of_reachable hs) ?_
  unfold TargetConfiguration.validate at hc
  split at hc
  · cases hc
  · assumption

/-- Three targets that share a request, and one with a request of its own. -/
def fourTargets : TargetConfiguration where
  targets := .ofList [("leaf1", { addresses := ["10.0.0.1"], request := "default" }),
    ("leaf2", { addresses := ["10.0.0.2"], request := "default" }),
    ("leaf3", { addresses := ["10.0.0.3"], request := "default" }),
    ("spine1", { addresses := ["10.0.2.1"], request := "spine" })]
  requests := .ofList [("default", .stream [.ofNames ["system"]]),
    ("spine", .stream [.ofNames ["interfaces"]])]

/-- The first target is gone, the second has other metadata and names the same request by another
name, the third has another address, the last one is as before while the template under the name of
its request is not, and there is a new one. -/
def otherTargets : TargetConfiguration where
  targets := .ofList [
    ("leaf2", { addresses := ["10.0.0.2"], request := "same",
                metadata := .ofList [("rack", "4")] }),
    ("leaf3", { addresses := ["10.0.1.3"], request := "same" }),
    ("leaf4", { addresses := ["10.0.0.4"], request := "same" }),
    ("spine1", { addresses := ["10.0.2.1"], request := "spine" })]
  requests := .ofList [("same", .stream [.ofNames ["system"]]),
    ("spine", .stream [.ofNames ["interfaces"], .ofNames ["system"]])]

/-- A supervisor with default settings that has got its first configuration. -/
def ofFour : Supervisor :=
  ((((new {} (.registry {})).toOption.map (·.apply fourTargets)).map (·.2)).getD
    { network := { pools := [], locks := .registry {} }, settings := {}, grace := 0 })

/-- What the reload is to be told as. -/
def reloadSummary : ApplySummary where
  added := ["leaf4"]
  replaced := ["leaf3", "spine1"]
  removed := ["leaf1"]
  kept := ["leaf2"]

/-- A reload with one target of each kind, and one whose template was edited. -/
theorem reconciled_of_reload :
    ∃ s', ofFour.apply otherTargets = (.ok reloadSummary, s') ∧
      s'.targets.keys = ["leaf2", "leaf3", "leaf4", "spine1"] ∧
      s'.connection? "leaf2" = ofFour.connection? "leaf2" ∧
      ∃ i conn, s'.connection? "spine1" = some i ∧ ofFour.network.connections[i]? = none ∧
        s'.network.connections[i]? = some conn ∧
        conn.request = .stream [.ofNames ["interfaces"], .ofNames ["system"]] := by
  have hreachable : Reachable {} (.registry {}) ofFour := .apply fourTargets (.new rfl)
  have hfault : otherTargets.fault? = none := by decide +kernel
  obtain ⟨summary, s', happly, h⟩ := reconciled_of_accepted {} (.registry {}) ofFour hreachable
    otherTargets (by rw [TargetConfiguration.validate, hfault])
  have hsummary : (ofFour.apply otherTargets).1.toOption = some reloadSummary := by
    decide +kernel
  rw [happly] at hsummary
  obtain rfl := Option.some_inj.mp hsummary
  refine ⟨s', happly, h.keys.trans (by decide +kernel), ?_, ?_⟩
  · rw [connection?, (h.kept "leaf2" (by decide)).1]
    rfl
  · obtain ⟨i, conn, hi, hnew, hconn, -, -, hrequest, -⟩ :=
      h.started "spine1" { addresses := ["10.0.2.1"], request := "spine" } (.inr (by decide)) rfl
    exact ⟨i, conn, hi, hnew, hconn, (Option.some_inj.mp hrequest).symm⟩

end Supervisor

end TelemetryGateway
