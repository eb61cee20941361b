import TelemetryGateway.Proofs.Supervisor.Refusal
import TelemetryGateway.Proofs.Supervisor.Replacement

/-!
# The names in the registry of caches

A supervisor gives every target that it starts the cache of its name, and makes one if there is
none.  A target that is no longer configured loses its cache: its name is taken out of the registry.
The names of the targets that a shutdown stops are not.  No later configuration takes them out
either, since only supervised targets are looked at (`Supervisor.ReachableLeaving` keeps a list of
the names that have been left behind so).

* `Supervisor.get?_caches_apply`: what an accepted configuration does to the registry;
* `Supervisor.shelved_of_reachableLeaving`: the registry has the supervised names and those that
  were left behind;
* `Supervisor.caches_of_applied`: what the registry is when a configuration was applied;
* `Supervisor.outlived_by_shutdown`: a cache that is there without its target.
-/

namespace TelemetryGateway

theorem CacheRegistry.mem_targetNames {r : CacheRegistry} {name : String} :
    name ∈ r.targetNames ↔ ∃ id, r.get? name = some id := by
  rw [targetNames, Dictionary.mem_keys_iff, Dictionary.contains_iff]
  rfl

namespace Supervisor

variable {config : GatewayConfig} {locks : LockService} {s s' : Supervisor} {name : String}
  {c : TargetConfiguration} {summary summary' : ApplySummary} {left : List String}

/-! ## Names that come and go -/

theorem names_join (s : Supervisor) (name : String) (task grace : Nat) :
    (s.join name task grace).network.caches.names = s.network.caches.names := by
  obtain ⟨n, hn, ⟨-, heq⟩ | ⟨-, heq⟩⟩ := s.join_cases name task grace
  · rw [heq]
    exact hn.names
  · rw [heq]
    exact hn.names

/-- A target that is stopped keeps its cache. -/
theorem names_stopTarget (s : Supervisor) (name : String) :
    (s.stopTarget name).network.caches.names = s.network.caches.names := by
  unfold stopTarget
  split
  · rfl
  · next target _ =>
    exact (names_join _ _ _ _).trans
      (congrArg CacheRegistry.names (s.network.disconnect_frame target.connection).2.2)

/-- So does every target that a shutdown stops. -/
theorem names_shutdown (s : Supervisor) :
    s.shutdown.network.caches.names = s.network.caches.names :=
  shutdown_induction (motive := fun n => n.caches.names = s.network.caches.names)
    (fun _ _ hn => hn)
    (fun {n} c hn => (congrArg CacheRegistry.names (n.disconnect_frame c).2.2).trans hn)
    (fun _ _ _ hs => (names_join _ _ _ _).trans hs) rfl

theorem get?_caches_foldl_removeTarget (names : List String) (s : Supervisor) (name : String) :
    (names.foldl removeTarget s).network.caches.get? name =
      if name ∈ names then none else s.network.caches.get? name := by
  induction names generalizing s with
  | nil => rfl
  | cons other rest ih =>
      have hremoved : (s.removeTarget other).network.caches.get? name =
          if other = name then none else s.network.caches.get? name := by
        have hnames : (s.removeTarget other).network.caches.names =
            s.network.caches.names.erase other :=
          congrArg (·.erase other) (names_stopTarget s other)
        rw [CacheRegistry.get?, hnames, Dictionary.get?_erase]
        rfl
      rw [List.foldl_cons, ih, hremoved]
      by_cases hname : other = name
      · simp [hname]
      · simp [hname, Ne.symm hname]

/-- A target that is started has a cache, the one it had before if there was one. -/
theorem get?_caches_restart (s : Supervisor) (name : String) (o : Occurrence)
    (d : TargetDescriptor) (request : SubscribeRequest) (other : String) :
    (s.restart name o d request).network.caches.get? other =
      if name = other then
        some ((s.network.caches.get? name).getD (s.stopTarget name).network.caches.caches.length)
      else s.network.caches.get? other := by
  have hget : (s.stopTarget name).network.caches.get? = s.network.caches.get? := by
    funext other
    rw [CacheRegistry.get?, names_stopTarget]
    rfl
  obtain ⟨conn, rfl, -, hlists⟩ :=
    ((s.stopTarget name).onNetwork (·.report name o)).enlists_startTarget name d request
  rw [restart, hlists.get?_eq, ← hget]
  congr 2
  rcases (s.stopTarget conn.name).network.caches.getOrAdd_cases conn.name with
    ⟨hold, -⟩ | ⟨hnone, hnew, -⟩
  · rw [hold]
    rfl
  · rw [hnone]
    exact hnew

/-! ## Applying a configuration -/

/-- A configured target is kept as it is, or it is started again. -/
theorem keeps_or_restart {entry : String × TargetDescriptor} {next : Supervisor × ApplySummary}
    (h : reconcile c (s, summary) entry = .ok next) :
    (s.keeps c entry = true ∧ next.1 = s) ∨
      ∃ o request, next.1 = s.restart entry.1 o entry.2 request := by
  cases hkeeps : s.keeps c entry with
  | true =>
      rw [reconcile_of_keeps hkeeps] at h
      cases h
      exact .inl ⟨rfl, rfl⟩
  | false =>
      cases hrequest : c.requestFor? entry.2 with
      | none => simp [reconcile, hrequest] at h
      | some request =>
          rw [reconcile_of_not_keeps hrequest hkeeps] at h
          cases h
          exact .inr ⟨_, request, rfl⟩

/-- A supervised target has its cache. -/
theorem Attended.exists_cache (h : s.Attended) (hname : s.targets.contains name = true) :
    ∃ id, s.network.caches.get? name = some id := by
  obtain ⟨target, htarget⟩ := Dictionary.contains_iff.mp hname
  obtain ⟨-, -, id, hid, -⟩ := h.crewed.serving name target htarget
  exact ⟨id, hid⟩

/-- What has become of the registry when some configured targets were brought up to date. -/
structure Houses (start : CacheRegistry) (names : List String) (r : CacheRegistry) : Prop where
  kept : ∀ name id, start.get? name = some id → r.get? name = some id
  housed : ∀ name ∈ names, ∃ id, r.get? name = some id
  others : ∀ name, name ∉ names → r.get? name = start.get? name

theorem houses_reconcile {entry : String × TargetDescriptor} (hs : s.Attended)
    (h : reconcile c (s, summary) entry = .ok (s', summary')) :
    s'.Attended ∧ Houses s.network.caches [entry.1] s'.network.caches := by
  rcases keeps_or_restart h with ⟨hkeeps, rfl⟩ | ⟨o, request, rfl⟩
  · refine ⟨hs, fun _ _ hid => hid, fun name hname => ?_, fun _ _ => rfl⟩
    rw [List.mem_singleton.mp hname]
    exact hs.exists_cache (contains_of_keeps hkeeps)
  · refine ⟨hs.restart _ _ _ _, fun name id hid => ?_, fun name hname => ?_, fun name hname => ?_⟩
    · rw [get?_caches_restart]
      split
      · next heq => rw [heq, hid, Option.getD_some]
      · exact hid
    · rw [get?_caches_restart, if_pos (List.mem_singleton.mp hname).symm]
      exact ⟨_, rfl⟩
    · rw [get?_caches_restart, if_neg fun heq => hname (List.mem_singleton.mpr heq.symm)]

theorem houses_foldlM {entries : List (String × TargetDescriptor)} (hs : s.Attended)
    (h : entries.foldlM (reconcile c) (s, summary) = .ok (s', summary')) :
    Houses s.network.caches (entries.map (·.1)) s'.network.caches := by
  induction entries generalizing s summary with
  | nil =>
      cases h
      exact ⟨fun _ _ hid => hid, nofun, fun _ _ => rfl⟩
  | cons entry rest ih =>
      rw [List.foldlM_cons] at h
      cases hfirst : reconcile c (s, summary) entry with
      | error e =>
          rw [hfirst] at h
          cases h
      | ok first =>
          rw [hfirst] at h
          obtain ⟨hattended, hone⟩ := houses_reconcile hs hfirst
          have hrest := ih hattended h
          constructor
          case kept => exact fun name id hid => hrest.kept name id (hone.kept name id hid)
          case housed =>
            intro name hname
            rcases List.mem_cons.mp hname with rfl | hlater
            · obtain ⟨id, hid⟩ := hone.housed entry.1 List.mem_cons_self
              exact ⟨id, hrest.kept entry.1 id hid⟩
            · exact hrest.housed name hlater
          case others =>
            intro name hname
            rw [List.map_cons, List.mem_cons, not_or] at hname
            rw [hrest.others name hname.2, hone.others name (mt List.mem_singleton.mp hname.1)]

/-- An accepted configuration gives every configured name a cache, the one that the name had before
if there was one.  Of the other names it takes out those that were supervised. -/
theorem get?_caches_apply (hs : s.Attended) (happly : s.apply c = (.ok summary, s'))
    (name : String) :
    (name ∈ c.targets.keys → ∃ id, s'.network.caches.get? name = some id ∧
      ∀ old, s.network.caches.get? name = some old → old = id) ∧
    (name ∉ c.targets.keys → s'.network.caches.get? name =
      if name ∈ s.targets.keys then none else s.network.caches.get? name) := by
  obtain ⟨-, hfold⟩ := apply_eq_ok_iff.mp happly
  have hremoved := fun name => get?_caches_foldl_removeTarget (s.departed c) s.countApply name
  have hattended : ((s.departed c).foldl removeTarget s.countApply).Attended :=
    foldl_removeTarget_induction (motive := Attended) (fun name h => h.removeTarget name) _ hs
  have hhouses := houses_foldlM hattended hfold
  refine ⟨fun hname => ?_, fun hname => ?_⟩
  · obtain ⟨id, hid⟩ := hhouses.housed name hname
    refine ⟨id, hid, fun old hold => Option.some_inj.mp ((hhouses.kept name old ?_).symm.trans hid)⟩
    rw [hremoved, if_neg fun hgone => (mem_departed.mp hgone).2 hname]
    exact hold
  · rw [hhouses.others name hname, hremoved]
    simp only [mem_departed, hname, not_false_eq_true, and_true]
    rfl

/-! ## Names that are left behind -/

/-- The supervisors that come of a configuration and some locks, with the names that shutdowns have
left behind and that no accepted configuration has had a target for since. -/
inductive ReachableLeaving (config : GatewayConfig) (locks : LockService) :
    List String → Supervisor → Prop
  | new {s : Supervisor} : new config locks = .ok s → ReachableLeaving config locks [] s
  | accepted {left : List String} {s s' : Supervisor} {c : TargetConfiguration}
      {summary : ApplySummary} : ReachableLeaving config locks left s →
      s.apply c = (.ok summary, s') →
      ReachableLeaving config locks (left.filter fun name => !c.targets.contains name) s'
  | refused {left : List String} {s s' : Supervisor} {c : TargetConfiguration}
      {e : GatewayError} : ReachableLeaving config locks left s → s.apply c = (.error e, s') →
      ReachableLeaving config locks left s'
  | shutdown {left : List String} {s : Supervisor} : ReachableLeaving config locks left s →
      ReachableLeaving config locks (s.targets.keys ++ left) s.shutdown
  | world {left : List String} {s : Supervisor} {a : Act} :
      ReachableLeaving config locks left s → s.network.admits a = true →
      ReachableLeaving config locks left (s.onNetwork (·.after a))

/-- Every supervisor that can be reached has left some names behind. -/
theorem reachable_iff_leaving :
    Reachable config locks s ↔ ∃ left, ReachableLeaving config locks left s := by
  constructor
  · intro h
    induction h with
    | new hnew => exact ⟨[], .new hnew⟩
    | @apply s c _ ih =>
        obtain ⟨left, h⟩ := ih
        cases hresult : (s.apply c).1 with
        | error e => exact ⟨left, h.refused (Prod.ext hresult rfl)⟩
        | ok summary => exact ⟨_, h.accepted (Prod.ext hresult rfl)⟩
    | shutdown _ ih =>
        obtain ⟨left, h⟩ := ih
        exact ⟨_, h.shutdown⟩
    | world _ ha ih =>
        obtain ⟨left, h⟩ := ih
        exact ⟨left, h.world ha⟩
  · rintro ⟨left, h⟩
    induction h with
    | new hnew => exact .new hnew
    | @accepted _ _ s' c _ _ happly ih =>
        have := ih.apply c
        rwa [happly] at this
    | @refused _ _ s' c _ _ happly ih =>
        have := ih.apply c
        rwa [happly] at this
    | shutdown _ ih => exact ih.shutdown
    | world _ ha ih => exact ih.world ha

/-- What the registry has: the supervised names and those that were left behind. -/
structure Shelved (s : Supervisor) (left : List String) : Prop where
  attended : s.Attended
  names : ∀ name, name ∈ s.network.caches.targetNames ↔ name ∈ s.targets.keys ∨ name ∈ left
  apart : ∀ name ∈ left, name ∉ s.targets.keys

namespace Shelved

/-- What does not change the names changes nothing. -/
theorem congr (h : s.Shelved left) (hattended : s'.Attended) (htargets : s'.targets = s.targets)
    (hnames : s'.network.caches.names = s.network.caches.names) : s'.Shelved left where
  attended := hattended
  names := by
    rw [CacheRegistry.targetNames, hnames, htargets]
    exact h.names
  apart := by
    rw [htargets]
    exact h.apart

theorem accepted (h : s.Shelved left) (hkeys : s'.targets.keys = c.targets.keys)
    (happly : s.apply c = (.ok summary, s')) :
    s'.Shelved (left.filter fun name => !c.targets.contains name) := by
  have hmem : ∀ name, name ∈ left.filter (fun name => !c.targets.contains name) ↔
      name ∈ left ∧ name ∉ c.targets.keys := by
    intro name
    rw [List.mem_filter, Dictionary.mem_keys_iff]
    simp
  constructor
  case attended =>
    have := h.attended.apply c
    rwa [happly] at this
  case names =>
    intro name
    obtain ⟨hin, hout⟩ := get?_caches_apply h.attended happly name
    rw [hkeys, hmem, CacheRegistry.mem_targetNames]
    by_cases hname : name ∈ c.targets.keys
    · obtain ⟨id, hid, -⟩ := hin hname
      exact iff_of_true ⟨id, hid⟩ (.inl hname)
    · rw [hout hname]
      by_cases hold : name ∈ s.targets.keys
      · -- a name that was supervised has not been left behind
        have hnot : name ∉ left := fun hleft => h.apart name hleft hold
        simp [hname, hold, hnot]
      · have hnames := h.names name
        rw [CacheRegistry.mem_targetNames] at hnames
        simp [hname, hold, hnames]
  case apart =>
    intro name hname
    rw [hkeys]
    exact ((hmem name).mp hname).2

theorem shutdown (h : s.Shelved left) : s.shutdown.Shelved (s.targets.keys ++ left) := by
  have hnone : ∀ name, name ∉ s.shutdown.targets.keys := by
    rw [s.shutdown_frame.1]
    exact fun _ => List.not_mem_nil
  refine ⟨h.attended.shutdown, fun name => ?_, fun name _ => hnone name⟩
  rw [CacheRegistry.targetNames, names_shutdown, List.mem_append]
  simp only [hnone, false_or]
  exact h.names name

end Shelved

/-- In every reachable supervisor the registry has the supervised names and those left behind. -/
theorem shelved_of_reachableLeaving (h : ReachableLeaving config locks left s) :
    s.Shelved left := by
  induction h with
  | @new s hnew =>
      refine ⟨attended_of_reachable (.new hnew), fun name => ?_, nofun⟩
      obtain ⟨-, rfl⟩ := new_eq_ok_iff.mp hnew
      exact iff_of_false List.not_mem_nil (by rintro (h | h) <;> exact List.not_mem_nil h)
  | @accepted _ s s' c _ hs happly ih =>
      obtain ⟨_, _, happly', hreconciled⟩ := exists_reconciled
        (staffed_of_reachable (reachable_iff_leaving.mpr ⟨_, hs⟩)) (apply_eq_ok_iff.mp happly).1
      rw [happly] at happly'
      cases happly'
      exact ih.accepted hreconciled.keys happly
  | @refused _ s _ c e _ happly ih =>
      have hsame := (refuses_iff_invalid s c).2.1 e (congrArg Prod.fst happly)
      rw [happly] at hsame
      obtain rfl : _ = s := hsame
      exact ih
  | shutdown _ ih => exact ih.shutdown
  | world _ ha ih => exact ih.congr (ih.attended.after ha) rfl (Network.caches_frame_after ha).1

/-! ## From one accepted configuration to the next -/

/-- What may happen before the next configuration is accepted. -/
inductive Interlude (start : Supervisor) : Supervisor → Prop
  | refl : Interlude start start
  | refused {s s' : Supervisor} {c : TargetConfiguration} {e : GatewayError} :
      Interlude start s → s.apply c = (.error e, s') → Interlude start s'
  | shutdown {s : Supervisor} : Interlude start s → Interlude start s.shutdown
  | world {s : Supervisor} {a : Act} : Interlude start s → s.network.admits a = true →
      Interlude start (s.onNetwork (·.after a))

/-- Until then every name keeps its cache. -/
theorem Interlude.names {start : Supervisor} (h : Interlude start s) :
    s.network.caches.names = start.network.caches.names := by
  induction h with
  | refl => rfl
  | @refused s _ c e _ happly ih =>
      have hsame := (refuses_iff_invalid s c).2.1 e (congrArg Prod.fst happly)
      rw [happly] at hsame
      rw [← ih, ← hsame]
  | shutdown _ ih => exact (names_shutdown _).trans ih
  | world _ ha ih => exact (Network.caches_frame_after ha).1.trans ih

/-- What a supervisor has when a configuration was accepted: the configured targets, and one cache
for each of them and for each name that is left behind. -/
structure Stocked (s : Supervisor) (c : TargetConfiguration) (left : List String) : Prop where
  targets : s.targets.keys = c.targets.keys
  names : ∀ name, name ∈ s.network.caches.targetNames ↔ name ∈ c.targets.keys ∨ name ∈ left
  cache : ∀ name ∈ s.network.caches.targetNames, ∃ id k,
    s.network.caches.get? name = some id ∧ s.network.caches.cache? id = some k
  unique : ∀ name name' id, s.network.caches.get? name = some id →
    s.network.caches.get? name' = some id → name = name'

/-- Two registries have the same names if each has those of the other. -/
theorem targetNames_eq_keys_iff {r : CacheRegistry} :
    r.targetNames = c.targets.keys ↔ ∀ name, name ∈ r.targetNames ↔ name ∈ c.targets.keys := by
  constructor
  · exact fun heq name => by rw [heq]
  · intro h
    refine Dictionary.keys_eq_of_contains fun name => ?_
    rw [Bool.eq_iff_iff, ← Dictionary.mem_keys_iff, ← Dictionary.mem_keys_iff]
    exact h name

/-- After every accepted configuration the registry has the configured names and those that
shutdowns have left behind: it has just the configured names exactly if each name that was left
behind is configured again.  A name that is configured by two accepted configurations, one after the
other, has the same cache after both. -/
theorem caches_of_applied (config : GatewayConfig) (locks : LockService) (left : List String)
    (s s' : Supervisor) (hs : ReachableLeaving config locks left s) (c : TargetConfiguration)
    (summary : ApplySummary) (happly : s.apply c = (.ok summary, s')) :
    s'.Stocked c left ∧
      (s'.network.caches.targetNames = c.targets.keys ↔ ∀ name ∈ left, name ∈ c.targets.keys) ∧
      ∀ earlier started c' summary', Reachable config locks earlier →
        earlier.apply c' = (.ok summary', started) → Interlude started s →
        ∀ name ∈ c'.targets.keys, name ∈ c.targets.keys →
          ∃ id, started.network.caches.get? name = some id ∧
            s'.network.caches.get? name = some id := by
  have hshelved := shelved_of_reachableLeaving hs
  have hshelved' := shelved_of_reachableLeaving (hs.accepted happly)
  obtain ⟨_, _, happly', hreconciled⟩ := exists_reconciled
    (staffed_of_reachable (reachable_iff_leaving.mpr ⟨_, hs⟩)) (apply_eq_ok_iff.mp happly).1
  rw [happly] at happly'
  cases happly'
  have hnames : ∀ name, name ∈ s'.network.caches.targetNames ↔
      name ∈ c.targets.keys ∨ name ∈ left := by
    intro name
    rw [hshelved'.names, hreconciled.keys, List.mem_filter, Dictionary.mem_keys_iff]
    cases c.targets.contains name <;> simp
  refine ⟨⟨hreconciled.keys, hnames, fun name hname => ?_, hshelved'.attended.crewed.name_unique⟩,
    ?_, ?_⟩
  · obtain ⟨id, hid⟩ := CacheRegistry.mem_targetNames.mp hname
    exact ⟨id, _, hid, List.getElem?_eq_getElem (hshelved'.attended.crewed.name_lt name id hid)⟩
  · rw [targetNames_eq_keys_iff]
    simp only [hnames, or_iff_left_iff_imp]
  · intro earlier started c' summary' hearlier happly' hbetween name hname' hname
    obtain ⟨id, hid, -⟩ :=
      (get?_caches_apply (attended_of_reachable hearlier) happly' name).1 hname'
    obtain ⟨id', hid', hsame⟩ := (get?_caches_apply hshelved.attended happly name).1 hname
    have hold : s.network.caches.get? name = some id := by
      rw [CacheRegistry.get?, hbetween.names]
      exact hid
    exact ⟨id, hid, hsame id hold ▸ hid'⟩

/-- A reload with one target of each kind, after one that was refused: the target that is replaced
keeps its cache, and nothing is left of the one that is gone. -/
theorem caches_of_reload :
    ∃ s', ofFour.apply otherTargets = (.ok reloadSummary, s') ∧
      s'.network.caches.targetNames = ["leaf2", "leaf3", "leaf4", "spine1"] ∧
      ∃ id, ofFour.network.caches.get? "leaf3" = some id ∧
        s'.network.caches.get? "leaf3" = some id := by
  obtain ⟨s, hnew⟩ : ∃ s, Supervisor.new {} (.registry {}) = .ok s := ⟨_, rfl⟩
  have hfour : ofFour = (s.apply fourTargets).2 := by rw [ofFour, hnew]; rfl
  have hfirst : s.apply fourTargets =
      (.ok { added := ["leaf1", "leaf2", "leaf3", "spine1"] }, ofFour) := by
    rw [hfour]
    cases hnew
    exact apply_eq_of_toOption (by decide +kernel)
  have hreload : ofFour.apply otherTargets =
      (.ok reloadSummary, (ofFour.apply otherTargets).2) :=
    apply_eq_of_toOption (by decide +kernel)
  have hrefused : Interlude ofFour ofFour := by
    have hbroken : brokenTargets.fault? = some (.unknownRequest "leaf3" "missing") := by
      decide +kernel
    exact .refused .refl (apply_of_invalid (by rw [TargetConfiguration.validate, hbroken]) ofFour)
  obtain ⟨hstocked, hexact, hsame⟩ := caches_of_applied {} (.registry {}) _ _ _
    ((ReachableLeaving.new hnew).accepted hfirst) _ _ hreload
  refine ⟨_, hreload, ?_, hsame s ofFour fourTargets _ (.new hnew) hfirst hrefused "leaf3"
    (by decide +kernel) (by decide +kernel)⟩
  rw [hexact.mpr fun _ hname => absurd hname List.not_mem_nil]
  decide +kernel

/-- The cache of a target that was stopped by a shutdown is still there when a configuration without
targets is accepted. -/
theorem outlived_by_shutdown : ∃ s, Supervisor.new {} (.registry {}) = .ok s ∧
    let stopped := (s.apply (oneTarget "10.0.0.1")).2.shutdown
    Reachable {} (.registry {}) stopped ∧ (stopped.apply {}).1.toOption = some {} ∧
      (stopped.apply {}).2.targets.keys = [] ∧
      (stopped.apply {}).2.network.caches.targetNames = ["leaf1"] := by
  refine ⟨_, rfl, ?_⟩
  intro stopped
  exact ⟨.shutdown (.apply _ (.new rfl)), by decide +kernel, by decide +kernel, by decide +kernel⟩

end Supervisor

end TelemetryGateway
