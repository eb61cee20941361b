import TelemetryGateway.Config.File
import TelemetryGateway.Proofs.Query
import TelemetryGateway.Proofs.Supervisor.Run

/-!
# Starting from a configuration

A configuration is checked before a supervisor is made from it.  Two things that a supervisor needs
are not asked for by the check.  A lock backend that works on files needs its directory; that is
asked of the file system, and if it cannot be made there is an error.  And there has to be a slot
pool with as many slots as the configuration wants, but no pool has more than
`SlotPool.maxCapacity`.

So an accepted configuration has three ways to go on, and `Supervisor.made_of_accepted` says when it
takes which: `LockConfig.Opens` and `LockConfig.Fails` are the two answers of the file system, and
what is made stands ready (`Supervisor.IsReady`) for all the runs that begin with it.
-/

namespace TelemetryGateway

namespace LockConfig

variable (openDirectory : String → Except LockError LockDirectory) (l : LockConfig)

/-- The locks of a configuration before anybody has asked for one. -/
inductive Opens : LockService → Prop
  | registry : l.backend = .local → Opens (.registry {})
  | directory {path : String} {d : LockDirectory} : l.backend = .file → l.dir = some path →
      openDirectory path = .ok d → Opens (.directory d)

/-- The lock directory cannot be made. -/
structure Fails (path : String) (cause : LockError) : Prop where
  backend : l.backend = .file
  dir : l.dir = some path
  failure : openDirectory path = .error cause

variable {openDirectory l} {locks : LockService} {path : String} {cause : LockError}

/-- If a backend that works on files has a directory, the file system gives an answer. -/
theorem opens_or_fails (openDirectory : String → Except LockError LockDirectory)
    (hdir : l.backend = .file → l.dir ≠ none) :
    (∃ locks, l.Opens openDirectory locks) ∨ ∃ path cause, l.Fails openDirectory path cause := by
  match hbackend : l.backend with
  | .local => exact .inl ⟨_, .registry hbackend⟩
  | .file =>
      obtain ⟨path, hpath⟩ := Option.ne_none_iff_exists'.mp (hdir hbackend)
      cases hanswer : openDirectory path with
      | ok d => exact .inl ⟨_, .directory hbackend hpath hanswer⟩
      | error cause => exact .inr ⟨path, cause, hbackend, hpath, hanswer⟩

end LockConfig

namespace Supervisor

variable {openDirectory : String → Except LockError LockDirectory} {config : GatewayConfig}
  {locks : LockService} {path : String} {cause : LockError} {s : Supervisor}

/-! ## The two answers of the file system -/

theorem ofConfig_of_opens (hservable : config.IsServable)
    (hopens : config.lock.Opens openDirectory locks) :
    ofConfig config openDirectory = new config locks := by
  have hfault : config.fault? = none := (GatewayConfig.fault?_eq_none_iff config).mpr hservable
  unfold ofConfig
  rw [hfault]
  cases hopens with
  | registry hbackend => simp only [hbackend]
  | directory hbackend hdir hok => simp only [hbackend, hdir, hok]

theorem ofConfig_of_fails (hservable : config.IsServable)
    (hfails : config.lock.Fails openDirectory path cause) :
    ofConfig config openDirectory = .error (.error (.lock cause)) := by
  have hfault : config.fault? = none := (GatewayConfig.fault?_eq_none_iff config).mpr hservable
  unfold ofConfig
  rw [hfault]
  simp only [hfails.backend, hfails.dir, hfails.failure]

/-- An accepted configuration has no other way to go on. -/
theorem ofConfig_eq_iff (hservable : config.IsServable)
    {result : Except SupervisorFault Supervisor} :
    ofConfig config openDirectory = result ↔
      (∃ locks, config.lock.Opens openDirectory locks ∧ new config locks = result) ∨
        ∃ path cause, config.lock.Fails openDirectory path cause ∧
          .error (.error (.lock cause)) = result := by
  constructor
  · rintro rfl
    rcases LockConfig.opens_or_fails openDirectory hservable.directory with
      ⟨locks, hopens⟩ | ⟨path, cause, hfails⟩
    · exact .inl ⟨locks, hopens, (ofConfig_of_opens hservable hopens).symm⟩
    · exact .inr ⟨path, cause, hfails, (ofConfig_of_fails hservable hfails).symm⟩
  · rintro (⟨locks, hopens, rfl⟩ | ⟨path, cause, hfails, rfl⟩)
    · exact ofConfig_of_opens hservable hopens
    · exact ofConfig_of_fails hservable hfails

theorem ofConfig_eq_ok_iff (hservable : config.IsServable) :
    ofConfig config openDirectory = .ok s ↔
      ∃ locks, config.lock.Opens openDirectory locks ∧ new config locks = .ok s := by
  simp [ofConfig_eq_iff hservable]

/-! ## What a supervisor begins with -/

/-- A supervisor that stands ready: it has no targets, all slots of its pool are free, as many as
the configuration says and one at least, and its connections will wait for their dials and between
their attempts. -/
structure IsReady (config : GatewayConfig) (s : Supervisor) : Prop where
  targets : s.targets = ∅
  pools : ∃ pool, s.network.pools = [pool] ∧ pool.capacity = config.targetLimit.toNat ∧
    pool.available = config.targetLimit.toNat
  limit : 1 ≤ config.targetLimit.toNat
  settings : s.settings = config.connectionSettings
  dialTimeout : s.settings.dialTimeout ≠ 0
  retryInterval : s.settings.retryInterval ≠ 0

theorem isReady_fresh (hservable : config.IsServable) (locks : LockService) :
    (fresh config locks).IsReady config where
  targets := rfl
  pools := ⟨_, rfl, rfl, rfl⟩
  limit := Nat.one_le_iff_ne_zero.mpr fun hzero => hservable.targetLimit (UInt64.toNat_inj.mp hzero)
  settings := rfl
  dialTimeout := hservable.timeout_ne_zero
  retryInterval := fun hzero => hservable.retryInterval (UInt64.toNat_inj.mp hzero)

/-- What comes of an accepted configuration.  A supervisor is made exactly if no more slots are
wanted than a pool can have and the locks can be had, which they always can within the process; it
stands ready, and the runs of a supervisor can begin with it.  The only error is that of a lock
directory that cannot be made.  If the locks can be had but too many slots are wanted, neither a
supervisor nor an error is returned. -/
theorem made_of_accepted (openDirectory : String → Except LockError LockDirectory)
    {config : GatewayConfig} (hvalid : config.validate = .ok ()) :
    ((∃ s, ofConfig config openDirectory = .ok s) ↔
        config.targetLimit.toNat ≤ SlotPool.maxCapacity ∧
          ∃ locks, config.lock.Opens openDirectory locks) ∧
      (ofConfig config openDirectory = .error .tooManySlots ↔
        SlotPool.maxCapacity < config.targetLimit.toNat ∧
          ∃ locks, config.lock.Opens openDirectory locks) ∧
      (∀ e, ofConfig config openDirectory = .error (.error e) ↔
        ∃ path cause, config.lock.Fails openDirectory path cause ∧ e = .lock cause) ∧
      ∀ s, ofConfig config openDirectory = .ok s → s.IsReady config ∧
        ∃ locks, config.lock.Opens openDirectory locks ∧ Reachable config locks s := by
  have hservable := (GatewayConfig.validate_eq_ok_iff config).mp hvalid
  refine ⟨?made, ?tooMany, ?failed, ?ready⟩
  case made =>
    constructor
    · rintro ⟨s, hmade⟩
      obtain ⟨locks, hopens, hnew⟩ := (ofConfig_eq_ok_iff hservable).mp hmade
      exact ⟨(new_eq_ok_iff.mp hnew).1, locks, hopens⟩
    · rintro ⟨hlimit, locks, hopens⟩
      have hnew : new config locks = .ok (fresh config locks) := new_eq_ok_iff.mpr ⟨hlimit, rfl⟩
      exact ⟨_, (ofConfig_eq_ok_iff hservable).mpr ⟨locks, hopens, hnew⟩⟩
  case tooMany =>
    constructor
    · intro hrefused
      rcases (ofConfig_eq_iff hservable).mp hrefused with ⟨locks, hopens, hnew⟩ | ⟨_, _, _, herror⟩
      · exact ⟨(new_eq_error_iff.mp hnew).1, locks, hopens⟩
      · cases herror
    · rintro ⟨hlimit, locks, hopens⟩
      rw [ofConfig_of_opens hservable hopens]
      exact new_eq_error_iff.mpr ⟨hlimit, rfl⟩
  case failed =>
    intro e
    constructor
    · intro hrefused
      rcases (ofConfig_eq_iff hservable).mp hrefused with
        ⟨_, _, hnew⟩ | ⟨path, cause, hfails, herror⟩
      · cases (new_eq_error_iff.mp hnew).2
      · cases herror
        exact ⟨path, cause, hfails, rfl⟩
    · rintro ⟨path, cause, hfails, rfl⟩
      exact ofConfig_of_fails hservable hfails
  case ready =>
    intro s hmade
    obtain ⟨locks, hopens, hnew⟩ := (ofConfig_eq_ok_iff hservable).mp hmade
    obtain ⟨-, rfl⟩ := new_eq_ok_iff.mp hnew
    exact ⟨isReady_fresh hservable locks, locks, hopens, .new hnew⟩

/-- The largest limit that there is a pool for.  The lock directory can be made unless a file of its
name is in the way. -/
theorem made_of_largest_limit :
    let config : GatewayConfig :=
      { targetLimit := 2305843009213693951, lock := { backend := .file, dir := some "run" } }
    let openDirectory := fun obstacle path => LockDirectory.below obstacle path 7 0
    config.validate = .ok () ∧
      (∃ s, ofConfig config (openDirectory none) = .ok s ∧ s.IsReady config) ∧
      ∃ cause, ofConfig config (openDirectory (some "run")) = .error (.error (.lock cause)) := by
  intro config openDirectory
  have hvalid : config.validate = .ok () := rfl
  obtain ⟨hmade, -, -, hready⟩ := made_of_accepted (openDirectory none) hvalid
  obtain ⟨-, -, hfailed, -⟩ := made_of_accepted (openDirectory (some "run")) hvalid
  have hsteps : LockDirectory.pathSteps "run" = ["run"] := by decide +kernel
  have hfree : ∃ d, openDirectory none "run" = .ok d := by
    have hmake : Folders.make {} ["run"] = .ok { places := [["run"]] } := rfl
    have hrelative : (FilePath.ofText "run").isAbsolute = false := rfl
    show ∃ d, LockDirectory.below none "run" 7 0 = .ok d
    rw [LockDirectory.below, hsteps, Folders.makeAll, hmake, hrelative]
    exact ⟨_, rfl⟩
  have hblocked : openDirectory (some "run") "run" =
      .error (.io "the lock directory cannot be created") := by
    have hmake : Folders.make { obstacle := some "run" } ["run"] = .error .blocked := rfl
    show LockDirectory.below (some "run") "run" 7 0 = _
    rw [LockDirectory.below, hsteps, Folders.makeAll, hmake]
    rfl
  obtain ⟨d, hd⟩ := hfree
  obtain ⟨s, hs⟩ := hmade.mpr ⟨by decide, _, .directory rfl rfl hd⟩
  exact ⟨hvalid, ⟨s, hs, (hready s hs).1⟩, _,
    (hfailed _).mpr ⟨"run", _, ⟨rfl, rfl, hblocked⟩, rfl⟩⟩

/-- One slot more: the file is accepted, the locks can be had, and there is no supervisor. -/
theorem limit_beyond_pool :
    ∃ config, GatewayConfig.ofToml "target_limit = 2305843009213693952" = .ok config ∧
      config.validate = .ok () ∧ config.lock.backend = .local ∧
      ∀ openDirectory, ofConfig config openDirectory = .error .tooManySlots := by
  have hread : (GatewayConfig.ofToml "target_limit = 2305843009213693952").toOption =
      some { targetLimit := 2305843009213693952 } := by decide +kernel
  generalize GatewayConfig.ofToml "target_limit = 2305843009213693952" = result at hread ⊢
  obtain _ | config := result <;> cases hread
  exact ⟨_, rfl, rfl, rfl, fun _ => rfl⟩

end Supervisor

end TelemetryGateway
