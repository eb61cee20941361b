import TelemetryGateway.Connection.Basic

/-!
# Accepted configurations and their queries

A query is checked three times before a transport sees it: as a target of a configuration, through
the settings of the gateway, and as the query itself.  `GatewayConfig.validate_eq_ok_iff`,
`TargetConfiguration.validate_eq_ok_iff` and `Query.validate_eq_ok_iff` say what each check asks
for.

The first two leave one question to the third: they do not ask whether the subscription list of a
template has anything in it.  `TargetConfiguration.validate_query_of_accepted` says that there is no
other gap.
-/

namespace TelemetryGateway

/-! ## What the checks ask for -/

/-- The settings of a gateway under which targets can be served. -/
structure GatewayConfig.IsServable (g : GatewayConfig) : Prop where
  targetLimit : g.targetLimit ≠ 0
  dialTimeout : g.targetDialTimeout ≠ 0
  retryInterval : g.lockRetryInterval ≠ 0
  directory : g.lock.backend = .file → g.lock.dir ≠ none

/-- A target that has a name and addresses and whose template has a subscription list. -/
structure TargetConfiguration.IsUsable (c : TargetConfiguration) (name : String)
    (d : TargetDescriptor) : Prop where
  name : Text.isBlank name = false
  exists_address : d.addresses ≠ []
  addresses : ∀ a ∈ d.addresses, Text.isBlank a = false
  request : ∃ request list, c.requestFor? d = some request ∧ request.subscribe = some list

/-- A query that a transport can dial. -/
structure Query.IsDialable (q : Query) : Prop where
  target : q.target ≠ ""
  exists_address : q.addresses ≠ []
  addresses : ∀ a ∈ q.addresses, Text.isBlank a = false
  timeout : q.timeout ≠ 0
  subscription : ∃ list, q.request.subscribe = some list ∧ list.subscription ≠ []

namespace GatewayConfig

theorem fault?_eq_none_iff (g : GatewayConfig) : g.fault? = none ↔ g.IsServable := by
  unfold fault?
  constructor
  · intro h
    split at h
    · cases h
    next hlimit =>
    split at h
    · cases h
    next htimeout =>
    split at h
    · cases h
    next hinterval =>
    split at h
    · cases h
    next hdirectory =>
    exact ⟨hlimit, htimeout, hinterval, fun hfile hdir => hdirectory ⟨hfile, hdir⟩⟩
  · rintro ⟨hlimit, htimeout, hinterval, hdirectory⟩
    rw [if_neg hlimit, if_neg htimeout, if_neg hinterval,
      if_neg fun ⟨hfile, hdir⟩ => hdirectory hfile hdir]

/-- The settings that are accepted. -/
theorem validate_eq_ok_iff (g : GatewayConfig) : g.validate = .ok () ↔ g.IsServable := by
  rw [← fault?_eq_none_iff, validate]
  cases g.fault? <;> simp

/-- The connections of an accepted gateway wait for their dials. -/
theorem IsServable.timeout_ne_zero {g : GatewayConfig} (h : g.IsServable) :
    g.connectionSettings.dialTimeout ≠ 0 :=
  fun hzero => h.dialTimeout (UInt64.toNat_inj.mp hzero)

end GatewayConfig

namespace TargetConfiguration

variable {c : TargetConfiguration} {name : String} {d : TargetDescriptor}

theorem targetFault?_eq_none_iff : c.targetFault? name d = none ↔ c.IsUsable name d := by
  unfold targetFault?
  constructor
  · intro h
    split at h
    · cases h
    next hname =>
    split at h
    · cases h
    next haddresses =>
    rw [Bool.or_eq_true, not_or, Bool.not_eq_true, List.isEmpty_eq_false_iff,
      Bool.not_eq_true, List.any_eq_false] at haddresses
    split at h
    · cases h
    next request hrequest =>
    split at h
    · cases h
    next hlist =>
    obtain ⟨list, hlist⟩ := Option.ne_none_iff_exists'.mp (mt Option.isNone_iff_eq_none.mpr hlist)
    exact {
      name := Bool.not_eq_true _ ▸ hname
      exists_address := haddresses.1
      addresses := fun a ha => Bool.not_eq_true _ ▸ haddresses.2 a ha
      request := ⟨request, list, hrequest, hlist⟩ }
  · rintro ⟨hname, hsome, haddresses, request, list, hrequest, hlist⟩
    have hany : d.addresses.any Text.isBlank = false :=
      List.any_eq_false.mpr fun a ha => by simp [haddresses a ha]
    simp [hname, hsome, hany, hrequest, hlist]

/-- The configurations that are accepted. -/
theorem validate_eq_ok_iff (c : TargetConfiguration) :
    c.validate = .ok () ↔ ∀ name d, (name, d) ∈ c.targets.entries → c.IsUsable name d := by
  have hfault : c.fault? = none ↔ ∀ name d, (name, d) ∈ c.targets.entries → c.IsUsable name d := by
    rw [fault?, List.findSome?_eq_none_iff]
    constructor
    · exact fun h name d hmem => targetFault?_eq_none_iff.mp (h (name, d) hmem)
    · exact fun h e hmem => targetFault?_eq_none_iff.mpr (h e.1 e.2 hmem)
  rw [← hfault, validate]
  cases c.fault? <;> simp

/-- Every target of an accepted configuration has a request template. -/
theorem exists_requestFor? (h : c.validate = .ok ()) {entry : String × TargetDescriptor}
    (hentry : entry ∈ c.targets.entries) : ∃ request, c.requestFor? entry.2 = some request := by
  obtain ⟨request, -, hrequest, -⟩ :=
    ((validate_eq_ok_iff c).mp h entry.1 entry.2 hentry).request
  exact ⟨request, hrequest⟩

end TargetConfiguration

namespace Query

/-- The first fault of a query that is otherwise in order is its empty list. -/
theorem fault?_of_list {q : Query} {list : SubscriptionList} (htarget : q.target ≠ "")
    (hsome : q.addresses ≠ []) (haddresses : ∀ a ∈ q.addresses, Text.isBlank a = false)
    (htimeout : q.timeout ≠ 0) (hlist : q.request.subscribe = some list) :
    q.fault? = if list.subscription = [] then some .emptyList else none := by
  have hany : q.addresses.any Text.isBlank = false :=
    List.any_eq_false.mpr fun a ha => by simp [haddresses a ha]
  simp [fault?, htarget, hsome, hany, htimeout, hlist]

theorem fault?_eq_none_iff (q : Query) : q.fault? = none ↔ q.IsDialable := by
  constructor
  · intro h
    unfold fault? at h
    split at h
    · cases h
    next htarget =>
    split at h
    · cases h
    next hsome =>
    split at h
    · cases h
    next haddresses =>
    split at h
    · cases h
    next htimeout =>
    split at h
    · cases h
    next list hlist =>
    split at h
    · cases h
    next hempty =>
    rw [Bool.not_eq_true, List.any_eq_false] at haddresses
    exact {
      target := fun heq => htarget (by simp [heq])
      exists_address := fun heq => hsome (by simp [heq])
      addresses := fun a ha => Bool.not_eq_true _ ▸ haddresses a ha
      timeout := htimeout
      subscription := ⟨list, hlist, fun heq => hempty (by simp [heq])⟩ }
  · rintro ⟨htarget, hsome, haddresses, htimeout, list, hlist, hsubscription⟩
    rw [fault?_of_list htarget hsome haddresses htimeout hlist, if_neg hsubscription]

/-- The queries that are accepted. -/
theorem validate_eq_ok_iff (q : Query) : q.validate = .ok () ↔ q.IsDialable := by
  rw [← fault?_eq_none_iff, validate]
  cases q.fault? <;> simp

/-- A query is built exactly if the template has a list. -/
theorem build_eq_ok_iff {target : String} {d : TargetDescriptor} {request : SubscribeRequest}
    {timeout : Nat} {tls : TlsSettings} {q : Query} :
    build target d request timeout tls = .ok q ↔
      ∃ list, request.subscribe = some list ∧
        q = { target, addresses := d.addresses, credentials := d.credentials, timeout, tls,
              request := ⟨some (list.addressedTo target)⟩ } := by
  unfold build
  cases request.subscribe with
  | none => simp
  | some list => simp [eq_comm]

end Query

/-! ## The query of an accepted target -/

/-- A list that gets a target keeps its subscriptions. -/
@[simp] theorem SubscriptionList.subscription_addressedTo (l : SubscriptionList) (name : String) :
    (l.addressedTo name).subscription = l.subscription := rfl

/-- The query of a target that two checks have accepted can be built, and the third refuses it only
for an empty subscription list. -/
theorem TargetConfiguration.validate_query_of_accepted {g : GatewayConfig} {c : TargetConfiguration}
    (hg : g.IsServable) {name : String} {d : TargetDescriptor} (hd : c.IsUsable name d) :
    ∃ request list q, c.requestFor? d = some request ∧ request.subscribe = some list ∧
      Query.build name d request g.connectionSettings.dialTimeout g.connectionSettings.tls = .ok q ∧
      q.validate = if list.subscription = [] then
        .error (.invalidQuery name QueryFault.emptyList.reason) else .ok () := by
  obtain ⟨hname, hsome, haddresses, request, list, hrequest, hlist⟩ := hd
  refine ⟨request, list, _, hrequest, hlist, Query.build_eq_ok_iff.mpr ⟨list, hlist, rfl⟩, ?_⟩
  have hne : name ≠ "" := by
    rintro rfl
    cases hname
  have hfault := Query.fault?_of_list (q := ⟨name, d.addresses, d.credentials,
    g.connectionSettings.dialTimeout, g.connectionSettings.tls, ⟨some (list.addressedTo name)⟩⟩)
    hne hsome haddresses hg.timeout_ne_zero rfl
  rw [Query.validate, hfault, SubscriptionList.subscription_addressedTo]
  by_cases hempty : list.subscription = []
  · rw [if_pos hempty, if_pos hempty]
  · rw [if_neg hempty, if_neg hempty]

end TelemetryGateway
