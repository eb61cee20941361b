import TelemetryGateway.Proofs.Config.Codec
import TelemetryGateway.Proofs.Lock.Files
import TelemetryGateway.Supervisor

/-!
# Texts of messages and configurations

A value of any of the message and configuration types is read back from the JSON text that is
written for it, and from every text that leaves out some of the fields that hold their default, at
any depth (`readsBack_encode`).  The value may hold any texts and any integers of its fields'
ranges, but no floating-point number.  What counts as a default is the same in the types, in the
encoders, in the decoders and in the schemas (`abridges_of_defaults`).
-/

namespace TelemetryGateway

open FieldReader Schema

namespace CachedValue

/-- A cached value needs a time; it may be the mark of a leaf without value. -/
def schema : Schema :=
  .record [("value", .null)] fun
    | "value" => TypedValue.schema
    | _ => .whole

/-- Whether the value is a floating-point number. -/
def hasDouble (v : CachedValue) : Bool := v.value.any TypedValue.hasDouble

theorem hasDouble_value {v : CachedValue} (h : v.hasDouble = false) :
    ∀ x ∈ v.value, x.hasDouble = false :=
  (Option.any_eq_false _ _).mp h

theorem isPlain_encode {v : CachedValue} (h : v.hasDouble = false) : v.encode.IsPlain := by
  have hvalue : (v.value.elim .null TypedValue.encode).IsPlain := by
    cases hx : v.value with
    | none => trivial
    | some x => exact TypedValue.isPlain_encode (hasDouble_value h x hx)
  simpa [encode] using hvalue

theorem restores {v : CachedValue} (h : v.hasDouble = false) :
    schema.Restores decode v.encode v := by
  refine restores_record fun c rest hrest => ?_
  have htimestamp : (required "timestamp" .int64).Finds c rest v.timestamp :=
    hrest.finds_required (by simp) rfl (restores_int64 v.timestamp)
  have hvalue : (optional "value" TypedValue.decode).Finds c rest v.value :=
    hrest.finds_withDefault (by simp) rfl (fun _ => rfl) <|
      restores_orNull (fun _ => rfl) fun x hx => TypedValue.restores (hasDouble_value h x hx)
  -- by name, this field may be missing as any optional one
  have hbyName : (optionalByName "value" TypedValue.decode).Finds c rest v.value := hvalue
  exact htimestamp.bind (hbyName.bind (finds_pure v))

end CachedValue

namespace ApplySummary

/-- Every list of a summary has to be there. -/
def schema : Schema := .record [] fun _ => .list .whole

@[simp] theorem isPlain_encode (s : ApplySummary) : s.encode.IsPlain := by simp [encode]

theorem restores (s : ApplySummary) : schema.Restores decode s.encode s := by
  refine restores_record fun c rest h => ?_
  have hadded : (required "added" (.list .text)).Finds c rest s.added :=
    h.finds_required (by simp) rfl (restores_list fun t _ => restores_text t)
  have hreplaced : (required "replaced" (.list .text)).Finds c rest s.replaced :=
    h.finds_required (by simp) rfl (restores_list fun t _ => restores_text t)
  have hremoved : (required "removed" (.list .text)).Finds c rest s.removed :=
    h.finds_required (by simp) rfl (restores_list fun t _ => restores_text t)
  have hkept : (required "kept" (.list .text)).Finds c rest s.kept :=
    h.finds_required (by simp) rfl (restores_list fun t _ => restores_text t)
  exact hadded.bind (hreplaced.bind (hremoved.bind (hkept.bind (finds_pure s))))

end ApplySummary

/-! ## All texts -/

/-- The defaults of the schemas are those of the types, written as the encoders write them: of a
value that holds all of them nothing has to remain but the fields without a default. -/
theorem abridges_of_defaults :
    (∀ name, PathElem.schema.Abridges (PathElem.encode { name }) (.record [("name", .text name)])) ∧
    Path.schema.Abridges (Path.encode {}) (.record []) ∧
    (∀ path, Update.schema.Abridges (Update.encode { path }) (.record [("path", path.encode)])) ∧
    Notification.schema.Abridges (Notification.encode {}) (.record []) ∧
    ErrorMessage.schema.Abridges (ErrorMessage.encode {}) (.record []) ∧
    SubscribeResponse.schema.Abridges (SubscribeResponse.encode {}) (.record []) ∧
    (∀ path, Subscription.schema.Abridges (Subscription.encode { path })
      (.record [("path", path.encode)])) ∧
    SubscriptionList.schema.Abridges (SubscriptionList.encode {}) (.record []) ∧
    SubscribeRequest.schema.Abridges (SubscribeRequest.encode {}) (.record []) ∧
    (∀ addresses, TargetDescriptor.schema.Abridges (TargetDescriptor.encode { addresses })
      (.record [("addresses", .ofList .text addresses)])) ∧
    TargetConfiguration.schema.Abridges (TargetConfiguration.encode {}) (.record []) ∧
    LockConfig.schema.Abridges (LockConfig.encode {}) (.record []) ∧
    LoggingConfig.schema.Abridges (LoggingConfig.encode {}) (.record []) ∧
    GatewayConfig.schema.Abridges (GatewayConfig.encode {}) (.record []) ∧
    (∀ timestamp, CachedValue.schema.Abridges (CachedValue.encode { timestamp, value := none })
      (.record [("timestamp", .int timestamp.toInt)])) := by
  refine ⟨fun name => ?_, ?_, fun path => ?_, ?_, ?_, ?_, fun path => ?_, ?_, ?_,
    fun addresses => ?_, ?_, ?_, ?_, ?_, fun timestamp => ?_⟩
  all_goals
    refine abridges_record.mpr ⟨_, rfl, ?_⟩
    -- field by field: each is left out, or it has no default and is kept
    repeat first
      | exact .nil
      | refine .omitted rfl ?_
      | refine .kept (.refl _ _) ?_

/-- What is written is read back, and so is what remains of it when fields that hold their default
are left out. -/
theorem readsBack_encode :
    (∀ p : Path, Path.schema.ReadsBack Path.decode p.encode p) ∧
    (∀ v : TypedValue, v.hasDouble = false →
      TypedValue.schema.ReadsBack TypedValue.decode v.encode v) ∧
    (∀ u : Update, u.hasDouble = false → Update.schema.ReadsBack Update.decode u.encode u) ∧
    (∀ n : Notification, n.hasDouble = false →
      Notification.schema.ReadsBack Notification.decode n.encode n) ∧
    (∀ r : SubscribeResponse, r.hasDouble = false →
      SubscribeResponse.schema.ReadsBack SubscribeResponse.decode r.encode r) ∧
    (∀ r : SubscribeRequest,
      SubscribeRequest.schema.ReadsBack SubscribeRequest.decode r.encode r) ∧
    (∀ d : TargetDescriptor,
      TargetDescriptor.schema.ReadsBack TargetDescriptor.decode d.encode d) ∧
    (∀ c : TargetConfiguration,
      TargetConfiguration.schema.ReadsBack TargetConfiguration.decode c.encode c) ∧
    (∀ g : GatewayConfig, GatewayConfig.schema.ReadsBack GatewayConfig.decode g.encode g) ∧
    (∀ m : LockMetadata, LockMetadata.schema.ReadsBack LockMetadata.decode m.encode m) ∧
    (∀ v : CachedValue, v.hasDouble = false →
      CachedValue.schema.ReadsBack CachedValue.decode v.encode v) ∧
    (∀ s : ApplySummary, ApplySummary.schema.ReadsBack ApplySummary.decode s.encode s) := by
  exact ⟨fun p => p.restores.readsBack p.isPlain_encode,
    fun v h => (TypedValue.restores h).readsBack (TypedValue.isPlain_encode h),
    fun u h => (Update.restores h).readsBack (Update.isPlain_encode h),
    fun n h => (Notification.restores h).readsBack (Notification.isPlain_encode h),
    fun r h => (SubscribeResponse.restores h).readsBack (SubscribeResponse.isPlain_encode h),
    fun r => r.restores.readsBack r.isPlain_encode,
    fun d => d.restores.readsBack d.isPlain_encode,
    fun c => c.restores.readsBack c.isPlain_encode,
    fun g => g.restores.readsBack g.isPlain_encode,
    fun m => m.restores.readsBack m.isPlain_encode,
    fun v h => (CachedValue.restores h).readsBack (CachedValue.isPlain_encode h),
    fun s => s.restores.readsBack s.isPlain_encode⟩

/-! ### A response with fields left out -/

/-- A response with one new value. -/
def mtuResponse : SubscribeResponse :=
  .ofNotification {
    timestamp := 7
    prefixPath := some ((Path.ofNames []).withTarget "leaf1")
    update := [.ofValue (.ofNames ["mtu"]) (.uint 1500)] }

/-- The response without the elements of its prefix, without the duplicates of its update, without
deletions and without the mark of an atomic change. -/
def mtuDocument : Document :=
  .record [("response", .record [("update", .record
    [("timestamp", .int 7), ("prefix", .record [("target", .text "leaf1")]),
      ("update", .list [.record
        [("path", .record [("elem", .list [.record [("name", .text "mtu")]])]),
          ("val", .record [("uint", .nat 1500)])]])])])]

theorem abridges_mtuDocument :
    SubscribeResponse.schema.Abridges mtuResponse.encode mtuDocument := by
  have hbase : Path.schema.Abridges ((Path.ofNames []).withTarget "leaf1").encode
      (.record [("target", .text "leaf1")]) :=
    abridges_record.mpr ⟨_, rfl, .omitted rfl (.kept rfl .nil)⟩
  have hupdate : Update.schema.Abridges (Update.ofValue (.ofNames ["mtu"]) (.uint 1500)).encode
      (.record [("path", .record [("elem", .list [.record [("name", .text "mtu")]])]),
        ("val", .record [("uint", .nat 1500)])]) :=
    abridges_record.mpr ⟨_, rfl, .kept (.refl _ _) (.kept (.refl _ _) (.omitted rfl .nil))⟩
  refine abridges_record.mpr ⟨_, rfl, .kept (abridges_record.mpr ⟨_, rfl, .kept ?_ .nil⟩) .nil⟩
  refine abridges_record.mpr ⟨_, rfl, .kept rfl (.kept hbase (.kept ?_ ?_))⟩
  · exact abridges_list.mpr ⟨_, rfl, .cons hupdate .nil⟩
  · exact .omitted rfl (.omitted rfl .nil)

theorem mtuDocument_readsBack :
    mtuResponse.hasDouble = false ∧
      SubscribeResponse.schema.Abridges mtuResponse.encode mtuDocument ∧
      (Json.read (Json.render mtuDocument)).bind (SubscribeResponse.decode .json) =
        some mtuResponse :=
  ⟨rfl, abridges_mtuDocument,
    (readsBack_encode.2.2.2.2.1 mtuResponse rfl).abridged mtuDocument abridges_mtuDocument⟩

end TelemetryGateway
