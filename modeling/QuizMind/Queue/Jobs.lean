import QuizMind.Text.Joined
import Mathlib.Data.Nat.Notation

/-! # Job ids of the platform queues

`buildQueueDedupeKey` joins client-supplied strings with `:`, which may stand in
them, and the queues without a key number their jobs by the millisecond clock.
A dispatch has its id for itself exactly when its key can be cut in one way only
or no other dispatch reads the same millisecond (`uniqueId_iff`).

Payload fields that no key is built from are kept where the contract gives them
a plain type; the free-form records (`payload`, `variables`) are left out.
-/

namespace QuizMind.Queue

open String (ofList toList)

/-! ## Queues and their payloads -/

inductive PlatformQueue where
  | billingWebhooks | usageEvents | emails | quotaResets | configPublish | auditExports
  | historyCleanup
  deriving DecidableEq

def PlatformQueue.name : PlatformQueue → String
  | .billingWebhooks => "billing-webhooks"
  | .usageEvents => "usage-events"
  | .emails => "emails"
  | .quotaResets => "quota-resets"
  | .configPublish => "config-publish"
  | .auditExports => "audit-exports"
  | .historyCleanup => "history-cleanup"

inductive BillingProvider where
  | mock | stripe | manual | yookassa | paddle

def BillingProvider.name : BillingProvider → String
  | .mock => "mock"
  | .stripe => "stripe"
  | .manual => "manual"
  | .yookassa => "yookassa"
  | .paddle => "paddle"

structure BillingWebhookJobPayload where
  provider : BillingProvider
  webhookEventId : String
  externalEventId : String
  eventType : String
  receivedAt : String

structure UsageEventPayload where
  installationId : String
  eventType : String
  occurredAt : String

structure EmailQueueJobPayload where
  «to» : String
  templateKey : String
  requestedAt : String
  requestedByUserId : Option String

structure QuotaResetJobPayload where
  workspaceId : String
  key : String
  consumed : ℕ
  periodStart : String
  periodEnd : String
  nextPeriodStart : String
  nextPeriodEnd : String
  requestedAt : String

structure RemoteConfigPublishResult where
  versionLabel : String
  appliedLayerCount : ℕ
  publishedAt : String
  actorId : String
  workspaceId : Option String

/-- What is exported: usage in a scope, or a number of admin logs. -/
inductive AuditExport where
  | usage (scope : String)
  | adminLogs (itemCount : ℕ)

structure AuditExportJobPayload where
  exportType : AuditExport
  format : String
  fileName : String
  contentType : String
  exportedAt : String
  requestedByUserId : String

structure HistoryCleanupJobPayload where
  triggeredAt : String

def QueuePayloadFor : PlatformQueue → Type
  | .billingWebhooks => BillingWebhookJobPayload
  | .usageEvents => UsageEventPayload
  | .emails => EmailQueueJobPayload
  | .quotaResets => QuotaResetJobPayload
  | .configPublish => RemoteConfigPublishResult
  | .auditExports => AuditExportJobPayload
  | .historyCleanup => HistoryCleanupJobPayload

structure PlatformQueueHistoryPolicyEntry where
  attempts : ℕ
  removeOnComplete : ℕ
  removeOnFail : ℕ

def QUEUE_HISTORY_DEFAULTS : PlatformQueue → PlatformQueueHistoryPolicyEntry
  | .billingWebhooks => ⟨10, 250, 250⟩
  | .usageEvents => ⟨5, 250, 250⟩
  | .emails => ⟨5, 250, 250⟩
  | .quotaResets => ⟨3, 250, 250⟩
  | .configPublish => ⟨5, 250, 250⟩
  | .auditExports => ⟨2, 50, 250⟩
  | .historyCleanup => ⟨3, 10, 50⟩

abbrev PlatformQueueHistoryPolicy := PlatformQueue → PlatformQueueHistoryPolicyEntry

def getQueueRuntimeOptions (queue : PlatformQueue) (attempts : Option ℕ)
    (queuePolicy : Option PlatformQueueHistoryPolicy) : PlatformQueueHistoryPolicyEntry :=
  let definition := queuePolicy.getD QUEUE_HISTORY_DEFAULTS queue
  { definition with attempts := attempts.getD definition.attempts }

/-! ## Building a job -/

structure QueueDispatchRequest (queue : PlatformQueue) where
  payload : QueuePayloadFor queue
  dedupeKey : Option String := none
  attempts : Option ℕ := none
  jobId : Option String := none
  createdAt : Option String := none

structure QueueJobEnvelope (queue : PlatformQueue) where
  id : String
  payload : QueuePayloadFor queue
  dedupeKey : Option String
  createdAt : String
  attempts : Option ℕ

/-- What a call reads from the clock: `Date.now()` and `new Date().toISOString()`. -/
structure Clock where
  now : ℕ
  iso : String

def buildQueueDedupeKey : (queue : PlatformQueue) → QueuePayloadFor queue → Option String
  | .billingWebhooks, (billingPayload : BillingWebhookJobPayload) =>
    some (billingPayload.provider.name ++ ":" ++ billingPayload.externalEventId)
  | .usageEvents, (usagePayload : UsageEventPayload) =>
    some (usagePayload.installationId ++ ":" ++ usagePayload.occurredAt ++ ":" ++
      usagePayload.eventType)
  | .quotaResets, (quotaPayload : QuotaResetJobPayload) =>
    some (quotaPayload.workspaceId ++ ":" ++ quotaPayload.key ++ ":" ++
      quotaPayload.nextPeriodStart)
  | .configPublish, (configPayload : RemoteConfigPublishResult) =>
    some (configPayload.workspaceId.getD "global" ++ ":" ++ configPayload.versionLabel ++ ":" ++
      configPayload.publishedAt)
  | .emails, _ | .auditExports, _ | .historyCleanup, _ => none

/-- A string that a JavaScript condition takes for true. -/
def truthy (text : Option String) : Option String :=
  text.filter fun t => t ≠ ""

@[simp] theorem truthy_none : truthy none = none := rfl

theorem truthy_some {text : String} (h : text ≠ "") : truthy (some text) = some text := by
  rw [truthy, Option.filter_some, if_pos (decide_eq_true h)]

def buildQueueJobId (clock : Clock) (queue : PlatformQueue) (dedupeKey : Option String) : String :=
  match truthy dedupeKey with
  | some key => queue.name ++ ":" ++ key
  | none => queue.name ++ ":" ++ toString clock.now

def createQueueDispatchRequest {queue : PlatformQueue} (request : QueueDispatchRequest queue)
    (queuePolicy : Option PlatformQueueHistoryPolicy) : QueueDispatchRequest queue :=
  let dedupeKey := request.dedupeKey.or (buildQueueDedupeKey queue request.payload)
  { request with
    dedupeKey := (truthy dedupeKey).or request.dedupeKey
    attempts := some (getQueueRuntimeOptions queue request.attempts queuePolicy).attempts }

def buildQueueJob {queue : PlatformQueue} (clock : Clock) (request : QueueDispatchRequest queue)
    (queuePolicy : Option PlatformQueueHistoryPolicy) : QueueJobEnvelope queue :=
  let runtimeOptions := getQueueRuntimeOptions queue request.attempts queuePolicy
  { id := request.jobId.getD (buildQueueJobId clock queue request.dedupeKey)
    payload := request.payload
    dedupeKey := request.dedupeKey
    createdAt := request.createdAt.getD clock.iso
    attempts := some runtimeOptions.attempts }

/-! ## Dispatches -/

/-- A dispatch that gives the queue and the payload only, as the callers of
`createQueueDispatchRequest` do. -/
structure Dispatch (queue : PlatformQueue) where
  payload : QueuePayloadFor queue
  clock : Clock
  queuePolicy : Option PlatformQueueHistoryPolicy := none

def Dispatch.job {queue : PlatformQueue} (d : Dispatch queue) : QueueJobEnvelope queue :=
  buildQueueJob d.clock (createQueueDispatchRequest { payload := d.payload } none) d.queuePolicy

/-- The components that the key of a payload is built from. -/
def components : (queue : PlatformQueue) → QueuePayloadFor queue → Option (List String)
  | .billingWebhooks, (billingPayload : BillingWebhookJobPayload) =>
    some [billingPayload.provider.name, billingPayload.externalEventId]
  | .usageEvents, (usagePayload : UsageEventPayload) =>
    some [usagePayload.installationId, usagePayload.occurredAt, usagePayload.eventType]
  | .quotaResets, (quotaPayload : QuotaResetJobPayload) =>
    some [quotaPayload.workspaceId, quotaPayload.key, quotaPayload.nextPeriodStart]
  | .configPublish, (configPayload : RemoteConfigPublishResult) =>
    some [configPayload.workspaceId.getD "global", configPayload.versionLabel,
      configPayload.publishedAt]
  | .emails, _ | .auditExports, _ | .historyCleanup, _ => none

/-- The two dispatches are for one logical job: every component of their keys is
the same. Without a key no two dispatches are. -/
def SameJob {queue : PlatformQueue} (d d' : Dispatch queue) : Prop :=
  ∃ cs, components queue d.payload = some cs ∧ components queue d'.payload = some cs

/-- Among the dispatches at `now` only those of the same logical job get the id
of `d`. -/
def UniqueId {queue : PlatformQueue} (d : Dispatch queue) (now : ℕ) : Prop :=
  ∀ d' : Dispatch queue, d'.clock.now = now → d.job.id = d'.job.id → SameJob d d'

/-- The key of the dispatch can be cut in one way only; without a key, the
millisecond is its own. -/
def Unambiguous {queue : PlatformQueue} (d : Dispatch queue) (now : ℕ) : Prop :=
  match components queue d.payload with
  | some cs => queue = .billingWebhooks ∨ ∀ c ∈ cs, ':' ∉ c.toList
  | none => d.clock.now ≠ now

/-! ## Ids as joined components -/

/-- The text of a key. -/
def keyOf (cs : List String) : List Char :=
  Text.joined ':' (cs.map toList)

variable {queue : PlatformQueue}

theorem buildQueueDedupeKey_eq (payload : QueuePayloadFor queue) :
    (buildQueueDedupeKey queue payload).map toList = (components queue payload).map keyOf := by
  cases queue <;> simp [buildQueueDedupeKey, components, keyOf]

variable {cs cs' : List String}

variable {d : Dispatch queue}

/-- With a key the id is the queue and the key. -/
theorem id_of_components (h : components queue d.payload = some cs) :
    d.job.id.toList = queue.name.toList ++ ':' :: keyOf cs := by
  have hkey := buildQueueDedupeKey_eq d.payload
  rw [h] at hkey
  rcases Option.map_eq_some_iff.mp hkey with ⟨key, hbuild, htext⟩
  have hne : key ≠ "" := by
    rintro rfl
    -- a key has at least one separator
    cases queue <;> simp only [components, Option.some.injEq, reduceCtorEq] at h <;> subst h <;>
      simp [keyOf] at htext
  simp only [Dispatch.job, buildQueueJob, createQueueDispatchRequest, hbuild, buildQueueJobId,
    Option.none_or, truthy_some hne, Option.some_or, Option.getD_none]
  rw [String.toList_append, String.toList_append, htext, List.append_assoc]
  rfl

/-- Without a key the id is the queue and the millisecond. -/
theorem id_of_no_components (h : components queue d.payload = none) :
    d.job.id = queue.name ++ ":" ++ toString d.clock.now := by
  have hkey := buildQueueDedupeKey_eq d.payload
  rw [h, Option.map_none, Option.map_eq_none_iff] at hkey
  simp only [Dispatch.job, buildQueueJob, createQueueDispatchRequest, hkey, buildQueueJobId,
    Option.none_or, truthy_none, Option.getD_none]

/-! ## When an id is unique -/

/-- With keys, equal ids mean equal texts of the keys. -/
theorem key_of_id {d' : Dispatch queue} (h : components queue d.payload = some cs)
    (h' : components queue d'.payload = some cs') (hid : d.job.id = d'.job.id) :
    keyOf cs = keyOf cs' := by
  grind [id_of_components, List.append_cancel_left]

variable {payload : QueuePayloadFor queue}

/-- The number of components depends on the queue alone. -/
theorem components_length {payload' : QueuePayloadFor queue}
    (h : components queue payload = some cs) (h' : components queue payload' = some cs') :
    cs.length = cs'.length := by
  cases queue <;> simp only [components, Option.some.injEq, reduceCtorEq] at h h' <;>
    subst h h' <;> rfl

/-- All payloads of a queue have a key, or none has. -/
theorem components_eq_none (h : components queue payload = none)
    (payload' : QueuePayloadFor queue) : components queue payload' = none := by
  cases queue <;> first | rfl | cases h

/-- Components without a separator are determined by the key. -/
theorem components_of_key (hlen : cs.length = cs'.length) (hcs : ∀ c ∈ cs, ':' ∉ c.toList)
    (h : keyOf cs = keyOf cs') : cs = cs' := by
  have hmap : cs.map toList = cs'.map toList := by
    refine Text.joined_inj_of_not_mem ?_ ?_ h
    · rw [List.length_map, List.length_map, hlen]
    · grind
  exact List.map_injective_iff.mpr (fun _ _ => String.toList_inj.mp) hmap

/-- The names of the providers contain no separator. -/
theorem colons_provider (provider provider' : BillingProvider) :
    provider.name.toList.count ':' = provider'.name.toList.count ':' := by
  cases provider <;> cases provider' <;> decide

/-- On a queue that takes every component from the client, every triple of
components is that of some payload. -/
theorem exists_payload (h : components queue payload = some cs)
    (hqueue : queue ≠ .billingWebhooks) (hlength : cs'.length = cs.length) :
    ∃ payload' : QueuePayloadFor queue, components queue payload' = some cs' := by
  have hthree : ∃ a b c, cs' = [a, b, c] := by
    have hlen : cs.length = 3 := by
      cases queue <;> simp only [components, Option.some.injEq, reduceCtorEq] at h <;>
        first
          | exact absurd rfl hqueue
          | (subst h; rfl)
    exact List.length_eq_three.mp (hlength.trans hlen)
  rcases hthree with ⟨a, b, c, rfl⟩
  cases queue with
  | billingWebhooks => exact absurd rfl hqueue
  | usageEvents =>
    exact ⟨({ (payload : UsageEventPayload) with
      installationId := a, occurredAt := b, eventType := c } : UsageEventPayload), rfl⟩
  | quotaResets =>
    exact ⟨({ (payload : QuotaResetJobPayload) with
      workspaceId := a, key := b, nextPeriodStart := c } : QuotaResetJobPayload), rfl⟩
  | configPublish =>
    exact ⟨({ (payload : RemoteConfigPublishResult) with
      workspaceId := some a, versionLabel := b, publishedAt := c } :
        RemoteConfigPublishResult), rfl⟩
  | _ => cases h

/-- A key that can be cut in one way only is that of one logical job. -/
theorem uniqueId_of_unambiguous {now : ℕ} (h : Unambiguous d now) : UniqueId d now := by
  intro d' hnow hid
  unfold Unambiguous at h
  cases hcs : components queue d.payload with
  | none =>
    -- the clock readings differ, and so do their decimal digits
    rw [hcs] at h
    rw [id_of_no_components hcs, id_of_no_components (components_eq_none hcs d'.payload)] at hid
    have hdigits := congrArg toList hid
    simp only [String.toList_append, List.append_cancel_left_eq, Nat.toString_eq_repr,
      Nat.toList_repr] at hdigits
    have hclock : d.clock.now = d'.clock.now := by grind [Nat.ofDigitChars_ten_toDigits]
    exact absurd (hclock.trans hnow) h
  | some cs =>
    rw [hcs] at h
    cases hcs' : components queue d'.payload with
    | none => grind [components_eq_none]
    | some cs' =>
      have hkey := key_of_id hcs hcs' hid
      have hlen := components_length hcs hcs'
      rcases h with hbilling | hcolon
      · subst hbilling
        -- the name of the provider ends at the first separator
        simp only [components, Option.some.injEq] at hcs hcs'
        subst hcs hcs'
        rcases Text.append_sep_inj (colons_provider _ _) hkey with ⟨hprov, hev⟩
        refine ⟨_, rfl, ?_⟩
        show some [_, _] = some [_, _]
        rw [String.toList_inj.mp hprov, String.toList_inj.mp hev]
      have heq := components_of_key hlen hcolon hkey
      subst heq
      exact ⟨cs, hcs, hcs'⟩

/-- A key with a separator inside a component is that of another logical job, and
a millisecond without a key is that of every dispatch in it. -/
theorem unambiguous_of_uniqueId {now : ℕ} (h : UniqueId d now) : Unambiguous d now := by
  unfold Unambiguous
  cases hcs : components queue d.payload with
  | none =>
    intro hnow
    rcases h d hnow rfl with ⟨cs, hsome, -⟩
    rw [hcs] at hsome
    cases hsome
  | some cs =>
    by_cases hbilling : queue = .billingWebhooks
    · exact Or.inl hbilling
    refine Or.inr ?_
    intro c hc hcolon
    have hlen : 2 ≤ (cs.map toList).length := by
      cases queue <;> simp only [components, Option.some.injEq, reduceCtorEq] at hcs <;>
        subst hcs <;> simp
    rcases Text.exists_recut hlen (List.mem_map_of_mem hc) hcolon with
      ⟨texts, hlength, hne, hjoined⟩
    rw [List.length_map] at hlength
    have hlength' : (texts.map ofList).length = cs.length := by
      rw [List.length_map, hlength]
    rcases exists_payload hcs hbilling hlength' with ⟨payload, hpayload⟩
    -- the other job has the same key
    have htexts : (texts.map ofList).map toList = texts := by
      simp
    have hkey : keyOf (texts.map ofList) = keyOf cs := by
      unfold keyOf
      rw [htexts, hjoined]
    have hid : d.job.id = (Dispatch.job { payload := payload, clock := ⟨now, d.clock.iso⟩ } :
          QueueJobEnvelope queue).id := by
      apply String.toList_inj.mp
      rw [id_of_components hcs, id_of_components hpayload, hkey]
    rcases h _ rfl hid with ⟨cs', hcs', hpayload'⟩
    rw [hcs] at hcs'
    rw [hpayload] at hpayload'
    apply hne
    have heq : texts.map ofList = cs :=
      Option.some.inj (hpayload'.trans hcs'.symm)
    rw [← htexts, heq]

/-- Among the dispatches of its queue at `now`, exactly those of its own logical
job get the id of `d`, if and only if the id is unambiguous. -/
theorem uniqueId_iff {queue : PlatformQueue} (d : Dispatch queue) (now : ℕ) :
    UniqueId d now ↔ Unambiguous d now :=
  ⟨unambiguous_of_uniqueId, uniqueId_of_unambiguous⟩

/-! ## Two jobs with one id -/

def noon : Clock := ⟨1774612860000, "2026-03-27T12:01:00.000Z"⟩

/-- A usage event of the given installation, time and type. -/
def usageAt (installationId occurredAt eventType : String) : Dispatch .usageEvents where
  payload := ({ installationId := installationId, eventType := eventType,
                occurredAt := occurredAt } : UsageEventPayload)
  clock := noon

def emailTo (address : String) : Dispatch .emails where
  payload := ({ «to» := address, templateKey := "auth.verify-email", requestedAt := noon.iso,
                requestedByUserId := none } : EmailQueueJobPayload)
  clock := noon

/-- Two usage events with the colon of the type read as part of the time, and
two emails in one millisecond. -/
theorem ids_collide :
    ¬ (∀ (queue : PlatformQueue) (d d' : Dispatch queue), d.job.id = d'.job.id → SameJob d d') ∧
    (usageAt "inst_1" "2026-03-27" "12:sync").job.id =
      (usageAt "inst_1" "2026-03-27:12" "sync").job.id ∧
    (emailTo "alice@example.com").job.id = (emailTo "bob@example.com").job.id := by
  refine ⟨?_, by decide, by decide⟩
  intro h
  rcases h .emails (emailTo "alice@example.com") (emailTo "bob@example.com") (by decide) with
    ⟨cs, hcs, -⟩
  cases hcs

end QuizMind.Queue
