import QuizMind.Async.Within
import QuizMind.Extension.Service
import QuizMind.Queue.Jobs

/-! # When an installation was last seen

Two programs write the column `lastSeenAt`. The bootstrap of an installation writes the time
it has read from the server's clock; the worker's job for a usage event writes the time that
the event carries, which is the time of the browser when the event happened. Neither compares
its date with the one that is stored.

Here both run side by side, over the tables of the installations and a clock that only
advances. A step that writes is `Timely` when it does not write an earlier date than the one
stored, and no date in the future; the run keeps the dates in order exactly if all its steps
are timely.
-/

namespace QuizMind.LastSeen

open Async
open ExtensionStore (installation mem_of_installation)
open Machine (initial)

/-! ## Tables, clock and calls -/

/-- What `touchInstallation` is told. -/
structure TouchInput where
  installationId : String
  browser : Option String
  extensionVersion : Option String
  schemaVersion : Option String
  capabilities : Option (List String)
  lastSeenAt : JsDate

structure TelemetryData where
  extensionInstallationId : ℕ
  eventType : String
  severity : String
  payloadJson : List (String × Json)
  createdAt : JsDate

/-- The tables of the installations and of the telemetry, and the current time. -/
structure FleetStore where
  tables : ExtensionStore
  telemetry : List TelemetryData
  clock : ℤ

/-- The repository calls of the API and of the worker; the two calls on the clock stand for
`new Date()` and for the time that passes. -/
inductive FleetCall where
  | extension (call : ExtensionCall)
  | findInstallationByInstallationId (installationId : String)
  | touchInstallation (input : TouchInput)
  | createTelemetry (input : TelemetryData)
  | readClock
  | elapse (ms : ℕ)

abbrev FleetCall.Res : FleetCall → Type
  | .extension call => call.Res
  | .findInstallationByInstallationId _ => Option ExtensionInstallation
  | .touchInstallation _ => Unit
  | .createTelemetry _ => ℕ
  | .readClock => ℤ
  | .elapse _ => Unit

/-- `mapInstallationRecord` -/
def mapInstallationRecord (record : ExtensionInstallation) : ExtensionInstallation :=
  { record with capabilities := record.capabilities.filter fun item => jsTrim item != "" }

/-- The columns of a row after `touchInstallation`. -/
def TouchInput.update (input : TouchInput) (lastSeenAt : ℤ) (row : ExtensionInstallation) :
    ExtensionInstallation :=
  { row with
    browser := (input.browser.filter fun s => s != "").getD row.browser
    extensionVersion := (input.extensionVersion.filter fun s => s != "").getD row.extensionVersion
    schemaVersion := (input.schemaVersion.filter fun s => s != "").getD row.schemaVersion
    capabilities := input.capabilities.getD row.capabilities
    lastSeenAt := lastSeenAt }

/-- The tables after `touchInstallation`. -/
def FleetStore.touch (s : FleetStore) (input : TouchInput) (lastSeenAt : ℤ) : FleetStore :=
  { s with
    tables :=
      { s.tables with
        installations := s.tables.installations.map fun i =>
          if i.installationId = input.installationId then input.update lastSeenAt i else i } }

/-- What each call does, atomically. An invalid date has no database value. -/
def FleetCall.exec : (call : FleetCall) → FleetStore → Except Exception call.Res × FleetStore
  | .extension call, s =>
    let out := call.exec s.tables
    (out.1, { s with tables := out.2 })
  | .findInstallationByInstallationId installationId, s =>
    (.ok ((s.tables.installation installationId).map mapInstallationRecord), s)
  | .touchInstallation input, s =>
    match input.lastSeenAt, s.tables.installation input.installationId with
    | none, _ => (.error .prismaValidation, s)
    | some _, none => (.error (.prisma "P2025"), s)
    | some lastSeenAt, some _ => (.ok (), s.touch input lastSeenAt)
  | .createTelemetry input, s =>
    match input.createdAt, s.tables.installationById input.extensionInstallationId with
    | none, _ => (.error .prismaValidation, s)
    | some _, none => (.error (.prisma "P2003"), s)
    | some _, some _ =>
      (.ok s.telemetry.length, { s with telemetry := s.telemetry ++ [input] })
  | .readClock, s => (.ok s.clock, s)
  | .elapse ms, s => (.ok (), { s with clock := s.clock + ms })

abbrev FleetProg := Prog FleetCall FleetCall.Res Exception

/-- One call. -/
abbrev fleet (call : FleetCall) : FleetProg call.Res := Prog.await call

/-- A handler of the API, over all the calls. -/
def ofApi {α : Type} (p : ExtensionProg α) : FleetProg α :=
  p.embed FleetCall.extension fun _ r => r

/-! ## The worker's job -/

structure UsageEventPayload extends Queue.UsageEventPayload where
  payload : List (String × Json)

structure UsageSnapshot where
  consumed : ℕ
  limit : Option ℕ

def canConsumeUsage (usage : UsageSnapshot) : Bool :=
  match usage.limit with
  | none => true
  | some limit => usage.consumed < limit

def incrementUsage (usage : UsageSnapshot) (amount : ℕ) : UsageSnapshot :=
  { usage with consumed := usage.consumed + amount }

structure UsageLogEvent where
  eventId : String
  eventType : String
  actorId : String
  targetId : String
  occurredAt : String
  severity : String
  status : String
  metadata : List (String × Json)

structure UsageProcessingResult where
  accepted : Bool
  nextUsage : UsageSnapshot
  logEvent : UsageLogEvent

structure UsageProcessingJobResult extends UsageProcessingResult where
  telemetryId : Option ℕ

def readString : Option Json → Option String
  | some (.string value) => if jsTrim value = "" then none else some (jsTrim value)
  | _ => none

/-- An item that `readStringArray` keeps. -/
def readItem : Json → Option String
  | .string item => if jsTrim item = "" then none else some item
  | _ => none

def readStringArray : Option Json → Option (List String)
  | some (.array value) =>
    let entries := value.filterMap readItem
    if entries = [] then none else some entries
  | _ => none

def processUsageEvent (event : UsageEventPayload) (usage : UsageSnapshot) :
    UsageProcessingResult where
  accepted := canConsumeUsage usage
  nextUsage := if canConsumeUsage usage then incrementUsage usage 1 else usage
  logEvent :=
    { eventId := s!"{event.installationId}:{event.occurredAt}"
      eventType := event.eventType
      actorId := event.installationId
      targetId := event.installationId
      occurredAt := event.occurredAt
      severity := if canConsumeUsage usage then "info" else "warn"
      status := if canConsumeUsage usage then "success" else "failure"
      metadata := event.payload }

/-- What the job tells `touchInstallation`. -/
def touchOf (event : UsageEventPayload) (installation : ExtensionInstallation)
    (occurredAt : JsDate) : TouchInput where
  installationId := installation.installationId
  browser := readString (Json.member event.payload "browser")
  extensionVersion := readString (Json.member event.payload "extensionVersion")
  schemaVersion := readString (Json.member event.payload "schemaVersion")
  capabilities := readStringArray (Json.member event.payload "capabilities")
  lastSeenAt := occurredAt

/-- `dateOf` is the constructor `new Date` of a text. -/
def processUsageEventJob (dateOf : String → JsDate) (event : UsageEventPayload) :
    FleetProg UsageProcessingJobResult := do
  let occurredAt := dateOf event.occurredAt
  let installation ← fleet (.findInstallationByInstallationId event.installationId)
  let result := processUsageEvent event { consumed := 0, limit := none }
  match installation with
  | none => return { result with telemetryId := none }
  | some installation => do
      fleet (.touchInstallation (touchOf event installation occurredAt))
      let telemetryId ← fleet (.createTelemetry
        { extensionInstallationId := installation.id
          eventType := event.eventType
          severity := if result.accepted then "info" else "warn"
          payloadJson := event.payload
          createdAt := occurredAt })
      return { result with telemetryId := some telemetryId }

/-! ## The bootstrap -/

/-- `bootstrapInstallationSession`, which reads the clock after the session policy has been
read and the request has been checked. -/
def bootstrapNow (env : ExtensionEnv) (installationSession : InstallationSessionRecord)
    (request : BootstrapRequest) : FleetProg BootstrapPayload := do
  let sessionPolicy ← ofApi (resolveExtensionSessionPolicy env)
  let (environment, handshake) ← Prog.ofExcept (checkBootstrap installationSession request)
  let now ← fleet .readClock
  let installation ← ofApi (refreshMetadata installationSession handshake now)
  ofApi (tryCatch
    (buildBootstrapPayload installation environment handshake sessionPolicy.refreshAfterSeconds)
    (fun _ =>
      return bootstrapPayload installation environment handshake
        sessionPolicy.refreshAfterSeconds true))

/-! ## The machine -/

/-- A job that is processed, or processed again; a call of the bootstrap; time passes. -/
inductive FleetRequest where
  | usageEvent (event : UsageEventPayload)
  | bootstrap (installationSession : InstallationSessionRecord) (request : BootstrapRequest)
  | elapse (ms : ℕ)

inductive FleetReply where
  | processed (result : UsageProcessingJobResult)
  | bootstrapped (payload : BootstrapPayload)
  | elapsed

def fleetCode (env : ExtensionEnv) (dateOf : String → JsDate) : FleetRequest → FleetProg FleetReply
  | .usageEvent event => do
      let result ← processUsageEventJob dateOf event
      return .processed result
  | .bootstrap installationSession request => do
      let payload ← bootstrapNow env installationSession request
      return .bootstrapped payload
  | .elapse ms => do
      fleet (.elapse ms)
      return .elapsed

def fleetMachine (env : ExtensionEnv) (dateOf : String → JsDate) :
    Machine FleetCall FleetCall.Res Exception FleetReply FleetStore FleetRequest where
  exec := FleetCall.exec
  code := fleetCode env dateOf

abbrev FleetSnapshot :=
  Snapshot FleetCall FleetCall.Res Exception FleetReply FleetStore FleetRequest

/-! ## Dates in order -/

def FleetStore.lastSeenAt (s : FleetStore) (installationId : String) : Option ℤ :=
  (s.tables.installation installationId).map fun i => i.lastSeenAt

/-- No date is later than the current time. -/
def SeenInPast (s : FleetStore) : Prop :=
  ∀ name t, s.lastSeenAt name = some t → t ≤ s.clock

/-- No date is moved back. -/
def Forward (s s' : FleetStore) : Prop :=
  ∀ name t, s.lastSeenAt name = some t → ∃ t', s'.lastSeenAt name = some t' ∧ t ≤ t'

/-- The call moves no date back and writes none of the future. An update without a valid date,
or of a row that is not there, fails; the date of a bootstrap has been read from the clock. -/
def timely (s : FleetStore) : FleetCall → Prop
  | .touchInstallation input => ∀ t stored, input.lastSeenAt = some t →
      s.lastSeenAt input.installationId = some stored → stored ≤ t ∧ t ≤ s.clock
  | .extension (.installationUpsert input) => ∀ stored,
      s.lastSeenAt input.installationId = some stored → stored ≤ input.lastSeenAt
  | _ => True

/-- When a call is performed, it is timely. -/
def Timely (s : FleetSnapshot) : Label Exception FleetRequest → Prop
  | .step pid => ∀ req op k, s.procs[pid]? = some (req, .call op k) → timely s.store op
  | _ => True

/-- The step moves no date back, and after it no date is later than the current time. -/
def KeepsOrder (env : ExtensionEnv) (dateOf : String → JsDate) (s : FleetSnapshot)
    (l : Label Exception FleetRequest) : Prop :=
  ∀ s', (fleetMachine env dateOf).next l s = some s' →
    Forward s.store s'.store ∧ SeenInPast s'.store

theorem Forward.refl (s : FleetStore) : Forward s s := fun _ t h => ⟨t, h, le_refl t⟩

/-! ### What a call writes -/

/-- The date that the call writes, and for which installation. -/
def FleetCall.writes (s : FleetStore) : FleetCall → Option (String × ℤ)
  | .touchInstallation input =>
    if (s.lastSeenAt input.installationId).isSome then
      input.lastSeenAt.map fun t => (input.installationId, t)
    else
      none
  | .extension (.installationUpsert input) => some (input.installationId, input.lastSeenAt)
  | _ => none

variable {f : ExtensionInstallation → ExtensionInstallation}

/-- A row is found in a table after a change of columns other than its name. -/
theorem installation_map {s : ExtensionStore}
    (hname : ∀ i, (f i).installationId = i.installationId) (name : String) :
    ({ s with installations := s.installations.map f } : ExtensionStore).installation name =
      (s.installation name).map f := by
  simp only [installation, List.find?_map]
  congr 2
  funext i
  simp only [Function.comp_apply, hname]

/-- The date of a row after an update of the rows with one name. -/
theorem lastSeenAt_update {s : ExtensionStore} {target : String} {t : ℤ}
    (hname : ∀ i, (f i).installationId = i.installationId)
    (hdate : ∀ i, (f i).lastSeenAt = if i.installationId = target then t else i.lastSeenAt)
    (hfound : (s.installation target).isSome) (name : String) :
    (({ s with installations := s.installations.map f } : ExtensionStore).installation name).map
        (fun i => i.lastSeenAt) =
      if name = target then some t else (s.installation name).map fun i => i.lastSeenAt := by
  rw [installation_map hname, Option.map_map]
  cases hrow : s.installation name with
  | none => grind
  | some i =>
    have hid : i.installationId = name := (mem_of_installation hrow).2
    simp only [Option.map_some, Function.comp_apply, hdate, hid]
    split <;> rfl

theorem lastSeenAt_upsert (s : ExtensionStore) (input : BoundInstallation) (name : String) :
    (((ExtensionCall.installationUpsert input).exec s).2.installation name).map
        (fun i => i.lastSeenAt) =
      if name = input.installationId then some input.lastSeenAt
      else (s.installation name).map fun i => i.lastSeenAt := by
  cases hrow : s.installation input.installationId with
  | some i =>
    simp only [ExtensionCall.exec, hrow]
    refine lastSeenAt_update (fun j => (ExtensionStore.update_ids input j).2) ?_
      (by rw [hrow]; rfl) name
    intro j
    split <;> rfl
  | none =>
    simp only [ExtensionCall.exec, hrow, ExtensionStore.insertInstallation]
    have hfind : (({ s with
        installations := s.installations ++ [({ input with id := s.fresh } : ExtensionInstallation)]
        fresh := s.fresh + 1 } : ExtensionStore).installation name) =
        (s.installation name).or
          (if name = input.installationId then some { input with id := s.fresh } else none) := by
      grind [installation]
    rw [hfind]
    by_cases heq : name = input.installationId
    · rw [if_pos heq, if_pos heq, heq, hrow]
      rfl
    · rw [if_neg heq, if_neg heq, Option.or_none]

/-- A call of the API other than the upsert leaves the rows of the installations. -/
theorem installations_exec {call : ExtensionCall} {s : ExtensionStore}
    (h : ∀ input, call ≠ .installationUpsert input) :
    (call.exec s).2.installations = s.installations := by
  have heff := call.exec_effect s
  generalize (call.exec s).2 = s' at heff
  cases heff with
  | update _ => exact absurd rfl (h _)
  | insert _ => exact absurd rfl (h _)
  | _ => rfl

/-- Everything a call does to the dates. -/
theorem lastSeenAt_exec (call : FleetCall) (s : FleetStore) (name : String) :
    (call.exec s).2.lastSeenAt name = match call.writes s with
      | some (target, t) => if name = target then some t else s.lastSeenAt name
      | none => s.lastSeenAt name := by
  cases call with
  | createTelemetry input =>
    simp only [FleetCall.exec]
    split <;> rfl
  | touchInstallation input =>
    cases hdate : input.lastSeenAt with
    | none => grind [FleetCall.writes, FleetCall.exec]
    | some t =>
      cases hrow : s.tables.installation input.installationId with
      | none => simp [FleetCall.exec, FleetCall.writes, FleetStore.lastSeenAt, hdate, hrow]
      | some i =>
        simp only [FleetCall.exec, FleetCall.writes, FleetStore.lastSeenAt, hdate, hrow]
        refine lastSeenAt_update ?_ ?_ (by rw [hrow]; rfl) name
        all_goals
          intro j
          split <;> rfl
  | extension call =>
    cases call with
    | installationUpsert input => exact lastSeenAt_upsert s.tables input name
    | _ =>
      simp only [FleetCall.writes, FleetStore.lastSeenAt, FleetCall.exec, installation]
      rw [installations_exec (by nofun)]
  | _ => rfl

/-- Only time that passes moves the clock, and it does not go back. -/
theorem clock_exec (call : FleetCall) (s : FleetStore) : s.clock ≤ (call.exec s).2.clock ∧
      ((call.writes s).isSome → (call.exec s).2.clock = s.clock) := by
  cases call with
  | elapse ms => exact ⟨Int.le_add_of_nonneg_right (Int.natCast_nonneg ms), nofun⟩
  | createTelemetry input => grind [FleetCall.exec]
  | touchInstallation input =>
    simp only [FleetCall.exec]
    split <;> exact ⟨le_refl _, fun _ => rfl⟩
  | _ => exact ⟨le_refl _, fun _ => rfl⟩

variable {call : FleetCall}

/-- A timely call moves no date back. -/
theorem forward_exec {s : FleetStore} :
    Forward s (call.exec s).2 ↔ ∀ name t stored, call.writes s = some (name, t) →
      s.lastSeenAt name = some stored → stored ≤ t := by
  constructor
  · intro hforward name t stored hwrites hstored
    obtain ⟨t', hafter, hle⟩ := hforward name stored hstored
    rw [lastSeenAt_exec, hwrites] at hafter
    obtain rfl : t = t' := by simpa using hafter
    exact hle
  intro hwritten name t hstored
  cases hwrites : call.writes s with
  | none => exact ⟨t, by rw [lastSeenAt_exec, hwrites]; exact hstored, le_refl t⟩
  | some written =>
    obtain ⟨target, date⟩ := written
    by_cases hname : name = target
    · -- the row that is written
      refine ⟨date, ?_, hwritten target date t hwrites (hname ▸ hstored)⟩
      rw [lastSeenAt_exec, hwrites]
      exact if_pos hname
    · grind [lastSeenAt_exec]

/-- When no date was in the future, none is after a call that writes none. -/
theorem seenInPast_exec {s : FleetStore} (h : SeenInPast s) :
    SeenInPast (call.exec s).2 ↔ ∀ name t, call.writes s = some (name, t) → t ≤ s.clock := by
  constructor
  · intro hpast name t hwrites
    have hclock : (call.exec s).2.clock = s.clock := (clock_exec call s).2 (by rw [hwrites]; rfl)
    rw [← hclock]
    refine hpast name t ?_
    rw [lastSeenAt_exec, hwrites]
    exact if_pos rfl
  intro hwritten name t hafter
  have hclock : s.clock ≤ (call.exec s).2.clock := (clock_exec call s).1
  rw [lastSeenAt_exec] at hafter
  cases hwrites : call.writes s with
  | none =>
    rw [hwrites] at hafter
    exact (h name t hafter).trans hclock
  | some written =>
    obtain ⟨target, date⟩ := written
    rw [hwrites] at hafter
    by_cases hname : name = target
    · grind
    · have hold : s.lastSeenAt name = some t := by simpa [hname] using hafter
      exact (h name t hold).trans hclock

/-! ### Timely calls -/

theorem writes_touch {s : FleetStore} {input : TouchInput} {name : String} {t : ℤ} :
    (FleetCall.touchInstallation input).writes s = some (name, t) ↔
      (s.lastSeenAt input.installationId).isSome ∧ input.lastSeenAt = some t ∧
        input.installationId = name := by simp [FleetCall.writes]

theorem Forward.of_timely {s : FleetStore} (h : timely s call) : Forward s (call.exec s).2 := by
  rw [forward_exec]
  intro name t stored hwrites hstored
  cases call with
  | touchInstallation input =>
    obtain ⟨-, hdate, rfl⟩ := writes_touch.mp hwrites
    exact (h t stored hdate hstored).1
  | extension call =>
    cases call with
    | installationUpsert input =>
      obtain ⟨rfl, rfl⟩ : input.installationId = name ∧ input.lastSeenAt = t := by
        simpa [FleetCall.writes] using hwrites
      exact h stored hstored
    | _ => cases hwrites
  | _ => cases hwrites

/-- The date of a bootstrap has been read from the clock, so it is none of the future. -/
theorem SeenInPast.of_timely {s : FleetStore} (hpast : SeenInPast s)
    (hread : ∀ input, call = .extension (.installationUpsert input) → input.lastSeenAt ≤ s.clock)
    (h : timely s call) : SeenInPast (call.exec s).2 := by
  rw [seenInPast_exec hpast]
  intro name t hwrites
  cases call with
  | touchInstallation input =>
    obtain ⟨hsome, hdate, rfl⟩ := writes_touch.mp hwrites
    obtain ⟨stored, hstored⟩ := Option.isSome_iff_exists.mp hsome
    exact (h t stored hdate hstored).2
  | extension call =>
    cases call with
    | installationUpsert input => grind [FleetCall.writes]
    | _ => cases hwrites
  | _ => cases hwrites

/-- A call after which the dates are in order was timely. -/
theorem timely_of_order {s : FleetStore} (hpast : SeenInPast s)
    (hforward : Forward s (call.exec s).2) (hafter : SeenInPast (call.exec s).2) :
    timely s call := by
  rw [forward_exec] at hforward
  rw [seenInPast_exec hpast] at hafter
  cases call with
  | touchInstallation input =>
    intro t stored hdate hstored
    have hwrites : (FleetCall.touchInstallation input).writes s = some (input.installationId, t) :=
      writes_touch.mpr ⟨by rw [hstored]; rfl, hdate, rfl⟩
    exact ⟨hforward _ t stored hwrites hstored, hafter _ t hwrites⟩
  | extension call =>
    cases call with
    | installationUpsert input =>
      intro stored hstored
      exact hforward input.installationId input.lastSeenAt stored rfl hstored
    | _ => trivial
  | _ => trivial

/-! ### The programs -/

/-- The program keeps the dates out of the future as long as its calls are timely: a bootstrap
writes a time that it has read. -/
abbrev Orderly {α : Type} (p : FleetProg α) (s : FleetStore) : Prop :=
  p.Within FleetCall.exec SeenInPast (fun s s' => s.clock ≤ s'.clock) (fun op s => timely s op)
    (fun _ => True) s

variable {α β : Type} {s : FleetStore}

theorem clock_refl (s : FleetStore) : s.clock ≤ s.clock := le_refl _

theorem clock_trans (a b c : FleetStore) (hab : a.clock ≤ b.clock) (hbc : b.clock ≤ c.clock) :
    a.clock ≤ c.clock := hab.trans hbc

/-- A call followed by the rest. -/
theorem orderly_call {f : call.Res → FleetProg α}
    (hread : ∀ input, call = .extension (.installationUpsert input) → input.lastSeenAt ≤ s.clock)
    (hf : ∀ s', s.clock ≤ s'.clock → ∀ a, (call.exec s').1 = .ok a →
      Orderly (f a) (call.exec s').2) :
    Orderly (fleet call >>= f) s := by
  refine Prog.within_await_bind fun s' hs' hpast htimely => ⟨?_, (clock_exec call s').1, hf s' hs'⟩
  refine hpast.of_timely ?_ htimely
  intro input hcall
  exact (hread input hcall).trans hs'

theorem orderly_bind {p : FleetProg β} {f : β → FleetProg α} (hp : Orderly p s)
    (hf : ∀ b s', s.clock ≤ s'.clock → Orderly (f b) s') : Orderly (p >>= f) s :=
  Prog.within_bind clock_refl clock_trans hp fun b s' hs' _ => hf b s' hs'

/-- A call of the API that may fail, with a default. -/
theorem orderly_orElse {call : ExtensionCall} {f : call.Res → ExtensionProg α}
    {g : Exception → ExtensionProg α}
    (hread : ∀ input, call = .installationUpsert input → input.lastSeenAt ≤ s.clock)
    (hf : ∀ a s', Orderly (ofApi (f a)) s') (hg : ∀ e s', Orderly (ofApi (g e)) s') :
    Orderly (ofApi (tryCatch (extension call >>= f) g)) s := by
  rw [Prog.tryCatch_eq, ofApi, Prog.embed_handle]
  refine Prog.within_handle clock_refl clock_trans ?_ fun e s' _ => hg e s'
  rw [Prog.embed_await_bind]
  have hstep : Orderly (fleet (.extension call) >>= fun a => ofApi (f a)) s := by
    refine orderly_call ?_ fun s' _ a _ => hf a _
    intro input hcall
    exact hread input (FleetCall.extension.inj hcall)
  exact hstep

theorem orderly_policy (env : ExtensionEnv) :
    Orderly (ofApi (resolveExtensionSessionPolicy env)) s :=
  orderly_orElse (by nofun) (fun _ _ => trivial) (fun _ _ => trivial)

theorem orderly_refreshMetadata (installationSession : InstallationSessionRecord)
    (handshake : CompatibilityHandshake) {now : ℤ} (hnow : now ≤ s.clock) :
    Orderly (ofApi (refreshMetadata installationSession handshake now)) s := by
  rw [refreshMetadata, Prog.tryCatch_eq, ofApi, Prog.embed_handle]
  refine Prog.within_handle clock_refl clock_trans ?_ fun _ _ _ => trivial
  rw [Prog.embed_await]
  refine orderly_call ?_ fun _ _ _ _ => trivial
  intro input hcall
  obtain rfl := ExtensionCall.installationUpsert.inj (FleetCall.extension.inj hcall)
  exact hnow

theorem orderly_processUsageEventJob (dateOf : String → JsDate) (event : UsageEventPayload) :
    Orderly (processUsageEventJob dateOf event) s := by
  refine orderly_call (by nofun) fun s' _ installation _ => ?_
  cases installation with
  | none => trivial
  | some installation =>
    refine orderly_call (by nofun) fun _ _ _ _ => ?_
    exact orderly_call (by nofun) fun _ _ _ _ => trivial

theorem orderly_bootstrapNow (env : ExtensionEnv) (installationSession : InstallationSessionRecord)
    (request : BootstrapRequest) : Orderly (bootstrapNow env installationSession request) s := by
  refine orderly_bind (orderly_policy env) fun policy s' _ => ?_
  refine Prog.within_ofExcept_bind ?_
  rintro ⟨environment, handshake⟩ _
  refine orderly_call (by nofun) fun t _ now hnow => ?_
  -- the time that is read is the clock's, and the clock only advances
  obtain rfl : t.clock = now := by simpa [FleetCall.exec] using hnow
  refine orderly_bind (orderly_refreshMetadata installationSession handshake (le_refl _)) ?_
  intro installation _ _
  exact orderly_orElse (by nofun) (fun _ _ => trivial) (fun _ _ => trivial)

theorem orderly_fleetCode (env : ExtensionEnv) (dateOf : String → JsDate) (req : FleetRequest)
    (s : FleetStore) : Orderly (fleetCode env dateOf req) s := by
  cases req with
  | usageEvent event =>
    exact orderly_bind (orderly_processUsageEventJob dateOf event) fun _ _ _ => trivial
  | bootstrap installationSession request =>
    exact orderly_bind (orderly_bootstrapNow env installationSession request) fun _ _ _ => trivial
  | elapse ms => exact orderly_call (by nofun) fun _ _ _ _ => trivial

/-! ## Every run -/

variable {env : ExtensionEnv} {dateOf : String → JsDate}

/-- The state of a run in which all steps so far were timely. -/
abbrev InOrder (env : ExtensionEnv) (dateOf : String → JsDate) (s : FleetSnapshot) : Prop :=
  (fleetMachine env dateOf).AllWithin SeenInPast (fun s s' => s.clock ≤ s'.clock)
    (fun op s => timely s op) (fun _ => True) s

variable {l : Label Exception FleetRequest}

theorem InOrder.next {s s' : FleetSnapshot}
    (h : InOrder env dateOf s) (hnext : (fleetMachine env dateOf).next l s = some s')
    (htimely : Timely s l) : InOrder env dateOf s' := by
  refine (fleetMachine env dateOf).allWithin_next clock_refl clock_trans
    (orderly_fleetCode env dateOf) hnext ?_ h
  rintro pid req op k rfl hp
  exact htimely req op k hp

/-- A step keeps the dates in order exactly if it is timely. -/
theorem keepsOrder_iff {s s' : FleetSnapshot}
    (h : InOrder env dateOf s) (hnext : (fleetMachine env dateOf).next l s = some s') :
    KeepsOrder env dateOf s l ↔ Timely s l := by
  have hafter : KeepsOrder env dateOf s l ↔ Forward s.store s'.store ∧ SeenInPast s'.store := by
    constructor
    · intro hkeeps
      exact hkeeps s' hnext
    intro horder s'' hnext'
    rw [hnext, Option.some.injEq] at hnext'
    exact hnext' ▸ horder
  rw [hafter]
  rcases Machine.next_cases _ hnext with ⟨req, rfl, rfl⟩ | ⟨pid, req, op, k, rfl, hp, rfl⟩ |
    ⟨pid, e, req, op, k, rfl, hp, rfl⟩
  · exact iff_of_true ⟨Forward.refl _, h.1⟩ trivial
  · constructor
    · rintro ⟨hforward, hpast⟩ req' op' k' hp'
      rw [hp, Option.some.injEq, Prod.mk.injEq] at hp'
      obtain ⟨-, hcall⟩ := hp'
      cases hcall
      exact timely_of_order h.1 hforward hpast
    · intro htimely
      exact ⟨Forward.of_timely (htimely req op k hp), (h.next hnext htimely).1⟩
  · exact iff_of_true ⟨Forward.refl _, h.1⟩ trivial

/-- In a run of jobs, retries and bootstraps in any order, no date of an installation is ever
moved back or later than the current time, exactly if every call that writes one is timely. -/
theorem keepsOrder_iff_timely (env : ExtensionEnv) (dateOf : String → JsDate)
    (ls : List (Label Exception FleetRequest)) (store : FleetStore) (hpast : SeenInPast store) :
    (fleetMachine env dateOf).AllSteps (KeepsOrder env dateOf) ls (initial store) ↔
      (fleetMachine env dateOf).AllSteps Timely ls (initial store) := by
  have hinitial : InOrder env dateOf (initial store) := ⟨hpast, fun q hq => absurd hq List.not_mem_nil⟩
  exact (fleetMachine env dateOf).allSteps_iff_of_inv (fun _ _ _ => keepsOrder_iff)
    (fun _ _ _ h hnext htimely => h.next hnext htimely) hinitial

/-! ### A late event -/

def homeInstallation : ExtensionInstallation where
  userId := "user_1"
  installationId := "inst_local_browser"
  browser := "chrome"
  extensionVersion := "1.7.0"
  schemaVersion := "2"
  capabilities := ["quiz-capture", "history-sync"]
  lastSeenAt := 1767225601000
  id := 0

def homeSession : InstallationSessionRecord where
  extensionInstallationId := 0
  userId := "user_1"
  tokenHash := "hash"
  expiresAt := 1767312000000
  id := 1
  revokedAt := none
  installation := homeInstallation

def homeStore : FleetStore where
  tables :=
    { installations := [homeInstallation]
      sessions := [homeSession.toInstallationSession]
      retentionPolicy := none
      fresh := 2 }
  telemetry := []
  clock := 1767225601000

def homeEnv : ExtensionEnv where
  extensionSessionTtlMinutes := 1440
  hashOpaqueToken := fun token => token

def homeDate (text : String) : JsDate :=
  if text = "2026-01-01T00:00:01.500Z" then some 1767225601500 else none

def bufferedEvent : UsageEventPayload where
  installationId := "inst_local_browser"
  eventType := "extension.quiz_answer_requested"
  occurredAt := "2026-01-01T00:00:01.500Z"
  payload := []

def plainBootstrap : BootstrapRequest where
  installationId := none
  environment := none
  handshake := ⟨none, none, none, none, none⟩
  now := 0

theorem homeStore_seenInPast : SeenInPast homeStore := by
  intro name t hseen
  obtain ⟨i, hi, rfl⟩ := Option.map_eq_some_iff.mp hseen
  have hmem : i ∈ [homeInstallation] := (mem_of_installation hi).1
  rw [List.mem_singleton.mp hmem]
  exact le_refl _

/-- An event is processed half a second after it has happened. -/
def promptEventRun : List (Label Exception FleetRequest) :=
  [.start (.elapse 1000), .step 0, .start (.usageEvent bufferedEvent), .step 1, .step 1]

theorem prompt_event_keeps_order : (fleetMachine homeEnv homeDate).AllSteps
    (KeepsOrder homeEnv homeDate) promptEventRun (initial homeStore) := by
  refine (keepsOrder_iff_timely homeEnv homeDate promptEventRun homeStore
    homeStore_seenInPast).mpr ?_
  have hcall : ∀ {s : FleetSnapshot} {pid : ℕ} {req : FleetRequest} {op : FleetCall}
      {k : Except Exception op.Res → FleetProg FleetReply},
      s.procs[pid]? = some (req, .call op k) → timely s.store op → Timely s (.step pid) := by
    rintro s pid req op k hp htimely req' op' k' hp'
    rw [hp, Option.some.injEq, Prod.mk.injEq] at hp'
    obtain ⟨-, hsame⟩ := hp'
    cases hsame
    exact htimely
  intro s₁ h₁
  obtain rfl := Option.some.inj h₁
  refine ⟨trivial, fun s₂ h₂ => ?_⟩
  obtain rfl := Option.some.inj h₂
  refine ⟨hcall rfl trivial, fun s₃ h₃ => ?_⟩
  obtain rfl := Option.some.inj h₃
  refine ⟨trivial, fun s₄ h₄ => ?_⟩
  obtain rfl := Option.some.inj h₄
  refine ⟨hcall rfl trivial, fun s₅ h₅ => ?_⟩
  obtain rfl := Option.some.inj h₅
  refine ⟨hcall rfl ?_, trivial⟩
  -- the touch: second 1 is stored, second 1.5 is written, and it is second 2
  intro t stored hdate hstored
  obtain rfl : 1767225601500 = t := Option.some.inj hdate
  obtain rfl : 1767225601000 = stored := Option.some.inj hstored
  exact ⟨by decide, by decide⟩

/-- An event waits in the browser while the extension bootstraps at second 2; the job for it
then writes second 1.5. -/
def lateEventRun : List (Label Exception FleetRequest) :=
  [.start (.elapse 1000), .step 0, .start (.bootstrap homeSession plainBootstrap), .step 1,
    .step 1, .step 1, .step 1, .start (.usageEvent bufferedEvent), .step 2]

theorem late_event_moves_back : SeenInPast homeStore ∧ ¬ (fleetMachine homeEnv homeDate).AllSteps
      (KeepsOrder homeEnv homeDate) (lateEventRun ++ [.step 2]) (initial homeStore) := by
  constructor
  · exact homeStore_seenInPast
  intro hall
  have hrun : (((fleetMachine homeEnv homeDate).trace Machine.anyStep lateEventRun
      (initial homeStore)).bind fun s =>
        ((fleetMachine homeEnv homeDate).next (.step 2) s).map fun s' =>
          (s.store.lastSeenAt "inst_local_browser", s'.store.lastSeenAt "inst_local_browser")) =
      some (some 1767225602000, some 1767225601500) := by rfl
  obtain ⟨s, htrace, hmap⟩ := Option.bind_eq_some_iff.mp hrun
  obtain ⟨s', hnext, hdates⟩ := Option.map_eq_some_iff.mp hmap
  obtain ⟨hbefore, hafter⟩ := Prod.mk.inj hdates
  have hkeeps := (fleetMachine homeEnv homeDate).allSteps_last hall htrace hnext
  obtain ⟨t, ht, hle⟩ := (hkeeps s' hnext).1 "inst_local_browser" 1767225602000 hbefore
  rw [hafter, Option.some.injEq] at ht
  omega

end QuizMind.LastSeen
