import QuizMind.History.AttachmentExpiry
import QuizMind.History.UploadContent
import QuizMind.History.UploadRuns

/-! # The history of an upload

`uploadAndAnswer` sends a file to the proxy, which debits the wallet and stores the request in the
history, and then stores it once more with the file. The second call knows neither the charge nor
the attachments of the first one, so that the history is right exactly where the first call comes
last: `historyMatches_iff`.
-/

namespace QuizMind.History

open RemoteConfig (JsString JsonValue js)
open List (mem_cons not_mem_nil)

/-! ## What occurs in a prompt -/

/-- A value occurs in another one, at any depth. -/
inductive Occurs (value : JsonValue) : JsonValue → Prop
  | self : Occurs value value
  | item {item : JsonValue} {items : List JsonValue} (hmem : item ∈ items)
      (h : Occurs value item) : Occurs value (.array items)
  | member {key : String} {item : JsonValue} {members : List (String × JsonValue)}
      (hmem : (key, item) ∈ members) (h : Occurs value item) : Occurs value (.object members)

def IsScalar : JsonValue → Prop
  | .array _ => False
  | .object _ => False
  | _ => True

/-- No member of the object is an array or an object. -/
def IsFlat (members : BlockMembers) : Prop := ∀ member ∈ members, IsScalar member.2

variable {members : BlockMembers}

theorem not_occurs_scalar {value : JsonValue} (hscalar : IsScalar value) :
    ¬ Occurs (.object members) value := by
  intro h
  cases h with
  | _ => exact hscalar

theorem occurs_flat {block : BlockMembers} (hflat : IsFlat block)
    (h : Occurs (.object members) (.object block)) : members = block := by
  cases h with
  | self => rfl
  | member hmem h => exact absurd h (not_occurs_scalar (hflat _ hmem))

def textMembers (text : JsString) : BlockMembers :=
  [("type", .string (js "text")), ("text", .string text)]

theorem isFlat_textMembers (text : JsString) : IsFlat (textMembers text) := by
  intro member hmem
  simp only [textMembers, mem_cons, not_mem_nil, or_false] at hmem
  rcases hmem with rfl | rfl <;> exact trivial

theorem isFlat_imageMembers {type text mimeType : JsString} {key : String} {n : ℕ} :
    IsFlat [("type", .string type), (key, .string text), ("mimeType", .string mimeType),
      ("sizeBytes", numberValue n)] := by
  intro member hmem
  simp only [mem_cons, not_mem_nil, or_false] at hmem
  rcases hmem with rfl | rfl | rfl | rfl <;> exact trivial

/-- The objects of a message of the proxy. -/
theorem occurs_storedMessages {block : BlockMembers} {text : JsString}
    (hflat : IsFlat block) (h : Occurs (.object members) (storedMessages text block)) :
    members = [("role", .string (js "user")), ("content", .array [textBlock text, .object block])] ∨
      members = textMembers text ∨ members = block := by
  have hitem : Occurs (.object members) (.object [("role", .string (js "user")),
      ("content", .array [textBlock text, .object block])]) := by
    cases h with
    | item hmem h =>
      rw [List.mem_singleton.mp hmem] at h
      exact h
  cases hitem with
  | self => exact .inl rfl
  | member hmem h =>
    simp only [mem_cons, not_mem_nil, or_false] at hmem
    rcases hmem with ⟨-, rfl⟩ | ⟨-, rfl⟩
    · exact absurd h (not_occurs_scalar trivial)
    right
    cases h with
    | item hmem h =>
      simp only [mem_cons, not_mem_nil, or_false] at hmem
      rcases hmem with rfl | rfl
      · exact .inl (occurs_flat (isFlat_textMembers text) h)
      · exact .inr (occurs_flat hflat h)

theorem occurs_textMessages {text : JsString} (h : Occurs (.object members) (textMessages text)) :
    members = [("role", .string (js "user")), ("content", .string text)] := by
  have hflat : IsFlat [("role", .string (js "user")), ("content", .string text)] := by
    intro member hmem
    simp only [mem_cons, not_mem_nil, or_false] at hmem
    rcases hmem with rfl | rfl <;> exact trivial
  cases h with
  | item hmem h => grind [occurs_flat]

theorem omittedMarker_eq (details : OmittedDetails) (url : JsString) :
    replaceWithOmittedMarker details (imageMembers url) =
      [("type", .string (js "image_omitted")), ("reason", .string (js details.reason)),
        ("mimeType", .string details.mimeType), ("sizeBytes", numberValue details.sizeBytes)] :=
  rfl

theorem attachmentBlock_eq (attachment : PersistablePromptAttachment) (url : JsString) :
    replaceWithAttachment attachment (imageMembers url) =
      [("type", .string (js "image_attachment")), ("attachmentId", .string (js attachment.id)),
        ("mimeType", .string attachment.mimeType),
        ("sizeBytes", numberValue attachment.sizeBytes)] := rfl

/-! ## The two calls of an upload -/

/-- An upload that was answered: its message, the messages that the proxy has accepted, and what
the two calls write. -/
structure AnsweredUpload (functions : UploadFunctions) (settings : HistorySettings) where
  upload : Upload
  answer : ProxyAnswer
  content : JsonValue
  content_eq : messageContent functions upload = .ok content
  messages : JsonValue
  messages_eq : proxyMessages content = .ok messages
  draws : Writer → PersistDraws
  proxyPlan : PersistPlan
  proxy_eq : persistPlan functions.toHistoryFunctions settings (draws .proxy)
    (proxyCall answer messages) = .ok proxyPlan
  controllerPlan : PersistPlan
  controller_eq : persistPlan functions.toHistoryFunctions settings (draws .controller)
    (controllerCall answer upload content) = .ok controllerPlan

def AnsweredUpload.plans {functions : UploadFunctions} {settings : HistorySettings}
    (u : AnsweredUpload functions settings) : Writer → PersistPlan
  | .proxy => u.proxyPlan
  | .controller => u.controllerPlan

theorem persistPlan_eq_ok {functions : HistoryFunctions} {settings : HistorySettings}
    {draws : PersistDraws} {call : PersistCall} {plan : PersistPlan}
    (h : persistPlan functions settings draws call = .ok plan) :
    ∃ outcome, extractPromptAttachments functions.toImageFunctions
        (extractInput functions settings draws call) call.promptContent ⟨[], [], draws.uuids⟩ =
      .ok outcome ∧ plan = planOf functions settings draws call outcome := by
  obtain ⟨outcome, hextract, hplan⟩ := bind_eq_ok_iff.mp h
  cases hplan
  exact ⟨outcome, hextract, rfl⟩

section Answered

variable {functions : UploadFunctions} {settings : HistorySettings} (u : AnsweredUpload functions settings)

theorem AnsweredUpload.controllerPlan_eq :
    u.controllerPlan = planOf functions.toHistoryFunctions settings (u.draws .controller)
      (controllerCall u.answer u.upload u.content)
      ⟨u.content, u.content, ⟨[], [], (u.draws .controller).uuids⟩⟩ := by
  obtain ⟨outcome, hextract, hplan⟩ := persistPlan_eq_ok u.controller_eq
  have hcont : (controllerCall u.answer u.upload u.content).promptContent = u.content := rfl
  rw [hcont] at hextract
  rw [hplan]
  rcases content_cases u.content_eq u.messages_eq with ⟨-, himage, -⟩ | ⟨-, text, htext, -⟩
  · grind [extract_blocks]
  rw [htext] at hextract
  cases hextract
  rw [htext]

/-- What becomes of the image in the proxy's message. -/
def AnsweredUpload.imageOutcome : Except OmittedDetails ParsedDataUrl :=
  omitted functions.toImageFunctions
    (extractInput functions.toHistoryFunctions settings (u.draws .proxy)
      (proxyCall u.answer u.messages))
    (trimUnits (toDataUrl functions u.upload.mime u.upload.fileBuffer))
    ⟨[], [], (u.draws .proxy).uuids⟩

/-- The prompt that the proxy stores, and its attachments. -/
theorem AnsweredUpload.proxy_cases :
    (isImageMime u.upload.mime = false ∧ u.proxyPlan.upsert.promptAttachments = [] ∧
      ∃ text, u.proxyPlan.stored = textMessages text) ∨
    (isImageMime u.upload.mime = true ∧ u.proxyPlan.upsert.promptAttachments = [] ∧
      ∃ details text url, u.imageOutcome = .error details ∧ u.proxyPlan.stored =
        storedMessages text (replaceWithOmittedMarker details (imageMembers url))) ∨
    (isImageMime u.upload.mime = true ∧ ∃ parsed attachment text url, u.imageOutcome = .ok parsed ∧
        u.proxyPlan.upsert.promptAttachments = [attachment] ∧ u.proxyPlan.stored =
          storedMessages text (replaceWithAttachment attachment (imageMembers url))) := by
  obtain ⟨outcome, hextract, hplan⟩ := persistPlan_eq_ok u.proxy_eq
  have hmsgs : (proxyCall u.answer u.messages).promptContent = u.messages := rfl
  rw [hmsgs] at hextract
  rw [hplan]
  rcases content_cases u.content_eq u.messages_eq with ⟨hmime, -, himage⟩ | ⟨hmime, text, -, htext⟩
  · have hurl : (js "data:").isPrefixOf (trimUnits
        (toDataUrl functions u.upload.mime u.upload.fileBuffer)) = true :=
      isPrefixOf_trimUnits_toDataUrl u.upload.mime u.upload.fileBuffer
    right
    rcases houtcome : u.imageOutcome with details | parsed
    · left
      have hblock := extractBlock_omitted hurl houtcome
      have hall := extract_image (trimUnits u.upload.promptText) hblock
      rw [← himage, hextract] at hall
      cases hall
      exact ⟨hmime, rfl, details, _, _, rfl, rfl⟩
    right
    have hblock := extractBlock_attached hurl houtcome
    have hall := extract_image (trimUnits u.upload.promptText) hblock
    rw [← himage, hextract] at hall
    cases hall
    exact ⟨hmime, parsed, _, _, _, rfl, rfl, rfl⟩
  · left
    rw [htext] at hextract
    cases hextract
    exact ⟨hmime, rfl, _, rfl⟩

theorem AnsweredUpload.uploadPlans :
    UploadPlans u.answer.requestId u.upload.fileBuffer u.plans := by
  obtain ⟨outcome, hextract, hplan⟩ := persistPlan_eq_ok u.proxy_eq
  obtain ⟨new, happends⟩ := extractPromptAttachments_appends hextract
  have hctrl := u.controllerPlan_eq
  have hproxy : u.plans .proxy = _ := hplan
  have hfile : u.plans .controller = _ := hctrl
  constructor
  · intro writer
    cases writer
    · rw [hproxy]
      rfl
    · rw [hfile]
      rfl
  · intro writer
    cases writer
    · rw [hproxy]
      rfl
    · rw [hfile]
      rfl
  · rw [hproxy]
    exact ⟨rfl, rfl⟩
  · rw [hfile]
    exact ⟨rfl, rfl⟩
  · rw [hfile]
    rfl
  · rw [hfile]
    rfl
  · rw [hproxy]
    show outcome.state.blobs.map Prod.fst = outcome.state.output.map _
    rw [happends.blobs, happends.output]
    rfl
  · intro attachment hatt
    rw [hproxy] at hatt
    have hmem : attachment ∈ outcome.state.output := hatt
    rw [happends.output] at hmem
    obtain ⟨hrole, hdel, -, hkey⟩ := happends.fields attachment hmem
    exact ⟨hrole, hdel, hkey⟩

end Answered

/-! ## The statement -/

/-- The prompt that the content row refers to. -/
def SharedHistory.storedPrompt (history : SharedHistory) : Option JsonValue := do
  let content ← history.rows.content
  let key ← content.promptBlobKey
  match ← history.blobs key with
  | .json value => some value
  | .binary _ => none

/-- The history of an upload matches the charge and the file. -/
structure HistoryMatches {functions : UploadFunctions} {settings : HistorySettings}
    (u : AnsweredUpload functions settings) (history : SharedHistory) : Prop where
  charge : ∃ event, history.rows.event = some event ∧
    event.chargedAmountMinor = u.answer.chargedAmountMinor ∧
    event.walletLedgerEntryId = u.answer.walletLedgerEntryId ∧
    event.keySource = u.answer.keySource ∧ event.durationMs = some u.answer.durationMs
  file : ∃ content, history.rows.content = some content ∧
    content.fileBlobKey = some (fileKey u.answer.requestId) ∧
    history.blobs (fileKey u.answer.requestId) = some (.binary u.upload.fileBuffer)
  prompt : ∃ prompt, history.storedPrompt = some prompt
  attachments : ∀ prompt members id, history.storedPrompt = some prompt →
    Occurs (.object members) prompt → members.lookup "attachmentId" = some (.string id) →
      ∃ row ∈ history.rows.attachments, js row.id = id ∧ row.deletedAt = none ∧
        (history.blobs row.blobKey).isSome = true
  noDataUrl : ∀ prompt block, history.storedPrompt = some prompt → Occurs block prompt →
    dataUrlOf block = none

/-- A run of the two calls to their end. -/
structure FinishedRun {functions : UploadFunctions} {settings : HistorySettings}
    (u : AnsweredUpload functions settings) where
  trace : Trace
  state : TwoCalls
  run : TwoRun u.plans trace state
  done : ∀ writer, (state.phase writer).isDone

/-- The request was answered with the platform's key, and for nothing. -/
def AnsweredUpload.NothingCharged {functions : UploadFunctions} {settings : HistorySettings}
    (u : AnsweredUpload functions settings) : Prop :=
  u.answer.chargedAmountMinor = none ∧ u.answer.walletLedgerEntryId = none ∧
    u.answer.keySource = "platform"

/-- No image of the upload becomes an attachment. -/
def AnsweredUpload.KeepsNoImage {functions : UploadFunctions} {settings : HistorySettings}
    (u : AnsweredUpload functions settings) : Prop :=
  isImageMime u.upload.mime = true → ∃ details, u.imageOutcome = .error details

/-- The transaction of the proxy is the second one, unless the controller has the same to say;
and of an image the proxy has stored the prompt last. -/
structure ProxyLast {functions : UploadFunctions} {settings : HistorySettings}
    (u : AnsweredUpload functions settings) (trace : Trace) : Prop where
  rows : (upserts trace).getLast? = some .proxy ∨ (u.NothingCharged ∧ u.KeepsNoImage)
  prompt : isImageMime u.upload.mime = true →
    (writersOf (promptKey u.answer.requestId) trace).getLast? = some .proxy

section Finished

variable {functions : UploadFunctions} {settings : HistorySettings} {u : AnsweredUpload functions settings}

theorem AnsweredUpload.proxy_charge : ∃ requestType, u.proxyPlan.charge = {
    requestType := requestType
    keySource := u.answer.keySource
    chargedCostUsd := u.answer.chargedCostUsd
    chargedCurrency := u.answer.chargedCurrency
    chargedAmountMinor := u.answer.chargedAmountMinor
    walletLedgerEntryId := u.answer.walletLedgerEntryId
    durationMs := some u.answer.durationMs
    occurredAt := u.answer.occurredAt } := by
  obtain ⟨outcome, -, hplan⟩ := persistPlan_eq_ok u.proxy_eq
  rw [hplan]
  exact ⟨_, rfl⟩

theorem AnsweredUpload.controller_charge : ∃ occurredAt, u.controllerPlan.charge = {
    requestType := .file
    keySource := "platform"
    chargedCostUsd := none
    chargedCurrency := none
    chargedAmountMinor := none
    walletLedgerEntryId := none
    durationMs := none
    occurredAt := occurredAt } := by
  rw [u.controllerPlan_eq]
  exact ⟨_, rfl⟩

variable {members : BlockMembers}

/-- The objects in the prompt of the proxy, with the attachments that they stand for. -/
theorem AnsweredUpload.occurs_proxy (h : Occurs (.object members) u.proxyPlan.stored) :
    dataUrlOf (.object members) = none ∧ ∀ id, members.lookup "attachmentId" = some (.string id) →
        ∃ attachment ∈ u.proxyPlan.upsert.promptAttachments, js attachment.id = id := by
  have hmsg : ∀ content, dataUrlOf (.object [("role", .string (js "user")),
      ("content", content)]) = none := fun _ => rfl
  rcases u.proxy_cases with ⟨-, -, text, hstored⟩ | ⟨-, -, details, text, url, -, hstored⟩ |
    ⟨-, parsed, attachment, text, url, -, hatts, hstored⟩
  · rw [hstored] at h
    rw [occurs_textMessages h]
    refine ⟨hmsg _, ?_⟩
    intro id hid
    cases hid
  · rw [hstored, omittedMarker_eq] at h
    rcases occurs_storedMessages isFlat_imageMembers h with rfl | rfl | rfl
    · grind
    · refine ⟨dataUrlOf_textBlock text, ?_⟩
      intro id hid
      cases hid
    · refine ⟨rfl, ?_⟩
      intro id hid
      cases hid
  · rw [hstored, attachmentBlock_eq] at h
    rcases occurs_storedMessages isFlat_imageMembers h with rfl | rfl | rfl
    · grind
    · refine ⟨dataUrlOf_textBlock text, ?_⟩
      intro id hid
      cases hid
    · refine ⟨rfl, ?_⟩
      intro id hid
      cases hid
      rw [hatts]
      exact ⟨attachment, List.mem_singleton_self _, rfl⟩

/-- The prompt of the controller is the message content itself. -/
theorem AnsweredUpload.controller_stored : u.controllerPlan.stored = u.content := by
  rw [u.controllerPlan_eq]
  rfl

/-- So that the data URL of an image stays in it. -/
theorem AnsweredUpload.dataUrl_controller (himage : isImageMime u.upload.mime = true) :
    ∃ block, Occurs block u.controllerPlan.stored ∧ dataUrlOf block ≠ none := by
  rw [u.controller_stored]
  rcases content_cases u.content_eq u.messages_eq with ⟨-, hcont, -⟩ | ⟨htext, -⟩
  · rw [hcont]
    refine ⟨_, .item (List.mem_cons_of_mem _ (List.mem_singleton_self _)) .self, ?_⟩
    exact Option.some_ne_none _
  · rw [himage] at htext
    cases htext

theorem AnsweredUpload.occurs_controller (htext : isImageMime u.upload.mime = false) :
    ¬ Occurs (.object members) u.controllerPlan.stored := by
  rw [u.controller_stored]
  rcases content_cases u.content_eq u.messages_eq with ⟨himage, -⟩ | ⟨-, text, hcont, -⟩
  · rw [himage] at htext
    cases htext
  · rw [hcont]
    exact not_occurs_scalar trivial

/-- An image that is kept stands in the prompt of the proxy by the id of its attachment. -/
theorem AnsweredUpload.attachmentId_occurs (hkept : ¬ u.KeepsNoImage) :
    ∃ members id, Occurs (.object members) u.proxyPlan.stored ∧
      members.lookup "attachmentId" = some (.string id) := by
  rcases u.proxy_cases with ⟨htext, -⟩ | ⟨-, -, details, -, -, houtcome, -⟩ |
    ⟨-, parsed, attachment, text, url, -, -, hstored⟩
  · exact absurd (fun himage => absurd himage (by rw [htext]; decide)) hkept
  · exact absurd (fun _ => ⟨details, houtcome⟩) hkept
  · refine ⟨replaceWithAttachment attachment (imageMembers url), js attachment.id, ?_, rfl⟩
    rw [hstored]
    refine .item (List.mem_singleton_self _) (.member (List.mem_cons_of_mem _
      (List.mem_singleton_self _)) (.item (List.mem_cons_of_mem _
        (List.mem_singleton_self _)) .self))

theorem dataUrlOf_occurs {prompt : JsonValue}
    (h : ∀ members, Occurs (.object members) prompt → dataUrlOf (.object members) = none)
    {block : JsonValue} (hblock : Occurs block prompt) : dataUrlOf block = none := by
  cases block with
  | object members => exact h members hblock
  | _ => rfl

namespace FinishedRun

variable (r : FinishedRun u)

/-- The rows after the two transactions. -/
theorem rows_eq : r.state.history.rows =
    (upserts r.trace).foldl (fun rows writer => (u.plans writer).upsertRows rows) .empty :=
  r.run.rows_eq

theorem content_eq : ∃ content, r.state.history.rows.content = some content ∧
    content.promptBlobKey = some (promptKey u.answer.requestId) ∧
    content.fileBlobKey = some (fileKey u.answer.requestId) := by
  have hplans := u.uploadPlans
  rcases r.run.upserts_cases r.done with horder | horder
  · refine ⟨_, by rw [r.rows_eq, horder]; rfl, ?_, ?_⟩
    · show some (u.plans .controller).upsert.promptBlobKey = _
      rw [hplans.promptBlobKey]
    · show (u.plans .controller).upsert.fileBlobKey.or (u.plans .proxy).upsert.fileBlobKey = _
      rw [hplans.controller_file.2]
      rfl
  refine ⟨_, by rw [r.rows_eq, horder]; rfl, ?_, ?_⟩
  · show some (u.plans .proxy).upsert.promptBlobKey = _
    rw [hplans.promptBlobKey]
  show (u.plans .proxy).upsert.fileBlobKey.or (u.plans .controller).upsert.fileBlobKey = _
  rw [hplans.controller_file.2, hplans.proxy_file.2]
  rfl

/-- The prompt is stored by the one of the calls that comes last there. -/
theorem storedPrompt_eq :
    ∃ last, (writersOf (promptKey u.answer.requestId) r.trace).getLast? = some last ∧
      r.state.history.storedPrompt = some (u.plans last).stored := by
  obtain ⟨content, hcont, hkey, -⟩ := r.content_eq
  obtain ⟨last, hlast, hblob⟩ := prompt_done u.uploadPlans r.done r.run
  refine ⟨last, hlast, ?_⟩
  unfold SharedHistory.storedPrompt
  rw [hcont]
  simp only [Option.bind_eq_bind, Option.bind_some, hkey, hblob]

theorem attachments_eq : r.state.history.rows.attachments =
    if (upserts r.trace).getLast? = some .proxy then proxyRows u.plans else [] := by
  rw [r.rows_eq, attachments_after u.uploadPlans]

/-- The event has the charge, exactly where the proxy's transaction is the second one or there
was no charge. -/
theorem charge_iff : (∃ event, r.state.history.rows.event = some event ∧
      event.chargedAmountMinor = u.answer.chargedAmountMinor ∧
      event.walletLedgerEntryId = u.answer.walletLedgerEntryId ∧
      event.keySource = u.answer.keySource ∧ event.durationMs = some u.answer.durationMs) ↔
    ((upserts r.trace).getLast? = some .proxy ∨ u.NothingCharged) := by
  obtain ⟨requestType, hproxy⟩ := u.proxy_charge
  obtain ⟨occurredAt, hctrl⟩ := u.controller_charge
  rcases r.run.upserts_cases r.done with horder | horder
  · have hev : r.state.history.rows.event =
        some (u.controllerPlan.updateCharge u.proxyPlan.charge) := by
      rw [r.rows_eq, horder]
      rfl
    rw [hev, horder]
    unfold PersistPlan.updateCharge
    rw [hproxy, hctrl]
    constructor
    · rintro ⟨event, hsome, hamount, hentry, hsrc, -⟩
      cases hsome
      exact .inr ⟨hamount.symm, hentry.symm, hsrc.symm⟩
    rintro (hlast | ⟨hamount, hentry, hsrc⟩)
    · cases hlast
    · exact ⟨_, rfl, hamount.symm, hentry.symm, hsrc.symm, rfl⟩
  · have hev : r.state.history.rows.event =
        some (u.proxyPlan.updateCharge u.controllerPlan.charge) := by
      rw [r.rows_eq, horder]
      rfl
    rw [hev, horder]
    unfold PersistPlan.updateCharge
    rw [hproxy]
    exact iff_of_true ⟨_, rfl, rfl, rfl, rfl, rfl⟩ (.inl rfl)

end FinishedRun

/-- However the steps of the two calls of an upload follow one another, the history matches the
charge and the file exactly where the proxy's call comes last. -/
theorem historyMatches_iff (r : FinishedRun u) :
    HistoryMatches u r.state.history ↔ ProxyLast u r.trace := by
  obtain ⟨last, hlast, hprompt⟩ := r.storedPrompt_eq
  constructor
  · intro h
    have hstored : isImageMime u.upload.mime = true → last = .proxy := by
      intro himage
      cases last with
      | proxy => rfl
      | controller =>
        obtain ⟨block, hoccurs, hurl⟩ := u.dataUrl_controller himage
        exact absurd (h.noDataUrl _ block hprompt hoccurs) hurl
    constructor
    · rcases r.charge_iff.mp h.charge with hproxy | hnothing
      · exact .inl hproxy
      · by_contra hnot
        rw [not_or] at hnot
        have hkept : ¬ u.KeepsNoImage := fun hkeeps => hnot.2 ⟨hnothing, hkeeps⟩
        obtain ⟨members, id, hoccurs, hid⟩ := u.attachmentId_occurs hkept
        have himage : isImageMime u.upload.mime = true := by
          by_contra htext
          exact hkept fun himage => absurd himage htext
        -- the transaction of the controller has removed the attachments
        rw [hstored himage] at hprompt
        obtain ⟨row, hrow, -⟩ := h.attachments _ members id hprompt hoccurs hid
        rw [r.attachments_eq, if_neg hnot.1] at hrow
        cases hrow
    · intro himage
      rw [hlast, hstored himage]
  · intro h
    have hobjects : ∀ members, Occurs (.object members) (u.plans last).stored → last = .proxy := by
      intro members hoccurs
      cases last with
      | proxy => rfl
      | controller =>
        by_cases himage : isImageMime u.upload.mime = true
        · exact Option.some.inj (hlast.symm.trans (h.prompt himage))
        · rw [Bool.not_eq_true] at himage
          exact absurd hoccurs (u.occurs_controller himage)
    constructor
    · refine r.charge_iff.mpr ?_
      rcases h.rows with hproxy | ⟨hnothing, -⟩
      · exact .inl hproxy
      · exact .inr hnothing
    · obtain ⟨content, hcontent, -, hfile⟩ := r.content_eq
      exact ⟨content, hcontent, hfile, file_done u.uploadPlans r.done r.run⟩
    · exact ⟨_, hprompt⟩
    · intro prompt members id hsome hoccurs hid
      cases hprompt.symm.trans hsome
      have hproxy := hobjects members hoccurs
      subst hproxy
      obtain ⟨attachment, hattachment, hsame⟩ := (u.occurs_proxy hoccurs).2 id hid
      rcases h.rows with horder | ⟨-, hkeeps⟩
      · have hrow : u.proxyPlan.upsert.attachmentRow attachment ∈ proxyRows u.plans :=
          List.mem_map_of_mem hattachment
        rw [r.attachments_eq, if_pos horder]
        refine ⟨_, hrow, hsame, ?_, ?_⟩
        · exact (u.uploadPlans.proxy_attachments attachment hattachment).2.1
        refine attachments_done u.uploadPlans r.done r.run ?_ (List.mem_map_of_mem hattachment)
        rcases r.run.upserts_cases r.done with hcase | hcase
        · rw [hcase] at horder
          cases horder
        · exact hcase
      rcases u.proxy_cases with ⟨-, hnone, -⟩ | ⟨-, hnone, -⟩ |
        ⟨himage, parsed, -, -, -, houtcome, -⟩
      · grind
      · grind
      · obtain ⟨details, hdetails⟩ := hkeeps himage
        rw [houtcome] at hdetails
        cases hdetails
    · intro prompt block hsome hoccurs
      cases hprompt.symm.trans hsome
      refine dataUrlOf_occurs ?_ hoccurs
      intro members hmembers
      have hproxy := hobjects members hmembers
      subst hproxy
      exact (u.occurs_proxy hmembers).1

end Finished

/-! ## A charge that is lost -/

def plainUploadFunctions : UploadFunctions where
  toHistoryFunctions := plainHistoryFunctions
  toBase64 := fun bytes => bytes.map UInt8.toNat
  toUtf8 := fun bytes => bytes.map UInt8.toNat

def notes : Upload where
  originalName := "notes.txt"
  mime := "text/plain"
  fileBuffer := [104, 105]
  prompt := some (js "Sum up")
  provider := some "openrouter"
  model := none

/-- An answer for 5 minor units. -/
def notesAnswer : ProxyAnswer where
  requestId := "request"
  keySource := "platform"
  occurredAt := 0
  durationMs := 100
  response := []
  chargedCostUsd := some 1
  chargedCurrency := some "RUB"
  chargedAmountMinor := some 5
  walletLedgerEntryId := some "entry"

def notesText : JsString := js "Sum up" ++ js "\n\n---\n\n" ++ [104, 105]

def notesDraws : PersistDraws := ⟨0, 0, 0, 0, "content"⟩

def answeredNotes : AnsweredUpload plainUploadFunctions longAttachments where
  upload := notes
  answer := notesAnswer
  content := .string notesText
  content_eq := by
    unfold messageContent
    rw [if_neg (by decide), if_neg (by decide), if_pos (by decide)]
    rfl
  messages := textMessages notesText
  messages_eq := rfl
  draws := fun _ => notesDraws
  proxyPlan := planOf plainHistoryFunctions longAttachments notesDraws
    (proxyCall notesAnswer (textMessages notesText))
    ⟨textMessages notesText, textMessages notesText, ⟨[], [], 0⟩⟩
  proxy_eq := rfl
  controllerPlan := planOf plainHistoryFunctions longAttachments notesDraws
    (controllerCall notesAnswer notes (.string notesText))
    ⟨.string notesText, .string notesText, ⟨[], [], 0⟩⟩
  controller_eq := rfl

/-- The call of the controller, when it comes last, removes the charge from the event. -/
theorem notes_charge_lost : ¬ ∀ (functions : UploadFunctions) (settings : HistorySettings)
    (u : AnsweredUpload functions settings) (r : FinishedRun u),
      HistoryMatches u r.state.history := by
  intro h
  obtain ⟨trace, s, hrun, hdone, horder⟩ := exists_serial answeredNotes.plans
    (show Writer.controller ≠ .proxy by decide)
  have hmatches := h _ _ answeredNotes ⟨trace, s, hrun, hdone⟩
  rcases FinishedRun.charge_iff _ |>.mp hmatches.charge with hlast | ⟨hnothing, -⟩
  · rw [horder] at hlast
    cases hlast
  · cases hnothing

end QuizMind.History
