import QuizMind.Ai.Pricing
import QuizMind.Text.Joined
import QuizMind.Text.Chunked

/-! # What an upstream answer reports

A response body or an event of a stream is a JSON object; `usage` holds the token
counts and, for some providers, the cost. A stream of server-sent events arrives
in chunks of decoded text and is inspected block by block.

`JSON.parse` is the parameter `parse`.
-/

namespace QuizMind.Ai

/-- A value produced by `JSON.parse`; a number out of range is infinite (`none`). -/
inductive JsValue where
  | null
  | bool (b : Bool)
  | number (n : Option ℚ)
  | string (s : List Char)
  | array (items : List JsValue)
  | object (members : List (String × JsValue))

/-- The members of an object. -/
abbrev Payload := List (String × JsValue)

/-- A member that is a finite number. -/
def finiteMember (members : Payload) (key : String) : Option ℚ :=
  match members.lookup key with
  | some (.number n) => n
  | _ => none

structure AiProxyUsage where
  promptTokens : Option ℚ
  completionTokens : Option ℚ
  totalTokens : Option ℚ
  deriving DecidableEq

/-- The token counts of a usage record, when it has any. -/
def usageOfRecord (usageRecord : Payload) : Option AiProxyUsage :=
  let promptTokens := finiteMember usageRecord "prompt_tokens"
  let completionTokens := finiteMember usageRecord "completion_tokens"
  let totalTokens := finiteMember usageRecord "total_tokens"
  if promptTokens = none ∧ completionTokens = none ∧ totalTokens = none then none
  else some ⟨promptTokens, completionTokens, totalTokens⟩

def extractUsage (payload : Payload) : Option AiProxyUsage :=
  match payload.lookup "usage" with
  | some (.object usageRecord) => usageOfRecord usageRecord
  | _ => none

/-- The cost that a response reports; an array has no member `cost`. -/
def extractProviderCostUsd (response : Option Payload) : Option ℚ :=
  match response.bind fun r => r.lookup "usage" with
  | some (.object usage) => finiteMember usage "cost"
  | _ => none

@[simp] theorem extractProviderCostUsd_none : extractProviderCostUsd none = none := rfl

/-- Both readings look at the member `usage` only. -/
theorem extractUsage_congr {p q : Payload} (h : p.lookup "usage" = q.lookup "usage") :
    extractUsage p = extractUsage q := by
  rw [extractUsage, extractUsage, h]

theorem extractProviderCostUsd_congr {p q : Payload} (h : p.lookup "usage" = q.lookup "usage") :
    extractProviderCostUsd (some p) = extractProviderCostUsd (some q) := by
  rw [extractProviderCostUsd, extractProviderCostUsd, Option.bind_some, Option.bind_some, h]

/-! ## Server-sent events -/

/-- `String.prototype.trim` on a text. -/
def trimText (text : List Char) : List Char :=
  ((text.dropWhile isJsSpace).reverse.dropWhile isJsSpace).reverse

/-- `text.replace(/\r\n/g, '\n')`. -/
def replaceCrLf : List Char → List Char
  | [] => []
  | '\r' :: '\n' :: rest => '\n' :: replaceCrLf rest
  | c :: rest => c :: replaceCrLf rest

structure OpenRouterStreamInspection where
  responseId : Option (List Char)
  model : Option (List Char)
  usage : Option AiProxyUsage
  deriving DecidableEq

def OpenRouterStreamInspection.empty : OpenRouterStreamInspection := ⟨none, none, none⟩

/-- A member that is a string with more than white space in it, trimmed. -/
def trimmedMember (payload : Payload) (key : String) : Option (List Char) :=
  match payload.lookup key with
  | some (.string text) => if trimText text = [] then none else some (trimText text)
  | _ => none

section Parse

variable (parse : List Char → Option JsValue)

def tryParseJson (value : List Char) : JsValue :=
  (parse value).getD (.object [("raw", .string value)])

/-- The data of an event block, when there is any. -/
def eventData (rawEvent : List Char) : Option (List Char) :=
  let dataLines := (((rawEvent.splitOn '\n').map trimText).filter
    fun line => "data:".toList <+: line).map fun line => trimText (line.drop 5)
  let eventPayload := Text.joined '\n' dataLines
  if eventPayload = [] ∨ eventPayload = "[DONE]".toList then none else some eventPayload

/-- The object in the data of an event block. -/
def eventObject (rawEvent : List Char) : Option Payload :=
  match (eventData rawEvent).map (tryParseJson parse) with
  | some (.object payload) => some payload
  | _ => none

/-- What an event adds to the inspection. -/
def OpenRouterStreamInspection.add (inspection : OpenRouterStreamInspection) (payload : Payload) :
    OpenRouterStreamInspection where
  responseId := (trimmedMember payload "id").or inspection.responseId
  model := (trimmedMember payload "model").or inspection.model
  usage := (extractUsage payload).or inspection.usage

def inspectSseEventBlock (inspection : OpenRouterStreamInspection) (rawEvent : List Char) :
    OpenRouterStreamInspection :=
  match eventObject parse rawEvent with
  | some payload => inspection.add payload
  | none => inspection

/-- The buffer and the inspection while chunks are read. -/
structure StreamReader where
  buffer : List Char
  inspection : OpenRouterStreamInspection

/-- The blank line between two events. -/
def blankLine : List Char := ['\n', '\n']

/-- One chunk: the events that are complete with it are inspected. -/
def StreamReader.read (reader : StreamReader) (chunk : List Char) : StreamReader :=
  let out := Text.splitBlocks blankLine (reader.buffer ++ replaceCrLf chunk)
  { buffer := out.2, inspection := out.1.foldl (inspectSseEventBlock parse) reader.inspection }

/-- A stream: the text of its chunks, what the decoder still holds at the end, and
the failure of a read after the chunks, if there is one. -/
structure SseStream where
  chunks : List (List Char)
  flush : List Char := []
  failure : Option Exception := none

def inspectOpenRouterSseStream (stream : SseStream) : Except Exception OpenRouterStreamInspection :=
  let reader := stream.chunks.foldl (StreamReader.read parse) { buffer := [], inspection := .empty }
  match stream.failure with
  | some error => .error error
  | none =>
    let buffer := reader.buffer ++ replaceCrLf stream.flush
    if trimText buffer = [] then .ok reader.inspection
    else .ok (inspectSseEventBlock parse reader.inspection buffer)

/-! ## The events of a stream -/

/-- The text of a stream, line ends as `\n`. -/
def SseStream.text (stream : SseStream) : List Char :=
  replaceCrLf (stream.chunks.flatten)

/-- The blocks of a stream: its text cut at blank lines. -/
def SseStream.blocks (stream : SseStream) : List (List Char) :=
  let out := Text.splitBlocks blankLine stream.text
  let buffer := out.2 ++ replaceCrLf stream.flush
  if trimText buffer = [] then out.1 else out.1 ++ [buffer]

/-- The objects that the events of a stream carry. -/
def SseStream.events (stream : SseStream) : List Payload :=
  stream.blocks.filterMap (eventObject parse)

/-- No chunk ends between the two characters of a line end. -/
def SseStream.WholeLineEnds (stream : SseStream) : Prop :=
  ∀ chunk ∈ stream.chunks, chunk.getLast? ≠ some '\r'

theorem replaceCrLf_cons {c : Char} {rest : List Char}
    (h : ∀ more, c = '\r' → rest ≠ '\n' :: more) :
    replaceCrLf (c :: rest) = c :: replaceCrLf rest :=
  replaceCrLf.eq_3 c rest h

/-- The line ends of two texts are those of the whole, unless one is cut. -/
theorem replaceCrLf_append {text : List Char} (h : text.getLast? ≠ some '\r') (more : List Char) :
    replaceCrLf (text ++ more) = replaceCrLf text ++ replaceCrLf more := by
  induction text using replaceCrLf.induct with
  | case1 => rfl
  | case2 rest ih => grind [replaceCrLf]
  | case3 c rest hne ih =>
    cases rest with
    | nil =>
      -- the text ends with `c`, which is no carriage return
      have hc : c ≠ '\r' := fun hc => h (by rw [hc]; rfl)
      have hmore : ∀ r, c = '\r' → more ≠ '\n' :: r := fun _ hc' => absurd hc' hc
      rw [List.cons_append, List.nil_append, replaceCrLf_cons hmore, replaceCrLf_cons hne]
      rfl
    | cons d rest =>
      have hrest : (d :: rest).getLast? ≠ some '\r' := by grind
      have hmore : ∀ r, c = '\r' → d :: rest ++ more ≠ '\n' :: r := by simp_all
      rw [List.cons_append, replaceCrLf_cons hmore, replaceCrLf_cons hne, ih hrest]
      rfl

theorem replaceCrLf_flatten {chunks : List (List Char)}
    (h : ∀ chunk ∈ chunks, chunk.getLast? ≠ some '\r') :
    replaceCrLf chunks.flatten = (chunks.map replaceCrLf).flatten := by
  induction chunks with
  | nil => rfl
  | cons chunk chunks ih =>
    grind [replaceCrLf_append]

/-- The reader holds what is left over after the blocks it has inspected. -/
theorem foldl_read (chunks : List (List Char)) (out : List (List Char) × List Char) :
    chunks.foldl (StreamReader.read parse)
        { buffer := out.2, inspection := out.1.foldl (inspectSseEventBlock parse) .empty } =
      let out' := (chunks.map replaceCrLf).foldl (Text.feed blankLine) out
      { buffer := out'.2, inspection := out'.1.foldl (inspectSseEventBlock parse) .empty } := by
  induction chunks generalizing out with
  | nil => rfl
  | cons chunk chunks ih =>
    have hstep := ih (Text.feed blankLine out (replaceCrLf chunk))
    rw [List.foldl_cons, List.map_cons, List.foldl_cons]
    simpa only [StreamReader.read, Text.feed, List.foldl_append] using hstep

theorem foldl_inspect (blocks : List (List Char)) (inspection : OpenRouterStreamInspection) :
    blocks.foldl (inspectSseEventBlock parse) inspection =
      (blocks.filterMap (eventObject parse)).foldl OpenRouterStreamInspection.add inspection := by
  induction blocks generalizing inspection with
  | nil => rfl
  | cons block blocks ih =>
    rw [List.foldl_cons, ih, inspectSseEventBlock]
    cases hobject : eventObject parse block with
    | none => rw [List.filterMap_cons_none hobject]
    | some payload => rw [List.filterMap_cons_some hobject, List.foldl_cons]

/-- The blocks of a text, with what the decoder holds at the end behind the last one. -/
def blocksOf (text flush : List Char) : List (List Char) :=
  let out := Text.splitBlocks blankLine text
  let buffer := out.2 ++ replaceCrLf flush
  if trimText buffer = [] then out.1 else out.1 ++ [buffer]

/-- The blocks that are inspected are those of the text whose line ends are replaced chunk by
chunk. -/
theorem inspect_eq_blocks {stream : SseStream} (hfail : stream.failure = none) :
    inspectOpenRouterSseStream parse stream =
      .ok (((blocksOf (stream.chunks.map replaceCrLf).flatten stream.flush).filterMap
        (eventObject parse)).foldl OpenRouterStreamInspection.add .empty) := by
  have hblank : blankLine ≠ [] := by decide
  have hread := foldl_read parse stream.chunks ([], [])
  have hsplit := Text.feed_eq hblank (stream.chunks.map replaceCrLf) []
  rw [List.nil_append] at hsplit
  change (stream.chunks.map replaceCrLf).foldl (Text.feed blankLine) ([], []) = _ at hsplit
  rw [hsplit] at hread
  simp only [List.foldl_nil] at hread
  unfold inspectOpenRouterSseStream
  rw [hfail, hread, ← foldl_inspect]
  unfold blocksOf
  simp only
  split
  · rfl
  · rw [List.foldl_append]
    rfl

/-- However the text is cut into chunks, the stream is inspected event by event. -/
theorem inspect_eq_events {stream : SseStream} (hwhole : stream.WholeLineEnds)
    (hfail : stream.failure = none) :
    inspectOpenRouterSseStream parse stream =
      .ok ((stream.events parse).foldl OpenRouterStreamInspection.add .empty) := by
  rw [inspect_eq_blocks parse hfail, ← replaceCrLf_flatten hwhole]
  rfl

end Parse

/-- The last event with token counts decides the usage of the stream. -/
theorem usage_of_last (front : List Payload) {back : List Payload} {payload : Payload} {usage : AiProxyUsage}
    (husage : extractUsage payload = some usage)
    (hback : ∀ p ∈ back, extractUsage p = none) (inspection : OpenRouterStreamInspection) :
    ((front ++ payload :: back).foldl OpenRouterStreamInspection.add inspection).usage =
      some usage := by
  rw [List.foldl_append, List.foldl_cons]
  generalize hstart : (front.foldl OpenRouterStreamInspection.add inspection).add payload = start
  have hstart' : start.usage = some usage := by
    rw [← hstart, OpenRouterStreamInspection.add, husage, Option.some_or]
  clear hstart
  induction back generalizing start with
  | nil => exact hstart'
  | cons p back ih => simp_all [OpenRouterStreamInspection.add]

end QuizMind.Ai
