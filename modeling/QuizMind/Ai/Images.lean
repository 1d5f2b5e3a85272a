import QuizMind.Ai.Proxy

/-! # Image generation

`generateImageForCurrentSession` from the answer of the provider on. The image is
looked for in the answer, the request is recorded, and nothing is billed.

Texts are lists of characters. The regular expressions of the source are written
out as readers of a text; `toLowerCase` is a parameter. The file name of the image
is left out.
-/

namespace QuizMind.Ai

open Async

structure NormalizedGeneratedImagePayload where
  url : Option (List Char)
  base64 : Option (List Char)
  mimeType : List Char
  deriving DecidableEq

def pngMimeType : List Char := "image/png".toList

def noImage : Exception := .badGateway "Image provider did not return an image."

/-- A member of a value; what is no object has none. -/
def JsValue.member (value : JsValue) (key : String) : Option JsValue :=
  match value with
  | .object members => members.lookup key
  | _ => none

/-- A member that is a string. -/
def JsValue.text (value : JsValue) (key : String) : Option (List Char) :=
  match value.member key with
  | some (.string text) => some text
  | _ => none

/-- An empty string counts as missing. -/
def nonEmpty (text : Option (List Char)) : Option (List Char) := text.filter (· ≠ [])

/-! ## Reading texts -/

/-- `.` matches no such character. -/
def isLineTerminator (c : Char) : Bool :=
  c = '\n' || c = '\r' || c = '\u2028' || c = '\u2029'

/-- `[a-z0-9+/=\s]`, without regard to case. -/
def isBase64Char (c : Char) : Bool :=
  c.isAlphanum || c = '+' || c = '/' || c = '=' || isJsSpace c

/-- The text after a beginning that is `start` without regard to case. -/
def afterStart (start : String) (text : List Char) : Option (List Char) :=
  if (text.take start.length).map Char.toLower = start.toList then some (text.drop start.length)
  else none

/-- `data:([^;]+);base64,`: the type and what follows. -/
def dataUrlParts (text : List Char) : Option (List Char × List Char) := do
  let rest ← afterStart "data:" text
  let mimeType := rest.takeWhile (· ≠ ';')
  if mimeType = [] then none
  let data ← afterStart ";base64," (rest.dropWhile (· ≠ ';'))
  return (mimeType, data)

/-- `https?://`: what follows. -/
def afterScheme (text : List Char) : Option (List Char) := do
  let rest ← afterStart "http" text
  ((afterStart "s" rest).getD rest |> afterStart "://")

/-- `[^\s)]`. -/
def isUrlChar (c : Char) : Bool := !isJsSpace c && c ≠ ')'

/-- `https?://[^\s)]+` at the beginning: the address and what follows it. -/
def urlAt (text : List Char) : Option (List Char × List Char) := do
  let rest ← afterScheme text
  if rest.takeWhile isUrlChar = [] then none
  let after := rest.dropWhile isUrlChar
  return (text.take (text.length - after.length), after)

/-- `!\[[^\]]*\]\((https?://[^\s)]+)\)` at the beginning: the address. -/
def markdownImageAt (text : List Char) : Option (List Char) := do
  let rest ← afterStart "![" text
  let rest ← afterStart "](" (rest.dropWhile (· ≠ ']'))
  let (url, after) ← urlAt rest
  if after.head? = some ')' then return url else none

/-- Line breaks and blanks are taken out of encoded data. -/
def withoutSpaces (text : List Char) : List Char := text.filter fun c => !isJsSpace c

/-! ## Normalization -/

/-- The regular expression of `normalizeImageGenerationResponse` on `image_url`. -/
def strictDataUrl (text : List Char) : Option (List Char × List Char) := do
  if text.take 5 ≠ "data:".toList then none
  let (mimeType, data) ← dataUrlParts text
  -- `;base64,` is matched as it stands, and `.` by no line terminator
  if (text.drop (5 + mimeType.length)).take 8 ≠ ";base64,".toList then none
  if data = [] ∨ data.any isLineTerminator then none
  return (mimeType, data)

def normalizeImageGenerationResponse (payload : JsValue) :
    Except Exception NormalizedGeneratedImagePayload :=
  let data :=
    match payload.member "data" with
    | some (.array (first :: _)) => first
    | _ => .null
  let url := nonEmpty (data.text "url")
  let image : NormalizedGeneratedImagePayload :=
    match nonEmpty (data.text "b64_json") with
    | some base64 => ⟨url, some base64, pngMimeType⟩
    | none =>
      match (data.text "image_url").bind strictDataUrl with
      | some (mimeType, base64) => ⟨url, some base64, mimeType⟩
      | none => ⟨url, none, pngMimeType⟩
  if image.url.isNone && image.base64.isNone then .error noImage else .ok image

section

variable (toLowerCase : List Char → List Char)

def extractFromString (value : List Char) : Option NormalizedGeneratedImagePayload :=
  let trimmed := trimText value
  if trimmed = [] then none
  else
    let dataUrl := (dataUrlParts trimmed).filter fun parts =>
      parts.2 ≠ [] && parts.2.all isBase64Char
    match dataUrl with
    | some (mimeType, data) => some ⟨none, some (withoutSpaces data), toLowerCase mimeType⟩
    | none =>
      if (afterScheme trimmed).isSome then some ⟨some trimmed, none, pngMimeType⟩
      else
        match trimmed.tails.findSome? markdownImageAt with
        | some url => some ⟨some url, none, pngMimeType⟩
        | none =>
          match trimmed.tails.findSome? urlAt with
          | some (url, _) => some ⟨some url, none, pngMimeType⟩
          | none =>
            if trimmed.all isBase64Char && 32 ≤ (withoutSpaces trimmed).length then
              some ⟨none, some (withoutSpaces trimmed), pngMimeType⟩
            else none

/-- What a content block holds. -/
def extractFromBlock (block : JsValue) : Option NormalizedGeneratedImagePayload :=
  let blockType := (block.text "type").getD []
  if blockType = "image_url".toList then
    ((block.member "image_url").bind fun image => image.text "url").bind
      (extractFromString toLowerCase)
  else if blockType = "text".toList then
    (block.text "text").bind (extractFromString toLowerCase)
  else none

def normalizeRouterAiImageGenerationResponse (payload : JsValue) :
    Except Exception NormalizedGeneratedImagePayload :=
  let messageContent :=
    match payload.member "choices" with
    | some (.array (choice :: _)) =>
      (choice.member "message").bind fun message => message.member "content"
    | _ => none
  let image :=
    match messageContent with
    | some (.string text) => extractFromString toLowerCase text
    | some (.array blocks) => blocks.findSome? (extractFromBlock toLowerCase)
    | _ => none
  match image with
  | some image => .ok image
  | none => .error noImage

/-- The image in what the provider answers. -/
def normalizeImage (provider : String) (payload : JsValue) :
    Except Exception NormalizedGeneratedImagePayload :=
  if provider = "routerai" then normalizeRouterAiImageGenerationResponse toLowerCase payload
  else normalizeImageGenerationResponse payload

/-! ## The handler -/

/-- `answer` is what the provider answers, once it is called. -/
def invokeImageGeneration (provider : String) (answer : Except Exception JsValue) :
    Except Exception JsValue :=
  if provider ≠ "openrouter" ∧ provider ≠ "routerai" then
    .error (.badRequest s!"Image generation is not supported for provider \"{provider}\" yet.")
  else
    answer

structure AiImageGenerationResult where
  image : NormalizedGeneratedImagePayload
  model : String
  provider : String
  quota : AiProxyQuotaSnapshot

/-- The part of `generateImageForCurrentSession` from the upstream call on. -/
def generateImageForCurrentSession (invocation : PreparedProxyInvocation)
    (answer : Except Exception JsValue) : AiProg AiImageGenerationResult := do
  let payload ← Prog.ofExcept (invokeImageGeneration invocation.provider answer)
  let image ← Prog.ofExcept (normalizeImage toLowerCase invocation.provider payload)
  let quota ← recordProxyCompletion invocation none
  return { image := image
           model := invocation.resolvedModel
           provider := invocation.provider
           quota := quota }

end

end QuizMind.Ai
