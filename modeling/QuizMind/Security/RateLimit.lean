import QuizMind.Runtime
import Mathlib.Data.List.DropRight

/-! # The rate limit guard

`RateLimitGuard`: a bucket is named by the method, the path as it is written, and the address of
the client, which is the one that the forwarding headers name. So two requests of one peer
share a bucket when their paths are spelled alike and their forwarding headers name the same
address (`same_bucket`); another spelling or another address is another bucket
(`bucket_changed`).

The router ignores letter case and one slash at the end (`Route.matches`); the guard does not.
-/

namespace QuizMind.Security

/-! ## Requests -/

inductive HeaderValue where
  | text (value : String)
  | texts (values : List String)

abbrev Headers := List (String × HeaderValue)

structure RateLimitedRequest where
  headers : Option Headers
  ip : Option String
  method : Option String
  originalUrl : Option String
  url : Option String
  remoteAddress : Option String

structure RateLimitEnv where
  authRateLimitMaxRequests : ℕ
  authRateLimitWindowMs : ℕ
  rateLimitMaxRequests : ℕ
  rateLimitWindowMs : ℕ

structure RateLimitPolicy where
  key : String
  maxRequests : ℕ
  windowMs : ℕ

def extensionAuthRuntimeWindowMs : ℕ := 60000

/-! ## The address of the client -/

/-- `toLowerCase` on the characters that a header can hold, those of Latin-1. -/
def lowerChar (c : Char) : Char :=
  let n := c.toNat
  if (0x41 ≤ n ∧ n ≤ 0x5A) ∨ (0xC0 ≤ n ∧ n ≤ 0xDE ∧ n ≠ 0xD7) then Char.ofNat (n + 32) else c

def isDigitChar (c : Char) : Bool := '0' ≤ c && c ≤ '9'

/-- `replace(/^\[([^\]]+)](?::\d+)?$/, '$1')`, on what follows the bracket. -/
def bracketed (whole rest : List Char) : List Char :=
  let inner := rest.takeWhile fun c => c ≠ ']'
  match rest.dropWhile fun c => c ≠ ']' with
  | ']' :: tail =>
    let isPort := match tail with
      | [] => true
      | ':' :: digits => digits ≠ [] && digits.all isDigitChar
      | _ => false
    if inner ≠ [] && isPort then inner else whole
  | _ => whole

/-- `replace(/:\d+$/, '')`. -/
def dropPort (whole : List Char) : List Char :=
  if whole.rtakeWhile isDigitChar = [] then whole
  else match (whole.rdropWhile isDigitChar).reverse with
    | ':' :: address => address.reverse
    | _ => whole

def withoutPort (trimmed : List Char) : List Char :=
  match trimmed with
  | '[' :: rest => bracketed trimmed rest
  | _ => if trimmed.contains ':' && trimmed.contains '.' then dropPort trimmed else trimmed

def normalizeIp (value : Option String) : Option String :=
  match (value.map jsTrim).filter fun text => text ≠ "" with
  | none => none
  | some trimmed =>
    let lower := String.ofList ((withoutPort trimmed.toList).map lowerChar)
    some (if jsStartsWith lower "::ffff:" then String.ofList (lower.toList.drop 7) else lower)

def headerText : Option HeaderValue → Option String
  | some (.text value) => some value
  | some (.texts values) => some (",".intercalate values)
  | none => none

def firstText : Option HeaderValue → Option String
  | some (.text value) => some value
  | some (.texts values) => values.head?
  | none => none

def splitCommas (text : String) : List String :=
  (text.toList.splitOn ',').map String.ofList

def resolveForwardedClientIp (headers : Option Headers) : Option String :=
  match headers with
  | none => none
  | some headers =>
    let forwardedFor := headerText (headers.lookup "x-forwarded-for")
    let candidates := (splitCommas (forwardedFor.getD "")).filterMap fun ip =>
      (normalizeIp (some ip)).filter fun ip => ip ≠ ""
    candidates.head?.or (normalizeIp (firstText (headers.lookup "x-real-ip")))

/-- An empty address counts as none. -/
def truthyAddress (address : Option String) : Option String := address.filter fun text => text ≠ ""

def resolveIdentity (request : RateLimitedRequest) : String :=
  let forwardedIp := truthyAddress (resolveForwardedClientIp request.headers)
  let requestIp := truthyAddress (request.ip.map jsTrim)
  let remoteIp := truthyAddress (request.remoteAddress.map jsTrim)
  ((forwardedIp.or requestIp).or remoteIp).getD "anonymous"

/-! ## The policy -/

def authPrefixes : List String :=
  ["/auth/login", "/auth/register", "/auth/refresh", "/auth/forgot-password",
    "/auth/reset-password"]

def resolvePolicy (env : RateLimitEnv) (method path : String) : Option RateLimitPolicy :=
  if path = "/health" ∨ path = "/ready" then none
  else if authPrefixes.any (jsStartsWith path) then
    some
      { key := s!"auth:{method}:{path}"
        maxRequests := env.authRateLimitMaxRequests
        windowMs := env.authRateLimitWindowMs }
  else if path = "/extension/bootstrap/v2" ∨ path = "/extension/session/refresh" ∨
      path = "/extension/installations/session/refresh" then
    some
      { key := s!"extension-auth:{method}:{path}"
        maxRequests := 30
        windowMs := extensionAuthRuntimeWindowMs }
  else if path = "/extension/ai/models" then
    some
      { key := s!"extension-runtime:{method}:{path}"
        maxRequests := 30
        windowMs := extensionAuthRuntimeWindowMs }
  else if path = "/extension/usage-events/v2" ∨ jsStartsWith path "/extension/ai/" then
    some
      { key := s!"extension-runtime:{method}:{path}"
        maxRequests := 60
        windowMs := extensionAuthRuntimeWindowMs }
  else
    some
      { key := s!"api:{method}:{path}"
        maxRequests := env.rateLimitMaxRequests
        windowMs := env.rateLimitWindowMs }

/-! ## The guard -/

/-- The path as it is written, up to the query. -/
def requestPath (request : RateLimitedRequest) : String :=
  String.ofList (((request.originalUrl.or request.url).getD "/").toList.takeWhile fun c => c ≠ '?')

def requestMethod (request : RateLimitedRequest) : String := request.method.getD "GET"

/-- The arguments of `rateLimitService.consume`. -/
structure BucketUse where
  key : String
  limit : ℕ
  windowMs : ℕ

/-- `none`: the request is not counted. -/
def bucketUse (env : RateLimitEnv) (request : RateLimitedRequest) : Option BucketUse :=
  if request.method = some "OPTIONS" then none
  else (resolvePolicy env (requestMethod request) (requestPath request)).map fun policy =>
    { key := policy.key ++ ":" ++ resolveIdentity request
      limit := policy.maxRequests
      windowMs := policy.windowMs }

structure RateLimitDecision where
  allowed : Bool
  limit : ℕ
  remaining : ℕ
  retryAfterSeconds : ℕ
  deriving DecidableEq

/-- `canActivate`, with what the service decides: the headers that are set, and whether the
request goes on. -/
def canActivate (env : RateLimitEnv) (consume : BucketUse → RateLimitDecision)
    (request : RateLimitedRequest) : List (String × String) × Except Exception Unit :=
  match bucketUse env request with
  | none => ([], .ok ())
  | some use =>
    let decision := consume use
    let headers := [("X-RateLimit-Limit", toString decision.limit),
      ("X-RateLimit-Remaining", toString decision.remaining)]
    if decision.allowed then (headers, .ok ())
    else (headers ++ [("Retry-After", toString decision.retryAfterSeconds)],
      .error (.tooManyRequests "Too many requests."))

/-! ## Routes -/

inductive Segment where
  | word (text : String)
  | param (name : String)
  deriving DecidableEq

/-- A route of a controller: its method and its path. -/
structure Route where
  method : String
  segments : List Segment
  deriving DecidableEq

/-- The segments of a path; one slash at the end is ignored. -/
def pathSegments (path : String) : Option (List (List Char)) :=
  match path.toList with
  | '/' :: rest =>
    let parts := rest.splitOn '/'
    some (if parts.getLast? = some [] then parts.dropLast else parts)
  | _ => none

/-- The parameters of a path whose words agree up to letter case. -/
def matchSegments (decode : List Char → Option String) :
    List Segment → List (List Char) → Option (List (String × String))
  | [], [] => some []
  | .word text :: segments, part :: parts =>
    if part.map lowerChar = text.toList.map lowerChar then matchSegments decode segments parts
    else none
  | .param name :: segments, part :: parts => do
      if part = [] then none
      else
        let value ← decode part
        let params ← matchSegments decode segments parts
        return (name, value) :: params
  | _, _ => none

/-- The parameters of a request that is routed here; `decode` is `decodeURIComponent`. -/
def Route.params (decode : List Char → Option String) (route : Route)
    (request : RateLimitedRequest) : Option (List (String × String)) :=
  if requestMethod request = route.method then
    (pathSegments (requestPath request)).bind (matchSegments decode route.segments)
  else none

/-- The words of the path are written as the route declares them. -/
def Route.asDeclared (route : Route) (path : String) : Prop :=
  ∃ parts, pathSegments path = some parts ∧
    List.Forall₂ (fun segment part => ∀ text, segment = .word text → part = text.toList)
      route.segments parts

/-- The routes of `AuthController` that the auth limit is for. -/
def authRoutes : List Route :=
  ["register", "login", "refresh", "forgot-password", "reset-password"].map fun name =>
    { method := "POST"
      segments := [.word "auth", .word name] }

/-! ## Buckets -/

section Buckets

variable {env : RateLimitEnv} {r₁ r₂ : RateLimitedRequest}

theorem append_left_cancel {a b c : String} (h : a ++ b = a ++ c) : b = c := by
  simp_all

/-- For one method and one path the bucket is the one of the address. -/
theorem bucketUse_eq_iff (hmethod : r₁.method = r₂.method)
    (hpath : requestPath r₁ = requestPath r₂) :
    bucketUse env r₁ = bucketUse env r₂ ↔
      bucketUse env r₁ = none ∨ resolveIdentity r₁ = resolveIdentity r₂ := by
  have hname : requestMethod r₁ = requestMethod r₂ := by rw [requestMethod, requestMethod, hmethod]
  unfold bucketUse
  rw [hmethod, hname, hpath]
  split
  · exact iff_of_true rfl (.inl rfl)
  cases resolvePolicy env (requestMethod r₂) (requestPath r₂) with
  | none => exact iff_of_true rfl (.inl rfl)
  | some policy => grind [append_left_cancel]

/-- The limit does not depend on the headers. -/
theorem limit_eq (hmethod : r₁.method = r₂.method) (hpath : requestPath r₁ = requestPath r₂) :
    (bucketUse env r₁).map (·.limit) = (bucketUse env r₂).map (·.limit) := by
  have hname : requestMethod r₁ = requestMethod r₂ := by rw [requestMethod, requestMethod, hmethod]
  unfold bucketUse
  rw [hmethod, hname, hpath]
  split
  · rfl
  · rw [Option.map_map, Option.map_map]
    rfl

/-- Both requests come from one peer, with no trusted proxy in between. -/
structure SamePeer (r₁ r₂ : RateLimitedRequest) : Prop where
  direct₁ : r₁.ip = r₁.remoteAddress
  direct₂ : r₂.ip = r₂.remoteAddress
  peer : r₁.remoteAddress = r₂.remoteAddress

theorem SamePeer.identity (h : SamePeer r₁ r₂)
    (hforwarded : resolveForwardedClientIp r₁.headers = resolveForwardedClientIp r₂.headers) :
    resolveIdentity r₁ = resolveIdentity r₂ := by
  unfold resolveIdentity
  rw [hforwarded, h.direct₁, h.direct₂, h.peer]

end Buckets

/-! ## The auth routes -/

theorem forall₂_words {words : List String} {parts : List (List Char)}
    (h : List.Forall₂ (fun segment part => ∀ text, segment = .word text → part = text.toList)
      (words.map Segment.word) parts) : parts = words.map String.toList := by
  induction words generalizing parts with
  | nil =>
    cases h
    rfl
  | cons word words ih =>
    cases h with
    | cons hpart htail => rw [List.map_cons, ← ih htail, hpart word rfl]

/-- A path with the two segments `a` and `b` is `/a/b`, perhaps with a slash at the end. -/
theorem toList_of_two_segments {path : String} {a b : List Char}
    (h : pathSegments path = some [a, b]) :
    ∃ rest, path.toList = '/' :: (a ++ '/' :: (b ++ rest)) := by
  unfold pathSegments at h
  split at h
  · rename_i text hpath
    have hparts := Option.some.inj h
    have hjoin : ['/'].intercalate (text.splitOn '/') = text := List.intercalate_splitOn '/'
    split at hparts
    · rename_i hlast
      -- the empty segment after the last slash
      have hsplit : text.splitOn '/' = [a, b, []] := by
        rw [← List.dropLast_append_getLast? [] hlast, hparts]
        rfl
      rw [hsplit] at hjoin
      rw [hpath, ← hjoin]
      simp
    rw [hparts] at hjoin
    rw [hpath, ← hjoin]
    simp
  · cases h

/-- A path that is written as declared gets the auth limit. -/
theorem resolvePolicy_authRoutes {env : RateLimitEnv} {route : Route} (hroute : route ∈ authRoutes)
    {method path : String} (hpath : route.asDeclared path) :
    resolvePolicy env method path = some
      { key := s!"auth:{method}:{path}"
        maxRequests := env.authRateLimitMaxRequests
        windowMs := env.authRateLimitWindowMs } := by
  obtain ⟨name, hname, rfl⟩ := List.mem_map.mp hroute
  obtain ⟨parts, hparts, hwords⟩ := hpath
  have hsegments : parts = ["auth", name].map String.toList := forall₂_words hwords
  rw [hsegments] at hparts
  obtain ⟨rest, hlist⟩ := toList_of_two_segments hparts
  have hauth : authPrefixes.any (jsStartsWith path) = true := by
    simp only [List.mem_cons, List.not_mem_nil, or_false] at hname
    rcases hname with rfl | rfl | rfl | rfl | rfl <;>
      simp [authPrefixes, jsStartsWith, hlist]
  have hprobe : ¬ (path = "/health" ∨ path = "/ready") := by
    rintro (rfl | rfl)
    all_goals simp [authPrefixes, jsStartsWith] at hauth
  rw [resolvePolicy, if_neg hprobe, if_pos hauth]

/-! ## The main result -/

/-- Two requests of one peer with the same method and spelling of the path have the same limit,
and the same bucket when their forwarding headers name the same address; a request that is
routed to one of the auth routes, and whose path is written as declared, gets the auth limit. -/
theorem same_bucket (env : RateLimitEnv) (decode : List Char → Option String) :
    (∀ r₁ r₂ : RateLimitedRequest, r₁.method = r₂.method → requestPath r₁ = requestPath r₂ →
      SamePeer r₁ r₂ → (bucketUse env r₁).map (·.limit) = (bucketUse env r₂).map (·.limit) ∧
        (resolveForwardedClientIp r₁.headers = resolveForwardedClientIp r₂.headers →
          bucketUse env r₁ = bucketUse env r₂)) ∧
    ∀ route ∈ authRoutes, ∀ r : RateLimitedRequest, (route.params decode r).isSome →
      route.asDeclared (requestPath r) →
        (bucketUse env r).map (fun use => (use.limit, use.windowMs)) =
          some (env.authRateLimitMaxRequests, env.authRateLimitWindowMs) := by
  constructor
  · intro r₁ r₂ hmethod hpath hpeer
    refine ⟨limit_eq hmethod hpath, fun hforwarded => ?_⟩
    exact (bucketUse_eq_iff hmethod hpath).mpr (.inr (hpeer.identity hforwarded))
  intro route hroute r hparams hdeclared
  have hpost : requestMethod r = "POST" := by
    obtain ⟨name, -, rfl⟩ := List.mem_map.mp hroute
    unfold Route.params at hparams
    split at hparams
    · rename_i hmethod
      exact hmethod
    · cases hparams
  have hcounted : ¬ r.method = some "OPTIONS" := by grind [requestMethod]
  unfold bucketUse
  rw [if_neg hcounted, resolvePolicy_authRoutes hroute hdeclared]
  rfl

/-! ## Spellings and headers -/

def limits : RateLimitEnv where
  authRateLimitMaxRequests := 20
  authRateLimitWindowMs := 60000
  rateLimitMaxRequests := 120
  rateLimitWindowMs := 60000

/-- A request that comes straight from one address. -/
def posted (url : String) (headers : Headers) : RateLimitedRequest where
  headers := some headers
  ip := some "203.0.113.9"
  method := some "POST"
  originalUrl := some url
  url := some url
  remoteAddress := some "203.0.113.9"

def loginRoute : Route where
  method := "POST"
  segments := [.word "auth", .word "login"]

theorem same_bucket_login :
    bucketUse limits (posted "/auth/login?next=a" [("user-agent", .text "a")]) =
        bucketUse limits (posted "/auth/login" [("x-forwarded-for", .texts [" ", ","])]) ∧
      (bucketUse limits (posted "/auth/login/" [])).map (fun use => (use.limit, use.windowMs)) =
        some (20, 60000) := by
  have hboth := same_bucket limits fun _ => none
  refine ⟨(hboth.1 _ _ rfl (by decide) ⟨rfl, rfl, rfl⟩).2 (by decide), ?_⟩
  refine hboth.2 loginRoute (by decide) _ (by decide) ⟨["auth".toList, "login".toList], by decide, ?_⟩
  refine .cons ?_ (.cons ?_ .nil)
  all_goals
    rintro text hword
    cases hword
    rfl

/-- Another address in the header is another bucket, and another letter case is another limit,
for requests of one peer to one route. -/
theorem bucket_changed : SamePeer (posted "/auth/login" []) (posted "/Auth/Login" []) ∧
    (loginRoute.params (fun _ => none) (posted "/auth/login" []) = some [] ∧
      loginRoute.params (fun _ => none) (posted "/Auth/Login" []) = some []) ∧
    ((bucketUse limits (posted "/auth/login" [])).map (·.key) =
        some "auth:POST:/auth/login:203.0.113.9" ∧
      (bucketUse limits (posted "/auth/login" [("x-forwarded-for", .text "198.51.100.1")])).map
        (·.key) = some "auth:POST:/auth/login:198.51.100.1") ∧
    ((bucketUse limits (posted "/auth/login" [])).map (·.limit) = some 20 ∧
      (bucketUse limits (posted "/Auth/Login" [])).map (·.limit) = some 120) :=
  ⟨⟨rfl, rfl, rfl⟩, by decide, by decide, by decide⟩

end QuizMind.Security
