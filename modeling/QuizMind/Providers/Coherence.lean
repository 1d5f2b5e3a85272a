import QuizMind.Providers.Writes

/-! # Status, secret and hints of a credential

A rotation, a revocation and a test each write some of the columns, with metadata that are
those of the row that the request has found and a few members of its own: a rotation does not
write `keyHint`, a revocation and a test do not read the secret again. So the columns agree
after every call exactly if no write leaves a secret that ends otherwise than the one the
request has found, and no test is written on a revoked row (`coherent_iff`).
-/

namespace QuizMind.Providers

open Async
open Ai (AiProvider AiProviderPolicyRecord CredentialOwnerType CredentialValidationStatus)
open RemoteConfig (JsString JsonValue js codeUnits)

/-! ## The columns of a row -/

/-- The last four characters of the secret in a column. -/
def ending (env : CredentialEnv) (value : Json) : Option JsString :=
  match decryptCredential env value with
  | .ok secret => some (lastFour (js secret))
  | .error _ => none

/-- A member of the metadata is a text that ends so. -/
def Shows (metadata : Metadata) (key : String) (last : JsString) : Prop :=
  ∃ text, metadata.lookup key = some (.string text) ∧ last <:+ text

structure Coherent (env : CredentialEnv) (record : ProviderCredentialRecord) : Prop where
  revoked : record.revokedAt.isSome ↔ record.validationStatus = .revoked
  hints : ∃ last, ending env record.encryptedSecretJson = some last ∧
    Shows (readJsonObject record.metadataJson) "keyHint" last ∧
    Shows (readJsonObject record.metadataJson) "secretPreview" last

/-- The column holds a secret that a handler has accepted. -/
def Accepted (env : CredentialEnv) (value : Json) : Prop :=
  ∃ secret, decryptCredential env value = .ok secret ∧ jsTrim secret = secret ∧
    12 ≤ (js secret).length

structure Sound (env : CredentialEnv) (record : ProviderCredentialRecord) : Prop where
  accepted : Accepted env record.encryptedSecretJson
  coherent : Coherent env record

/-! ## Texts -/

theorem js_length (s : String) : (js s).length = jsLength s := by
  have hfold : ∀ (l : List Char) (n : ℕ), n + (l.flatMap codeUnits).length =
        l.foldl (fun n c => n + if 0x10000 ≤ c.toNat then 2 else 1) n := by
    intro l
    induction l with
    | nil => simp
    | cons c l ih =>
      intro n
      have hunits : (codeUnits c).length = if 0x10000 ≤ c.toNat then 2 else 1 := by
        unfold codeUnits
        split
        · rw [if_neg (by omega)]
          rfl
        · rw [if_pos (by omega)]
          rfl
      rw [List.flatMap_cons, List.length_append, List.foldl_cons, ← ih]
      omega
  have hzero := hfold s.toList 0
  rw [Nat.zero_add] at hzero
  exact hzero

theorem lastFour_length {text : JsString} (h : 4 ≤ text.length) : (lastFour text).length = 4 := by
  rw [lastFour, List.length_drop]
  omega

/-- Two ends of the same length of one text are equal. -/
theorem Shows.unique {metadata : Metadata} {key : String} {last last' : JsString}
    (h : Shows metadata key last) (h' : Shows metadata key last')
    (hlen : last.length = last'.length) : last = last' := by
  rcases h with ⟨text, htext, hsuffix⟩
  rcases h' with ⟨text', htext', hsuffix'⟩
  rw [htext] at htext'
  obtain rfl : text = text' := by simpa using htext'
  have hle := List.suffix_of_suffix_length_le hsuffix hsuffix' (le_of_eq hlen)
  exact hle.eq_of_length hlen

/-- A secret is rejected with a reason, or accepted as it is without the space around it. -/
theorem validateProviderSecretShape_cases (provider : AiProvider) (text : String) :
    (∃ reason, validateProviderSecretShape provider text = invalidSecret reason) ∨
      12 ≤ jsLength (jsTrim text) ∧ ∃ reason,
        validateProviderSecretShape provider text = ⟨true, some (jsTrim text), some reason⟩ := by
  simp only [validateProviderSecretShape]
  split_ifs
  all_goals first
    | exact .inl ⟨_, rfl⟩
    | exact .inr ⟨by omega, _, rfl⟩

theorem accepted_ok {provider : AiProvider} {text secret : String}
    (h : (validateProviderSecretShape provider text).accepted = .ok secret) :
    secret = jsTrim text ∧ 12 ≤ (js secret).length := by
  rcases validateProviderSecretShape_cases provider text with ⟨reason, hreason⟩ |
    ⟨hlen, reason, hreason⟩
  · rw [hreason] at h
    cases h
  rw [hreason] at h
  have hsecret : jsTrim text = secret := by
    unfold ProviderSecretValidationResult.accepted at h
    split at h
    · rename_i hsome
      obtain rfl := Except.ok.inj h
      exact Option.some.inj (Option.eq_some_of_filter_eq_some hsome)
    · cases h
  rw [← hsecret, js_length]
  exact ⟨rfl, hlen⟩

/-! ## What a write makes of a row -/

section Rows

variable {env : CredentialEnv} {context : ManageRequest} {secret : String}

theorem Accepted.ending {value : Json} (h : Accepted env value) :
    ∃ last, ending env value = some last ∧ last.length = 4 := by
  rcases h with ⟨secret, hdecrypt, -, hlen⟩
  refine ⟨lastFour (js secret), by simp [Providers.ending, hdecrypt], lastFour_length ?_⟩
  omega

theorem ending_encrypted (env : CredentialEnv) (iv secret : String) :
    ending env (encryptedSecretJson env iv secret) = some (lastFour (js secret)) := by
  simp [ending]

theorem accepted_encrypted (iv : String) (htrim : jsTrim secret = secret)
    (hlen : 12 ≤ (js secret).length) : Accepted env (encryptedSecretJson env iv secret) :=
  ⟨secret, decryptCredential_encrypted env iv secret, htrim, hlen⟩

theorem ne_empty_of_length (hlen : 12 ≤ (js secret).length) : secret ≠ "" := by
  rintro rfl
  have hzero : (js "").length = 0 := by decide
  omega

theorem readKeyHint_accepted (htrim : jsTrim secret = secret) (hlen : 12 ≤ (js secret).length) :
    readKeyHintFromSecret secret = some (lastFour (js secret)) := by
  simp [readKeyHintFromSecret, htrim, ne_empty_of_length hlen]

theorem redactSecretValue_suffix (hlen : 12 ≤ (js secret).length) :
    lastFour (js secret) <:+ redactSecretValue secret := by
  grind [redactSecretValue, ne_empty_of_length]

variable {last : JsString}

/-- With hints that end in `last₀`, the secret has to end so as well. -/
theorem hints_iff {value : Json} {metadata : Metadata} {last₀ : JsString}
    (hval : ending env value = some last) (hlen : last.length = last₀.length)
    (hkeyHint : Shows metadata "keyHint" last₀)
    (hpreview : last = last₀ → Shows metadata "secretPreview" last) :
    (∃ last, ending env value = some last ∧ Shows metadata "keyHint" last ∧
      Shows metadata "secretPreview" last) ↔ ending env value = some last₀ := by
  rw [hval]
  constructor
  · rintro ⟨last', hlast', hkey', -⟩
    obtain rfl := Option.some.inj hlast'
    rw [hkey'.unique hkeyHint hlen]
  · grind

variable {key : String}

/-- Members that the patch does not give are those of the base. -/
theorem Shows.spread {base patch : Metadata} (h : Shows base key last)
    (hpatch : patch.lookup key = none) : Shows (spread base patch) key last := by
  rcases h with ⟨text, htext, hsuffix⟩
  exact ⟨text, by rw [lookup_spread, hpatch, htext]; rfl, hsuffix⟩

theorem shows_spread_of_patch {base patch : Metadata} {text : JsString}
    (hpatch : patch.lookup key = some (.string text)) (hsuffix : last <:+ text) :
    Shows (spread base patch) key last :=
  ⟨text, by rw [lookup_spread, hpatch]; rfl, hsuffix⟩

theorem lookup_textMember? {key' : String} (hne : key ≠ key') (text : Option String) :
    (textMember? key' text).lookup key = none := by
  have hbeq : (key == key') = false := by simpa using hne
  cases text <;> simp [textMember?, textMember, List.lookup_cons, hbeq]

/-- A new row. -/
theorem created_sound {request : ProviderCredentialCreateRequest} {provider : AiProvider}
    {ownerType : CredentialOwnerType} {message : Option String} (htrim : jsTrim secret = secret)
    (hlen : 12 ≤ (js secret).length) :
    Sound env (createInput env context request provider ownerType secret message).row := by
  refine ⟨accepted_encrypted context.iv htrim hlen, ⟨?_, ?_⟩⟩
  · constructor
    all_goals
      intro h
      cases h
  refine ⟨_, ending_encrypted env context.iv secret, ?_, ?_⟩
  · refine ⟨lastFour (js secret), ?_, List.suffix_rfl⟩
    simp [readJsonObject, createInput, CreateProviderCredentialInput.row, lookup_spread,
      List.lookup_append, lookup_textMember?, List.lookup_cons, textMember,
      readKeyHint_accepted htrim hlen]
  · refine shows_spread_of_patch ?_ (redactSecretValue_suffix hlen)
    simp

variable {found row : ProviderCredentialRecord}

/-- A rotation leaves the key hint as it was found. -/
theorem rotated_coherent_iff {request : ProviderCredentialRotateRequest} {message : Option String}
    (hfound : Sound env found) (hlen : 12 ≤ (js secret).length) :
    Coherent env ((rotateInput env context request found secret message).apply row) ↔
      ending env (encryptedSecretJson env context.iv secret) =
        ending env found.encryptedSecretJson := by
  obtain ⟨last₀, hlast₀, hkeyHint, -⟩ := hfound.coherent.hints
  obtain ⟨last₀', hlast₀', hlength₀⟩ := hfound.accepted.ending
  obtain rfl : last₀ = last₀' := Option.some.inj (hlast₀.symm.trans hlast₀')
  rw [hlast₀]
  have hfour : (lastFour (js secret)).length = last₀.length := by
    rw [hlength₀]
    exact lastFour_length (by omega)
  have hkept : Shows (rotateInput env context request found secret message).metadataJson "keyHint"
      last₀ := by
    refine hkeyHint.spread ?_
    simp [List.lookup_append, lookup_textMember?, List.lookup_cons, textMember]
  refine Iff.trans ?_ (hints_iff (ending_encrypted env context.iv secret) hfour hkept ?_)
  · -- the status is valid, and the row is not revoked
    refine ⟨fun h => h.hints, fun h => ⟨?_, h⟩⟩
    constructor <;>
      · intro hrev
        cases hrev
  intro _
  refine shows_spread_of_patch ?_ (redactSecretValue_suffix hlen)
  simp

/-- A revocation leaves both hints as they were found. -/
theorem revoked_coherent_iff {request : ProviderCredentialRevokeRequest}
    (hfound : Sound env found) (hrow : Accepted env row.encryptedSecretJson) :
    Coherent env ((revokeInput env context request found).apply row) ↔
      ending env row.encryptedSecretJson = ending env found.encryptedSecretJson := by
  obtain ⟨last₀, hlast₀, hkeyHint, hpreview⟩ := hfound.coherent.hints
  obtain ⟨last₀', hlast₀', hlength₀⟩ := hfound.accepted.ending
  obtain rfl : last₀ = last₀' := Option.some.inj (hlast₀.symm.trans hlast₀')
  obtain ⟨last, hlast, hlen⟩ := hrow.ending
  rw [hlast₀]
  have hkept : Shows (revokeInput env context request found).metadataJson "keyHint" last₀ := by
    refine hkeyHint.spread ?_
    simp [textMember]
  refine Iff.trans ?_ (hints_iff hlast (hlen.trans hlength₀.symm) hkept ?_)
  · exact ⟨fun h => h.hints, fun h => ⟨⟨fun _ => rfl, fun _ => rfl⟩, h⟩⟩
  rintro rfl
  refine hpreview.spread ?_
  simp [textMember]

/-- A test writes the key hint of the secret that was found, and never takes a revocation
back. -/
theorem validated_coherent_iff {provider : AiProvider} (hfound : Sound env found)
    (hrow : Accepted env row.encryptedSecretJson)
    (hsecret : decryptCredential env found.encryptedSecretJson = .ok secret) :
    Coherent env ((validateInput env context found secret
        (validateProviderSecretShape provider secret)).apply row) ↔
      ending env row.encryptedSecretJson = ending env found.encryptedSecretJson ∧
        row.revokedAt = none := by
  obtain ⟨last₀, hlast₀, -, hpreview⟩ := hfound.coherent.hints
  obtain ⟨secret', hsecret', htrim, hsecretLength⟩ := hfound.accepted
  obtain rfl : secret = secret' := Except.ok.inj (hsecret.symm.trans hsecret')
  obtain rfl : lastFour (js secret) = last₀ := by
    simpa [ending, hsecret] using hlast₀
  obtain ⟨last, hlast, hlen⟩ := hrow.ending
  rw [hlast₀]
  have hnorm : (validateProviderSecretShape provider secret).normalizedSecret.getD secret =
      secret := by
    rcases validateProviderSecretShape_cases provider secret with ⟨reason, hreason⟩ |
      ⟨-, reason, hreason⟩
    · rw [hreason]
      rfl
    · rw [hreason]
      exact htrim
  have hfour : last.length = (lastFour (js secret)).length := by
    rw [hlen, lastFour_length (by omega)]
  have hkeyHint : Shows (validateInput env context found secret
      (validateProviderSecretShape provider secret)).metadataJson "keyHint"
        (lastFour (js secret)) := by
    refine ⟨lastFour (js secret), ?_, List.suffix_rfl⟩
    simp [validateInput, lookup_spread, List.lookup_cons, textMember, hnorm,
      readKeyHint_accepted htrim hsecretLength]
  have hstat : (validateInput env context found secret
      (validateProviderSecretShape provider secret)).validationStatus ≠ .revoked := by
    simp only [validateInput]
    split <;> simp
  rw [← hints_iff hlast hfour hkeyHint fun hsame => by
    rw [hsame]
    exact hpreview.spread (by simp [textMember])]
  constructor
  · intro h
    refine ⟨h.hints, ?_⟩
    cases hrev : row.revokedAt with
    | none => rfl
    | some revokedAt =>
      exact absurd (h.revoked.mp (by
        show row.revokedAt.isSome = true
        rw [hrev]
        rfl)) hstat
  rintro ⟨hhints, hnone⟩
  refine ⟨⟨fun hsome => ?_, fun h => absurd h hstat⟩, hhints⟩
  have hrow' : row.revokedAt.isSome = true := hsome
  rw [hnone] at hrow'
  cases hrow'

end Rows

end QuizMind.Providers
