import QuizMind.Extension.ScenarioRuns

/-! # The limit of active scenarios

A user is to have at most 50 active scenarios. A request that makes a new scenario counts the
active ones; a request that saves a deleted scenario makes it active again, uncounted. The limit
holds in exactly the runs in which such requests find room (`limit_iff`).
-/

namespace QuizMind.Scenarios

open Ai (JsValue Payload)
open Async.Serial
open Table

/-! ## Counting the active scenarios -/

section Count

variable {rows : List ScenarioRow} {userId : String}

theorem isActive_toCreateData (other : String) (scenario : ScenarioConfig) :
    (toCreateData other scenario).isActive userId = true ↔ other = userId := by
  rw [isActive_iff]
  exact and_iff_left rfl

theorem not_isActive_of_user {row : ScenarioRow} (h : row.userId ≠ userId) :
    row.isActive userId = false := by
  rw [← Bool.not_eq_true, isActive_iff]
  exact fun hact => h hact.1

/-- What is saved is active. -/
theorem activeKeys_save (scenario : ScenarioConfig) :
    activeKeys (save userId scenario rows) userId =
      insert (userId, scenario.id) (activeKeys rows userId) :=
  keysWhere_put ((isActive_toCreateData userId scenario).mpr rfl)

theorem activeKeys_save_of_ne {other : String} (h : other ≠ userId) (scenario : ScenarioConfig) :
    activeKeys (save other scenario rows) userId = activeKeys rows userId := by
  refine keysWhere_put_of_neg (not_isActive_of_user h) ?_
  intro row _ hkey
  refine not_isActive_of_user ?_
  rw [(Prod.mk.inj hkey).1]
  exact h

theorem activeKeys_delete (ctx : RequestContext) (scenarioId : Text) :
    activeKeys (changeAt ScenarioRow.key rows (ctx.userId, scenarioId)
        (markDeleted (ctx.clock 0))) userId ⊆ activeKeys rows userId := by
  intro k hk
  obtain ⟨row, hrow, hact, hkey⟩ := mem_keysWhere.mp hk
  rcases mem_changeAt.mp hrow with ⟨old, _, _, rfl⟩ | ⟨hmem, _⟩
  · cases (isActive_iff.mp hact).2
  · exact mem_keysWhere.mpr ⟨row, hmem, hact, hkey⟩

theorem active_of_mem_activeKeys {scenarioId : Text} {row : ScenarioRow}
    (huniq : Unique rows) (h : (userId, scenarioId) ∈ activeKeys rows userId)
    (hrow : findAnyByUserAndScenarioId rows userId scenarioId = some row) :
    row.deletedAt = none := by
  obtain ⟨active, hmem, hact, hkey⟩ := mem_keysWhere.mp h
  obtain ⟨hrow, hfound⟩ := findAny_some hrow
  have hsame : row = active := huniq.eq_of_key hrow hmem (hfound.trans hkey.symm)
  rw [hsame]
  exact (isActive_iff.mp hact).2

theorem toJson_id {scenario scenario' : ScenarioConfig} (h : scenario.toJson = scenario'.toJson) :
    scenario.id = scenario'.id := by
  have hmembers := JsValue.object.inj h
  have hhead := (List.cons.inj hmembers).1
  exact JsValue.string.inj (Prod.mk.inj hhead).2

/-- There is room for the scenarios that the request makes active again. -/
def RoomToRevive (rows : List ScenarioRow) (userId : String) (wanted : Text → Prop) : Prop :=
  ∀ id, wanted id → IsDeleted rows userId id → countActiveByUserId rows userId < maxScenarios

/-- A request that saves one scenario keeps the limit exactly where there is room. -/
theorem savesOne_limit_iff {wanted : Text → Prop}
    {result : Except Exception (JsValue × List ScenarioRow)} (huniq : Unique rows)
    (hsaves : SavesOne rows userId wanted result) (hrevives : Revives rows userId wanted result)
    (hle : countActiveByUserId rows userId ≤ maxScenarios) :
    countActiveByUserId (rowsAfter rows result) userId ≤ maxScenarios ↔
      RoomToRevive rows userId wanted := by
  cases hsaves with
  | fails e =>
    refine iff_of_true hle ?_
    intro id hwanted hdel
    obtain ⟨_, _, _, hres⟩ := hrevives id hwanted hdel
    cases hres
  | saves scenario _ hnew hdel =>
    -- whatever the request revives is the scenario that it saves
    have hid : ∀ id, wanted id → IsDeleted rows userId id → scenario.id = id := by
      intro id hwanted hdeletedId
      obtain ⟨scenario', _, rfl, hres⟩ := hrevives id hwanted hdeletedId
      exact toJson_id (Prod.mk.inj (Except.ok.inj hres)).1
    have hsaved : Unique (save userId scenario rows) := huniq.put
    rw [← huniq.card_activeKeys userId] at hle hnew
    unfold RoomToRevive
    rw [← huniq.card_activeKeys userId]
    show countActiveByUserId (save userId scenario rows) userId ≤ maxScenarios ↔ _
    rw [← hsaved.card_activeKeys userId, activeKeys_save]
    by_cases hact : (userId, scenario.id) ∈ activeKeys rows userId
    · rw [Finset.insert_eq_self.mpr hact]
      refine iff_of_true hle ?_
      intro id hwanted hdeletedId
      obtain ⟨row, hrow, hdelAt⟩ := hid id hwanted hdeletedId ▸ hdeletedId
      rw [active_of_mem_activeKeys huniq hact hrow] at hdelAt
      cases hdelAt
    rw [Finset.card_insert_of_notMem hact]
    rcases hrow : findAnyByUserAndScenarioId rows userId scenario.id with _ | row
    · grind
    have hdelAt : row.deletedAt.isSome := by
      rw [Option.isSome_iff_ne_none]
      intro hnone
      obtain ⟨hmem, hkey⟩ := findAny_some hrow
      have huser : row.userId = userId := (Prod.mk.inj hkey).1
      exact hact (mem_keysWhere.mpr ⟨row, hmem, isActive_iff.mpr ⟨huser, hnone⟩, hkey⟩)
    constructor
    · omega
    intro hroom
    have hless := hroom scenario.id (hdel ⟨row, hrow, hdelAt⟩) ⟨row, hrow, hdelAt⟩
    omega

end Count

/-! ## Bulk requests -/

section Bulk

variable {ctx : RequestContext} {rows : List ScenarioRow} {scenarios : List ScenarioConfig}

/-- The keys of the scenarios of a request. -/
def namedKeys (userId : String) (scenarios : List ScenarioConfig) : Finset (String × Text) :=
  ((savedRows userId scenarios).map ScenarioRow.key).toFinset

theorem card_namedKeys (userId : String) (hnodup : (scenarioIds scenarios).Nodup) :
    (namedKeys userId scenarios).card = scenarios.length := by
  unfold namedKeys
  rw [List.toFinset_card_of_nodup (nodup_key_savedRows userId hnodup), List.length_map]
  exact List.length_map _

theorem mem_namedKeys {userId : String} {k : String × Text} :
    k ∈ namedKeys userId scenarios ↔ k.1 = userId ∧ k.2 ∈ scenarioIds scenarios := by
  unfold namedKeys
  rw [List.mem_toFinset, key_savedRows, List.mem_map]
  constructor
  · rintro ⟨id, hid, rfl⟩
    exact ⟨rfl, hid⟩
  · rintro ⟨rfl, hid⟩
    exact ⟨k.2, hid, rfl⟩

theorem isActive_savedRows (userId : String) :
    ∀ row ∈ savedRows userId scenarios, row.isActive userId = true := by
  intro row hrow
  rcases List.mem_map.mp hrow with ⟨scenario, _, rfl⟩
  exact (isActive_toCreateData userId scenario).mpr rfl

theorem activeKeys_putAll (userId : String) :
    activeKeys (putAll ScenarioRow.key rows (savedRows userId scenarios)) userId =
      namedKeys userId scenarios ∪ activeKeys rows userId :=
  keysWhere_putAll (isActive_savedRows userId)

variable {raw : Payload}

theorem activeKeys_merge (h : isReplace raw = false) :
    activeKeys (bulkRows ctx raw scenarios rows) ctx.userId =
      namedKeys ctx.userId scenarios ∪ activeKeys rows ctx.userId := by
  unfold bulkRows
  rw [h]
  exact activeKeys_putAll ctx.userId

/-- With the mode `replace`, whatever is active and not named is deleted. -/
theorem activeKeys_replace (h : isReplace raw = true) :
    activeKeys (bulkRows ctx raw scenarios rows) ctx.userId = namedKeys ctx.userId scenarios := by
  have hdel : ∀ row : ScenarioRow, (markDeleted (ctx.clock 0) row).key = row.key ∧
      (markDeleted (ctx.clock 0) row).isActive ctx.userId = false := by
    intro row
    exact ⟨rfl, Bool.and_false _⟩
  unfold bulkRows
  rw [h]
  refine (keysWhere_changeAll hdel).trans ?_
  rw [show keysWhere ScenarioRow.key (fun row => row.isActive ctx.userId)
    (putAll ScenarioRow.key rows (savedRows ctx.userId scenarios)) = _ from
      activeKeys_putAll ctx.userId]
  ext k
  rw [Finset.mem_sdiff, Finset.mem_union, List.mem_toFinset, List.mem_map]
  constructor
  · rintro ⟨hnamed | hact, hkept⟩
    · exact hnamed
    · obtain ⟨row, hrow, hrowActive, rfl⟩ := mem_keysWhere.mp hact
      have huser : row.userId = ctx.userId := (isActive_iff.mp hrowActive).1
      refine mem_namedKeys.mpr ⟨huser, ?_⟩
      by_contra hunseen
      refine hkept ⟨row, List.mem_filter.mpr ⟨hrow, ?_⟩, ?_⟩
      · exact Bool.and_eq_true_iff.mpr ⟨hrowActive, decide_eq_true hunseen⟩
      · unfold ScenarioRow.key
        rw [huser]
  intro hnamed
  refine ⟨Or.inl hnamed, ?_⟩
  rintro ⟨row, hrow, rfl⟩
  have hunseen := (Bool.and_eq_true_iff.mp (List.mem_filter.mp hrow).2).2
  exact of_decide_eq_true hunseen (mem_namedKeys.mp hnamed).2

/-- The rows of the request are as they have been saved. -/
theorem mem_replace_iff (h : isReplace raw = true)
    (hnodup : (scenarioIds scenarios).Nodup) (hunique' : Unique (bulkRows ctx raw scenarios rows))
    {row : ScenarioRow} :
    row ∈ bulkRows ctx raw scenarios rows ∧ row.isActive ctx.userId = true ↔
      row ∈ savedRows ctx.userId scenarios := by
  have hkeys : activeKeys (bulkRows ctx raw scenarios rows) ctx.userId = _ :=
    activeKeys_replace h
  have hkept : ∀ saved ∈ savedRows ctx.userId scenarios,
      saved ∈ bulkRows ctx raw scenarios rows := by
    intro saved hsaved
    have hstays : saved.key ∉ (unnamed ctx.userId scenarios rows).map fun row =>
        (ctx.userId, row.scenarioId) := by
      intro hdel
      rcases List.mem_map.mp hdel with ⟨row, hrow, hkey⟩
      rcases List.mem_map.mp hsaved with ⟨scenario, hscen, rfl⟩
      have hunseen := (Bool.and_eq_true_iff.mp (List.mem_filter.mp hrow).2).2
      have hid : row.scenarioId = scenario.id := (Prod.mk.inj hkey).2
      exact of_decide_eq_true hunseen (hid ▸ List.mem_map_of_mem hscen)
    have hkey : ∀ row : ScenarioRow, (markDeleted (ctx.clock 0) row).key = row.key :=
      fun _ => rfl
    unfold bulkRows
    rw [if_pos h]
    refine (mem_changeAll_of_not_mem hkey hstays).mpr ?_
    exact (mem_putAll (nodup_key_savedRows ctx.userId hnodup)).mpr (Or.inl hsaved)
  constructor
  · rintro ⟨hrow, hact⟩
    have hnamed : row.key ∈ namedKeys ctx.userId scenarios := by
      rw [← hkeys]
      exact mem_keysWhere.mpr ⟨row, hrow, hact, rfl⟩
    rcases List.mem_map.mp (List.mem_toFinset.mp hnamed) with ⟨saved, hsaved, hkey⟩
    rw [← hunique'.eq_of_key (hkept saved hsaved) hrow hkey]
    exact hsaved
  · intro hsaved
    exact ⟨hkept row hsaved, isActive_savedRows ctx.userId row hsaved⟩

end Bulk

/-- A request of another user leaves the active scenarios as they are. -/
theorem RowChange.activeKeys_of_ne {ctx : RequestContext} {rows rows' : List ScenarioRow}
    {userId : String} (h : RowChange ctx rows rows') (hne : ctx.userId ≠ userId) :
    activeKeys rows' userId = activeKeys rows userId := by
  have hother : ∀ {k : String × Text}, k ∈ activeKeys rows userId → k.1 ≠ ctx.userId := by
    intro k hk huser
    obtain ⟨row, _, hact, rfl⟩ := mem_keysWhere.mp hk
    exact hne (huser.symm.trans (isActive_iff.mp hact).1)
  have hsaved : ∀ scenarios, ∀ row ∈ savedRows ctx.userId scenarios,
      row.isActive userId = false := by
    intro scenarios row hrow
    rcases List.mem_map.mp hrow with ⟨scenario, _, rfl⟩
    exact not_isActive_of_user hne
  have hputAll : ∀ scenarios, activeKeys (putAll ScenarioRow.key rows
      (savedRows ctx.userId scenarios)) userId = activeKeys rows userId := by
    intro scenarios
    refine keysWhere_putAll_of_neg (hsaved scenarios) ?_
    intro row _ hkey
    rw [key_savedRows] at hkey
    rcases List.mem_map.mp hkey with ⟨id, _, hid⟩
    refine not_isActive_of_user ?_
    rw [← (Prod.mk.inj hid).1]
    exact hne
  have hdel : ∀ row : ScenarioRow, (markDeleted (ctx.clock 0) row).key = row.key ∧
      (markDeleted (ctx.clock 0) row).isActive userId = false := by
    intro row
    exact ⟨rfl, Bool.and_false _⟩
  cases h with
  | same => rfl
  | saved scenario => exact activeKeys_save_of_ne hne scenario
  | deleted scenarioId =>
    refine (keysWhere_changeAt_of_neg fun row hrow =>
      ⟨(hdel row).1.trans hrow, (hdel row).2⟩).trans ?_
    exact Finset.erase_eq_of_notMem fun hk => hother hk rfl
  | bulk raw scenarios _ _ =>
    unfold bulkRows
    split
    · refine (keysWhere_changeAll hdel).trans ?_
      rw [show keysWhere ScenarioRow.key (fun row => row.isActive userId)
        (putAll ScenarioRow.key rows (savedRows ctx.userId scenarios)) = _ from hputAll scenarios]
      refine Finset.sdiff_eq_self_of_disjoint (Finset.disjoint_left.mpr ?_)
      intro k hk hdeletedKey
      rcases List.mem_map.mp (List.mem_toFinset.mp hdeletedKey) with ⟨row, _, rfl⟩
      exact hother hk rfl
    · exact hputAll scenarios

/-! ## Runs -/

section Runs

variable (env : PresetEnv) (userId : String)

/-- A create or a put of a deleted scenario finds fewer than 50 active ones, and the scenarios
of a bulk request with mode `merge` are, with the active ones, at most 50. -/
def HasRoom (s : ScenarioStore) (sent : Sent) : Prop :=
  sent.1.userId = userId → match sent.2 with
    | .create rawScenario =>
      RoomToRevive s.scenarios userId (createdId env.toScenarioEnv sent.1 rawScenario)
    | .put scenarioId rawScenario =>
      RoomToRevive s.scenarios userId (putId env.toScenarioEnv sent.1 scenarioId rawScenario)
    | .bulk body => ∀ raw scenarios, asObj body "body" = .ok raw →
        normalizeItems env.toScenarioEnv sent.1 s.scenarios (bulkItems raw) 0 [] = .ok scenarios →
        isReplace raw = false → activeAfter sent.1 raw scenarios s.scenarios ≤ maxScenarios →
        (namedKeys userId scenarios ∪ activeKeys s.scenarios userId).card ≤ maxScenarios
    | _ => True

/-- After a bulk request with mode `replace` the active scenarios are those of the request. -/
def ReplacesExactly (s : ScenarioStore) (sent : Sent) : Prop :=
  ∀ body raw reply rows, sent.2 = .bulk body → asObj body "body" = .ok raw → isReplace raw = true →
    bulk env.toScenarioEnv sent.1 body s.scenarios = .ok (reply, rows) →
    ∃ scenarios, normalizeItems env.toScenarioEnv sent.1 s.scenarios (bulkItems raw) 0 [] =
        .ok scenarios ∧
      (rows.filter fun row => row.isActive sent.1.userId).Perm (savedRows sent.1.userId scenarios)

variable {env userId} {s : ScenarioStore}

variable {rows : List ScenarioRow}

theorem bulk_limit_iff {ctx : RequestContext} (huniq : Unique rows)
    (hle : countActiveByUserId rows ctx.userId ≤ maxScenarios) (body : Option JsValue) :
    countActiveByUserId (rowsAfter rows (bulk env.toScenarioEnv ctx body rows)) ctx.userId ≤
        maxScenarios ↔
      ∀ raw scenarios, asObj body "body" = .ok raw →
        normalizeItems env.toScenarioEnv ctx rows (bulkItems raw) 0 [] = .ok scenarios →
        isReplace raw = false → activeAfter ctx raw scenarios rows ≤ maxScenarios →
        (namedKeys ctx.userId scenarios ∪ activeKeys rows ctx.userId).card ≤ maxScenarios := by
  have hcases : (∃ e, bulk env.toScenarioEnv ctx body rows = .error e) ∨ _ := bulk_cases body
  rcases hcases with ⟨e, hfails⟩ | ⟨raw, scenarios, hraw, hscens, hroom⟩
  · rw [hfails]
    refine iff_of_true hle ?_
    intro raw scenarios hraw hscens _ hroom
    rw [bulk_eq hraw hscens hroom] at hfails
    cases hfails
  rw [bulk_eq hraw hscens hroom]
  obtain ⟨hnodup, -⟩ := normalizeItems_ids hscens
  have huniq' : Unique (bulkRows ctx raw scenarios rows) :=
    (RowChange.bulk raw scenarios hnodup (normalizeItems_normal hscens)).unique huniq
  show countActiveByUserId (bulkRows ctx raw scenarios rows) ctx.userId ≤ maxScenarios ↔ _
  rw [← huniq'.card_activeKeys]
  cases hreplace : isReplace raw with
  | true => grind [activeAfter, activeKeys_replace, card_namedKeys]
  | false => grind [activeKeys_merge]

theorem revives_false {result : Except Exception (JsValue × List ScenarioRow)} :
    Revives rows userId (fun _ => False) result := by
  intro id hwanted
  exact hwanted.elim

/-- One request keeps the limit exactly where it has room. -/
theorem step_limit_iff (sent : Sent) (huniq : Unique s.scenarios)
    (hle : countActiveByUserId s.scenarios userId ≤ maxScenarios) :
    countActiveByUserId (stepScenario env s sent).scenarios userId ≤ maxScenarios ↔
      HasRoom env userId s sent := by
  obtain ⟨ctx, request⟩ := sent
  have hchange := step_rowChange env s ctx request
  by_cases huser : ctx.userId = userId
  · subst huser
    unfold HasRoom
    simp only [true_imp_iff]
    cases request with
    | create rawScenario => grind [step_create, savesOne_limit_iff, create_savesOne, create_revives]
    | put scenarioId rawScenario => grind [step_put, savesOne_limit_iff, put_savesOne, put_revives]
    | patch scenarioId changes =>
      rw [step_patch]
      refine (savesOne_limit_iff huniq (patch_savesOne _ _ _ _) revives_false hle).trans ?_
      exact iff_of_true (fun _ hwanted => hwanted.elim) trivial
    | remove scenarioId =>
      refine iff_of_true ?_ trivial
      rcases step_remove env s ctx scenarioId with h | h
      · rw [h]
        exact hle
      have huniq' := hchange.unique huniq
      rw [← huniq'.card_activeKeys, h]
      rw [← huniq.card_activeKeys] at hle
      exact (Finset.card_le_card (activeKeys_delete ctx scenarioId)).trans hle
    | bulk body =>
      rw [step_bulk]
      exact bulk_limit_iff huniq hle body
    | createFromScenario scenarioId raw => grind [step_createFromScenario]
    | updateMetadata slug raw => grind [step_updateMetadata]
    | install slug =>
      refine iff_of_true ?_ trivial
      rcases step_install env s ctx slug with h | ⟨scenario, -, h, hroom, hnew⟩
      · rw [h]
        exact hle
      have huniq' := hchange.unique huniq
      rw [← huniq'.card_activeKeys, h, activeKeys_save]
      rw [← huniq.card_activeKeys] at hroom
      exact (Finset.card_insert_le _ _).trans hroom
    | disable slug =>
      rw [step_disable]
      exact iff_of_true hle trivial
  · refine iff_of_true ?_ fun hsame => absurd hsame huser
    have huniq' := hchange.unique huniq
    rw [← huniq'.card_activeKeys, hchange.activeKeys_of_ne huser, huniq.card_activeKeys]
    exact hle

theorem step_replacesExactly (sent : Sent) (huniq : Unique s.scenarios) :
    ReplacesExactly env s sent := by
  intro body raw reply rows _ hraw hreplace hbulk
  have hcases : (∃ e, bulk env.toScenarioEnv sent.1 body s.scenarios = .error e) ∨ _ :=
    bulk_cases body
  rcases hcases with ⟨e, hfails⟩ | ⟨raw', scenarios, hraw', hscens, hroom⟩
  · rw [hfails] at hbulk
    cases hbulk
  rw [hraw] at hraw'
  cases hraw'
  rw [bulk_eq hraw hscens hroom] at hbulk
  cases hbulk
  obtain ⟨hnodup, -⟩ := normalizeItems_ids hscens
  have huniq' : Unique (bulkRows sent.1 raw scenarios s.scenarios) :=
    (RowChange.bulk raw scenarios hnodup (normalizeItems_normal hscens)).unique huniq
  refine ⟨scenarios, hscens, ?_⟩
  -- both are lists without repetition, and they have the same rows
  refine (List.perm_ext_iff_of_nodup ((List.Nodup.of_map _ huniq').filter _)
    (List.Nodup.of_map _ (nodup_key_savedRows sent.1.userId hnodup))).mpr ?_
  intro row
  rw [List.mem_filter]
  exact mem_replace_iff hreplace hnodup huniq'

/-- From no scenarios on, a user has at most 50 active ones in every state, and every bulk
request with mode `replace` leaves those that it names, exactly where every request that makes
deleted scenarios active again has room for them. -/
theorem limit_iff (env : PresetEnv) (userId : String) (presets : List PresetRow)
    (sents : List Sent) :
    ((∀ s ∈ states (stepScenario env) ⟨[], presets⟩ sents,
        countActiveByUserId s.scenarios userId ≤ maxScenarios) ∧
      AllSteps (stepScenario env) (ReplacesExactly env) ⟨[], presets⟩ sents) ↔
    AllSteps (stepScenario env) (HasRoom env userId) ⟨[], presets⟩ sents := by
  have hempty : Unique (⟨[], presets⟩ : ScenarioStore).scenarios := List.nodup_nil
  have hkeep : ∀ (s : ScenarioStore) (sent : Sent), Unique s.scenarios →
      Unique (stepScenario env s sent).scenarios := by
    intro s sent hunique
    exact (step_rowChange env s sent.1 sent.2).unique hunique
  have hreplaces : AllSteps (stepScenario env) (ReplacesExactly env) ⟨[], presets⟩ sents :=
    allSteps_of_inv (I := fun s => Unique s.scenarios) hempty hkeep
      fun s sent hunique => step_replacesExactly sent hunique
  have hlimit : (∀ s ∈ states (stepScenario env) ⟨[], presets⟩ sents,
      countActiveByUserId s.scenarios userId ≤ maxScenarios) ↔
      AllSteps (stepScenario env) (HasRoom env userId) ⟨[], presets⟩ sents :=
    forall_states_iff_allSteps (I := fun s => Unique s.scenarios) hempty hkeep (Nat.zero_le _)
      fun s sent hunique hle => step_limit_iff sent hunique hle
  exact (and_iff_left hreplaces).trans hlimit

end Runs

/-! ## One scenario too many -/

/-- A scenario is made and removed, 50 others are made, and it is made once more. -/
def revivingRun : List Sent :=
  [(aliceContext, .create (some (plainScenario ['a']))), (aliceContext, .remove ['a']),
    (aliceContext, .bulk (some (.object [("mode", text "merge"),
      ("items", .array ((List.range maxScenarios).map fun n => plainScenario (toString n).toList))]))),
    (aliceContext, .create (some (plainScenario ['a'])))]

theorem revivingRun_exceeds : ∃ s ∈ states (stepScenario plainEnv) ⟨[], []⟩ revivingRun,
      maxScenarios < countActiveByUserId s.scenarios "alice" := by
  have hany : (states (stepScenario plainEnv) ⟨[], []⟩ revivingRun).any fun s =>
      maxScenarios < countActiveByUserId s.scenarios "alice" := by decide +kernel
  obtain ⟨s, hs, hcount⟩ := List.any_eq_true.mp hany
  exact ⟨s, hs, of_decide_eq_true hcount⟩

end QuizMind.Scenarios
