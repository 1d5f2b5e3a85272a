import QuizMind.Ai.Images
import QuizMind.Ai.OneCharge

/-! # Is a successful call settled

`proxyForCurrentSession` and `consumeOpenRouterStream` debit the prescribed charge
before they record the request, so a request that completes is in the ledger once,
with that amount. `generateImageForCurrentSession` goes from the image straight to
the record: an image is settled only when it costs nothing (`settled_iff`).
-/

namespace QuizMind.Ai

open Async
open Prog (ret run_bind)

/-! ## The statement -/

/-- A request at one of the three entry points, with what the provider answers. -/
inductive EntryRequest where
  | response (upstream : Except Exception Payload)
  | stream (sse : SseStream) (fallbackModel : String)
  | image (answer : Except Exception JsValue)

inductive EntryReply where
  | response (result : AiProxyResult)
  | stream (completion : AiProxyStreamCompletion)
  | image (result : AiImageGenerationResult)

/-- What the answer to an image request reports. -/
def imageReport : JsValue → Report
  | .object members => responseReport members
  | _ => noReport

/-- The usage debits under a key. -/
def debitsUnder (s : WalletStore) (key : String) : List WalletLedgerEntry :=
  s.entries.filter fun e => e.type == .usage_debit && e.idempotencyKey == some key

section

variable (rate : EnvRate) (parse : List Char → Option JsValue)
  (toLowerCase : List Char → List Char) (invocation : PreparedProxyInvocation) (plan : FaultPlan)

def EntryRequest.code : EntryRequest → AiProg EntryReply
  | .response upstream => do
      return .response (← proxyForCurrentSession rate invocation upstream)
  | .stream sse fallbackModel => do
      return .stream (← consumeOpenRouterStream rate parse invocation sse fallbackModel)
  | .image answer => do
      return .image (← generateImageForCurrentSession toLowerCase invocation answer)

/-- What the provider reports when it is called and answers. -/
def EntryRequest.upstream : EntryRequest → Except Exception Report
  | .response upstream => upstream.map responseReport
  | .stream sse _ => (inspectOpenRouterSseStream parse sse).map streamReport
  | .image answer => (invokeImageGeneration invocation.provider answer).map imageReport

/-- When the request completes and the pricing prescribes a positive amount for what
the provider reports, the ledger has one usage debit under the key of the request, of
that amount. -/
def EntryRequest.Settled (request : EntryRequest) (s : AiStore) : Prop :=
  ∀ reply s', (request.code rate parse toLowerCase invocation).run (AiCall.exec plan) [] s =
      (.ok reply, s') →
    ∀ report amount, request.upstream parse invocation = .ok report →
      (books invocation s).prescribed rate invocation report .success = .ok amount →
      0 < amount →
      ∃ e, debitsUnder s'.wallet.1 invocation.debitKey = [e] ∧ e.deltaKopecks = -amount

/-- An image is found in the answer and recorded, and it has a price. -/
def EntryRequest.GivesAway (request : EntryRequest) (s : AiStore) : Prop :=
  ∃ answer payload image amount, request = .image answer ∧
    invokeImageGeneration invocation.provider answer = .ok payload ∧
    normalizeImage toLowerCase invocation.provider payload = .ok image ∧
    (plan .recordEvent).failure = none ∧
    (books invocation s).prescribed rate invocation (imageReport payload) .success = .ok amount ∧
    0 < amount

end

/-! ## A key is booked once -/

/-- At most one entry has the key. -/
def BookedOnce (key : String) (s : WalletStore) : Prop :=
  (s.entries.filter fun e => e.idempotencyKey == some key).length ≤ 1

section

variable {key : String}

theorem bookedOnce_of_free {s : WalletStore} (h : s.entryByKey key = none) : BookedOnce key s := by
  have hnone : s.entries.filter (fun e => e.idempotencyKey == some key) = [] := by
    grind [List.filter_eq_nil_iff, WalletStore.entryByKey_none]
  simp [BookedOnce, hnone]

variable {s : WalletStore × ℕ}

/-- The unique index lets an entry in only when its key is free. -/
theorem BookedOnce.statement {op : WalletStmt} (h : BookedOnce key s.1) :
    BookedOnce key (walletDb.execAlone op s).2.1 := by
  unfold Database.execAlone
  cases hexec : walletDb.exec op s.2 s.1 with
  | error e => exact h
  | ok out =>
    rcases out with ⟨r, ws⟩
    cases WalletStmt.exec_writes hexec with
    | @entryCreate data hkey =>
      have hinsert : BookedOnce key (s.1.apply (.insertEntry { data with id := s.2 })) := by
        by_cases hsame : data.idempotencyKey = some key
        · have hnone : s.1.entries.filter (fun e => e.idempotencyKey == some key) = [] := by
            grind [List.filter_eq_nil_iff, WalletStore.entryByKey_none]
          simp [BookedOnce, WalletStore.apply, hnone, hsame]
        · simpa [BookedOnce, WalletStore.apply, hsame] using h
      exact hinsert
    | _ => exact h

variable {α : Type}

theorem BookedOnce.run (p : WalletProg α) (faults : List (Option Exception))
    (h : BookedOnce key s.1) : BookedOnce key (p.run walletDb.execAlone faults s).2.1 := by
  have hsafe : p.Safe (fun _ _ => True) (fun _ => True) := Prog.safe_of_forall (fun _ => trivial) p
  have hcall : ∀ (op : WalletStmt) (t : WalletStore × ℕ), True → BookedOnce key t.1 →
      BookedOnce key (walletDb.execAlone op t).2.1 := fun op t _ ht => ht.statement
  exact Prog.run_of_safe (I := fun t : WalletStore × ℕ => BookedOnce key t.1) hcall hsafe faults h

theorem BookedOnce.atomically (p : WalletProg α) (faults : List (Option Exception))
    (h : BookedOnce key s.1) : BookedOnce key (p.atomically walletDb.execAlone faults s).2.1 := by
  have hrun := h.run p faults
  unfold Prog.atomically
  rcases hout : p.run walletDb.execAlone faults s with ⟨out, s'⟩
  rw [hout] at hrun
  cases out with
  | ok a => exact hrun
  | error e => exact h

theorem BookedOnce.effect {op : AiCall} {s : AiStore} (h : BookedOnce key s.wallet.1) :
    BookedOnce key (op.effect s).2.wallet.1 := by
  cases op with
  | findOrCreateWalletForUser status userId => exact h.run _ []
  | debitUsage status input => exact h.atomically _ []
  | _ => exact h

/-- Whatever the proxy does, a key that was free is booked once at most. -/
theorem BookedOnce.proxy {plan : FaultPlan} (p : AiProg α) {s : AiStore}
    (h : BookedOnce key s.wallet.1) :
    BookedOnce key (p.run (AiCall.exec plan) [] s).2.wallet.1 := by
  have hsafe : p.Safe (fun _ _ => True) (fun _ => True) := Prog.safe_of_forall (fun _ => trivial) p
  have hcall : ∀ (op : AiCall) (t : AiStore), True → BookedOnce key t.wallet.1 →
      BookedOnce key (AiCall.exec plan op t).2.wallet.1 := by
    intro op t _ ht
    unfold AiCall.exec
    split
    · rename_i step _
      cases plan step with
      | through | lost e => exact ht.effect
      | refused e => exact ht
    · exact ht.effect
  exact Prog.run_of_safe (I := fun t : AiStore => BookedOnce key t.wallet.1) hcall hsafe [] h

/-- A positive sum under a key that is booked once is one entry. -/
theorem BookedOnce.entry {s : WalletStore} (h : BookedOnce key s) {amount : ℤ}
    (hsum : s.debitedUnder key = amount) (hpos : 0 < amount) :
    ∃ e, debitsUnder s key = [e] ∧ e.deltaKopecks = -amount := by
  have hlen : (debitsUnder s key).length ≤ 1 := by
    have hsub : (debitsUnder s key).Sublist
        (s.entries.filter fun e => e.idempotencyKey == some key) := by
      refine List.monotone_filter_right s.entries ?_
      intro e he
      simp only [Bool.and_eq_true] at he
      exact he.2
    exact hsub.length_le.trans h
  have hdebited : ((debitsUnder s key).map fun e => -e.deltaKopecks).sum = amount := hsum
  rcases hentries : debitsUnder s key with _ | ⟨e, rest⟩
  · grind
  rw [hentries] at hlen hdebited
  have hrest : rest = [] := by simp_all
  rw [hrest] at hdebited ⊢
  refine ⟨e, rfl, ?_⟩
  simp only [List.map_cons, List.map_nil, List.sum_cons, List.sum_nil] at hdebited
  omega

end

/-! ## What a request that completes has done -/

section

variable {rate : EnvRate} {parse : List Char → Option JsValue}
  {toLowerCase : List Char → List Char} {invocation : PreparedProxyInvocation} {plan : FaultPlan}

/-- The entry points that bill: the completion under the catch handler. -/
abbrev guarded {α β : Type} (rate : EnvRate) (invocation : PreparedProxyInvocation)
    (upstream : Except Exception β) (report : β → Report)
    (result : β → AiProxyQuotaSnapshot → α) : AiProg α :=
  Prog.handle (Prog.ofExcept upstream >>= fun answer =>
    completion rate invocation (report answer) (result answer)) (recordAndRethrow rate invocation)

variable {s s' : AiStore}

/-- The catch handler throws, so a request that completes has billed and recorded. -/
theorem completion_ok {α β : Type} {upstream : Except Exception β} {report : β → Report}
    {result : β → AiProxyQuotaSnapshot → α} {r : α}
    (h : ((guarded rate invocation upstream report result).run (AiCall.exec plan) [] s).1 = .ok r) :
    (books invocation s).requestFailure rate invocation plan (upstream.map report) = none := by
  have hfail : ∀ e t, ((recordAndRethrow rate invocation e : AiProg α).run
      (AiCall.exec plan) [] t).1 ≠ .ok r := by
    intro e t hok
    rcases run_recordAndRethrow (α := α) rate plan invocation e t with ⟨t', hrun, _⟩
    rw [hrun] at hok
    cases hok
  simp only [Prog.run_handle] at h
  cases upstream with
  | error e => exact absurd h (hfail e s)
  | ok answer =>
    have hbill := run_calculateAndDebit rate plan invocation
      (report answer).1 (report answer).2 .success s
    rcases Books.bill_eq rate invocation plan (books invocation s) (report answer) .success with
      ⟨-, hfailure, -⟩
    simp only [Prog.ofExcept, Prog.run_ret, Prog.andThen_ok, completion, run_bind] at h
    rcases hrun : (calculateAndDebitForInvocation rate invocation (report answer).1
      (report answer).2 .success).run (AiCall.exec plan) [] s with ⟨out, s₁⟩
    rw [hrun] at h hbill
    cases out with
    | error e => exact absurd h (hfail e s₁)
    | ok billing =>
      -- the billing went through
      have hbilled : (books invocation s).billFailure rate invocation plan (report answer)
          .success = none := by
        by_contra hsome
        obtain ⟨e, he⟩ := Option.ne_none_iff_exists'.mp hsome
        have herror := hfailure e he
        rw [← hbill] at herror
        cases herror
      have hrecorded : (plan .recordEvent).failure = none := by
        simp only [Prog.andThen_ok, recordProxyCompletion, run_bind, Prog.run_await,
          AiCall.exec, AiCall.step] at h
        cases hplan : plan .recordEvent with
        | through => rfl
        | refused e | lost e => simp_all
      simp [Except.map, Books.requestFailure, hbilled, hrecorded]

/-- A request that completes with a debit is in the ledger once. -/
theorem settled_of_completion {upstream : Except Exception Report}
    (hfresh : FreshRequest invocation s) (hbooked : BookedOnce invocation.debitKey s'.wallet.1)
    (hserve : books invocation s' = (books invocation s).serve rate plan invocation upstream)
    (hdone : (books invocation s).requestFailure rate invocation plan upstream = none)
    {report : Report} {amount : ℤ} (hreport : upstream = .ok report)
    (hpres : (books invocation s).prescribed rate invocation report .success = .ok amount)
    (hpos : 0 < amount) :
    ∃ e, debitsUnder s'.wallet.1 invocation.debitKey = [e] ∧ e.deltaKopecks = -amount := by
  subst hreport
  rcases Books.serve_of_success hdone with ⟨charged, hcharged, -, hend⟩
  have hamount : charged = amount := Except.ok.inj (hcharged.symm.trans hpres)
  rw [hamount, if_pos hpos, Books.afterDebit, Books.debit_of_not_booked hfresh.not_booked] at hend
  have hdebited : (books invocation s').debited = amount := by
    rw [hserve, hend]
    simp [Books.hand, hfresh.not_debited]
  exact hbooked.entry hdebited hpos

variable {answer : Except Exception JsValue}

/-- Recording an image touches neither the wallets nor the ledger. -/
theorem run_image {result : AiImageGenerationResult}
    (h : (generateImageForCurrentSession toLowerCase invocation answer).run (AiCall.exec plan) [] s =
      (.ok result, s')) :
    s'.wallet = s.wallet ∧ ∃ payload image,
      invokeImageGeneration invocation.provider answer = .ok payload ∧
      normalizeImage toLowerCase invocation.provider payload = .ok image ∧
      (plan .recordEvent).failure = none := by
  unfold generateImageForCurrentSession at h
  cases hpayload : invokeImageGeneration invocation.provider answer with
  | error e => simp [hpayload, Prog.ofExcept] at h
  | ok payload =>
    cases himage : normalizeImage toLowerCase invocation.provider payload with
    | error e => simp [hpayload, himage, Prog.ofExcept] at h
    | ok image =>
      simp only [hpayload, himage, Prog.ofExcept, Prog.ret_bind, recordProxyCompletion,
        run_bind, Prog.run_await, AiCall.exec, AiCall.step] at h
      cases hplan : plan .recordEvent with
      | refused e | lost e => simp [hplan] at h
      | through =>
        simp only [hplan] at h
        obtain ⟨-, rfl⟩ := h
        exact ⟨rfl, payload, image, rfl, himage, rfl⟩

/-- An image that is found and recorded is delivered. -/
theorem run_image_ok {payload : JsValue} {image : NormalizedGeneratedImagePayload}
    (hpayload : invokeImageGeneration invocation.provider answer = .ok payload)
    (himage : normalizeImage toLowerCase invocation.provider payload = .ok image)
    (hrecorded : (plan .recordEvent).failure = none) :
    ∃ result s', (generateImageForCurrentSession toLowerCase invocation answer).run
      (AiCall.exec plan) [] s = (.ok result, s') := by
  have hplan : plan .recordEvent = .through := by
    cases hplan : plan .recordEvent with
    | through => rfl
    | refused e | lost e => simp [hplan, Fault.failure] at hrecorded
  unfold generateImageForCurrentSession
  simp only [hpayload, himage, Prog.ofExcept, recordProxyCompletion, run_bind,
    Prog.run_await, AiCall.exec, AiCall.step, hplan, Prog.andThen_ok, Prog.run_ret]
  exact ⟨_, _, rfl⟩

variable (rate parse toLowerCase invocation) in
theorem code_response (upstream : Except Exception Payload) :
    ∃ result, (EntryRequest.response upstream).code rate parse toLowerCase invocation =
      guarded rate invocation upstream responseReport result >>=
        fun r => ret (EntryReply.response r) :=
  ⟨_, rfl⟩

variable (rate parse toLowerCase invocation) in
theorem code_stream (sse : SseStream) (fallbackModel : String) :
    ∃ result, (EntryRequest.stream sse fallbackModel).code rate parse toLowerCase invocation =
      guarded rate invocation (inspectOpenRouterSseStream parse sse) streamReport result >>=
        fun r => ret (EntryReply.stream r) :=
  ⟨_, rfl⟩

/-- The entry points that bill are settled. -/
theorem settled_of_run {α β : Type} {upstream : Except Exception β} {report : β → Report}
    {result : β → AiProxyQuotaSnapshot → α} {f : α → EntryReply} {reply : EntryReply}
    (hfresh : FreshRequest invocation s)
    (hrun : (guarded rate invocation upstream report result >>= fun r => ret (f r)).run
      (AiCall.exec plan) [] s = (.ok reply, s'))
    {told : Report} {amount : ℤ} (hreport : upstream.map report = .ok told)
    (hpres : (books invocation s).prescribed rate invocation told .success = .ok amount)
    (hpos : 0 < amount) :
    ∃ e, debitsUnder s'.wallet.1 invocation.debitKey = [e] ∧ e.deltaKopecks = -amount := by
  have hbooked : BookedOnce invocation.debitKey s'.wallet.1 := by
    have hall : BookedOnce invocation.debitKey
        ((guarded rate invocation upstream report result >>= fun r => ret (f r)).run
          (AiCall.exec plan) [] s).2.wallet.1 := (bookedOnce_of_free hfresh.entry).proxy _
    rw [hrun] at hall
    exact hall
  have hserve : books invocation
        ((guarded rate invocation upstream report result).run (AiCall.exec plan) [] s).2 =
      (books invocation s).serve rate plan invocation (upstream.map report) :=
    run_completion upstream report result s
  rw [run_bind] at hrun
  rcases hout : (guarded rate invocation upstream report result).run (AiCall.exec plan) [] s with
    ⟨out, s₁⟩
  rw [hout] at hrun hserve
  cases out with
  | error e => cases hrun
  | ok r =>
    obtain ⟨-, rfl⟩ := Prod.mk.inj hrun
    have hdone : (books invocation s).requestFailure rate invocation plan (upstream.map report) =
        none := completion_ok (congrArg Prod.fst hout)
    exact settled_of_completion hfresh hbooked hserve hdone hreport hpres hpos

variable {request : EntryRequest}

/-- An image that is given away leaves the ledger as it is. -/
theorem not_settled_of_givesAway (hfresh : FreshRequest invocation s)
    (h : request.GivesAway rate toLowerCase invocation plan s) :
    ¬ request.Settled rate parse toLowerCase invocation plan s := by
  obtain ⟨answer, payload, image, amount, rfl, hpayload, himage, hrecorded, hpres, hpos⟩ := h
  intro hsett
  obtain ⟨result, s', hrun⟩ := run_image_ok (s := s) hpayload himage hrecorded
  have hcode : ((EntryRequest.image answer).code rate parse toLowerCase invocation).run
      (AiCall.exec plan) [] s = (.ok (.image result), s') := by
    rw [EntryRequest.code, run_bind, hrun]
    rfl
  have hreport : (EntryRequest.image answer).upstream parse invocation =
      .ok (imageReport payload) := by
    rw [EntryRequest.upstream, hpayload]
    rfl
  obtain ⟨e, hentries, -⟩ := hsett _ s' hcode _ amount hreport hpres hpos
  -- nothing was debited
  have hwallet : s'.wallet = s.wallet := (run_image hrun).1
  have hnone : debitsUnder s'.wallet.1 invocation.debitKey = [] := by
    rw [hwallet, debitsUnder, List.filter_eq_nil_iff]
    intro e he
    simp [WalletStore.entryByKey_none.mp hfresh.entry e he]
  rw [hnone] at hentries
  cases hentries

/-- What completes and is no image is settled. -/
theorem settled_of_not_givesAway (hfresh : FreshRequest invocation s)
    (h : ¬ request.GivesAway rate toLowerCase invocation plan s) :
    request.Settled rate parse toLowerCase invocation plan s := by
  intro reply s' hrun report amount hreport hpres hpos
  cases request with
  | response upstream =>
    obtain ⟨result, hcode⟩ := code_response rate parse toLowerCase invocation upstream
    rw [hcode] at hrun
    exact settled_of_run hfresh hrun hreport hpres hpos
  | stream sse fallbackModel =>
    obtain ⟨result, hcode⟩ := code_stream rate parse toLowerCase invocation sse fallbackModel
    rw [hcode] at hrun
    exact settled_of_run hfresh hrun hreport hpres hpos
  | image answer =>
    -- an image that completes with a price is given away
    refine absurd ?_ h
    rw [EntryRequest.code, run_bind] at hrun
    rcases hout : (generateImageForCurrentSession toLowerCase invocation answer).run
      (AiCall.exec plan) [] s with ⟨out, s₁⟩
    rw [hout] at hrun
    cases out with
    | error e => cases hrun
    | ok result =>
      obtain ⟨-, payload, image, hpayload, himage, hrecorded⟩ := run_image hout
      rw [EntryRequest.upstream, hpayload] at hreport
      obtain rfl : imageReport payload = report := Except.ok.inj hreport
      exact ⟨answer, payload, image, amount, rfl, hpayload, himage, hrecorded, hpres, hpos⟩

end

/-! ## An image that nobody pays for -/

/-- An image for which the provider reports five cents. -/
def fiveCentImage : Payload :=
  [("data", .array [.object [("url", .string "https://example.com/cat.png".toList)]]),
    ("usage", .object [("cost", .number (some (1 / 20)))])]

end QuizMind.Ai
