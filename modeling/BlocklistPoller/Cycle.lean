import BlocklistPoller.TenantPoller

/-!
# One polling cycle

`Poller.Do` lists the tenants and runs the range loop of `FanOut` over them. The check
at the top of the body returns early once the parent context is cancelled, and breaks
once `tenantFailuresRemaining`, an `int32` started at `TolerateTenantFailures`, has gone
negative. Each goroutine retries `pollTenantAndCreateIndex` while
`consecutiveErrorsRemaining` is not negative, then records its tenant under the mutex.

What the calls of `pollTenantAndCreateIndex` return is an oracle here: `poll tenantID i`
is the result of the `i`-th call for the tenant. The theorems hold for every outcome of
every call, every interleaving and every moment of cancellation.
-/

namespace BlocklistPoller

/-- Go's conversion of an integer to `int32`: the value modulo `2 ^ 32`, read in
`[-2 ^ 31, 2 ^ 31)`. `atomic.Int32` wraps the same way on `Dec()`. -/
def int32 (x : Int) : Int := x.bmod (2 ^ 32)

theorem int32_eq_self {x : Int} (hlo : -2 ^ 31 ≤ x) (hhi : x < 2 ^ 31) : int32 x = x := by
  rw [int32, Int.bmod_def]; split <;> omega

theorem int32_int32_sub (x y : Int) : int32 (int32 x - y) = int32 (x - y) :=
  Int.bmod_sub_bmod_congr

/-- The retry loop of a tenant goroutine with `fuel` passes of
`for consecutiveErrorsRemaining >= 0` left: `call i` is what the `i`-th call from here
of `pollTenantAndCreateIndex` returns, `last` what the latest one returned. The result
is what the loop leaves in `newBlockList`, `newCompactedBlockList` and `err`, and the
number of calls it made. -/
def retryLoop : Nat → (Nat → PollResult) → PollResult → PollResult × Nat
  | 0, _, last => (last, 0)
  | fuel + 1, call, _ =>
    match call 0 with
    | .ok r => (.ok r, 1)
    | .error err => (retryLoop fuel (fun i => call (i + 1)) (.error err)).map id (· + 1)

/-- Of the first `n` calls, call `i` is the first that succeeded, and it returned `r`. -/
def FirstSuccess (call : Nat → PollResult) (n : Nat)
    (r : List BlockMeta × List CompactedBlockMeta) : Prop :=
  ∃ i < n, call i = .ok r ∧ ∀ j < i, (call j).toBool = false

/-- The first `n` calls all failed. -/
def FailsAll (call : Nat → PollResult) (n : Nat) : Prop := ∀ i < n, (call i).toBool = false

instance (call : Nat → PollResult) (n : Nat) : Decidable (FailsAll call n) :=
  inferInstanceAs (Decidable (∀ i < n, _))

/-- A loop with at least one pass stops at the first success, with that call's result
and as many calls as it took; when every pass fails, it ends with the last call's
error after one call per pass. -/
theorem retryLoop_cases (fuel : Nat) (call : Nat → PollResult) (last : PollResult) :
    (∃ i < fuel + 1, (call i).toBool = true ∧ (∀ j < i, (call j).toBool = false) ∧
        retryLoop (fuel + 1) call last = (call i, i + 1)) ∨
      (FailsAll call (fuel + 1) ∧ retryLoop (fuel + 1) call last = (call fuel, fuel + 1)) := by
  induction fuel generalizing call last with
  | zero =>
    cases h0 : call 0 with
    | ok r => exact .inl ⟨0, Nat.zero_lt_one, by simp [h0], by simp, by simp [retryLoop, h0]⟩
    | error e =>
      refine .inr ⟨fun i hi => ?_, by simp [retryLoop, h0]⟩
      obtain rfl : i = 0 := by omega
      simp [h0]
  | succ fuel ih =>
    cases h0 : call 0 with
    | ok r => exact .inl ⟨0, by omega, by simp [h0], by simp, by simp [retryLoop, h0]⟩
    | error e =>
      have hstep : retryLoop (fuel + 2) call last =
          (retryLoop (fuel + 1) (fun i => call (i + 1)) (.error e)).map id (· + 1) := by
        simp [retryLoop, h0]
      rcases ih (fun i => call (i + 1)) (.error e) with ⟨i, hi, hok, hbefore, hrun⟩ | ⟨hfail, hrun⟩
      · refine .inl ⟨i + 1, by omega, hok, fun j hj => ?_, by simp [hstep, hrun]⟩
        cases j with
        | zero => simp [h0]
        | succ j => exact hbefore j (by omega)
      · refine .inr ⟨fun j hj => ?_, by simp [hstep, hrun]⟩
        cases j with
        | zero => simp [h0]
        | succ j => exact hfail j (by omega)

/-- Two first successes are the same call. -/
theorem FirstSuccess.unique {call : Nat → PollResult} {n m : Nat} {r r' : List BlockMeta × List CompactedBlockMeta}
    (h : FirstSuccess call n r) (h' : FirstSuccess call m r') : r = r' := by
  obtain ⟨i, -, hi, hbefore⟩ := h
  obtain ⟨i', -, hi', hbefore'⟩ := h'
  rcases Nat.lt_trichotomy i i' with hlt | rfl | hgt
  · exact absurd (hbefore' i hlt) (by simp [hi])
  · simpa [hi] using hi'
  · exact absurd (hbefore i' hgt) (by simp [hi'])

/-- A loop with at least one pass ends in success exactly with the first success. -/
theorem retryLoop_eq_ok_iff {fuel : Nat} {call : Nat → PollResult} {last : PollResult}
    {r : List BlockMeta × List CompactedBlockMeta} :
    (retryLoop (fuel + 1) call last).1 = .ok r ↔ FirstSuccess call (fuel + 1) r := by
  rcases retryLoop_cases fuel call last with ⟨i, hi, hok, hbefore, hrun⟩ | ⟨hfail, hrun⟩
  · obtain ⟨r₀, hr₀⟩ : ∃ r₀, call i = .ok r₀ := by
      cases h : call i with
      | ok r₀ => exact ⟨r₀, rfl⟩
      | error => simp [h] at hok
    have hfirst : FirstSuccess call (fuel + 1) r₀ := ⟨i, hi, hr₀, hbefore⟩
    rw [hrun, hr₀]
    exact ⟨fun h => by cases h; exact hfirst, fun h => by rw [hfirst.unique h]⟩
  · rw [hrun]
    constructor
    · intro h; exact absurd (hfail fuel (by omega)) (by simp [show call fuel = _ from h])
    · rintro ⟨i, hi, hr, -⟩; simpa [hr] using hfail i hi

/-- A loop with at least one pass ends in an error exactly when every pass failed. -/
theorem retryLoop_toBool_eq_false_iff {fuel : Nat} {call : Nat → PollResult}
    {last : PollResult} :
    (retryLoop (fuel + 1) call last).1.toBool = false ↔ FailsAll call (fuel + 1) := by
  rcases retryLoop_cases fuel call last with ⟨i, hi, hok, -, hrun⟩ | ⟨hfail, hrun⟩
  · rw [hrun]
    exact ⟨fun h => by simp [hok] at h, fun h => by simp [h i hi] at hok⟩
  · rw [hrun]
    exact ⟨fun _ => hfail, fun h => h fuel (by omega)⟩

/-- Whatever the number of passes, the loop ends with the result it started from or with
the result of one of the calls. -/
theorem retryLoop_result (fuel : Nat) (call : Nat → PollResult) (last : PollResult) :
    (retryLoop fuel call last).1 = last ∨ ∃ i, (retryLoop fuel call last).1 = call i := by
  induction fuel generalizing call last with
  | zero => exact .inl rfl
  | succ fuel ih =>
    cases h0 : call 0 with
    | ok r => exact .inr ⟨0, by simp [retryLoop, h0]⟩
    | error e =>
      have hstep : (retryLoop (fuel + 1) call last).1 =
          (retryLoop fuel (fun i => call (i + 1)) (.error e)).1 := by
        simp [retryLoop, h0]
      rw [hstep]
      rcases ih (fun i => call (i + 1)) (.error e) with h | ⟨i, h⟩
      · exact .inr ⟨0, h.trans h0.symm⟩
      · exact .inr ⟨i + 1, h⟩

/-- The state the tenant goroutines of `Do` share under `mtx`. -/
structure Tally where
  blocklist : PerTenant
  compactedBlocklist : PerTenantCompacted
  /-- `tenantFailuresRemaining`, an `atomic.Int32`. -/
  tenantFailuresRemaining : Int

/-- One event of a run of `Do`: a step of the admission loop or of a goroutine, or the
cancellation of the parent context. -/
inductive CycleEvent where
  | loop (e : FanOut.Event TenantID)
  | cancel

/-- The loop and goroutine events of a run, in order. -/
def loopEvents : List CycleEvent → List (FanOut.Event TenantID)
  | [] => []
  | .loop e :: es => e :: loopEvents es
  | .cancel :: es => loopEvents es

/-- The checks at the top of the admission loop of `Do`: the parent context first,
then the failure budget. -/
def admissionExit (canceled : Bool) (t : Tally) : Option Exit :=
  if canceled then some .returnEarly
  else if t.tenantFailuresRemaining < 0 then some .breakLoop
  else none

/-- The admission loop of `Do` and its goroutines over a run, `canceled` whether the
parent context is done: `none` when an event cannot be taken. -/
def admissionRun (cap : Nat) (body : TenantID → Tally → Tally) :
    Bool → FanOut TenantID Tally → List CycleEvent → Option (Bool × FanOut TenantID Tally)
  | canceled, s, [] => some (canceled, s)
  | _, s, .cancel :: es => admissionRun cap body true s es
  | canceled, s, .loop e :: es =>
    (FanOut.step cap (admissionExit canceled) body s e).bind fun s' =>
      admissionRun cap body canceled s' es

section AdmissionRun

variable {cap : Nat} {body : TenantID → Tally → Tally}

@[simp] theorem loopEvents_append (es es' : List CycleEvent) :
    loopEvents (es ++ es') = loopEvents es ++ loopEvents es' := by
  induction es with
  | nil => rfl
  | cons e es ih => cases e <;> simp [loopEvents, ih]

/-- A property of runs of the admission loop is proved by showing that every move keeps
it, whatever the state of the context, and that a cancellation keeps it. -/
theorem admissionRun_induction (P : Bool → List TenantID → FanOut TenantID Tally → Prop)
    (hmove : ∀ {c fin s e s'}, FanOut.Moves cap (admissionExit c) body s e s' → P c fin s →
      P c (fin ++ e.item?.toList) s')
    (hcancel : ∀ {c fin s}, P c fin s → P true fin s)
    {es : List CycleEvent} {c c' : Bool} {s s' : FanOut TenantID Tally} {fin : List TenantID}
    (hrun : admissionRun cap body c s es = some (c', s')) (hs : P c fin s) :
    P c' (fin ++ FanOut.finishedOf (loopEvents es)) s' := by
  induction es generalizing c s fin with
  | nil => cases hrun; simpa [loopEvents] using hs
  | cons e es ih =>
    cases e with
    | cancel => exact ih hrun (hcancel hs)
    | loop e =>
      obtain ⟨s₁, h₁, hrun⟩ := Option.bind_eq_some.mp hrun
      simpa [loopEvents] using ih hrun (hmove (FanOut.moves_of_step h₁) hs)

/-- The context is done at the end of a run only if it was at the start or the run
cancels it. -/
theorem admissionRun_canceled {es : List CycleEvent} {c c' : Bool} {s s' : FanOut TenantID Tally}
    (hrun : admissionRun cap body c s es = some (c', s')) (hc : CycleEvent.cancel ∉ es) : c' = c := by
  induction es generalizing s with
  | nil => cases hrun; rfl
  | cons e es ih =>
    cases e with
    | cancel => simp at hc
    | loop e =>
      obtain ⟨s₁, -, hrun⟩ := Option.bind_eq_some.mp hrun
      exact ih hrun (fun h => hc (List.mem_cons_of_mem _ h))

/-- The loop returns early only once the context is done. -/
theorem FanOut.Moves.returning {c : Bool} {s s' : FanOut TenantID Tally} {e : FanOut.Event TenantID}
    (h : FanOut.Moves cap (admissionExit c) body s e s') (hs : s.phase = .returning → c = true) :
    s'.phase = .returning → c = true := by
  revert hs
  cases h with
  | @leave a rest x _ _ hx =>
    cases x
    · simp [Exit.phase]
    · intro _ _; unfold admissionExit at hx; split at hx <;> simp_all
  | exhaust | dispatch | add => simp
  | finish => exact id

/-- Runs made only of loop events are runs of `FanOut` with the context live. -/
theorem admissionRun_loop (s : FanOut TenantID Tally) (es : List (FanOut.Event TenantID)) (c : Bool) :
    admissionRun cap body c s (es.map .loop) =
      (FanOut.run cap (admissionExit c) body s es).map (c, ·) := by
  induction es generalizing s with
  | nil => rfl
  | cons e es ih =>
    simp only [List.map_cons, admissionRun, FanOut.run]
    cases FanOut.step cap (admissionExit c) body s e <;> simp [ih]

theorem admissionRun_append (c : Bool) (s : FanOut TenantID Tally) (es es' : List CycleEvent) :
    admissionRun cap body c s (es ++ es') =
      (admissionRun cap body c s es).bind fun r => admissionRun cap body r.1 r.2 es' := by
  induction es generalizing c s with
  | nil => rfl
  | cons e es ih =>
    cases e with
    | cancel => exact ih true s
    | loop e =>
      simp only [List.cons_append, admissionRun]
      cases FanOut.step cap (admissionExit c) body s e <;> simp [ih]

end AdmissionRun

/-- The goroutine of `Do` records its tenant's result under `mtx`: a failure puts the
previous lists and decrements `tenantFailuresRemaining`, a success with a block puts
the new lists, and a success with none leaves the maps alone. -/
def recordTenant (previous : Blocklist) (tenantID : TenantID) (res : PollResult) (t : Tally) :
    Tally :=
  match res with
  | .error _ =>
    { blocklist := Function.update t.blocklist tenantID (some (previous.Metas tenantID))
      compactedBlocklist :=
        Function.update t.compactedBlocklist tenantID (some (previous.CompactedMetas tenantID))
      tenantFailuresRemaining := int32 (t.tenantFailuresRemaining - 1) }
  | .ok (newBlockList, newCompactedBlockList) =>
    if newBlockList.length > 0 ∨ newCompactedBlockList.length > 0 then
      { t with
        blocklist := Function.update t.blocklist tenantID (some newBlockList)
        compactedBlocklist := Function.update t.compactedBlocklist tenantID (some newCompactedBlockList) }
    else t

/-- How `Do` ends once both `Wait()`s returned: the context's error after an early
return, the budget's error when it went negative, the maps otherwise. -/
def cycleResult (s : FanOut TenantID Tally) : Except Error (PerTenant × PerTenantCompacted) :=
  if s.phase = .returning then .error .canceled
  else if s.shared.tenantFailuresRemaining < 0 then
    .error (.new "too many tenant failures; abandoning polling cycle")
  else .ok (s.shared.blocklist, s.shared.compactedBlocklist)

namespace Poller

variable (p : Poller)

/-- The retry loop of the goroutine for a tenant, from `nil` lists and a `nil` error,
with `consecutiveErrorsRemaining` started at `TolerateConsecutiveErrors`: `call i` is
what the `i`-th call of `pollTenantAndCreateIndex` returns. -/
def pollWithRetries (call : Nat → PollResult) : PollResult × Nat :=
  retryLoop (p.cfg.tolerateConsecutiveErrors + 1).toNat call (.ok ([], []))

/-- The goroutine `Do` starts for a tenant: poll with retries, then record. -/
def tenantTask (previous : Blocklist) (poll : TenantID → Nat → PollResult) (tenantID : TenantID)
    (t : Tally) : Tally :=
  recordTenant previous tenantID (p.pollWithRetries (poll tenantID)).1 t

/-- The admission loop before its first check: empty maps, and the budget converted to
`int32`. -/
def cycleInit (tenants : List TenantID) : FanOut TenantID Tally :=
  FanOut.init tenants ⟨fun _ => none, fun _ => none, int32 p.cfg.tolerateTenantFailures⟩

/-- The admission loop of `Do` over the listed tenants and a run. -/
def admission (previous : Blocklist) (poll : TenantID → Nat → PollResult)
    (tenants : List TenantID) (events : List CycleEvent) : Option (Bool × FanOut TenantID Tally) :=
  admissionRun p.cfg.tenantPollConcurrency (p.tenantTask previous poll) false (p.cycleInit tenants)
    events

/-- `Poller.Do` over a run: `poll tenantID i` is what the `i`-th call of
`pollTenantAndCreateIndex` for the tenant returns. The result is `none` when `events`
is not a whole run, one after which both `Wait()`s have returned. -/
def Do (previous : Blocklist) (poll : TenantID → Nat → PollResult) (events : List CycleEvent) :
    Option (Except Error (PerTenant × PerTenantCompacted)) :=
  match p.reader.tenants with
  | .error err => some (.error err)
  | .ok tenants =>
    (p.admission previous poll tenants events).bind fun r =>
      if r.2.Done then some (cycleResult r.2) else none

/-- A poller over the one tenant `t` with `TolerateConsecutiveErrors = n` and
`TolerateTenantFailures = k`; its other reads are never made by `Do`, whose calls of
`pollTenantAndCreateIndex` are the oracle. -/
def oneTenantPoller (n k : Int) : Poller where
  reader := { tenants := .ok ["t"], blocks := fun _ => .ok ([], []),
              blockMeta := fun _ _ => .error .doesNotExist,
              tenantIndex := fun _ => .error .doesNotExist,
              hasNoCompactFlag := fun _ _ => .ok false, find := fun _ => ([], none) }
  writer := ⟨fun _ _ _ => none, fun _ _ => none⟩
  compactor := ⟨fun _ _ => .error .doesNotExist⟩
  cfg := { pollConcurrency := 1, tenantPollConcurrency := 1, pollFallback := true,
           tenantIndexBuilders := 1, staleTenantIndex := 0, tolerateConsecutiveErrors := n,
           tolerateTenantFailures := k, emptyTenantDeletionAge := 0,
           emptyTenantDeletionEnabled := false, skipNoCompactBlocks := false }
  sharder := ⟨fun _ => true⟩

/-- The one run of `Do` over a single tenant `t`. -/
def oneTenantRun : List CycleEvent :=
  [.loop .check, .loop .add, .loop (.finish "t"), .loop .check]

/-- Every call for every tenant finds the block `1`. -/
def blockFound : TenantID → Nat → PollResult := fun _ _ => .ok ([⟨1, 1, 1⟩], [])

/-- The maps of a cycle that found block `1` for `t`. -/
def blockFoundMaps : PerTenant × PerTenantCompacted :=
  (Function.update (fun _ => none) "t" (some [⟨1, 1, 1⟩]), Function.update (fun _ => none) "t" (some []))

/-- A previous list that knows one block of `t`. -/
def knownBlocklist : Blocklist :=
  ⟨fun t => if t = "t" then some [⟨1, 1, 1⟩] else none, fun _ => none⟩

/-- With `TolerateConsecutiveErrors = -1` the retry loop makes no call and leaves its
`nil` error: a tenant every call of which would fail is recorded as polled with no
block, and `t` drops out of the maps instead of keeping its previous block. -/
theorem Do_negative_consecutive_errors :
    (oneTenantPoller (-1) 0).pollWithRetries (fun _ => .error .canceled) = (.ok ([], []), 0) ∧
    ((oneTenantPoller (-1) 0).Do knownBlocklist (fun _ _ => .error .canceled) oneTenantRun).map
      (Except.map fun m => (m.1 "t", m.2 "t")) = some (.ok (none, none)) := by
  decide

/-- With `TolerateTenantFailures = 2 ^ 31`, a valid `int`, the budget converts to
`-2 ^ 31`: `Do` stops before its first tenant and fails although no tenant failed. -/
theorem Do_wrapped_tenant_failures :
    (oneTenantPoller 0 (2 ^ 31)).Do .empty (fun _ _ => .ok ([⟨1, 1, 1⟩], [])) [.loop .check] =
      some (.error (.new "too many tenant failures; abandoning polling cycle")) :=
  rfl

section Invariant

variable (previous : Blocklist) (poll : TenantID → Nat → PollResult)

/-- What the retry loop of a tenant's goroutine ends with. -/
def tenantResult (tenantID : TenantID) : PollResult := (p.pollWithRetries (poll tenantID)).1

/-- The number of tenants of `finished` whose retry loop failed. -/
def failures (finished : List TenantID) : Nat :=
  finished.countP fun tenantID => !(p.tenantResult poll tenantID).toBool

/-- The entry the maps hold for a tenant once the tenants of `finished` are recorded:
the previous lists after a failure, the new lists after a success with a block. -/
def entryAfter (finished : List TenantID) (tenantID : TenantID) :
    Option (List BlockMeta × List CompactedBlockMeta) :=
  if tenantID ∈ finished then
    match p.tenantResult poll tenantID with
    | .error _ => some (previous.Metas tenantID, previous.CompactedMetas tenantID)
    | .ok (l, c) => if l.length > 0 ∨ c.length > 0 then some (l, c) else none
  else none

/-- What every step of `Do` keeps, `finished` the tenants whose goroutines are done:
the counter is the budget less the failures, wrapped to `int32`; the maps hold the
entries of the finished tenants and nothing else; and a loop that broke with tenants
left saw a negative counter at some earlier point of the run; a budget negative from
the start admits no tenant. -/
structure CycleInv (tenants finished : List TenantID) (s : FanOut TenantID Tally) : Prop where
  dispatched : FanOut.Dispatched tenants finished s
  counter : s.shared.tenantFailuresRemaining =
    int32 (p.cfg.tolerateTenantFailures - p.failures poll finished)
  blocklist : ∀ T, s.shared.blocklist T = (p.entryAfter previous poll finished T).map Prod.fst
  compactedBlocklist : ∀ T,
    s.shared.compactedBlocklist T = (p.entryAfter previous poll finished T).map Prod.snd
  broke : s.phase = .broken → s.rest ≠ [] →
    ∃ f₀, f₀ <+: finished ∧ int32 (p.cfg.tolerateTenantFailures - p.failures poll f₀) < 0
  idle : int32 p.cfg.tolerateTenantFailures < 0 →
    finished = [] ∧ s.running = [] ∧ s.phase.item? = none

variable {p previous poll}

theorem cycleInv_init (tenants : List TenantID) : p.CycleInv previous poll tenants [] (p.cycleInit tenants) where
  dispatched := FanOut.dispatched_init _ _
  counter := by simp [cycleInit, FanOut.init, failures, int32]
  blocklist _ := by simp [cycleInit, FanOut.init, entryAfter]
  compactedBlocklist _ := by simp [cycleInit, FanOut.init, entryAfter]
  broke h := by simp [cycleInit, FanOut.init] at h
  idle _ := by simp [cycleInit, FanOut.init]

theorem tenantTask_eq (tenantID : TenantID) (t : Tally) :
    p.tenantTask previous poll tenantID t =
      recordTenant previous tenantID (p.tenantResult poll tenantID) t := rfl

theorem failures_append_singleton (finished : List TenantID) (tenantID : TenantID) :
    p.failures poll (finished ++ [tenantID]) =
      p.failures poll finished + if (p.tenantResult poll tenantID).toBool then 0 else 1 := by
  simp only [failures, List.countP_append, List.countP_singleton]
  cases (p.tenantResult poll tenantID).toBool <;> rfl

/-- Recording a tenant's failure moves the counter down by one, wrapped, and keeps it
the budget less the failures of the finished tenants. -/
theorem tenantTask_counter (t : Tally) (tenantID : TenantID) (finished : List TenantID)
    (ht : t.tenantFailuresRemaining = int32 (p.cfg.tolerateTenantFailures - p.failures poll finished)) :
    (p.tenantTask previous poll tenantID t).tenantFailuresRemaining =
      int32 (p.cfg.tolerateTenantFailures - p.failures poll (finished ++ [tenantID])) := by
  rw [tenantTask_eq, failures_append_singleton]
  cases p.tenantResult poll tenantID with
  | error e =>
    simp only [recordTenant, ht, int32_int32_sub, toBool_error]
    congr 1; push_cast; omega
  | ok r =>
    obtain ⟨l, c⟩ := r
    simp only [recordTenant]
    split <;> simp [ht]

/-- Recording a tenant puts its entry in the maps and leaves the other tenants' alone. -/
theorem tenantTask_entries (t : Tally) (tenantID : TenantID) (finished : List TenantID)
    (hb : ∀ T, t.blocklist T = (p.entryAfter previous poll finished T).map Prod.fst)
    (hc : ∀ T, t.compactedBlocklist T = (p.entryAfter previous poll finished T).map Prod.snd)
    (T : TenantID) :
    (p.tenantTask previous poll tenantID t).blocklist T =
        (p.entryAfter previous poll (finished ++ [tenantID]) T).map Prod.fst ∧
      (p.tenantTask previous poll tenantID t).compactedBlocklist T =
        (p.entryAfter previous poll (finished ++ [tenantID]) T).map Prod.snd := by
  rw [tenantTask_eq]
  by_cases hT : T = tenantID
  · subst hT
    have hfin : T ∈ finished ++ [T] := by simp
    cases hr : p.tenantResult poll T with
    | error e => simp [recordTenant, entryAfter, hr]
    | ok r =>
      obtain ⟨l, c⟩ := r
      simp only [recordTenant, entryAfter, hfin, hr, if_true]
      split
      · simp
      · rename_i hempty
        simp only [hb, hc, entryAfter, hr, if_neg hempty]
        split <;> simp
  · have hentry : p.entryAfter previous poll (finished ++ [tenantID]) T =
        p.entryAfter previous poll finished T := by
      simp [entryAfter, hT]
    rw [hentry, ← hb, ← hc]
    cases p.tenantResult poll tenantID with
    | error e => simp [recordTenant, Function.update_noteq hT]
    | ok r =>
      obtain ⟨l, c⟩ := r
      simp only [recordTenant]
      split <;> simp [Function.update_noteq hT]

/-- The check at the top of the loop breaks only on a negative counter. -/
theorem admissionExit_breakLoop {c : Bool} {t : Tally} (h : admissionExit c t = some .breakLoop) :
    t.tenantFailuresRemaining < 0 := by
  unfold admissionExit at h
  split at h
  · cases h
  · split at h
    · assumption
    · cases h

/-- Every move of the admission loop keeps the invariant, the finished tenant joining
the finished ones. -/
theorem CycleInv.move {c : Bool} {tenants finished : List TenantID} {s s' : FanOut TenantID Tally}
    {e : FanOut.Event TenantID}
    (h : FanOut.Moves p.cfg.tenantPollConcurrency (admissionExit c) (p.tenantTask previous poll) s e s')
    (hi : p.CycleInv previous poll tenants finished s) :
    p.CycleInv previous poll tenants (finished ++ e.item?.toList) s' := by
  have hd := h.dispatched hi.dispatched
  cases h with
  | exhaust _ hq =>
    simp only [FanOut.Event.item?, Option.toList, List.append_nil] at hd ⊢
    exact ⟨hd, hi.counter, hi.blocklist, hi.compactedBlocklist,
      fun _ hr => absurd (by simp [FanOut.rest, hq]) hr,
      fun hk => ⟨(hi.idle hk).1, (hi.idle hk).2.1, rfl⟩⟩
  | dispatch _ _ hx =>
    simp only [FanOut.Event.item?, Option.toList, List.append_nil] at hd ⊢
    refine ⟨hd, hi.counter, hi.blocklist, hi.compactedBlocklist, fun hb => by simp at hb,
      fun hk => ?_⟩
    have hneg : s.shared.tenantFailuresRemaining < 0 := by
      simpa [hi.counter, (hi.idle hk).1, failures] using hk
    simp only [admissionExit, hneg, if_true] at hx
    split at hx <;> cases hx
  | @leave a rest x _ _ hx =>
    simp only [FanOut.Event.item?, Option.toList, List.append_nil] at hd ⊢
    refine ⟨hd, hi.counter, hi.blocklist, hi.compactedBlocklist, fun hb _ => ?_,
      fun hk => ⟨(hi.idle hk).1, (hi.idle hk).2.1, by simp⟩⟩
    cases x
    · exact ⟨finished, by simp, by simpa [← hi.counter] using admissionExit_breakLoop hx⟩
    · simp [Exit.phase] at hb
  | add hp _ =>
    simp only [FanOut.Event.item?, Option.toList, List.append_nil] at hd ⊢
    refine ⟨hd, hi.counter, hi.blocklist, hi.compactedBlocklist, fun hb => by simp at hb,
      fun hk => ?_⟩
    simpa [hp] using (hi.idle hk).2.2
  | @finish a ha =>
    have hentries := tenantTask_entries s.shared a finished hi.blocklist hi.compactedBlocklist
    refine ⟨hd, tenantTask_counter s.shared a finished hi.counter, fun T => (hentries T).1,
      fun T => (hentries T).2, fun hb hr => ?_, fun hk => ?_⟩
    · obtain ⟨f₀, hpre, hneg⟩ := hi.broke hb hr
      exact ⟨f₀, hpre.trans (List.prefix_append _ _), hneg⟩
    · simp [(hi.idle hk).2.1] at ha

/-- The invariant holds after every run of the admission loop of `Do`. -/
theorem admission_inv {tenants : List TenantID} {events : List CycleEvent} {c : Bool}
    {s : FanOut TenantID Tally} (h : p.admission previous poll tenants events = some (c, s)) :
    p.CycleInv previous poll tenants (FanOut.finishedOf (loopEvents events)) s := by
  simpa using admissionRun_induction (fun _ fin s => p.CycleInv previous poll tenants fin s)
    (fun hm hi => hi.move hm) id h (cycleInv_init tenants)

/-- A run of `Do` returns early only if it cancels the context. -/
theorem admission_returning {tenants : List TenantID} {events : List CycleEvent} {c : Bool}
    {s : FanOut TenantID Tally} (h : p.admission previous poll tenants events = some (c, s))
    (hc : CycleEvent.cancel ∉ events) : s.phase ≠ .returning := by
  have hret := @admissionRun_induction _ _ (fun c _ s => s.phase = .returning → c = true)
    (fun hm hs => hm.returning hs) (fun _ _ => rfl) _ _ _ _ _ [] h
    (by simp [cycleInit, FanOut.init])
  intro hs
  simpa [admissionRun_canceled h hc] using hret hs

theorem cycleResult_eq_ok {s : FanOut TenantID Tally} {bl : PerTenant} {cbl : PerTenantCompacted}
    (h : cycleResult s = .ok (bl, cbl)) :
    s.phase ≠ .returning ∧ 0 ≤ s.shared.tenantFailuresRemaining ∧ bl = s.shared.blocklist ∧
      cbl = s.shared.compactedBlocklist := by
  unfold cycleResult at h
  split at h
  · cases h
  · split at h
    · cases h
    · cases h; exact ⟨‹_›, by omega, rfl, rfl⟩

theorem cycleResult_eq_error {s : FanOut TenantID Tally} {e : Error} (h : cycleResult s = .error e)
    (hret : s.phase ≠ .returning) : s.shared.tenantFailuresRemaining < 0 := by
  unfold cycleResult at h
  split at h
  · contradiction
  · split at h
    · assumption
    · cases h

variable {tenants finished : List TenantID} {s : FanOut TenantID Tally}

/-- With fewer than `2 ^ 31` tenants and a budget that converts to a non-negative `int32`,
the counter never wraps. -/
theorem CycleInv.int32_budget (hi : p.CycleInv previous poll tenants finished s)
    (hk : 0 ≤ int32 p.cfg.tolerateTenantFailures) (hlen : tenants.length < 2 ^ 31)
    {f₀ : List TenantID} (hpre : f₀ <+: finished) :
    int32 (p.cfg.tolerateTenantFailures - p.failures poll f₀) =
      int32 p.cfg.tolerateTenantFailures - p.failures poll f₀ := by
  have hle : p.failures poll f₀ ≤ tenants.length :=
    (List.countP_le_length _).trans (hpre.sublist.subperm.trans hi.dispatched.subperm).length_le
  have hlt : int32 p.cfg.tolerateTenantFailures < 2 ^ 31 := by
    have := @Int.bmod_lt p.cfg.tolerateTenantFailures (2 ^ 32) (by decide)
    rw [int32]; omega
  rw [← int32_int32_sub]
  exact int32_eq_self (by omega) (by omega)

/-- A run that ends without error, over fewer than `2 ^ 31` tenants, finished every
listed tenant, with at most the converted budget of failures, and returns the maps it
built. -/
theorem CycleInv.done_ok (hi : p.CycleInv previous poll tenants finished s) (hdone : s.Done)
    {bl : PerTenant} {cbl : PerTenantCompacted} (hok : cycleResult s = .ok (bl, cbl))
    (hlen : tenants.length < 2 ^ 31) :
    finished.Perm tenants ∧ (p.failures poll finished : Int) ≤ int32 p.cfg.tolerateTenantFailures ∧
      bl = s.shared.blocklist ∧ cbl = s.shared.compactedBlocklist := by
  obtain ⟨hret, hnonneg, rfl, rfl⟩ := cycleResult_eq_ok hok
  obtain ⟨hrun, hbroken | hreturning⟩ := hdone
  swap; · exact absurd hreturning hret
  have hk : 0 ≤ int32 p.cfg.tolerateTenantFailures := by
    by_contra hk
    rw [hi.counter, (hi.idle (by omega)).1] at hnonneg
    simp [failures] at hnonneg
    omega
  have hcount := hi.counter.trans (hi.int32_budget hk hlen (List.prefix_refl _))
  have hrest : s.rest = [] := by
    by_contra hrest
    obtain ⟨f₀, hpre, hneg⟩ := hi.broke hbroken hrest
    rw [hi.int32_budget hk hlen hpre] at hneg
    have := hpre.countP_le fun T => !(p.tenantResult poll T).toBool
    simp only [failures] at hneg hcount this
    omega
  exact ⟨hi.dispatched.perm_of_rest_nil hrun hrest, by omega, rfl, rfl⟩

section Tolerance

variable (hn : 0 ≤ p.cfg.tolerateConsecutiveErrors)
include hn

theorem pollWithRetries_eq (call : Nat → PollResult) :
    p.pollWithRetries call =
      retryLoop (p.cfg.tolerateConsecutiveErrors.toNat + 1) call (.ok ([], [])) := by
  rw [pollWithRetries, show (p.cfg.tolerateConsecutiveErrors + 1).toNat =
    p.cfg.tolerateConsecutiveErrors.toNat + 1 by omega]

theorem tenantResult_eq_ok_iff {tenantID : TenantID} {r : List BlockMeta × List CompactedBlockMeta} :
    p.tenantResult poll tenantID = .ok r ↔
      FirstSuccess (poll tenantID) (p.cfg.tolerateConsecutiveErrors.toNat + 1) r := by
  rw [tenantResult, pollWithRetries_eq hn]; exact retryLoop_eq_ok_iff

theorem tenantResult_toBool_eq_false_iff {tenantID : TenantID} :
    (p.tenantResult poll tenantID).toBool = false ↔
      FailsAll (poll tenantID) (p.cfg.tolerateConsecutiveErrors.toNat + 1) := by
  rw [tenantResult, pollWithRetries_eq hn]; exact retryLoop_toBool_eq_false_iff

theorem failures_eq_countP (finished : List TenantID) :
    p.failures poll finished = finished.countP fun T =>
      FailsAll (poll T) (p.cfg.tolerateConsecutiveErrors.toNat + 1) :=
  List.countP_congr fun T _ => by simp [← tenantResult_toBool_eq_false_iff hn]

/-- With `TolerateConsecutiveErrors` not negative, a tenant's goroutine makes at most
`TolerateConsecutiveErrors + 1` calls and stops at the first success, whose lists it
keeps; it ends with an error only when every one of those calls failed. -/
theorem pollWithRetries_spec (call : Nat → PollResult) :
    (p.pollWithRetries call).2 ≤ p.cfg.tolerateConsecutiveErrors.toNat + 1 ∧
    (∀ r, (p.pollWithRetries call).1 = .ok r → ∃ i, call i = .ok r ∧
      (∀ j < i, (call j).toBool = false) ∧ (p.pollWithRetries call).2 = i + 1) ∧
    (∀ e, (p.pollWithRetries call).1 = .error e →
      FailsAll call (p.cfg.tolerateConsecutiveErrors.toNat + 1)) := by
  rw [pollWithRetries_eq hn]
  rcases retryLoop_cases p.cfg.tolerateConsecutiveErrors.toNat call (.ok ([], [])) with
    ⟨i, hi, hok, hbefore, hrun⟩ | ⟨hfail, hrun⟩ <;> rw [hrun]
  · refine ⟨hi, fun r hr => ⟨i, hr, hbefore, rfl⟩, fun e he => ?_⟩
    simp [show call i = _ from he] at hok
  · refine ⟨le_refl _, fun r hr => ?_, fun _ _ => hfail⟩
    simpa [show call _ = _ from hr] using hfail _ (Nat.lt_succ_self _)

omit hn in
theorem pollWithRetries_spec_blockFound :
    ((oneTenantPoller 0 0).pollWithRetries (blockFound "t")).2 ≤
      (oneTenantPoller 0 0).cfg.tolerateConsecutiveErrors.toNat + 1 ∧
    (∀ r, ((oneTenantPoller 0 0).pollWithRetries (blockFound "t")).1 = .ok r → ∃ i,
      blockFound "t" i = .ok r ∧ (∀ j < i, (blockFound "t" j).toBool = false) ∧
      ((oneTenantPoller 0 0).pollWithRetries (blockFound "t")).2 = i + 1) ∧
    (∀ e, ((oneTenantPoller 0 0).pollWithRetries (blockFound "t")).1 = .error e →
      FailsAll (blockFound "t") ((oneTenantPoller 0 0).cfg.tolerateConsecutiveErrors.toNat + 1)) :=
  pollWithRetries_spec (by decide) (blockFound "t")

/-- The maps' entry for a finished tenant is the first success when it found a block,
and the previous lists when every attempt failed. -/
theorem entryAfter_eq_some {finished : List TenantID} {T : TenantID} {l : List BlockMeta}
    {c : List CompactedBlockMeta} :
    p.entryAfter previous poll finished T = some (l, c) ↔ T ∈ finished ∧
      ((FirstSuccess (poll T) (p.cfg.tolerateConsecutiveErrors.toNat + 1) (l, c) ∧
          (0 < l.length ∨ 0 < c.length)) ∨
        (FailsAll (poll T) (p.cfg.tolerateConsecutiveErrors.toNat + 1) ∧
          l = previous.Metas T ∧ c = previous.CompactedMetas T)) := by
  rw [← tenantResult_eq_ok_iff hn, ← tenantResult_toBool_eq_false_iff hn, entryAfter]
  by_cases hT : T ∈ finished
  · cases p.tenantResult poll T with
    | error e => simp [hT, eq_comm]
    | ok r =>
      obtain ⟨l', c'⟩ := r
      simp only [hT, if_true, true_and, Except.ok.injEq, toBool_ok, Bool.true_eq_false,
        false_and, or_false]
      split <;> rename_i hne <;> simp only [Option.some.injEq, Prod.mk.injEq, reduceCtorEq, false_iff]
      · constructor
        · rintro ⟨rfl, rfl⟩; exact ⟨⟨rfl, rfl⟩, hne⟩
        · rintro ⟨⟨rfl, rfl⟩, -⟩; exact ⟨rfl, rfl⟩
      · rintro ⟨⟨rfl, rfl⟩, hne'⟩; exact hne hne'
  · simp [hT]

end Tolerance

/-- An entry of the maps belongs to a finished tenant: the previous lists when its
retry loop failed, its lists when they hold a block. -/
theorem entryAfter_eq_some_cases {finished : List TenantID} {T : TenantID} {l : List BlockMeta}
    {c : List CompactedBlockMeta} (h : p.entryAfter previous poll finished T = some (l, c)) :
    T ∈ finished ∧ (((p.tenantResult poll T).toBool = false ∧ l = previous.Metas T ∧
      c = previous.CompactedMetas T) ∨ (p.tenantResult poll T = .ok (l, c) ∧
        (0 < l.length ∨ 0 < c.length))) := by
  unfold entryAfter at h
  split at h
  · refine ⟨‹_›, ?_⟩
    split at h
    · cases h; exact .inl ⟨by simp [*], rfl, rfl⟩
    · split at h
      · cases h; exact .inr ⟨‹_›, ‹_›⟩
      · cases h
  · cases h

/-- The entry of a finished tenant whose retry loop returned lists. -/
theorem entryAfter_of_ok {finished : List TenantID} {T : TenantID} {l : List BlockMeta}
    {c : List CompactedBlockMeta} (hT : T ∈ finished) (h : p.tenantResult poll T = .ok (l, c)) :
    p.entryAfter previous poll finished T =
      if l.length > 0 ∨ c.length > 0 then some (l, c) else none := by
  simp only [entryAfter, if_pos hT, h]

/-- The entry of a finished tenant whose retry loop failed: its previous lists. -/
theorem entryAfter_of_error {finished : List TenantID} {T : TenantID} {e : Error}
    (hT : T ∈ finished) (h : p.tenantResult poll T = .error e) :
    p.entryAfter previous poll finished T = some (previous.Metas T, previous.CompactedMetas T) := by
  simp only [entryAfter, if_pos hT, h]

/-- The lists the maps give a finished tenant whose retry loop returned lists: those
lists, also when both are empty and the tenant is left out. -/
theorem entryAfter_getD_of_ok {finished : List TenantID} {T : TenantID} {l : List BlockMeta}
    {c : List CompactedBlockMeta} (hT : T ∈ finished) (h : p.tenantResult poll T = .ok (l, c)) :
    ((p.entryAfter previous poll finished T).map Prod.fst).getD [] = l ∧
      ((p.entryAfter previous poll finished T).map Prod.snd).getD [] = c := by
  rw [entryAfter_of_ok hT h]
  split
  · exact ⟨rfl, rfl⟩
  · rename_i hne
    simp only [gt_iff_lt, List.length_pos, not_or, not_not] at hne
    exact ⟨hne.1.symm, hne.2.symm⟩

/-- A tenant's retry loop ends with the `nil` lists it started from or with one of its
calls' results. -/
theorem tenantResult_cases (T : TenantID) :
    p.tenantResult poll T = .ok ([], []) ∨ ∃ i, p.tenantResult poll T = poll T i :=
  retryLoop_result _ _ _

end Invariant

variable {p} {previous : Blocklist} {poll : TenantID → Nat → PollResult} {events : List CycleEvent}
  {tenants : List TenantID}

/-- A whole run of `Do` over a listing is a run of its admission loop after which both
`Wait()`s returned. -/
theorem Do_eq_some {r : Except Error (PerTenant × PerTenantCompacted)}
    (htenants : p.reader.tenants = .ok tenants) (h : p.Do previous poll events = some r) :
    ∃ c s, p.admission previous poll tenants events = some (c, s) ∧ s.Done ∧ r = cycleResult s := by
  simp only [Do, htenants] at h
  obtain ⟨⟨c, s⟩, hadm, hres⟩ := Option.bind_eq_some.mp h
  split at hres
  · exact ⟨c, s, hadm, ‹_›, (Option.some.inj hres).symm⟩
  · cases hres

/-- A cycle that returns its maps maps the finished tenants to their entries and
nothing else, whatever the budget and the number of tenants. -/
theorem Do_ok_maps {bl : PerTenant} {cbl : PerTenantCompacted}
    (htenants : p.reader.tenants = .ok tenants) (h : p.Do previous poll events = some (.ok (bl, cbl)))
    (T : TenantID) :
    bl T = (p.entryAfter previous poll (FanOut.finishedOf (loopEvents events)) T).map Prod.fst ∧
      cbl T = (p.entryAfter previous poll (FanOut.finishedOf (loopEvents events)) T).map Prod.snd := by
  obtain ⟨c, s, hadm, -, hres⟩ := Do_eq_some htenants h
  have hi := admission_inv hadm
  obtain ⟨-, -, rfl, rfl⟩ := cycleResult_eq_ok hres.symm
  exact ⟨hi.blocklist T, hi.compactedBlocklist T⟩

/-- A cycle over fewer than `2 ^ 31` tenants that returns its maps polled every listed
tenant. -/
theorem Do_ok_finished {bl : PerTenant} {cbl : PerTenantCompacted}
    (htenants : p.reader.tenants = .ok tenants) (hlen : tenants.length < 2 ^ 31)
    (h : p.Do previous poll events = some (.ok (bl, cbl))) :
    (FanOut.finishedOf (loopEvents events)).Perm tenants := by
  obtain ⟨c, s, hadm, hdone, hres⟩ := Do_eq_some htenants h
  exact ((admission_inv hadm).done_ok hdone hres.symm hlen).1

/-- A cycle polls only listed tenants. -/
theorem Do_finished_subperm {r : Except Error (PerTenant × PerTenantCompacted)}
    (htenants : p.reader.tenants = .ok tenants) (h : p.Do previous poll events = some r) :
    (FanOut.finishedOf (loopEvents events)).Subperm tenants := by
  obtain ⟨c, s, hadm, -, -⟩ := Do_eq_some htenants h
  exact (admission_inv hadm).dispatched.subperm

/-- A cycle that returns without error finished every listed tenant, had at most
`TolerateTenantFailures` of them fail all `TolerateConsecutiveErrors + 1` attempts, and
maps exactly the listed tenants with a block in their first success, to its lists, and
the failed ones, to their previous lists. Without a cancellation the cycle fails
exactly when more tenants than that fail. -/
theorem Do_spec {r : Except Error (PerTenant × PerTenantCompacted)}
    (htenants : p.reader.tenants = .ok tenants) (hlen : tenants.length < 2 ^ 31)
    (hn : 0 ≤ p.cfg.tolerateConsecutiveErrors) (hk : 0 ≤ p.cfg.tolerateTenantFailures)
    (hk' : p.cfg.tolerateTenantFailures ≤ 2 ^ 31 - 1) (h : p.Do previous poll events = some r) :
    (∀ bl cbl, r = .ok (bl, cbl) →
      (FanOut.finishedOf (loopEvents events)).Perm tenants ∧
      ((tenants.countP fun T => FailsAll (poll T) (p.cfg.tolerateConsecutiveErrors.toNat + 1) :
        Nat) : Int) ≤ p.cfg.tolerateTenantFailures ∧
      ∀ T, (bl T).isSome = (cbl T).isSome ∧ ∀ l c, (bl T = some l ∧ cbl T = some c ↔
        T ∈ tenants ∧
          ((FirstSuccess (poll T) (p.cfg.tolerateConsecutiveErrors.toNat + 1) (l, c) ∧
              (0 < l.length ∨ 0 < c.length)) ∨
            (FailsAll (poll T) (p.cfg.tolerateConsecutiveErrors.toNat + 1) ∧
              l = previous.Metas T ∧ c = previous.CompactedMetas T)))) ∧
    (CycleEvent.cancel ∉ events → ((∃ e, r = .error e) ↔ p.cfg.tolerateTenantFailures <
      ((tenants.countP fun T => FailsAll (poll T) (p.cfg.tolerateConsecutiveErrors.toNat + 1) :
        Nat) : Int))) := by
  obtain ⟨c, s, hadm, hdone, rfl⟩ := Do_eq_some htenants h
  have hi := admission_inv hadm
  have hkk : int32 p.cfg.tolerateTenantFailures = p.cfg.tolerateTenantFailures :=
    int32_eq_self (by omega) (by omega)
  refine ⟨fun bl cbl hres => ?_, fun hc => ⟨fun ⟨e, he⟩ => ?_, fun hlt => ?_⟩⟩
  · obtain ⟨hperm, hle, rfl, rfl⟩ := hi.done_ok hdone hres hlen
    rw [hkk] at hle
    refine ⟨hperm, by rwa [← hperm.countP_eq, ← failures_eq_countP hn], fun T => ?_⟩
    rw [hi.blocklist, hi.compactedBlocklist]
    refine ⟨by cases p.entryAfter previous poll _ T <;> rfl, fun l c => ?_⟩
    rw [← hperm.mem_iff, ← entryAfter_eq_some hn]
    cases p.entryAfter previous poll _ T with
    | none => simp
    | some lc => simp [Prod.ext_iff]
  · have hneg := cycleResult_eq_error he (admission_returning hadm hc)
    rw [hi.counter, hi.int32_budget (by omega) hlen (List.prefix_refl _), hkk,
      failures_eq_countP hn] at hneg
    have := hi.dispatched.subperm.countP_le fun T =>
      decide (FailsAll (poll T) (p.cfg.tolerateConsecutiveErrors.toNat + 1))
    omega
  · cases hres : cycleResult s with
    | error e => exact ⟨e, rfl⟩
    | ok m =>
      obtain ⟨hperm, hle, -, -⟩ := hi.done_ok hdone hres hlen
      rw [hkk, failures_eq_countP hn, hperm.countP_eq] at hle
      omega

theorem Do_spec_oneTenant :
    (oneTenantPoller 0 0).Do .empty blockFound oneTenantRun = some (.ok blockFoundMaps) ∧
    (∀ bl cbl, (.ok blockFoundMaps : Except Error (PerTenant × PerTenantCompacted)) = .ok (bl, cbl) →
      (FanOut.finishedOf (loopEvents oneTenantRun)).Perm ["t"] ∧
      ((["t"].countP fun T => FailsAll (blockFound T)
        ((oneTenantPoller 0 0).cfg.tolerateConsecutiveErrors.toNat + 1) : Nat) : Int) ≤
        (oneTenantPoller 0 0).cfg.tolerateTenantFailures ∧
      ∀ T, (bl T).isSome = (cbl T).isSome ∧ ∀ l c, (bl T = some l ∧ cbl T = some c ↔
        T ∈ ["t"] ∧
          ((FirstSuccess (blockFound T) ((oneTenantPoller 0 0).cfg.tolerateConsecutiveErrors.toNat + 1)
              (l, c) ∧ (0 < l.length ∨ 0 < c.length)) ∨
            (FailsAll (blockFound T) ((oneTenantPoller 0 0).cfg.tolerateConsecutiveErrors.toNat + 1) ∧
              l = Blocklist.empty.Metas T ∧ c = Blocklist.empty.CompactedMetas T)))) ∧
    (CycleEvent.cancel ∉ oneTenantRun →
      ((∃ e, (.ok blockFoundMaps : Except Error (PerTenant × PerTenantCompacted)) = .error e) ↔
        (oneTenantPoller 0 0).cfg.tolerateTenantFailures <
          ((["t"].countP fun T => FailsAll (blockFound T)
            ((oneTenantPoller 0 0).cfg.tolerateConsecutiveErrors.toNat + 1) : Nat) : Int))) :=
  have h : (oneTenantPoller 0 0).Do .empty blockFound oneTenantRun = some (.ok blockFoundMaps) := rfl
  ⟨h, Do_spec rfl (by decide) (by decide) (by decide) (by decide) h⟩

/-- With room for one goroutine, every started run of `Do` extends to a whole run,
whatever its calls return. -/
theorem Do_extends (hcap : 0 < p.cfg.tenantPollConcurrency)
    (htenants : p.reader.tenants = .ok tenants) {c : Bool} {s : FanOut TenantID Tally}
    (h : p.admission previous poll tenants events = some (c, s)) :
    ∃ events' r, p.Do previous poll (events ++ events') = some r := by
  obtain ⟨es, s', hrun, hdone⟩ : ∃ es s', FanOut.run p.cfg.tenantPollConcurrency (admissionExit c)
      (p.tenantTask previous poll) s es = some s' ∧ s'.Done := FanOut.exists_run_done hcap s
  have hadm : p.admission previous poll tenants (events ++ es.map .loop) = some (c, s') := by
    rw [admission, admissionRun_append]
    show (p.admission previous poll tenants events).bind _ = _
    simp [h, admissionRun_loop, hrun]
  exact ⟨es.map .loop, cycleResult s', by simp [Do, htenants, hadm, hdone]⟩

end Poller

end BlocklistPoller
