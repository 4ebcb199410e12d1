import BlocklistPoller.Runs

/-!
# Polling twice over an unchanged store

Two cycles of one instance over a store that changes only by the tenant index objects
the first cycle wrote, with empty-tenant deletion disabled, and every staleness check
reading the clock as one value. The route a call of `pollTenantAndCreateIndex` takes
(`Poller.route`: the pulled index, a poll of the tenant's blocks, or a failure) depends
on the store and that reading only, and over
listings that hold each id once and in one list only, every poll of the blocks returns
the same lists up to order (`pollTenantAndCreateIndex_resultPerm`). The second cycle
polls from what the first returned, which a poll of the blocks returns again
(`pollTenantBlocks_repoll`), so it returns the first cycle's lists up to order
(`Do_twice_perm`). A store listing a block both live and compacted, or one id twice,
breaks this (`Do_twice_differs`).
-/

namespace BlocklistPoller

namespace Poller

/-- The store state `p` with its tenant index objects replaced by `idx`. -/
def withTenantIndex (p : Poller) (idx : TenantID → Except Error TenantIndex) : Poller :=
  { p with reader := { p.reader with tenantIndex := idx } }

section WithTenantIndex

variable (p : Poller) (idx : TenantID → Except Error TenantIndex)

@[simp] theorem withTenantIndex_tenants : (p.withTenantIndex idx).reader.tenants = p.reader.tenants :=
  rfl

@[simp] theorem withTenantIndex_tenantIndex : (p.withTenantIndex idx).reader.tenantIndex = idx :=
  rfl

@[simp] theorem withTenantIndex_cfg : (p.withTenantIndex idx).cfg = p.cfg := rfl

@[simp] theorem withTenantIndex_sharder : (p.withTenantIndex idx).sharder = p.sharder := rfl

@[simp] theorem withTenantIndex_blocks : (p.withTenantIndex idx).reader.blocks = p.reader.blocks :=
  rfl

@[simp] theorem withTenantIndex_blockMeta :
    (p.withTenantIndex idx).reader.blockMeta = p.reader.blockMeta := rfl

@[simp] theorem withTenantIndex_compactor : (p.withTenantIndex idx).compactor = p.compactor := rfl

@[simp] theorem withTenantIndex_tenantIndexBuilder :
    (p.withTenantIndex idx).tenantIndexBuilder = p.tenantIndexBuilder := rfl

@[simp] theorem withTenantIndex_tenantIndexPollError :
    (p.withTenantIndex idx).tenantIndexPollError = p.tenantIndexPollError := rfl

/-- Polling a tenant's blocks never reads the tenant index. -/
@[simp] theorem withTenantIndex_pollTenantBlocks :
    (p.withTenantIndex idx).pollTenantBlocks = p.pollTenantBlocks := rfl

end WithTenantIndex

/-- How a call of `pollTenantAndCreateIndex` gets its lists. -/
inductive Route where
  /-- From the tenant index it pulled. -/
  | index (i : TenantIndex)
  /-- By polling the tenant's blocks, as builder or on fallback. -/
  | build
  /-- Not at all: the pull failed and there is no fallback. -/
  | fail (err : Error)

/-- The route a call of `pollTenantAndCreateIndex` takes when its staleness check reads
the clock as `now`, read off its branches: it depends on the store and that reading,
not on the previous list. -/
def route (p : Poller) (now : Int) (tenantID : TenantID) : Route :=
  if p.tenantIndexBuilder tenantID then .build
  else
    match p.tenantIndexPollError now (p.reader.tenantIndex tenantID) with
    | .ok i => .index i
    | .error err =>
      if !p.cfg.pollFallback then
        .fail (.wrap "failed to pull tenant index and no fallback configured" err)
      else .build

variable {p : Poller} {ck : CallClock} {tenantID : TenantID} {previous : Blocklist}
  {sched : Schedule} {res : PollResult} {calls : List WriterCall}

theorem pollTenantAndCreateIndex_route :
    p.pollTenantAndCreateIndex ck tenantID previous sched =
      match p.route ck.staleness tenantID with
      | .index i => some (.ok (i.meta, i.compactedMeta), [])
      | .build => pollTenantAndCreateIndex.build p ck tenantID previous sched
      | .fail err => some (.error err, []) := by
  unfold pollTenantAndCreateIndex route
  cases p.tenantIndexBuilder tenantID with
  | true => rfl
  | false =>
    cases p.tenantIndexPollError ck.staleness (p.reader.tenantIndex tenantID) with
    | ok i => rfl
    | error err => cases p.cfg.pollFallback <;> rfl

/-- Two results of calls agree up to the order of their lists: both failed, or both
returned lists that are permutations of each other. -/
def ResultPerm : PollResult → PollResult → Prop
  | .error _, .error _ => True
  | .ok (l, c), .ok (l', c') => l.Perm l' ∧ c.Perm c'
  | _, _ => False

theorem ResultPerm.refl : ∀ r : PollResult, ResultPerm r r
  | .error _ => trivial
  | .ok _ => ⟨.refl _, .refl _⟩

theorem ResultPerm.symm : ∀ {r r' : PollResult}, ResultPerm r r' → ResultPerm r' r
  | .error _, .error _, _ => trivial
  | .ok _, .ok _, h => ⟨h.1.symm, h.2.symm⟩

theorem ResultPerm.trans : ∀ {r r' r'' : PollResult}, ResultPerm r r' → ResultPerm r' r'' →
    ResultPerm r r''
  | .error _, .error _, .error _, _, _ => trivial
  | .ok _, .ok _, .ok _, h, h' => ⟨h.1.trans h'.1, h.2.trans h'.2⟩

theorem ResultPerm.of_ok {r : PollResult} {l : List BlockMeta} {c : List CompactedBlockMeta}
    (h : ResultPerm r (.ok (l, c))) : ∃ l' c', r = .ok (l', c') ∧ l'.Perm l ∧ c'.Perm c := by
  rcases r with _ | ⟨l', c'⟩
  · exact h.elim
  · exact ⟨l', c', rfl, h⟩

theorem ResultPerm.of_error {r : PollResult} {e : Error} (h : ResultPerm r (.error e)) :
    ∃ e', r = .error e' := by
  rcases r with e' | _
  · exact ⟨e', rfl⟩
  · exact h.elim

/-- Every call of `pollTenantAndCreateIndex` with empty-tenant deletion disabled: it
returns the pulled index and writes nothing, fails and writes nothing, or polls the
tenant's blocks, returns what that poll returned, and writes the index of its tenant
only with the lists of a successful poll. -/
theorem pollTenantAndCreateIndex_inv (hdel : p.cfg.emptyTenantDeletionEnabled = false)
    (h : p.pollTenantAndCreateIndex ck tenantID previous sched = some (res, calls)) :
    (∃ i, p.route ck.staleness tenantID = .index i ∧ res = .ok (i.meta, i.compactedMeta) ∧
      calls = []) ∨
    (∃ err, p.route ck.staleness tenantID = .fail err ∧ res = .error err ∧ calls = []) ∨
    (p.route ck.staleness tenantID = .build ∧ ∃ r₀, p.pollTenantBlocks tenantID previous sched = some r₀ ∧
      ResultPerm res r₀ ∧ ∀ T l c, .writeTenantIndex T l c ∈ calls → T = tenantID ∧ r₀ = .ok (l, c)) := by
  have hw : ∀ {r₀}, p.pollTenantBlocks tenantID previous sched = some r₀ →
      ∀ T l c, .writeTenantIndex T l c ∈ calls → T = tenantID ∧ r₀ = .ok (l, c) :=
    fun hp _ _ _ hw =>
      have hwr := pollTenantAndCreateIndex_writeTenantIndex h hw
      ⟨hwr.1, Option.some.inj (hp.symm.trans hwr.2)⟩
  rw [pollTenantAndCreateIndex_route] at h
  cases hr : p.route ck.staleness tenantID with
  | index i =>
    rw [hr] at h
    obtain ⟨rfl, rfl⟩ := Prod.mk.inj (Option.some.inj h).symm
    exact .inl ⟨i, rfl, rfl, rfl⟩
  | fail err =>
    rw [hr] at h
    obtain ⟨rfl, rfl⟩ := Prod.mk.inj (Option.some.inj h).symm
    exact .inr (.inl ⟨err, rfl, rfl, rfl⟩)
  | build =>
    rw [hr] at h
    refine .inr (.inr ⟨rfl, ?_⟩)
    rcases build_cases h with ⟨_, hp, rfl, -⟩ | ⟨l, c, hp, ⟨-, rfl, -⟩ | ⟨rfl, rfl, rfl, -⟩⟩
    · exact ⟨_, hp, trivial, hw hp⟩
    · exact ⟨_, hp, ResultPerm.refl _, hw hp⟩
    · rw [show p.deleteTenant ck.reaper tenantID = (none, []) by simp [deleteTenant, hdel]]
      exact ⟨_, hp, ResultPerm.refl _, hw hp⟩

/-- A call writes the index only of its own tenant, only on the route that polls the
tenant's blocks, with the lists that poll returned. -/
theorem pollTenantAndCreateIndex_write (hdel : p.cfg.emptyTenantDeletionEnabled = false)
    (h : p.pollTenantAndCreateIndex ck tenantID previous sched = some (res, calls))
    {T : TenantID} {l : List BlockMeta} {c : List CompactedBlockMeta}
    (hw : .writeTenantIndex T l c ∈ calls) :
    T = tenantID ∧ p.route ck.staleness tenantID = .build ∧
      p.pollTenantBlocks tenantID previous sched = some (.ok (l, c)) ∧ ResultPerm res (.ok (l, c)) := by
  rcases pollTenantAndCreateIndex_inv hdel h with ⟨-, -, -, rfl⟩ | ⟨-, -, -, rfl⟩ |
    ⟨hr, r₀, hp, hrp, hw'⟩
  · cases hw
  · cases hw
  · obtain ⟨rfl, rfl⟩ := hw' _ _ _ hw
    exact ⟨rfl, hr, hp, hrp⟩

section Determinism

variable {tenantID : TenantID}

/-- Listings of `tenantID` that hold each id once and in one list only. -/
def ListsOnce (p : Poller) (tenantID : TenantID) : Prop :=
  ∀ lv cp, p.reader.blocks tenantID = .ok (lv, cp) → lv.Nodup ∧ cp.Nodup ∧ ∀ k ∈ lv, k ∉ cp

variable {p : Poller} {ck₁ ck₂ : CallClock} {P Q : Blocklist} {s₁ s₂ : Schedule}

/-- `pollTenantBlocks` reads the previous list only for its tenant. -/
theorem pollTenantBlocks_congr (hM : P.Metas tenantID = Q.Metas tenantID)
    (hC : P.CompactedMetas tenantID = Q.CompactedMetas tenantID) :
    p.pollTenantBlocks tenantID P s₁ = p.pollTenantBlocks tenantID Q s₁ := by
  simp only [pollTenantBlocks, Blocklist.deltaFor, hM, hC]

/-- Over listings that hold each id once and in one list only, two runs of
`pollTenantBlocks` both fail or return the same lists up to order. -/
theorem pollTenantBlocks_resultPerm (hlists : p.ListsOnce tenantID) {r₁ r₂ : PollResult}
    (h₁ : p.pollTenantBlocks tenantID P s₁ = some r₁)
    (h₂ : p.pollTenantBlocks tenantID P s₂ = some r₂) : ResultPerm r₁ r₂ := by
  have he := (pollTenantBlocks_error_iff h₁).trans (pollTenantBlocks_error_iff h₂).symm
  rcases r₁ with e₁ | ⟨l₁, c₁⟩ <;> rcases r₂ with e₂ | ⟨l₂, c₂⟩
  · trivial
  · obtain ⟨e, he⟩ := he.mp ⟨e₁, rfl⟩; cases he
  · obtain ⟨e, he⟩ := he.mpr ⟨e₂, rfl⟩; cases he
  · obtain ⟨lv, cp, hb, -⟩ := pollTenantBlocks_ok h₁
    obtain ⟨hlv, hcp, hdisj⟩ := hlists lv cp hb
    obtain ⟨hl₁, hc₁⟩ := pollTenantBlocks_ok_perm hb hlv hcp hdisj h₁
    obtain ⟨hl₂, hc₂⟩ := pollTenantBlocks_ok_perm hb hlv hcp hdisj h₂
    exact ⟨hl₁.trans hl₂.symm, hc₁.trans hc₂.symm⟩

/-- Over such listings, two calls of `pollTenantAndCreateIndex` whose staleness checks
read the clock alike, from previous lists that agree on the tenant, both fail or return
the same lists up to order, whatever their goroutines did. -/
theorem pollTenantAndCreateIndex_resultPerm (hdel : p.cfg.emptyTenantDeletionEnabled = false)
    (hlists : p.ListsOnce tenantID) (hM : P.Metas tenantID = Q.Metas tenantID)
    (hC : P.CompactedMetas tenantID = Q.CompactedMetas tenantID) {r₁ r₂ : PollResult}
    {w₁ w₂ : List WriterCall} (hs : ck₁.staleness = ck₂.staleness)
    (h₁ : p.pollTenantAndCreateIndex ck₁ tenantID P s₁ = some (r₁, w₁))
    (h₂ : p.pollTenantAndCreateIndex ck₂ tenantID Q s₂ = some (r₂, w₂)) : ResultPerm r₁ r₂ := by
  rcases pollTenantAndCreateIndex_inv hdel h₁ with ⟨i, hr₁, rfl, -⟩ | ⟨e, hr₁, rfl, -⟩ |
    ⟨hr₁, r₀₁, hp₁, hrp₁, -⟩ <;>
  rcases pollTenantAndCreateIndex_inv hdel h₂ with ⟨j, hr₂, rfl, -⟩ | ⟨e', hr₂, rfl, -⟩ |
    ⟨hr₂, r₀₂, hp₂, hrp₂, -⟩ <;>
  rw [← hs, hr₁] at hr₂ <;> cases hr₂
  · exact ResultPerm.refl _
  · trivial
  · rw [← pollTenantBlocks_congr hM hC] at hp₂
    exact hrp₁.trans ((pollTenantBlocks_resultPerm hlists hp₁ hp₂).trans hrp₂.symm)

end Determinism

section Repoll

variable {p : Poller} {now : Int} {T : TenantID} {idx : TenantID → Except Error TenantIndex}

/-- With the tenant's index object unchanged, a call takes the same route. -/
theorem route_withTenantIndex_of_eq (h : idx T = p.reader.tenantIndex T) :
    (p.withTenantIndex idx).route now T = p.route now T := by
  simp only [route, withTenantIndex_tenantIndexBuilder, withTenantIndex_tenantIndexPollError,
    withTenantIndex_tenantIndex, withTenantIndex_cfg, h]

/-- A call that polled the tenant's blocks, after its index was rewritten at the same
clock, polls them again or returns the index written. -/
theorem route_withTenantIndex_written {l : List BlockMeta} {c : List CompactedBlockMeta}
    (hroute : p.route now T = .build) (hidx : idx T = .ok ⟨now, l, c⟩) :
    (p.withTenantIndex idx).route now T = .build ∨
      (p.withTenantIndex idx).route now T = .index ⟨now, l, c⟩ := by
  unfold route at hroute ⊢
  simp only [withTenantIndex_tenantIndexBuilder, withTenantIndex_tenantIndexPollError,
    withTenantIndex_tenantIndex, withTenantIndex_cfg, hidx]
  cases hb : p.tenantIndexBuilder T with
  | true => exact .inl rfl
  | false =>
    simp only [hb, Bool.false_eq_true, if_false] at hroute ⊢
    by_cases hf : p.cfg.pollFallback = true
    · simp only [tenantIndexPollError]
      split_ifs <;> simp_all
    · split at hroute <;> simp [hf] at hroute

variable {P Q : Blocklist} {s₁ s₂ : Schedule} {l : List BlockMeta} {c : List CompactedBlockMeta}
  {ck₁ ck₂ : CallClock}

/-- Over listings that hold each id once and in one list only, with metas that carry
the ids they are read for: a second call whose staleness check reads the clock as the
first's did, from a previous list that holds what a first call returned, over the store
with the tenant's index object left alone or rewritten, at that reading, by a call from
the first call's previous list, returns the same lists up to order. -/
theorem pollTenantAndCreateIndex_repoll (hdel : p.cfg.emptyTenantDeletionEnabled = false)
    (hlists : p.ListsOnce T) (hids : ∀ k m, p.reader.blockMeta k T = .ok m → m.blockID = k)
    (hcids : ∀ k cm, p.compactor.compactedBlockMeta k T = .ok cm → cm.blockID = k)
    (hs₁ : ck₁.staleness = now) (hs₂ : ck₂.staleness = now)
    {w₁ : List WriterCall} (h₁ : p.pollTenantAndCreateIndex ck₁ T P s₁ = some (.ok (l, c), w₁))
    (hQ : (Q.Metas T).Perm l) (hQc : (Q.CompactedMetas T).Perm c)
    (hidx : idx T = p.reader.tenantIndex T ∨ ∃ ck' : CallClock, ∃ s' r' w' l' c',
      ck'.staleness = now ∧ p.pollTenantAndCreateIndex ck' T P s' = some (r', w') ∧
        .writeTenantIndex T l' c' ∈ w' ∧ idx T = .ok ⟨now, l', c'⟩)
    {r₂ : PollResult} {w₂ : List WriterCall}
    (h₂ : (p.withTenantIndex idx).pollTenantAndCreateIndex ck₂ T Q s₂ = some (r₂, w₂)) :
    ResultPerm r₂ (.ok (l, c)) := by
  -- a poll of the blocks from `Q`, after one from `P` returned these lists up to order
  have hrepoll : ∀ {s' : Schedule} {l' c'}, p.pollTenantBlocks T P s' = some (.ok (l', c')) →
      l'.Perm l → c'.Perm c → ∀ {s r}, p.pollTenantBlocks T Q s = some r →
        ResultPerm r (.ok (l, c)) := by
    intro s' l' c' hp hl hc s r hr
    obtain ⟨lv, cp, hb, -⟩ := pollTenantBlocks_ok hp
    obtain ⟨hlv, hcp, hdisj⟩ := hlists lv cp hb
    obtain ⟨l₂, c₂, rfl, hl₂, hc₂⟩ := pollTenantBlocks_repoll hb hlv hcp hdisj hids hcids hp
      (hQ.trans hl.symm) (hQc.trans hc.symm) hr
    exact ⟨hl₂.trans hl, hc₂.trans hc⟩
  have hdel₂ : (p.withTenantIndex idx).cfg.emptyTenantDeletionEnabled = false := hdel
  rcases pollTenantAndCreateIndex_inv hdel h₁ with ⟨i, hr₁, hres₁, -⟩ | ⟨e, -, hres₁, -⟩ |
    ⟨hr₁, r₀₁, hp₁, hrp₁, -⟩
  · -- the first call returned the index it pulled
    rw [hs₁] at hr₁
    rcases hidx with hsame | ⟨ck', s', r', w', l', c', hs', hcall', hw', -⟩
    · rcases pollTenantAndCreateIndex_inv hdel₂ h₂ with ⟨j, hr₂, rfl, -⟩ | ⟨e, hr₂, -⟩ |
        ⟨hr₂, -⟩ <;> rw [hs₂, route_withTenantIndex_of_eq hsame, hr₁] at hr₂ <;> cases hr₂
      rw [hres₁]
      exact ResultPerm.refl _
    · rw [← hs', (pollTenantAndCreateIndex_write hdel hcall' hw').2.1] at hr₁
      cases hr₁
  · cases hres₁
  -- the first call polled the blocks
  rw [hs₁] at hr₁
  obtain ⟨l₁, c₁, rfl, hl₁, hc₁⟩ := hrp₁.symm.of_ok
  rcases hidx with hsame | ⟨ck', s', r', w', l', c', -, hcall', hw', hidx'⟩
  · rcases pollTenantAndCreateIndex_inv hdel₂ h₂ with ⟨j, hr₂, -⟩ | ⟨e, hr₂, -⟩ |
      ⟨-, r₀₂, hp₂, hrp₂, -⟩
    · rw [hs₂, route_withTenantIndex_of_eq hsame, hr₁] at hr₂; cases hr₂
    · rw [hs₂, route_withTenantIndex_of_eq hsame, hr₁] at hr₂; cases hr₂
    · exact hrp₂.trans (hrepoll hp₁ hl₁ hc₁ hp₂)
  · obtain ⟨-, -, hp', -⟩ := pollTenantAndCreateIndex_write hdel hcall' hw'
    obtain ⟨hl', hc'⟩ : l'.Perm l ∧ c'.Perm c :=
      (pollTenantBlocks_resultPerm hlists hp' hp₁).trans
        (show ResultPerm (.ok (l₁, c₁)) (.ok (l, c)) from ⟨hl₁, hc₁⟩)
    rcases pollTenantAndCreateIndex_inv hdel₂ h₂ with ⟨j, hr₂, rfl, -⟩ | ⟨e, hr₂, -⟩ |
      ⟨-, r₀₂, hp₂, hrp₂, -⟩
    · rcases route_withTenantIndex_written hr₁ hidx' with h | h <;> rw [← hs₂, hr₂] at h <;>
        cases h
      exact ⟨hl', hc'⟩
    · rcases route_withTenantIndex_written hr₁ hidx' with h | h <;> rw [← hs₂, hr₂] at h <;>
        cases h
    · exact hrp₂.trans (hrepoll hp' hl' hc' hp₂)

/-- With the tenant's index object unchanged, a call over the rewritten store, from a
previous list that agrees on the tenant, agrees up to order with a call over the first
store whose staleness check read the clock alike. -/
theorem pollTenantAndCreateIndex_withTenantIndex_resultPerm
    (hdel : p.cfg.emptyTenantDeletionEnabled = false) (hlists : p.ListsOnce T)
    (hsame : idx T = p.reader.tenantIndex T) (hM : P.Metas T = Q.Metas T)
    (hC : P.CompactedMetas T = Q.CompactedMetas T) {r₁ r₂ : PollResult} {w₁ w₂ : List WriterCall}
    (hs : ck₁.staleness = ck₂.staleness)
    (h₁ : p.pollTenantAndCreateIndex ck₁ T P s₁ = some (r₁, w₁))
    (h₂ : (p.withTenantIndex idx).pollTenantAndCreateIndex ck₂ T Q s₂ = some (r₂, w₂)) :
    ResultPerm r₂ r₁ := by
  have hdel₂ : (p.withTenantIndex idx).cfg.emptyTenantDeletionEnabled = false := hdel
  rcases pollTenantAndCreateIndex_inv hdel h₁ with ⟨i, hr₁, rfl, -⟩ | ⟨e, hr₁, rfl, -⟩ |
    ⟨hr₁, r₀₁, hp₁, hrp₁, -⟩ <;>
  rcases pollTenantAndCreateIndex_inv hdel₂ h₂ with ⟨j, hr₂, rfl, -⟩ | ⟨e', hr₂, rfl, -⟩ |
    ⟨hr₂, r₀₂, hp₂, hrp₂, -⟩ <;>
  rw [← hs, route_withTenantIndex_of_eq hsame, hr₁] at hr₂ <;> cases hr₂
  · exact ResultPerm.refl _
  · trivial
  · rw [withTenantIndex_pollTenantBlocks, ← pollTenantBlocks_congr hM hC] at hp₂
    exact hrp₂.trans ((pollTenantBlocks_resultPerm hlists hp₂ hp₁).trans hrp₁.symm)

end Repoll

section Retries

variable {p : Poller} {poll : TenantID → Nat → PollResult} {T : TenantID}

/-- With `TolerateConsecutiveErrors` negative the retry loop makes no call. -/
theorem tenantResult_of_neg (hn : p.cfg.tolerateConsecutiveErrors < 0) :
    p.tenantResult poll T = .ok ([], []) := by
  rw [tenantResult, pollWithRetries, show (p.cfg.tolerateConsecutiveErrors + 1).toNat = 0 by omega]
  rfl

/-- With `TolerateConsecutiveErrors` not negative, when every call for a tenant agrees
with the first up to order, the retry loop ends with the first call's result up to
order. -/
theorem tenantResult_resultPerm_first (hn : 0 ≤ p.cfg.tolerateConsecutiveErrors)
    (hall : ∀ i, ResultPerm (poll T i) (poll T 0)) :
    ResultPerm (p.tenantResult poll T) (poll T 0) := by
  cases h0 : poll T 0 with
  | ok r =>
    rw [(tenantResult_eq_ok_iff hn).mpr ⟨0, by omega, h0, fun j hj => absurd hj (Nat.not_lt_zero j)⟩]
    exact ResultPerm.refl _
  | error e =>
    have hfail : (p.tenantResult poll T).toBool = false :=
      (tenantResult_toBool_eq_false_iff hn).mpr fun i _ => by
        obtain ⟨e', he'⟩ := (h0 ▸ hall i : ResultPerm (poll T i) (.error e)).of_error
        rw [he']; rfl
    cases hr : p.tenantResult poll T with
    | error => trivial
    | ok => rw [hr] at hfail; cases hfail

end Retries

/-- The two-cycle law of an instance, used for the two cycles and for every further
cycle of a run. -/
theorem Do_repoll_perm {p : Poller} {idx : TenantID → Except Error TenantIndex} {now : Int}
    {tenants : List TenantID} {P₀ : Blocklist} {poll₁ poll₂ : TenantID → Nat → PollResult}
    {clock₁ clock₂ : TenantID → Nat → CallClock}
    {writes₁ writes₂ : TenantID → Nat → List WriterCall} {events₁ events₂ : List CycleEvent}
    {bl₁ bl₂ : PerTenant} {cbl₁ cbl₂ : PerTenantCompacted}
    (hdel : p.cfg.emptyTenantDeletionEnabled = false)
    (htenants : p.reader.tenants = .ok tenants) (hlen : tenants.length < 2 ^ 31)
    (hwf : p.WellFormedStore)
    (hdisj : ∀ T lv cp, p.reader.blocks T = .ok (lv, cp) → ∀ k ∈ lv, k ∉ cp)
    (hclock₁ : ∀ T i, (clock₁ T i).staleness = now) (hclock₂ : ∀ T i, (clock₂ T i).staleness = now)
    (hreal₁ : p.Realises (constStore p) clock₁ writes₁ P₀ poll₁)
    (h₁ : p.Do P₀ poll₁ events₁ = some (.ok (bl₁, cbl₁)))
    (hidx : ∀ T, idx T = p.reader.tenantIndex T ∨
      ∃ U ∈ tenants, ∃ i l c, .writeTenantIndex T l c ∈ writes₁ U i ∧ idx T = .ok ⟨now, l, c⟩)
    (hreal₂ : (p.withTenantIndex idx).Realises (constStore (p.withTenantIndex idx)) clock₂
      writes₂ ⟨bl₁, cbl₁⟩ poll₂)
    (h₂ : (p.withTenantIndex idx).Do ⟨bl₁, cbl₁⟩ poll₂ events₂ = some (.ok (bl₂, cbl₂)))
    (T : TenantID) :
    (bl₂ T).isSome = (bl₁ T).isSome ∧ (cbl₂ T).isSome = (cbl₁ T).isSome ∧
      ((bl₂ T).getD []).Perm ((bl₁ T).getD []) ∧ ((cbl₂ T).getD []).Perm ((cbl₁ T).getD []) := by
  have htenants₂ : (p.withTenantIndex idx).reader.tenants = .ok tenants := htenants
  have hF₁ := Do_ok_finished htenants hlen h₁
  have hF₂ := Do_ok_finished htenants₂ hlen h₂
  obtain ⟨hbl₁, hcbl₁⟩ := Do_ok_maps htenants h₁ T
  obtain ⟨hbl₂, hcbl₂⟩ := Do_ok_maps htenants₂ h₂ T
  by_cases hT : T ∈ tenants
  swap
  · simp [hbl₁, hcbl₁, hbl₂, hcbl₂, entryAfter, hF₁.mem_iff, hF₂.mem_iff, hT]
  have hlists : p.ListsOnce T := fun lv cp hb =>
    ⟨(hwf.listings T lv cp hb).1, (hwf.listings T lv cp hb).2, hdisj T lv cp hb⟩
  have hcalls₁ : ∀ i, ∃ s,
      p.pollTenantAndCreateIndex (clock₁ T i) T P₀ s = some (poll₁ T i, writes₁ T i) :=
    fun i => (hreal₁ tenants htenants T hT i).2.2
  have hcalls₂ : ∀ j, ∃ s,
      (p.withTenantIndex idx).pollTenantAndCreateIndex (clock₂ T j) T ⟨bl₁, cbl₁⟩ s =
        some (poll₂ T j, writes₂ T j) :=
    fun j => (hreal₂ tenants htenants₂ T hT j).2.2
  -- the two retry loops of `T` end alike, up to order
  have hrel : ResultPerm ((p.withTenantIndex idx).tenantResult poll₂ T) (p.tenantResult poll₁ T) := by
    rcases lt_or_le p.cfg.tolerateConsecutiveErrors 0 with hn | hn
    · rw [tenantResult_of_neg hn, @tenantResult_of_neg (p.withTenantIndex idx) poll₂ T hn]
      exact ResultPerm.refl _
    have hall₁ : ∀ i, ResultPerm (poll₁ T i) (poll₁ T 0) := fun i => by
      obtain ⟨s, hs⟩ := hcalls₁ i
      obtain ⟨s₀, hs₀⟩ := hcalls₁ 0
      exact pollTenantAndCreateIndex_resultPerm hdel hlists rfl rfl
        ((hclock₁ T i).trans (hclock₁ T 0).symm) hs hs₀
    have hr₁ := tenantResult_resultPerm_first hn hall₁
    -- every call of the second cycle agrees with the first call of the first
    have hall₂ : ∀ j, ResultPerm (poll₂ T j) (poll₁ T 0) := by
      intro j
      obtain ⟨s, hs⟩ := hcalls₂ j
      obtain ⟨s₀, hs₀⟩ := hcalls₁ 0
      cases h0 : poll₁ T 0 with
      | ok lc =>
        obtain ⟨l, c⟩ := lc
        rw [h0] at hs₀ hr₁
        obtain ⟨l', c', hR₁, hl', hc'⟩ := hr₁.of_ok
        have hlists₁ : Blocklist.Metas ⟨bl₁, cbl₁⟩ T = l' ∧
            Blocklist.CompactedMetas ⟨bl₁, cbl₁⟩ T = c' := by
          show (bl₁ T).getD [] = l' ∧ (cbl₁ T).getD [] = c'
          rw [hbl₁, hcbl₁]
          exact entryAfter_getD_of_ok (hF₁.mem_iff.mpr hT) hR₁
        refine pollTenantAndCreateIndex_repoll hdel hlists (fun k m => hwf.blockIDs k T m)
          (fun k cm => hwf.compactedBlockIDs k T cm) (hclock₁ T 0) (hclock₂ T j) hs₀
          (hlists₁.1 ▸ hl') (hlists₁.2 ▸ hc') ?_ hs
        rcases hidx T with hsame | ⟨U, hU, i, l'', c'', hw, hidxT⟩
        · exact .inl hsame
        · obtain ⟨s', hs'⟩ := (hreal₁ tenants htenants U hU i).2.2
          obtain ⟨rfl, -⟩ := pollTenantAndCreateIndex_write hdel hs' hw
          exact .inr ⟨clock₁ T i, s', _, _, l'', c'', hclock₁ T i, hs', hw, hidxT⟩
      | error e =>
        rw [h0] at hs₀ hr₁ hall₁
        obtain ⟨e₁, hR₁⟩ := hr₁.of_error
        have hprev : P₀.Metas T = Blocklist.Metas ⟨bl₁, cbl₁⟩ T ∧
            P₀.CompactedMetas T = Blocklist.CompactedMetas ⟨bl₁, cbl₁⟩ T := by
          simp [Blocklist.Metas, Blocklist.CompactedMetas, hbl₁, hcbl₁,
            entryAfter_of_error (hF₁.mem_iff.mpr hT) hR₁]
        -- no call of the first cycle rewrote `T`'s index: every one of them failed
        have hsame : idx T = p.reader.tenantIndex T := by
          rcases hidx T with hsame | ⟨U, hU, i, l'', c'', hw, -⟩
          · exact hsame
          obtain ⟨s', hs'⟩ := (hreal₁ tenants htenants U hU i).2.2
          obtain ⟨rfl, -, -, hrp⟩ := pollTenantAndCreateIndex_write hdel hs' hw
          obtain ⟨e', he'⟩ := (hall₁ i).of_error
          rw [he'] at hrp
          exact hrp.elim
        exact pollTenantAndCreateIndex_withTenantIndex_resultPerm hdel hlists hsame hprev.1 hprev.2
          ((hclock₁ T 0).trans (hclock₂ T j).symm) hs₀ hs
    have hn₂ : 0 ≤ (p.withTenantIndex idx).cfg.tolerateConsecutiveErrors := hn
    exact ((tenantResult_resultPerm_first hn₂ fun j => (hall₂ j).trans (hall₂ 0).symm).trans
      (hall₂ 0)).trans hr₁.symm
  -- the entries the two cycles record for `T`
  have hT₁ := hF₁.mem_iff.mpr hT
  have hT₂ := hF₂.mem_iff.mpr hT
  rcases hR₁ : p.tenantResult poll₁ T with e₁ | ⟨l, c⟩ <;>
    rcases hR₂ : (p.withTenantIndex idx).tenantResult poll₂ T with e₂ | ⟨l', c'⟩ <;>
    rw [hR₁, hR₂] at hrel
  · simp [hbl₁, hcbl₁, hbl₂, hcbl₂, entryAfter_of_error hT₁ hR₁, entryAfter_of_error hT₂ hR₂,
      Blocklist.Metas, Blocklist.CompactedMetas]
  · exact hrel.elim
  · exact hrel.elim
  · obtain ⟨hl, hc⟩ := hrel
    rw [hbl₁, hcbl₁, hbl₂, hcbl₂, entryAfter_of_ok hT₁ hR₁, entryAfter_of_ok hT₂ hR₂,
      hl.length_eq, hc.length_eq]
    split
    · exact ⟨rfl, rfl, hl, hc⟩
    · exact ⟨rfl, rfl, .nil, .nil⟩

/-- Two cycles of an instance over a store with duplicate-free, disjoint listings and
metas that carry the ids they are read for, with empty-tenant deletion disabled and
fewer than `2 ^ 31` tenants, every staleness check of their calls reading the clock as
`now`. Between the cycles the store changes only by index objects the first cycle's
calls wrote, created at `now`. If both cycles return their maps, the second polling from
what the first returned, the second maps the same tenants to the same lists up to
order. -/
theorem Do_twice_perm {p : Poller} {idx : TenantID → Except Error TenantIndex} {now : Int}
    {tenants : List TenantID} {P₀ : Blocklist} {poll₁ poll₂ : TenantID → Nat → PollResult}
    {clock₁ clock₂ : TenantID → Nat → CallClock}
    {writes₁ writes₂ : TenantID → Nat → List WriterCall} {events₁ events₂ : List CycleEvent}
    {bl₁ bl₂ : PerTenant} {cbl₁ cbl₂ : PerTenantCompacted}
    (hdel : p.cfg.emptyTenantDeletionEnabled = false)
    (htenants : p.reader.tenants = .ok tenants) (hlen : tenants.length < 2 ^ 31)
    (hwf : p.WellFormedStore)
    (hdisj : ∀ T lv cp, p.reader.blocks T = .ok (lv, cp) → ∀ k ∈ lv, k ∉ cp)
    (hclock₁ : ∀ T i, (clock₁ T i).staleness = now) (hclock₂ : ∀ T i, (clock₂ T i).staleness = now)
    (hreal₁ : p.Realises (constStore p) clock₁ writes₁ P₀ poll₁)
    (h₁ : p.Do P₀ poll₁ events₁ = some (.ok (bl₁, cbl₁)))
    (hidx : ∀ T, idx T = p.reader.tenantIndex T ∨
      ∃ U ∈ tenants, ∃ i l c, .writeTenantIndex T l c ∈ writes₁ U i ∧ idx T = .ok ⟨now, l, c⟩)
    (hreal₂ : (p.withTenantIndex idx).Realises (constStore (p.withTenantIndex idx)) clock₂
      writes₂ ⟨bl₁, cbl₁⟩ poll₂)
    (h₂ : (p.withTenantIndex idx).Do ⟨bl₁, cbl₁⟩ poll₂ events₂ = some (.ok (bl₂, cbl₂)))
    (T : TenantID) :
    (bl₂ T).isSome = (bl₁ T).isSome ∧ (cbl₂ T).isSome = (cbl₁ T).isSome ∧
      ((bl₂ T).getD []).Perm ((bl₁ T).getD []) ∧ ((cbl₂ T).getD []).Perm ((cbl₁ T).getD []) :=
  Do_repoll_perm hdel htenants hlen hwf hdisj hclock₁ hclock₂ hreal₁ h₁ hidx hreal₂ h₂ T

/-- The store state of `oneBlockPoller`, well formed: its one listing holds block `1`
once, and its meta reads carry the id read. -/
theorem oneBlockPoller_wellFormedStore : oneBlockPoller.WellFormedStore :=
  ⟨fun _ _ _ h => by cases h; decide, fun _ _ _ h => by cases h; rfl, fun _ _ _ h => by cases h⟩

theorem Do_twice_perm_oneBlock :
    oneBlockPoller.cfg.emptyTenantDeletionEnabled = false ∧
    oneBlockPoller.reader.tenants = .ok ["t"] ∧ ["t"].length < 2 ^ 31 ∧
    oneBlockPoller.WellFormedStore ∧
    (∀ T lv cp, oneBlockPoller.reader.blocks T = .ok (lv, cp) → ∀ k ∈ lv, k ∉ cp) ∧
    oneBlockPoller.Realises (constStore oneBlockPoller) (fun _ _ => .fixed 0) blockFoundWrites .empty
      blockFound ∧
    oneBlockPoller.Do .empty blockFound oneTenantRun = some (.ok blockFoundMaps) ∧
    (oneBlockPoller.withTenantIndex oneBlockPoller.reader.tenantIndex).Realises
      (constStore (oneBlockPoller.withTenantIndex oneBlockPoller.reader.tenantIndex))
      (fun _ _ => .fixed 0) blockFoundWrites ⟨blockFoundMaps.1, blockFoundMaps.2⟩ blockFound ∧
    (oneBlockPoller.withTenantIndex oneBlockPoller.reader.tenantIndex).Do
      ⟨blockFoundMaps.1, blockFoundMaps.2⟩ blockFound oneTenantRun = some (.ok blockFoundMaps) ∧
    ((blockFoundMaps.1 "t").isSome = (blockFoundMaps.1 "t").isSome ∧
      (blockFoundMaps.2 "t").isSome = (blockFoundMaps.2 "t").isSome ∧
      ((blockFoundMaps.1 "t").getD []).Perm ((blockFoundMaps.1 "t").getD []) ∧
      ((blockFoundMaps.2 "t").getD []).Perm ((blockFoundMaps.2 "t").getD [])) :=
  have hdisj : ∀ T lv cp, oneBlockPoller.reader.blocks T = .ok (lv, cp) → ∀ k ∈ lv, k ∉ cp :=
    fun _ _ _ h => by cases h; simp
  have hreal₁ : oneBlockPoller.Realises (constStore oneBlockPoller) (fun _ _ => .fixed 0)
      blockFoundWrites .empty blockFound :=
    realises_of_tenants_t rfl fun _ => ⟨rfl, rfl, oneBlockSchedule, rfl⟩
  have h₁ : oneBlockPoller.Do .empty blockFound oneTenantRun = some (.ok blockFoundMaps) := rfl
  have hreal₂ : (oneBlockPoller.withTenantIndex oneBlockPoller.reader.tenantIndex).Realises
      (constStore (oneBlockPoller.withTenantIndex oneBlockPoller.reader.tenantIndex))
      (fun _ _ => .fixed 0) blockFoundWrites ⟨blockFoundMaps.1, blockFoundMaps.2⟩ blockFound :=
    realises_of_tenants_t rfl fun _ => ⟨rfl, rfl, nothingUnknown, rfl⟩
  have h₂ : (oneBlockPoller.withTenantIndex oneBlockPoller.reader.tenantIndex).Do
      ⟨blockFoundMaps.1, blockFoundMaps.2⟩ blockFound oneTenantRun = some (.ok blockFoundMaps) := rfl
  ⟨rfl, rfl, by decide, oneBlockPoller_wellFormedStore, hdisj, hreal₁, h₁, hreal₂, h₂,
    Do_twice_perm rfl rfl (by decide) oneBlockPoller_wellFormedStore hdisj (fun _ _ => rfl)
      (fun _ _ => rfl) hreal₁ h₁ (fun _ => .inl rfl) hreal₂ h₂ "t"⟩

/-- What each call for `t` returns over `bothListedPoller` from the empty list: block `1`
read as compacted only. -/
def compactedFound : TenantID → Nat → PollResult := fun _ _ => .ok ([], [⟨⟨1, 1, 1⟩, 7⟩])

/-- The maps of a cycle that found block `1` for `t` as compacted only. -/
def compactedFoundMaps : PerTenant × PerTenantCompacted :=
  (Function.update (fun _ => none) "t" (some []),
    Function.update (fun _ => none) "t" (some [⟨⟨1, 1, 1⟩, 7⟩]))

/-- A store state listing block `1` twice as live. -/
def twiceListedPoller : Poller :=
  { oneBlockPoller with reader := { oneBlockPoller.reader with blocks := fun _ => .ok ([1, 1], []) } }

/-- What each call for `t` returns over `twiceListedPoller` after a cycle that found
block `1`: its meta carried once per listing. -/
def blockFoundTwice : TenantID → Nat → PollResult := fun _ _ => .ok ([⟨1, 1, 1⟩, ⟨1, 1, 1⟩], [])

/-- The maps of a cycle that found block `1` for `t` twice. -/
def blockFoundTwiceMaps : PerTenant × PerTenantCompacted :=
  (Function.update (fun _ => none) "t" (some [⟨1, 1, 1⟩, ⟨1, 1, 1⟩]),
    Function.update (fun _ => none) "t" (some []))

/-- Polling twice over an unchanged store changes the lists when the store lists a block
both live and compacted: the first cycle reads it as compacted only, the second, which
knows it as compacted, reads it as live too. It changes them too when the store lists a
block twice: the first cycle reads it once, the second carries it once per listing. -/
theorem Do_twice_differs :
    (bothListedPoller.reader.blocks "t" = .ok ([1], [1]) ∧
      bothListedPoller.Realises (constStore bothListedPoller) (fun _ _ => .fixed 0)
        (fun T _ => [.writeTenantIndex T [] [⟨⟨1, 1, 1⟩, 7⟩]]) .empty compactedFound ∧
      bothListedPoller.Do .empty compactedFound oneTenantRun = some (.ok compactedFoundMaps) ∧
      bothListedPoller.Realises (constStore bothListedPoller) (fun _ _ => .fixed 0)
        (fun T _ => [.writeTenantIndex T [⟨1, 1, 1⟩] [⟨⟨1, 1, 1⟩, 7⟩]])
        ⟨compactedFoundMaps.1, compactedFoundMaps.2⟩ bothFound ∧
      bothListedPoller.Do ⟨compactedFoundMaps.1, compactedFoundMaps.2⟩ bothFound oneTenantRun =
        some (.ok bothFoundMaps) ∧
      ¬ ((bothFoundMaps.1 "t").getD []).Perm ((compactedFoundMaps.1 "t").getD [])) ∧
    (twiceListedPoller.reader.blocks "t" = .ok ([1, 1], []) ∧
      twiceListedPoller.Realises (constStore twiceListedPoller) (fun _ _ => .fixed 0) blockFoundWrites
        .empty blockFound ∧
      twiceListedPoller.Do .empty blockFound oneTenantRun = some (.ok blockFoundMaps) ∧
      twiceListedPoller.Realises (constStore twiceListedPoller) (fun _ _ => .fixed 0)
        (fun T _ => [.writeTenantIndex T [⟨1, 1, 1⟩, ⟨1, 1, 1⟩] []])
        ⟨blockFoundMaps.1, blockFoundMaps.2⟩ blockFoundTwice ∧
      twiceListedPoller.Do ⟨blockFoundMaps.1, blockFoundMaps.2⟩ blockFoundTwice oneTenantRun =
        some (.ok blockFoundTwiceMaps) ∧
      ¬ ((blockFoundTwiceMaps.1 "t").getD []).Perm ((blockFoundMaps.1 "t").getD [])) :=
  ⟨⟨rfl, realises_of_tenants_t rfl fun _ => ⟨rfl, rfl, oneCompactedSchedule, rfl⟩, rfl,
      realises_of_tenants_t rfl fun _ => ⟨rfl, rfl, oneBlockSchedule, rfl⟩, rfl,
      by decide⟩,
    ⟨rfl, realises_of_tenants_t rfl fun _ => ⟨rfl, rfl, oneBlockSchedule, rfl⟩, rfl,
      realises_of_tenants_t rfl fun _ => ⟨rfl, rfl, nothingUnknown, rfl⟩, rfl,
      by decide⟩⟩

/-! ## Any number of cycles -/

@[simp] theorem withTenantIndex_withTenantIndex (p : Poller)
    (idx idx' : TenantID → Except Error TenantIndex) :
    (p.withTenantIndex idx).withTenantIndex idx' = p.withTenantIndex idx' := rfl

theorem WellFormedStore.withTenantIndex {p : Poller} (hwf : p.WellFormedStore)
    (idx : TenantID → Except Error TenantIndex) : (p.withTenantIndex idx).WellFormedStore :=
  ⟨hwf.listings, hwf.blockIDs, hwf.compactedBlockIDs⟩

/-- A successful cycle of the instance of `p`, every staleness check of its calls
reading the clock as `now`, over the store with the index objects `idx`: from
`previous` it returned the lists of `P`, and its calls issued `writes`. -/
def CycleOver (p : Poller) (now : Int) (idx : TenantID → Except Error TenantIndex)
    (previous P : Blocklist) (writes : TenantID → Nat → List WriterCall) : Prop :=
  ∃ clock poll events, (∀ T i, (clock T i).staleness = now) ∧
    (p.withTenantIndex idx).Realises (constStore (p.withTenantIndex idx)) clock writes previous
      poll ∧
    (p.withTenantIndex idx).Do previous poll events = some (.ok (P.metas, P.compactedMetas))

/-- Successive cycles of one instance, every staleness check reading the clock as `now`,
over a store that changes only by the index objects its own calls write, created at
`now`, `tenants` the listing: the first cycle returned
`first`, and `Repolls idx P writes` holds when the last cycle ran over the index objects
`idx`, returned `P` and issued `writes`. -/
inductive Repolls (p : Poller) (now : Int) (tenants : List TenantID) (first : Blocklist) :
    (TenantID → Except Error TenantIndex) → Blocklist → (TenantID → Nat → List WriterCall) → Prop
  /-- The first cycle, over the store as it is. -/
  | first {P₀ : Blocklist} {writes : TenantID → Nat → List WriterCall} :
      CycleOver p now p.reader.tenantIndex P₀ first writes →
      Repolls p now tenants first p.reader.tenantIndex first writes
  /-- A further cycle, from the lists the last one returned, over the index objects it
  left: each tenant's object as it was, or rewritten by one of its calls. -/
  | next {idx idx' : TenantID → Except Error TenantIndex} {P P' : Blocklist}
      {writes writes' : TenantID → Nat → List WriterCall} :
      Repolls p now tenants first idx P writes →
      (∀ T, idx' T = idx T ∨ ∃ U ∈ tenants, ∃ i l c,
        .writeTenantIndex T l c ∈ writes U i ∧ idx' T = .ok ⟨now, l, c⟩) →
      CycleOver p now idx' P P' writes' → Repolls p now tenants first idx' P' writes'

section Repolls

variable {p : Poller} {now : Int} {tenants : List TenantID} {first : Blocklist}
  {idx : TenantID → Except Error TenantIndex} {P : Blocklist}
  {writes : TenantID → Nat → List WriterCall}

/-- The last cycle of a run is a cycle over its index objects. -/
theorem Repolls.cycleOver (h : Repolls p now tenants first idx P writes) :
    ∃ P₀, CycleOver p now idx P₀ P writes := by
  cases h with
  | first h => exact ⟨_, h⟩
  | next _ _ h => exact ⟨_, h⟩

/-- Over a store with duplicate-free, disjoint listings and metas that carry the ids
they are read for, with empty-tenant deletion disabled and fewer than `2 ^ 31` tenants:
every cycle of a run over the store changed only by the instance's own index writes
maps the same tenants as the first cycle, to the same lists up to order. -/
theorem Repolls.perm_first (hdel : p.cfg.emptyTenantDeletionEnabled = false)
    (htenants : p.reader.tenants = .ok tenants) (hlen : tenants.length < 2 ^ 31)
    (hwf : p.WellFormedStore) (hdisj : p.DisjointListings)
    (h : Repolls p now tenants first idx P writes) (T : TenantID) :
    (P.metas T).isSome = (first.metas T).isSome ∧
      (P.compactedMetas T).isSome = (first.compactedMetas T).isSome ∧
      ((P.metas T).getD []).Perm ((first.metas T).getD []) ∧
      ((P.compactedMetas T).getD []).Perm ((first.compactedMetas T).getD []) := by
  induction h with
  | first => exact ⟨rfl, rfl, .refl _, .refl _⟩
  | @next idx idx' P P' writes writes' hrun hidx hcycle ih =>
    obtain ⟨P₀, clock₁, poll₁, events₁, hclock₁, hreal₁, h₁⟩ := hrun.cycleOver
    obtain ⟨clock₂, poll₂, events₂, hclock₂, hreal₂, h₂⟩ := hcycle
    -- the two-cycle law between the last two cycles, over the store of the first of them
    have hdel' : (p.withTenantIndex idx).cfg.emptyTenantDeletionEnabled = false := hdel
    have htenants' : (p.withTenantIndex idx).reader.tenants = .ok tenants := htenants
    have hdisj' : ∀ T lv cp, (p.withTenantIndex idx).reader.blocks T = .ok (lv, cp) →
        ∀ k ∈ lv, k ∉ cp := hdisj
    have hidx' : ∀ T, idx' T = (p.withTenantIndex idx).reader.tenantIndex T ∨
        ∃ U ∈ tenants, ∃ i l c, .writeTenantIndex T l c ∈ writes U i ∧ idx' T = .ok ⟨now, l, c⟩ :=
      hidx
    have hreal₂' : ((p.withTenantIndex idx).withTenantIndex idx').Realises
        (constStore ((p.withTenantIndex idx).withTenantIndex idx')) clock₂ writes'
        ⟨P.metas, P.compactedMetas⟩ poll₂ := hreal₂
    have h₂' : ((p.withTenantIndex idx).withTenantIndex idx').Do ⟨P.metas, P.compactedMetas⟩ poll₂
        events₂ = some (.ok (P'.metas, P'.compactedMetas)) := h₂
    have hstep := Do_repoll_perm hdel' htenants' hlen (hwf.withTenantIndex idx) hdisj' hclock₁
      hclock₂ hreal₁ h₁ hidx' hreal₂' h₂' T
    exact ⟨hstep.1.trans ih.1, hstep.2.1.trans ih.2.1, hstep.2.2.1.trans ih.2.2.1,
      hstep.2.2.2.trans ih.2.2.2⟩

end Repolls

/-- The first cycle of `oneBlockPoller` from the empty list, which finds block `1`. -/
theorem oneBlockPoller_cycleOver_empty :
    CycleOver oneBlockPoller 0 oneBlockPoller.reader.tenantIndex .empty
      ⟨blockFoundMaps.1, blockFoundMaps.2⟩ blockFoundWrites :=
  ⟨fun _ _ => .fixed 0, blockFound, oneTenantRun, fun _ _ => rfl,
    realises_of_tenants_t rfl fun _ => ⟨rfl, rfl, oneBlockSchedule, rfl⟩, rfl⟩

theorem Repolls.perm_first_oneBlock :
    oneBlockPoller.cfg.emptyTenantDeletionEnabled = false ∧
    oneBlockPoller.reader.tenants = .ok ["t"] ∧ ["t"].length < 2 ^ 31 ∧
    oneBlockPoller.WellFormedStore ∧ oneBlockPoller.DisjointListings ∧
    Repolls oneBlockPoller 0 ["t"] ⟨blockFoundMaps.1, blockFoundMaps.2⟩
      oneBlockPoller.reader.tenantIndex ⟨blockFoundMaps.1, blockFoundMaps.2⟩ blockFoundWrites ∧
    ((blockFoundMaps.1 "t").isSome = (blockFoundMaps.1 "t").isSome ∧
      (blockFoundMaps.2 "t").isSome = (blockFoundMaps.2 "t").isSome ∧
      ((blockFoundMaps.1 "t").getD []).Perm ((blockFoundMaps.1 "t").getD []) ∧
      ((blockFoundMaps.2 "t").getD []).Perm ((blockFoundMaps.2 "t").getD [])) :=
  have hdisj : oneBlockPoller.DisjointListings := fun _ _ _ h => by cases h; simp
  have hsecond : CycleOver oneBlockPoller 0 oneBlockPoller.reader.tenantIndex
      ⟨blockFoundMaps.1, blockFoundMaps.2⟩ ⟨blockFoundMaps.1, blockFoundMaps.2⟩ blockFoundWrites :=
    ⟨fun _ _ => .fixed 0, blockFound, oneTenantRun, fun _ _ => rfl,
      realises_of_tenants_t rfl fun _ => ⟨rfl, rfl, nothingUnknown, rfl⟩, rfl⟩
  have hrun : Repolls oneBlockPoller 0 ["t"] ⟨blockFoundMaps.1, blockFoundMaps.2⟩
      oneBlockPoller.reader.tenantIndex ⟨blockFoundMaps.1, blockFoundMaps.2⟩ blockFoundWrites :=
    .next (.first oneBlockPoller_cycleOver_empty) (fun _ => .inl rfl) hsecond
  ⟨rfl, rfl, by decide, oneBlockPoller_wellFormedStore, hdisj, hrun,
    hrun.perm_first rfl rfl (by decide) oneBlockPoller_wellFormedStore hdisj "t"⟩

end Poller

end BlocklistPoller
