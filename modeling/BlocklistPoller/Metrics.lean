import BlocklistPoller.Fixpoint
import Mathlib.Logic.Relation

/-!
# The metrics of a polling cycle

The goroutine `Poller.Do` starts for a tenant also sets the tenant's gauges under `mtx`,
from the one result its retry loop ended with. After a success with a block it sets
`blocklist_length` to the number of live metas, and the `live` and `compacted` children
of `backend_objects_total` and `backend_bytes_total` to what `sumTotalBackendMetaMetrics`
adds up, each converted with `float64`, which rounds a value of more than 53 bits; after a success with no block it calls `DeleteLabelValues(tenantID)` on the
three vecs; after a failure it leaves them. When the tenants cannot be listed, `Do`
counts the error in `blocklist_poll_errors_total` under the empty tenant label. The vecs
belong to the process: each cycle starts from the metrics the last one left.

`Poller.DoMetered` is `Do` with these metrics, and forgetting them gives back `Do`
(`Poller.DoMetered_result`). The goroutines of two tenants set different children, so a
successful cycle leaves the same metrics whatever the interleaving of its goroutines and
of those of `pollUnknown`.

A `prometheus` vec deletes a child only when it is named by as many label values as the
vec has labels. `backend_objects_total` and `backend_bytes_total` have two labels and the
code names one: a tenant whose blocks are all gone loses its `blocklist_length` child but
keeps its last totals in the two backend vecs, cycle after cycle.
-/

namespace BlocklistPoller

/-- A `prometheus` metric vec with `n` variable labels, a `GaugeVec` or a `CounterVec`:
the value of each child, by its label values. Every child is named by `n` label values. -/
structure MetricVec (n : Nat) (α : Type) where
  values : List String → Option α
  arity : ∀ lvs, (values lvs).isSome → lvs.length = n

namespace MetricVec

variable {n : Nat} {α : Type}

@[ext] theorem ext {g g' : MetricVec n α} (h : g.values = g'.values) : g = g' := by
  cases g; cases g'; cases h; rfl

/-- A vec with no child, as `promauto` registers it. -/
def empty : MetricVec n α := ⟨fun _ => none, fun _ h => absurd h (by simp)⟩

/-- The child named by `lvs` given the value `v`, or removed when `v` is `none`. -/
def write (g : MetricVec n α) (lvs : List String) (v : Option α) (h : v.isSome → lvs.length = n) :
    MetricVec n α where
  values := Function.update g.values lvs v
  arity k hk := by
    by_cases hkl : k = lvs
    · subst hkl; exact h (by simpa using hk)
    · exact g.arity k (by rwa [Function.update_noteq hkl] at hk)

/-- `WithLabelValues(lvs...).Set(v)` on a `GaugeVec`; with another count of label values
the call panics. -/
def set (g : MetricVec n Int) (lvs : List String) (h : lvs.length = n) (v : Int) :
    MetricVec n Int :=
  g.write lvs (some v) fun _ => h

/-- `WithLabelValues(lvs...).Inc()` on a `CounterVec`: a new child starts from zero. -/
def inc (g : MetricVec n Nat) (lvs : List String) (h : lvs.length = n) : MetricVec n Nat :=
  g.write lvs (some ((g.values lvs).getD 0 + 1)) fun _ => h

/-- `DeleteLabelValues(lvs...)`: `validateLabelValues` rejects another count of label
values than the vec's labels, and then nothing is deleted. -/
def deleteLabelValues (g : MetricVec n α) (lvs : List String) : MetricVec n α :=
  if lvs.length = n then g.write lvs none (fun h => absurd h (by simp)) else g

@[simp] theorem set_values (g : MetricVec n Int) (lvs : List String) (h : lvs.length = n) (v : Int) :
    (g.set lvs h v).values = Function.update g.values lvs (some v) :=
  rfl

/-- Deleting removes exactly the child named by `lvs`: label values of another count
name no child. -/
@[simp] theorem deleteLabelValues_values (g : MetricVec n α) (lvs : List String) :
    (g.deleteLabelValues lvs).values = Function.update g.values lvs none := by
  unfold deleteLabelValues
  split
  · rfl
  · rename_i hlen
    have hnone : g.values lvs = none :=
      Option.not_isSome_iff_eq_none.mp fun hs => hlen (g.arity lvs hs)
    rw [← hnone]
    exact (Function.update_eq_self lvs g.values).symm

end MetricVec

/-! ## Summing the metas -/

/-- Go's `int` on the 64-bit platforms the code is built for. -/
def int64 (x : Int) : Int := x.bmod (2 ^ 64)

/-- The number of low bits `float64` drops from a magnitude `n`: none below `2 ^ 53`,
and one more each time `n` halves until it is, so that `n / 2 ^ e` keeps 53 significant
bits. `fuel` bounds the halvings. -/
def droppedBits : Nat → Nat → Nat
  | 0, _ => 0
  | fuel + 1, n => if n < 2 ^ 53 then 0 else droppedBits fuel (n / 2) + 1

/-- `float64(x)` of a Go integer, as the value it takes: the nearest number with 53
significant bits, a tie going to the one with an even last bit (round to nearest even).
The integers the poller converts lie far below the largest `float64`. -/
def float64 (x : Int) : Int :=
  let n := x.natAbs
  let e := droppedBits n n
  let q := n / 2 ^ e
  let r := n % 2 ^ e
  let q' := if 2 ^ e < 2 * r ∨ (2 * r = 2 ^ e ∧ q % 2 = 1) then q + 1 else q
  if x < 0 then -((q' * 2 ^ e : Nat) : Int) else ((q' * 2 ^ e : Nat) : Int)

theorem droppedBits_of_lt {fuel n : Nat} (h : n < 2 ^ 53) : droppedBits fuel n = 0 := by
  cases fuel with
  | zero => rfl
  | succ => rw [droppedBits, if_pos h]

/-- Below `2 ^ 53` the conversion is exact. -/
theorem float64_of_natAbs_lt {x : Int} (h : x.natAbs < 2 ^ 53) : float64 x = x := by
  simp only [float64, droppedBits_of_lt h, pow_zero, Nat.div_one, Nat.mod_one, mul_zero,
    Nat.mul_one, Nat.not_lt_zero, zero_ne_one, false_and, or_self, if_false]
  split <;> omega

example : float64 (2 ^ 53 + 1) = 2 ^ 53 ∧ float64 (2 ^ 53 + 3) = 2 ^ 53 + 4 := by decide

/-- `backendMetaMetrics`. -/
structure BackendMetaMetrics where
  blockMetaTotalObjects : Int
  compactedBlockMetaTotalObjects : Int
  blockMetaTotalBytes : Nat
  compactedBlockMetaTotalBytes : Nat
  deriving DecidableEq, Repr

/-- One pass of the loops of `sumTotalBackendMetaMetrics`: the meta's object count added
in `int`, its size in `uint64`. -/
def addMeta (sums : Int × Nat) (bm : BlockMeta) : Int × Nat :=
  (int64 (sums.1 + bm.totalObjects), (sums.2 + bm.size) % 2 ^ 64)

/-- `sumTotalBackendMetaMetrics`: a loop over the live metas, then one over the
compacted metas. -/
def sumTotalBackendMetaMetrics (blockMeta : List BlockMeta)
    (compactedBlockMeta : List CompactedBlockMeta) : BackendMetaMetrics :=
  let bm := blockMeta.foldl addMeta (0, 0)
  let cbm := compactedBlockMeta.foldl (fun sums cbm => addMeta sums cbm.toBlockMeta) (0, 0)
  ⟨bm.1, cbm.1, bm.2, cbm.2⟩

/-- The loops wrap once, at the end: their sums are the plain sums of the counts and the
sizes, converted to `int` and `uint64`. -/
theorem foldl_addMeta (l : List BlockMeta) (a : Int) (b : Nat) :
    l.foldl addMeta (int64 a, b % 2 ^ 64) =
      (int64 (l.foldl (fun sum bm => sum + bm.totalObjects) a),
        l.foldl (fun sum bm => sum + bm.size) b % 2 ^ 64) := by
  induction l generalizing a b with
  | nil => rfl
  | cons bm l ih =>
    have hstep : addMeta (int64 a, b % 2 ^ 64) bm =
        (int64 (a + bm.totalObjects), (b + bm.size) % 2 ^ 64) := by
      simp only [addMeta, int64, Int.bmod_add_bmod_congr, Nat.mod_add_mod]
    simp only [List.foldl_cons, hstep, ih]

/-- The sums do not depend on the order of the metas. -/
theorem foldl_addMeta_perm {l l' : List BlockMeta} (h : l.Perm l') :
    l.foldl addMeta (0, 0) = l'.foldl addMeta (0, 0) := by
  have hobj : l.foldl (fun sum bm => sum + bm.totalObjects) (0 : Int) =
      l'.foldl (fun sum bm => sum + bm.totalObjects) 0 :=
    h.foldl_eq' (fun x _ y _ z => add_right_comm z x.totalObjects y.totalObjects) 0
  have hsize : l.foldl (fun sum bm => sum + bm.size) 0 = l'.foldl (fun sum bm => sum + bm.size) 0 :=
    h.foldl_eq' (fun x _ y _ z => add_right_comm z x.size y.size) 0
  have h0 : ((0 : Int), (0 : Nat)) = (int64 0, 0 % 2 ^ 64) := by simp [int64]
  rw [h0, foldl_addMeta, foldl_addMeta, hobj, hsize]

theorem sumTotalBackendMetaMetrics_perm {l l' : List BlockMeta} {c c' : List CompactedBlockMeta}
    (hl : l.Perm l') (hc : c.Perm c') :
    sumTotalBackendMetaMetrics l c = sumTotalBackendMetaMetrics l' c' := by
  simp only [sumTotalBackendMetaMetrics, ← List.foldl_map, foldl_addMeta_perm hl,
    foldl_addMeta_perm (hc.map CompactedBlockMeta.toBlockMeta)]

/-! ## The metrics a goroutine sets -/

/-- `blockStatusLiveLabel`. -/
def blockStatusLiveLabel : String := "live"

/-- `blockStatusCompactedLabel`. -/
def blockStatusCompactedLabel : String := "compacted"

/-- The vecs of the package that `Do` updates, as the process holds them. A gauge holds
the value `float64` gives the integer the code sets it from. -/
structure Metrics where
  /-- `metricBackendObjects`, labelled by `tenant` and `status`. -/
  backendObjects : MetricVec 2 Int
  /-- `metricBackendBytes`, labelled by `tenant` and `status`. -/
  backendBytes : MetricVec 2 Int
  /-- `metricBlocklistErrors`, labelled by `tenant`. -/
  blocklistErrors : MetricVec 1 Nat
  /-- `metricBlocklistLength`, labelled by `tenant`. -/
  blocklistLength : MetricVec 1 Int

namespace Metrics

/-- The vecs of a process that has not polled yet. -/
def empty : Metrics := ⟨.empty, .empty, .empty, .empty⟩

/-- The children of the three gauge vecs named by `k`. -/
def gauges (m : Metrics) (k : List String) : Option Int × Option Int × Option Int :=
  (m.backendObjects.values k, m.backendBytes.values k, m.blocklistLength.values k)

theorem ext_gauges {m₁ m₂ : Metrics} (h : ∀ k, m₁.gauges k = m₂.gauges k)
    (he : m₁.blocklistErrors = m₂.blocklistErrors) : m₁ = m₂ := by
  obtain ⟨o₁, b₁, e₁, l₁⟩ := m₁
  obtain ⟨o₂, b₂, e₂, l₂⟩ := m₂
  have h' : ∀ k, o₁.values k = o₂.values k ∧ b₁.values k = b₂.values k ∧ l₁.values k = l₂.values k :=
    fun k => by simpa [gauges] using h k
  cases he
  congr 1
  · exact MetricVec.ext (funext fun k => (h' k).1)
  · exact MetricVec.ext (funext fun k => (h' k).2.1)
  · exact MetricVec.ext (funext fun k => (h' k).2.2)

end Metrics

/-- What the goroutine of `Do` for `tenantID` does to the metrics under `mtx`, once its
retry loop ended with `res`. -/
def recordMetrics (tenantID : TenantID) (res : PollResult) (m : Metrics) : Metrics :=
  match res with
  | .error _ => m
  | .ok (newBlockList, newCompactedBlockList) =>
    if newBlockList.length > 0 ∨ newCompactedBlockList.length > 0 then
      let backendMetaMetrics := sumTotalBackendMetaMetrics newBlockList newCompactedBlockList
      { m with
        blocklistLength := m.blocklistLength.set [tenantID] rfl (float64 newBlockList.length)
        backendObjects :=
          (m.backendObjects.set [tenantID, blockStatusLiveLabel] rfl
            (float64 backendMetaMetrics.blockMetaTotalObjects)).set
              [tenantID, blockStatusCompactedLabel] rfl
              (float64 backendMetaMetrics.compactedBlockMetaTotalObjects)
        backendBytes :=
          (m.backendBytes.set [tenantID, blockStatusLiveLabel] rfl
            (float64 backendMetaMetrics.blockMetaTotalBytes)).set
              [tenantID, blockStatusCompactedLabel] rfl
              (float64 backendMetaMetrics.compactedBlockMetaTotalBytes) }
    else
      { m with
        blocklistLength := m.blocklistLength.deleteLabelValues [tenantID]
        backendObjects := (m.backendObjects.deleteLabelValues [tenantID]).deleteLabelValues [tenantID]
        backendBytes := m.backendBytes.deleteLabelValues [tenantID] }

section RecordMetrics

variable {T : TenantID} {res : PollResult}

@[simp] theorem recordMetrics_blocklistErrors (T : TenantID) (res : PollResult) (m : Metrics) :
    (recordMetrics T res m).blocklistErrors = m.blocklistErrors := by
  rcases res with _ | ⟨l, c⟩
  · rfl
  · dsimp only [recordMetrics]; split <;> rfl

/-- The goroutine of `T` changes no child named first by another tenant. -/
theorem recordMetrics_gauges_of_head_ne {k : List String} (hk : k.head? ≠ some T)
    (res : PollResult) (m : Metrics) : (recordMetrics T res m).gauges k = m.gauges k := by
  have h1 : k ≠ [T] := by rintro rfl; exact hk rfl
  have h2 : ∀ s, k ≠ [T, s] := by rintro s rfl; exact hk rfl
  rcases res with _ | ⟨l, c⟩
  · rfl
  · dsimp only [recordMetrics]; split <;> simp [Metrics.gauges, Function.update_apply, h1, h2]

/-- The goroutine of `T` computes each child from that child alone. -/
theorem recordMetrics_gauges_congr {m₁ m₂ : Metrics} {k : List String}
    (h : m₁.gauges k = m₂.gauges k) (T : TenantID) (res : PollResult) :
    (recordMetrics T res m₁).gauges k = (recordMetrics T res m₂).gauges k := by
  simp only [Metrics.gauges, Prod.mk.injEq] at h
  obtain ⟨ho, hb, hl⟩ := h
  rcases res with _ | ⟨l, c⟩
  · simp [recordMetrics, Metrics.gauges, ho, hb, hl]
  · dsimp only [recordMetrics]; split <;> simp [Metrics.gauges, Function.update_apply, ho, hb, hl]

/-- The goroutines of two tenants set different children, so they commute. -/
theorem recordMetrics_comm {T' : TenantID} (hne : T ≠ T') (r r' : PollResult) (m : Metrics) :
    recordMetrics T r (recordMetrics T' r' m) = recordMetrics T' r' (recordMetrics T r m) := by
  refine Metrics.ext_gauges (fun k => ?_) (by simp)
  by_cases hk : k.head? = some T
  · have hk' : k.head? ≠ some T' := fun h => hne (Option.some.inj (hk.symm.trans h))
    rw [recordMetrics_gauges_of_head_ne hk']
    exact recordMetrics_gauges_congr (recordMetrics_gauges_of_head_ne hk' r' m) T r
  · rw [recordMetrics_gauges_of_head_ne hk]
    exact (recordMetrics_gauges_congr (recordMetrics_gauges_of_head_ne hk r m) T' r').symm

/-- The gauges depend on the lists only up to order. -/
theorem recordMetrics_resultPerm {r r' : PollResult} (h : Poller.ResultPerm r r') (T : TenantID)
    (m : Metrics) : recordMetrics T r m = recordMetrics T r' m := by
  rcases r with _ | ⟨l, c⟩ <;> rcases r' with _ | ⟨l', c'⟩
  · rfl
  · exact h.elim
  · exact h.elim
  · obtain ⟨hl, hc⟩ := h
    simp only [recordMetrics, hl.length_eq, hc.length_eq, sumTotalBackendMetaMetrics_perm hl hc]

/-- A success with no block deletes only the child of `blocklist_length`: the children
of the backend vecs are named by two label values. -/
theorem recordMetrics_gauges_of_no_block (hres : ∀ l c, res = .ok (l, c) → l = [] ∧ c = [])
    (m : Metrics) (status : String) :
    (recordMetrics T res m).gauges [T, status] = m.gauges [T, status] := by
  rcases res with _ | ⟨l, c⟩
  · rfl
  · obtain ⟨rfl, rfl⟩ := hres l c rfl
    simp [recordMetrics, Metrics.gauges]

/-- Recording one result twice sets the children as recording it once does. -/
theorem recordMetrics_gauges_idem (T : TenantID) (r : PollResult) (m : Metrics)
    (k : List String) :
    (recordMetrics T r (recordMetrics T r m)).gauges k = (recordMetrics T r m).gauges k := by
  rcases r with _ | ⟨l, c⟩
  · rfl
  · dsimp only [recordMetrics]
    split <;> simp only [Metrics.gauges, MetricVec.set_values, MetricVec.deleteLabelValues_values,
      Function.update_apply] <;> split_ifs <;> rfl

end RecordMetrics

/-! ## `Do` with its metrics -/

/-- The state the goroutines of `Do` share under `mtx`, with the metrics they set there. -/
structure MeteredTally where
  tally : Tally
  metrics : Metrics

/-- The admission loop of `Do` and its goroutines over a run, as `admissionRun`, the
goroutines also setting metrics. -/
def meteredRun (cap : Nat) (body : TenantID → MeteredTally → MeteredTally) :
    Bool → FanOut TenantID MeteredTally → List CycleEvent →
      Option (Bool × FanOut TenantID MeteredTally)
  | canceled, s, [] => some (canceled, s)
  | _, s, .cancel :: es => meteredRun cap body true s es
  | canceled, s, .loop e :: es =>
    (FanOut.step cap (fun t => admissionExit canceled t.tally) body s e).bind fun s' =>
      meteredRun cap body canceled s' es

/-- Forgetting the metrics maps each run of the metered loop to the run of
`admissionRun` whose goroutines do to the tally what the metered ones do. -/
theorem meteredRun_tally {cap : Nat} {body : TenantID → MeteredTally → MeteredTally}
    {body' : TenantID → Tally → Tally} (hbody : ∀ T t, (body T t).tally = body' T t.tally)
    (c : Bool) (s : FanOut TenantID MeteredTally) (es : List CycleEvent) :
    (meteredRun cap body c s es).map (Prod.map id (FanOut.mapShared MeteredTally.tally)) =
      admissionRun cap body' c (s.mapShared MeteredTally.tally) es := by
  induction es generalizing c s with
  | nil => rfl
  | cons e es ih =>
    cases e with
    | cancel => exact ih true s
    | loop e =>
      simp only [meteredRun, admissionRun, ← FanOut.step_mapShared MeteredTally.tally hbody]
      cases FanOut.step cap (fun t => admissionExit c t.tally) body s e <;> simp [ih]

namespace Poller

variable (p : Poller)

/-- The goroutine `Do` starts for a tenant, with its metrics: the retry loop, then under
`mtx` the maps, the budget and the gauges, from the one result. -/
def meteredTask (previous : Blocklist) (poll : TenantID → Nat → PollResult) (tenantID : TenantID)
    (t : MeteredTally) : MeteredTally :=
  let res := (p.pollWithRetries (poll tenantID)).1
  ⟨recordTenant previous tenantID res t.tally, recordMetrics tenantID res t.metrics⟩

/-- `Poller.Do` with the metrics it updates, from the metrics `m` of the process: what
the cycle returns and the metrics it leaves, `none` when `events` is not a whole run. -/
def DoMetered (previous : Blocklist) (poll : TenantID → Nat → PollResult)
    (events : List CycleEvent) (m : Metrics) :
    Option (Except Error (PerTenant × PerTenantCompacted) × Metrics) :=
  match p.reader.tenants with
  | .error err => some (.error err, { m with blocklistErrors := m.blocklistErrors.inc [""] rfl })
  | .ok tenants =>
    (meteredRun p.cfg.tenantPollConcurrency (p.meteredTask previous poll) false
        (FanOut.init tenants ⟨(p.cycleInit tenants).shared, m⟩) events).bind fun r =>
      if r.2.Done then some (cycleResult (r.2.mapShared MeteredTally.tally), r.2.shared.metrics)
      else none

/-- Forgetting the metrics gives back `Do`: they change neither what a run returns nor
which runs are whole. -/
theorem DoMetered_result (previous : Blocklist) (poll : TenantID → Nat → PollResult)
    (events : List CycleEvent) (m : Metrics) :
    (p.DoMetered previous poll events m).map Prod.fst = p.Do previous poll events := by
  rcases ht : p.reader.tenants with err | tenants
  · simp only [DoMetered, Do, ht]; rfl
  · simp only [DoMetered, Do, admission, ht]
    have hrun : (meteredRun p.cfg.tenantPollConcurrency (p.meteredTask previous poll) false
        (FanOut.init tenants ⟨(p.cycleInit tenants).shared, m⟩) events).map
          (Prod.map id (FanOut.mapShared MeteredTally.tally)) =
        admissionRun p.cfg.tenantPollConcurrency (p.tenantTask previous poll) false
          (p.cycleInit tenants) events :=
      meteredRun_tally (fun _ _ => rfl) false _ events
    rw [← hrun]
    rcases meteredRun p.cfg.tenantPollConcurrency (p.meteredTask previous poll) false
      (FanOut.init tenants ⟨(p.cycleInit tenants).shared, m⟩) events with _ | ⟨c, s⟩
    · rfl
    · by_cases hd : s.Done <;> simp [hd]

section Invariant

variable (poll : TenantID → Nat → PollResult)

/-- The metrics once the goroutines of the tenants of `finished` recorded their results,
in that order, from `m`. -/
def metricsAfter (m : Metrics) (finished : List TenantID) : Metrics :=
  finished.foldl (fun m T => recordMetrics T (p.tenantResult poll T) m) m

variable {p poll} {previous : Blocklist}

/-- The metrics at the end of a run of the metered loop: those at its start, with the
result of each finished tenant recorded in the order the goroutines took `mtx`. -/
theorem meteredRun_metrics {cap : Nat} {c c' : Bool} {s s' : FanOut TenantID MeteredTally}
    {es : List CycleEvent} (hrun : meteredRun cap (p.meteredTask previous poll) c s es = some (c', s')) :
    s'.shared.metrics = p.metricsAfter poll s.shared.metrics (FanOut.finishedOf (loopEvents es)) := by
  induction es generalizing c s with
  | nil => cases hrun; rfl
  | cons e es ih =>
    cases e with
    | cancel => exact ih hrun
    | loop e =>
      obtain ⟨s₁, h₁, hrun⟩ := Option.bind_eq_some.mp hrun
      rw [ih hrun, (FanOut.moves_of_step h₁).shared_eq]
      cases e <;> rfl

/-- The order in which the goroutines took `mtx` does not show in the metrics. -/
theorem metricsAfter_perm {finished finished' : List TenantID} (h : finished.Perm finished')
    (m : Metrics) : p.metricsAfter poll m finished = p.metricsAfter poll m finished' :=
  h.foldl_eq' (fun T _ T' _ m => by
    by_cases hT : T = T'
    · rw [hT]
    · exact recordMetrics_comm (Ne.symm hT) _ _ _) m

/-- Retry loops whose calls agree up to order end with results that agree up to order. -/
theorem retryLoop_resultPerm (fuel : Nat) {call call' : Nat → PollResult} {last last' : PollResult}
    (hcall : ∀ i, ResultPerm (call i) (call' i)) (hlast : ResultPerm last last') :
    ResultPerm (retryLoop fuel call last).1 (retryLoop fuel call' last').1 := by
  induction fuel generalizing call call' last last' with
  | zero => exact hlast
  | succ fuel ih =>
    have h0 := hcall 0
    simp only [retryLoop]
    cases hc : call 0 with
    | error e =>
      cases hc' : call' 0 with
      | error e' => simpa using @ih _ _ (.error e) (.error e') (fun i => hcall (i + 1)) trivial
      | ok => rw [hc, hc'] at h0; exact h0.elim
    | ok r =>
      cases hc' : call' 0 with
      | error => rw [hc, hc'] at h0; exact h0.elim
      | ok r' => rw [hc, hc'] at h0; exact h0

variable {poll₁ poll₂ : TenantID → Nat → PollResult} {tenants : List TenantID}
  {events events₁ events₂ : List CycleEvent} {m m₁ m₂ : Metrics}

/-- A successful cycle over fewer than `2 ^ 31` tenants leaves the metrics with every
listed tenant's result recorded, in the order of the listing. -/
theorem DoMetered_ok_metrics {maps : PerTenant × PerTenantCompacted}
    (htenants : p.reader.tenants = .ok tenants) (hlen : tenants.length < 2 ^ 31)
    (h : p.DoMetered previous poll events m = some (.ok maps, m₁)) :
    m₁ = p.metricsAfter poll m tenants := by
  have hDo : p.Do previous poll events = some (.ok maps) := by
    rw [← DoMetered_result, h]; rfl
  have hperm := Do_ok_finished htenants hlen hDo
  simp only [DoMetered, htenants] at h
  obtain ⟨⟨c, s⟩, hrun, hres⟩ := Option.bind_eq_some.mp h
  split at hres
  · obtain ⟨-, rfl⟩ := Prod.mk.inj (Option.some.inj hres)
    rw [meteredRun_metrics hrun, metricsAfter_perm hperm]
    rfl
  · cases hres

/-- Two successful cycles over a duplicate-free listing of fewer than `2 ^ 31` tenants
whose calls returned the same lists up to order leave the same metrics, from any previous
lists: neither the interleaving of the tenants' goroutines nor that of the goroutines of
`pollUnknown` shows in the gauges. -/
theorem DoMetered_metrics_resultPerm {previous₁ previous₂ : Blocklist}
    {maps₁ maps₂ : PerTenant × PerTenantCompacted}
    (htenants : p.reader.tenants = .ok tenants) (_hnodup : tenants.Nodup)
    (hlen : tenants.length < 2 ^ 31)
    (hpoll : ∀ T i, ResultPerm (poll₁ T i) (poll₂ T i))
    (h₁ : p.DoMetered previous₁ poll₁ events₁ m = some (.ok maps₁, m₁))
    (h₂ : p.DoMetered previous₂ poll₂ events₂ m = some (.ok maps₂, m₂)) : m₁ = m₂ := by
  rw [DoMetered_ok_metrics htenants hlen h₁, DoMetered_ok_metrics htenants hlen h₂, metricsAfter,
    metricsAfter]
  congr 1
  funext m' T
  exact recordMetrics_resultPerm
    (retryLoop_resultPerm _ (hpoll T) (ResultPerm.refl _)) T m'

/-- Two metas of `t`, in one order. -/
def twoBlocksFound : TenantID → Nat → PollResult := fun _ _ => .ok ([⟨1, 1, 1⟩, ⟨2, 2, 2⟩], [])

/-- The same two metas of `t`, in the other order, as another interleaving of
`pollUnknown` returns them. -/
def twoBlocksSwapped : TenantID → Nat → PollResult := fun _ _ => .ok ([⟨2, 2, 2⟩, ⟨1, 1, 1⟩], [])

theorem DoMetered_metrics_resultPerm_twoBlocks :
    recordMetrics "t" (.ok ([⟨1, 1, 1⟩, ⟨2, 2, 2⟩], [])) .empty =
      recordMetrics "t" (.ok ([⟨2, 2, 2⟩, ⟨1, 1, 1⟩], [])) .empty := by
  have ht : (oneTenantPoller 0 0).reader.tenants = .ok ["t"] := rfl
  have hpoll : ∀ T i, ResultPerm (twoBlocksFound T i) (twoBlocksSwapped T i) :=
    fun _ _ => ⟨.swap _ _ _, .refl _⟩
  have h₁ : (oneTenantPoller 0 0).DoMetered .empty twoBlocksFound oneTenantRun .empty =
      some (.ok (Function.update (fun _ => none) "t" (some [⟨1, 1, 1⟩, ⟨2, 2, 2⟩]),
        Function.update (fun _ => none) "t" (some [])),
        recordMetrics "t" (.ok ([⟨1, 1, 1⟩, ⟨2, 2, 2⟩], [])) .empty) := rfl
  have h₂ : (oneTenantPoller 0 0).DoMetered .empty twoBlocksSwapped oneTenantRun .empty =
      some (.ok (Function.update (fun _ => none) "t" (some [⟨2, 2, 2⟩, ⟨1, 1, 1⟩]),
        Function.update (fun _ => none) "t" (some [])),
        recordMetrics "t" (.ok ([⟨2, 2, 2⟩, ⟨1, 1, 1⟩], [])) .empty) := rfl
  exact DoMetered_metrics_resultPerm ht (List.nodup_singleton _) (by decide) hpoll h₁ h₂

/-- With no retry loop for `T` ending with a block, the children of `T` named by two
label values keep their values through the recorded results. -/
theorem metricsAfter_gauges_of_no_block {T : TenantID}
    (hres : ∀ l c, p.tenantResult poll T = .ok (l, c) → l = [] ∧ c = []) (status : String)
    (finished : List TenantID) (m : Metrics) :
    (p.metricsAfter poll m finished).gauges [T, status] = m.gauges [T, status] := by
  induction finished generalizing m with
  | nil => rfl
  | cons T' finished ih =>
    show (p.metricsAfter poll (recordMetrics T' (p.tenantResult poll T') m) finished).gauges _ = _
    rw [ih]
    by_cases hT : T' = T
    · subst hT; exact recordMetrics_gauges_of_no_block hres m status
    · exact recordMetrics_gauges_of_head_ne (by simpa using Ne.symm hT) _ m

/-- A cycle in which no retry loop for `T` ends with a block leaves the children of `T`
named by two label values as they were, whatever it returns. -/
theorem DoMetered_gauges_of_no_block {T : TenantID} {r : Except Error (PerTenant × PerTenantCompacted)}
    (hres : ∀ l c, p.tenantResult poll T = .ok (l, c) → l = [] ∧ c = [])
    (h : p.DoMetered previous poll events m = some (r, m₁)) (status : String) :
    m₁.gauges [T, status] = m.gauges [T, status] := by
  unfold DoMetered at h
  split at h
  · cases h; rfl
  · obtain ⟨⟨c, s⟩, hrun, hres'⟩ := Option.bind_eq_some.mp h
    split at hres'
    · obtain ⟨-, rfl⟩ := Prod.mk.inj (Option.some.inj hres')
      rw [meteredRun_metrics hrun]
      exact metricsAfter_gauges_of_no_block hres status _ _
    · cases hres'

/-- A child named first by `T` holds what `T`'s result sets when `T` finished, and what
it held before otherwise. -/
theorem metricsAfter_gauges {T : TenantID} {k : List String} (hk : k.head? = some T)
    (finished : List TenantID) (m : Metrics) :
    (p.metricsAfter poll m finished).gauges k =
      if T ∈ finished then (recordMetrics T (p.tenantResult poll T) m).gauges k else m.gauges k := by
  induction finished generalizing m with
  | nil => rfl
  | cons T' finished ih =>
    show (p.metricsAfter poll (recordMetrics T' (p.tenantResult poll T') m) finished).gauges k = _
    rw [ih]
    by_cases hT : T' = T
    · subst hT
      simp only [List.mem_cons_self, if_true]
      split_ifs
      · exact recordMetrics_gauges_idem _ _ _ _
      · rfl
    · have hk' : k.head? ≠ some T' := fun h => hT (Option.some.inj (h.symm.trans hk))
      simp only [List.mem_cons, Ne.symm hT, false_or]
      split_ifs
      · exact recordMetrics_gauges_congr (recordMetrics_gauges_of_head_ne hk' _ m) T _
      · exact recordMetrics_gauges_of_head_ne hk' _ m

end Invariant

/-- A cycle of an instance with its metrics: a whole run of `DoMetered` of some poller,
whose store may have changed since the last cycle, from the lists the last successful
cycle left and the metrics the last cycle left; `Allowed` says what the cycle's calls may
return and how the cycle may end. -/
def MeteredCycle
    (Allowed : Poller → (TenantID → Nat → PollResult) → Except Error (PerTenant × PerTenantCompacted) → Prop)
    (x y : Blocklist × Metrics) : Prop :=
  ∃ (p : Poller) (poll : TenantID → Nat → PollResult) (events : List CycleEvent)
    (r : Except Error (PerTenant × PerTenantCompacted)),
    Allowed p poll r ∧ p.DoMetered x.1 poll events x.2 = some (r, y.2) ∧ y.1 = x.1.after r

/-- Over any run of cycles in which no retry loop for `T` ends with a block, the children
of `T` in `backend_objects_total` and `backend_bytes_total` keep their values: a tenant
whose blocks are all gone goes on reporting its last totals. -/
theorem backend_children_eq_of_no_block {T : TenantID} {x y : Blocklist × Metrics}
    (h : Relation.ReflTransGen (MeteredCycle fun p poll _ =>
      ∀ l c, p.tenantResult poll T = .ok (l, c) → l = [] ∧ c = []) x y) (status : String) :
    y.2.backendObjects.values [T, status] = x.2.backendObjects.values [T, status] ∧
      y.2.backendBytes.values [T, status] = x.2.backendBytes.values [T, status] := by
  have hg : y.2.gauges [T, status] = x.2.gauges [T, status] := by
    induction h with
    | refl => rfl
    | tail _ hstep ih =>
      obtain ⟨p, poll, events, r, hres, hDo, -⟩ := hstep
      exact (p.DoMetered_gauges_of_no_block hres hDo status).trans ih
  simp only [Metrics.gauges, Prod.mk.injEq] at hg
  exact ⟨hg.1, hg.2.1⟩

/-- Every call for every tenant finds no block. -/
def noBlockFound : TenantID → Nat → PollResult := fun _ _ => .ok ([], [])

/-- The metrics after a first cycle that found block `1` for `t`. -/
def blockFoundMetrics : Metrics := recordMetrics "t" (.ok ([⟨1, 1, 1⟩], [])) .empty

/-- The metrics after a second cycle, in which `t` had no block left. -/
def emptiedMetrics : Metrics := recordMetrics "t" (.ok ([], [])) blockFoundMetrics

theorem backend_children_eq_of_no_block_emptied :
    (oneTenantPoller 0 0).DoMetered .empty blockFound oneTenantRun .empty =
      some (.ok blockFoundMaps, blockFoundMetrics) ∧
    emptiedMetrics.blocklistLength.values ["t"] = none ∧
    emptiedMetrics.backendObjects.values ["t", blockStatusLiveLabel] = some 1 ∧
    emptiedMetrics.backendBytes.values ["t", blockStatusLiveLabel] = some 1 := by
  have hres : ∀ l c, (oneTenantPoller 0 0).tenantResult noBlockFound "t" = .ok (l, c) →
      l = [] ∧ c = [] := by
    intro l c h; cases h; exact ⟨rfl, rfl⟩
  have hDo : (oneTenantPoller 0 0).DoMetered liveOneSnapshot noBlockFound oneTenantRun
      blockFoundMetrics = some (.ok (fun _ => none, fun _ => none), emptiedMetrics) := rfl
  have hrun : Relation.ReflTransGen (MeteredCycle fun p poll _ =>
      ∀ l c, p.tenantResult poll "t" = .ok (l, c) → l = [] ∧ c = [])
      (liveOneSnapshot, blockFoundMetrics) (.empty, emptiedMetrics) :=
    .single ⟨_, _, _, _, hres, hDo, rfl⟩
  have h := backend_children_eq_of_no_block hrun blockStatusLiveLabel
  exact ⟨rfl, rfl, h.1.trans rfl, h.2.trans rfl⟩

/-- The gauges report the lists `b` holds: every child of a tenant with a block holds what
the tenant's goroutine sets from those lists, `blocklist_length` the number of live metas
and the backend vecs the sums of both lists, as `float64` converts them. -/
def GaugesReport (b : Blocklist) (m : Metrics) : Prop :=
  ∀ T, (b.Metas T ≠ [] ∨ b.CompactedMetas T ≠ []) → ∀ k, k.head? = some T →
    m.gauges k = (recordMetrics T (.ok (b.Metas T, b.CompactedMetas T)) m).gauges k

theorem GaugesReport.of_gauges_eq {b : Blocklist} {m m' : Metrics} (h : GaugesReport b m)
    (hg : ∀ k, m'.gauges k = m.gauges k) : GaugesReport b m' := by
  intro T hne k hk
  rw [hg, recordMetrics_gauges_congr (hg k)]
  exact h T hne k hk

/-- A cycle over fewer than `2 ^ 31` tenants that returns its maps keeps the gauges
reporting the lists: a tenant whose retry loop failed keeps its lists and its children,
and one whose retry loop found blocks gets both from the lists it found. -/
theorem DoMetered_gaugesReport {p : Poller} {previous : Blocklist}
    {poll : TenantID → Nat → PollResult} {events : List CycleEvent} {tenants : List TenantID}
    {m m₁ : Metrics} {bl : PerTenant} {cbl : PerTenantCompacted}
    (htenants : p.reader.tenants = .ok tenants) (hlen : tenants.length < 2 ^ 31)
    (hinv : GaugesReport previous m)
    (h : p.DoMetered previous poll events m = some (.ok (bl, cbl), m₁)) :
    GaugesReport ⟨bl, cbl⟩ m₁ := by
  have hDo : p.Do previous poll events = some (.ok (bl, cbl)) := by
    rw [← DoMetered_result, h]; rfl
  have hm₁ := DoMetered_ok_metrics htenants hlen h
  rw [← metricsAfter_perm (Do_ok_finished htenants hlen hDo)] at hm₁
  intro T hne k hk
  obtain ⟨hbl, hcbl⟩ := Do_ok_maps htenants hDo T
  simp only [Blocklist.Metas, Blocklist.CompactedMetas, hbl, hcbl] at hne ⊢
  cases he : p.entryAfter previous poll (FanOut.finishedOf (loopEvents events)) T with
  | none => simp [he] at hne
  | some lc =>
    obtain ⟨l, c⟩ := lc
    simp only [he, Option.map_some', Option.getD_some] at hne ⊢
    obtain ⟨hT, ⟨hfail, rfl, rfl⟩ | ⟨hok, -⟩⟩ := entryAfter_eq_some_cases he
    · have hkeep : m₁.gauges k = m.gauges k := by
        rw [hm₁, metricsAfter_gauges hk, if_pos hT]
        cases hres : p.tenantResult poll T with
        | error => rfl
        | ok => rw [hres] at hfail; cases hfail
      rw [hkeep, recordMetrics_gauges_congr hkeep]
      exact hinv T hne k hk
    · have hafter : m₁.gauges k = (recordMetrics T (.ok (l, c)) m).gauges k := by
        rw [hm₁, metricsAfter_gauges hk, if_pos hT, hok]
      rw [hafter, recordMetrics_gauges_congr hafter, recordMetrics_gauges_idem]

/-- The cycles the gauges stay consistent through: over a duplicate-free listing of fewer
than `2 ^ 31` tenants, the cycle returns its maps or cannot list the tenants. -/
def Completes (p : Poller) (r : Except Error (PerTenant × PerTenantCompacted)) : Prop :=
  (∀ tenants, p.reader.tenants = .ok tenants → tenants.Nodup ∧ tenants.length < 2 ^ 31) ∧
    (r.toBool = true ∨ ∃ e, p.reader.tenants = .error e)

/-- Over any run of cycles of a fresh process in which every cycle completes, the gauges
report the lists the instance holds: for every tenant with a block, `blocklist_length`
holds the number of its live metas and the backend vecs the sums of its lists, each as
`float64` converts it. A cycle
abandoned after some goroutines recorded their results can leave gauges set from lists
the instance never took. -/
theorem gaugesReport_of_completes {y : Blocklist × Metrics}
    (h : Relation.ReflTransGen (MeteredCycle fun p _ r => Completes p r) (.empty, .empty) y) :
    GaugesReport y.1 y.2 := by
  induction h with
  | refl => intro T hne; simp at hne
  | tail _ hstep ih =>
    obtain ⟨p, poll, events, r, ⟨hlen, hr⟩, hDo, hy⟩ := hstep
    rw [hy]
    cases ht : p.reader.tenants with
    | error e =>
      simp only [DoMetered, ht] at hDo
      obtain ⟨rfl, hm⟩ := Prod.mk.inj (Option.some.inj hDo)
      exact ih.of_gauges_eq fun k => by rw [← hm]; rfl
    | ok tenants =>
      rcases r with e | ⟨bl, cbl⟩
      · rcases hr with hr | ⟨e', he'⟩
        · cases hr
        · rw [ht] at he'; cases he'
      · exact DoMetered_gaugesReport ht (hlen tenants ht).2 ih hDo

theorem gaugesReport_of_completes_blockFound :
    Relation.ReflTransGen (MeteredCycle fun p _ r => Completes p r) (.empty, .empty)
      (liveOneSnapshot, blockFoundMetrics) ∧
    GaugesReport liveOneSnapshot blockFoundMetrics := by
  have hDo : (oneTenantPoller 0 0).DoMetered .empty blockFound oneTenantRun .empty =
      some (.ok blockFoundMaps, blockFoundMetrics) := rfl
  have hrun : Relation.ReflTransGen (MeteredCycle fun p _ r => Completes p r) (.empty, .empty)
      (liveOneSnapshot, blockFoundMetrics) :=
    .single ⟨_, _, _, .ok blockFoundMaps,
      ⟨fun _ h => by cases h; exact ⟨List.nodup_singleton _, by decide⟩, .inl rfl⟩, hDo, rfl⟩
  exact ⟨hrun, gaugesReport_of_completes hrun⟩

end Poller

end BlocklistPoller
