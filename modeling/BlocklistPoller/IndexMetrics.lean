import BlocklistPoller.Metrics

/-!
# The tenant index metrics

`Poller.pollTenantAndCreateIndex` reports what it did with a tenant's index in three
vecs labelled by tenant. `blocklist_tenant_index_builder` is set to 0 when the call
pulls the index and to 1 when it polls the backend, as a builder or on fallback.
`blocklist_tenant_index_age_seconds` is set to the age in whole seconds of a pulled
index that is not stale, and to 0 once a poll returned lists.
`blocklist_tenant_index_errors_total` counts a failed pull, a failed `WriteTenantIndex`
and, in `pollUnknown`, a failed read of a block.

`Poller.pollTenantAndCreateIndexMetered` is the call with the updates it makes, in order,
and forgetting them gives back the call (`Poller.pollTenantAndCreateIndexMetered_result`).
Each update is atomic, and the goroutines of `Do` make them concurrently. With
`StaleTenantIndex` positive a pulled index older than it at the staleness check is
rejected, and the age gauge reads the clock again later. So whatever the calls and
however their updates interleave, no age child exceeds `StaleTenantIndex`, plus the
time between a call's two readings, in whole seconds (`Poller.indexGauges_of_ops`).
-/

namespace BlocklistPoller

/-- An update of the tenant index vecs; the vecs of `client_golang` make each atomic. -/
inductive IndexMetricOp where
  /-- `metricTenantIndexBuilder.WithLabelValues(tenantID).Set(v)`. -/
  | setBuilder (tenantID : TenantID) (v : Int)
  /-- `metricTenantIndexAgeSeconds.WithLabelValues(tenantID).Set(v)`. -/
  | setAgeSeconds (tenantID : TenantID) (v : Int)
  /-- `metricTenantIndexErrors.WithLabelValues(tenantID).Inc()`. -/
  | incErrors (tenantID : TenantID)
  deriving DecidableEq, Repr

/-- `metricTenantIndexErrors`, `metricTenantIndexBuilder` and
`metricTenantIndexAgeSeconds`, each with the one label `tenant`. -/
structure IndexMetrics where
  tenantIndexErrors : MetricVec 1 Nat
  tenantIndexBuilder : MetricVec 1 Int
  tenantIndexAgeSeconds : MetricVec 1 Int

/-- The vecs as `promauto` registers them, with no child. -/
def IndexMetrics.empty : IndexMetrics := ⟨.empty, .empty, .empty⟩

namespace IndexMetricOp

/-- The vecs after the update. -/
def apply : IndexMetricOp → IndexMetrics → IndexMetrics
  | .setBuilder T v, m => { m with tenantIndexBuilder := m.tenantIndexBuilder.set [T] rfl v }
  | .setAgeSeconds T v, m =>
    { m with tenantIndexAgeSeconds := m.tenantIndexAgeSeconds.set [T] rfl v }
  | .incErrors T, m => { m with tenantIndexErrors := m.tenantIndexErrors.inc [T] rfl }

/-- An update that keeps the builder gauge at 0 or 1 and the age gauge at most `s`
nanoseconds in whole seconds. -/
def Bounded (s : Int) : IndexMetricOp → Prop
  | .setBuilder _ v => v = 0 ∨ v = 1
  | .setAgeSeconds _ v => v ≤ s.tdiv 1000000000
  | .incErrors _ => True

end IndexMetricOp

/-- `time.Since(createdAt) / time.Second` with the clock reading `now`, in nanoseconds:
the division of a `Duration` truncates toward zero. -/
def ageSeconds (now createdAt : Int) : Int := (timeSub now createdAt).tdiv 1000000000

/-- An age in whole seconds has fewer than 53 bits, so `float64` keeps it exact. -/
theorem float64_ageSeconds (now createdAt : Int) :
    float64 (ageSeconds now createdAt) = ageSeconds now createdAt := by
  have hdiv : (ageSeconds now createdAt).natAbs = (timeSub now createdAt).natAbs / 1000000000 :=
    Int.natAbs_tdiv _ _
  have := natAbs_timeSub_le now createdAt
  exact float64_of_natAbs_lt (by omega)

/-- Truncating division by a second keeps the order up to a nonnegative bound. -/
theorem tdiv_second_le {d s : Int} (h : d ≤ s) (hs : 0 ≤ s) :
    d.tdiv 1000000000 ≤ s.tdiv 1000000000 := by
  rw [Int.tdiv_eq_ediv hs (by omega)]
  rcases le_or_lt 0 d with hd | hd
  · rw [Int.tdiv_eq_ediv hd (by omega)]
    exact Int.ediv_le_ediv (by omega) h
  · have hneg : 0 ≤ (-d).tdiv 1000000000 := Int.tdiv_nonneg (by omega) (by omega)
    have hs' : 0 ≤ s / 1000000000 := Int.ediv_nonneg hs (by omega)
    rw [← neg_neg d, Int.neg_tdiv]
    omega

namespace Poller

variable (p : Poller) (tenantID : TenantID)

/-- `Poller.pollUnknown` with its update: the error count of the tenant goes up once when
some block could not be read. -/
def pollUnknownMetered (unknownBlocks : List (UUID × Bool)) (sched : Schedule) :
    Option (Except Error (List BlockMeta × List CompactedBlockMeta) × List IndexMetricOp) :=
  (p.pollUnknownLoop tenantID unknownBlocks sched).bind fun s =>
    if s.Done then
      some (if s.shared.errs.isEmpty then
          (.ok (s.shared.newBlockList, s.shared.newCompactedBlocklist), [])
        else (.error (.join s.shared.errs), [.incErrors tenantID]))
    else none

/-- `Poller.pollTenantBlocks` with the updates of its `pollUnknown`. -/
def pollTenantBlocksMetered (previous : Blocklist) (sched : Schedule) :
    Option (Except Error (List BlockMeta × List CompactedBlockMeta) × List IndexMetricOp) :=
  match p.reader.blocks tenantID with
  | .error err => some (.error (.wrap "failed listing tenant blocks" err), [])
  | .ok (currentBlockIDs, currentCompactedBlockIDs) =>
    let d := previous.deltaFor tenantID currentBlockIDs currentCompactedBlockIDs
    (p.pollUnknownMetered tenantID d.unknownBlockIDs sched).map fun
      | (.error err, ops) => (.error (.wrap "failed reading unknown blocks" err), ops)
      | (.ok (newM, newCm), ops) =>
        (.ok (d.newBlockList ++ newM, d.newCompactedBlocklist ++ newCm), ops)

/-- `Poller.pollTenantAndCreateIndex` with clock readings `ck` and the updates of the
index vecs it makes, in order, those of its `pollUnknown` included. -/
def pollTenantAndCreateIndexMetered (ck : CallClock) (previous : Blocklist) (sched : Schedule) :
    Option (PollResult × List WriterCall × List IndexMetricOp) :=
  if p.tenantIndexBuilder tenantID then build
  else
    match p.tenantIndexPollError ck.staleness (p.reader.tenantIndex tenantID) with
    | .ok i => some (.ok (i.meta, i.compactedMeta), [],
        [.setBuilder tenantID 0,
          .setAgeSeconds tenantID (float64 (ageSeconds ck.ageGauge i.createdAt))])
    | .error err =>
      if !p.cfg.pollFallback then
        some (.error (.wrap "failed to pull tenant index and no fallback configured" err), [],
          [.setBuilder tenantID 0, .incErrors tenantID])
      else build.map fun r => (r.1, r.2.1, .setBuilder tenantID 0 :: .incErrors tenantID :: r.2.2)
where
  /-- The builder path, also taken on fallback. -/
  build : Option (PollResult × List WriterCall × List IndexMetricOp) :=
    (p.pollTenantBlocksMetered tenantID previous sched).map fun
      | (.error err, ops) =>
        (.error (.wrap "failed to poll tenant blocks" err), [], .setBuilder tenantID 1 :: ops)
      | (.ok (blocklist, compactedBlocklist), ops) =>
        let write := WriterCall.writeTenantIndex tenantID blocklist compactedBlocklist
        let ops := .setBuilder tenantID 1 :: ops ++
          (p.writer.writeTenantIndex tenantID blocklist compactedBlocklist).elim []
            fun _ => [.incErrors tenantID]
        if blocklist.length = 0 ∧ compactedBlocklist.length = 0 then
          match p.deleteTenant ck.reaper tenantID with
          | (some err, deletes) => (.error (.wrap "failed to delete tenant" err), write :: deletes, ops)
          | (none, deletes) =>
            (.ok (blocklist, compactedBlocklist), write :: deletes, ops ++ [.setAgeSeconds tenantID 0])
        else (.ok (blocklist, compactedBlocklist), [write], ops ++ [.setAgeSeconds tenantID 0])

variable {p tenantID} {ck : CallClock} {now : Int} {previous : Blocklist} {sched : Schedule}

/-! ## Forgetting the updates -/

theorem pollUnknownMetered_result (unknownBlocks : List (UUID × Bool)) :
    (p.pollUnknownMetered tenantID unknownBlocks sched).map Prod.fst =
      p.pollUnknown tenantID unknownBlocks sched := by
  simp only [pollUnknownMetered, pollUnknown, Option.map_bind]
  congr 1
  funext s
  simp only [Function.comp_apply]
  split_ifs <;> rfl

theorem pollTenantBlocksMetered_result :
    (p.pollTenantBlocksMetered tenantID previous sched).map Prod.fst =
      p.pollTenantBlocks tenantID previous sched := by
  rcases hb : p.reader.blocks tenantID with err | ⟨lv, cp⟩ <;>
    simp only [pollTenantBlocksMetered, pollTenantBlocks, hb, Option.map_some']
  rw [← pollUnknownMetered_result, Option.map_map, Option.map_map]
  congr 1
  funext r
  rcases r with ⟨_ | _, _⟩ <;> rfl

theorem build_result :
    (pollTenantAndCreateIndexMetered.build p tenantID ck previous sched).map
        (fun r => (r.1, r.2.1)) = pollTenantAndCreateIndex.build p ck tenantID previous sched := by
  unfold pollTenantAndCreateIndexMetered.build pollTenantAndCreateIndex.build
  rw [← pollTenantBlocksMetered_result, Option.map_map, Option.map_map]
  congr 1
  funext r
  rcases r with ⟨_ | ⟨l, c⟩, _⟩
  · rfl
  · simp only [Function.comp]
    split
    · rcases p.deleteTenant ck.reaper tenantID with ⟨_ | _, _⟩ <;> rfl
    · rfl

/-- Forgetting the updates gives back the call. -/
theorem pollTenantAndCreateIndexMetered_result :
    (p.pollTenantAndCreateIndexMetered tenantID ck previous sched).map (fun r => (r.1, r.2.1)) =
      p.pollTenantAndCreateIndex ck tenantID previous sched := by
  unfold pollTenantAndCreateIndexMetered pollTenantAndCreateIndex
  split
  · exact build_result
  · rcases p.tenantIndexPollError ck.staleness (p.reader.tenantIndex tenantID) with err | i
    · dsimp only
      split
      · rfl
      · rw [← build_result, Option.map_map]
        rfl
    · rfl

/-! ## What the updates are -/

theorem pollUnknownMetered_ops {unknownBlocks : List (UUID × Bool)}
    {r : Except Error (List BlockMeta × List CompactedBlockMeta)} {ops : List IndexMetricOp}
    (h : p.pollUnknownMetered tenantID unknownBlocks sched = some (r, ops)) :
    ops ⊆ [.incErrors tenantID] := by
  simp only [pollUnknownMetered, Option.bind_eq_some] at h
  obtain ⟨s, -, hs⟩ := h
  split at hs
  · split at hs <;> cases hs <;> simp
  · cases hs

theorem pollTenantBlocksMetered_ops
    {r : Except Error (List BlockMeta × List CompactedBlockMeta)} {ops : List IndexMetricOp}
    (h : p.pollTenantBlocksMetered tenantID previous sched = some (r, ops)) :
    ops ⊆ [.incErrors tenantID] := by
  unfold pollTenantBlocksMetered at h
  split at h
  · cases h; simp
  · obtain ⟨⟨r₀, ops₀⟩, h₀, hr⟩ := Option.map_eq_some'.mp h
    have hops : ops = ops₀ := by rcases r₀ with _ | _ <;> cases hr <;> rfl
    exact hops ▸ pollUnknownMetered_ops h₀

/-- The builder path sets the builder gauge to 1, raises the error count, and sets the
age gauge to 0. -/
theorem build_ops {res : PollResult} {calls : List WriterCall} {ops : List IndexMetricOp}
    (hb : pollTenantAndCreateIndexMetered.build p tenantID ck previous sched =
      some (res, calls, ops)) :
    ops ⊆ [.setBuilder tenantID 1, .incErrors tenantID, .setAgeSeconds tenantID 0] := by
  unfold pollTenantAndCreateIndexMetered.build at hb
  obtain ⟨⟨r, ops₀⟩, h₀, hr⟩ := Option.map_eq_some'.mp hb
  have hinc : ops₀ ⊆ [.setBuilder tenantID 1, .incErrors tenantID, .setAgeSeconds tenantID 0] :=
    (pollTenantBlocksMetered_ops h₀).trans (by simp)
  rcases r with _ | ⟨l, c⟩
  · cases hr
    exact List.cons_subset.mpr ⟨by simp, hinc⟩
  · have hw : (p.writer.writeTenantIndex tenantID l c).elim []
        (fun _ => [IndexMetricOp.incErrors tenantID]) ⊆
        [.setBuilder tenantID 1, .incErrors tenantID, .setAgeSeconds tenantID 0] := by
      cases p.writer.writeTenantIndex tenantID l c <;> simp
    dsimp only at hr
    split at hr
    · rcases hdt : p.deleteTenant ck.reaper tenantID with ⟨_ | _, _⟩ <;> rw [hdt] at hr <;> cases hr <;>
        simp [List.append_subset, hinc, hw]
    · cases hr
      simp [List.append_subset, hinc, hw]

/-- A pulled index that is not rejected as stale is at most `StaleTenantIndex` old at
the staleness check's reading. -/
theorem tenantIndexPollError_fresh {x : Except Error TenantIndex} {i : TenantIndex}
    (h : p.tenantIndexPollError now x = .ok i) (hs : p.cfg.staleTenantIndex ≠ 0) :
    timeSub now i.createdAt ≤ p.cfg.staleTenantIndex := by
  unfold tenantIndexPollError at h
  split at h
  · cases h
  · split at h
    · cases h
    · cases h
      omega

/-- Everything a call updates: its tenant's builder gauge to 0 or 1, its error count, and
its age gauge to 0; or, when it pulled an index the staleness check accepted, its builder
gauge to 0 and its age gauge to the index's age at the gauge's reading. -/
theorem pollTenantAndCreateIndexMetered_ops {res : PollResult} {calls : List WriterCall}
    {ops : List IndexMetricOp}
    (h : p.pollTenantAndCreateIndexMetered tenantID ck previous sched = some (res, calls, ops)) :
    ops ⊆ [.setBuilder tenantID 0, .setBuilder tenantID 1, .incErrors tenantID,
      .setAgeSeconds tenantID 0] ∨
    ∃ i, p.tenantIndexPollError ck.staleness (p.reader.tenantIndex tenantID) = .ok i ∧
      ops = [.setBuilder tenantID 0, .setAgeSeconds tenantID (ageSeconds ck.ageGauge i.createdAt)] := by
  unfold pollTenantAndCreateIndexMetered at h
  split at h
  · exact .inl ((build_ops h).trans (by simp))
  · split at h
    · rename_i i hi
      cases h
      exact .inr ⟨i, hi, by rw [float64_ageSeconds]⟩
    · split at h
      · cases h
        exact .inl (by simp)
      · obtain ⟨⟨res', calls', ops'⟩, hb, hr⟩ := Option.map_eq_some'.mp h
        cases hr
        exact .inl (by simpa using (build_ops hb).trans (by simp))

/-- With `StaleTenantIndex` positive, every update a call makes is bounded by it plus a
bound `d` on the time between the call's staleness check and its age reading. -/
theorem pollTenantAndCreateIndexMetered_bounded {res : PollResult} {calls : List WriterCall}
    {ops : List IndexMetricOp} {d : Int} (hs : 0 < p.cfg.staleTenantIndex)
    (hd : ck.ageGauge - ck.staleness ≤ d)
    (h : p.pollTenantAndCreateIndexMetered tenantID ck previous sched = some (res, calls, ops)) :
    ∀ op ∈ ops, op.Bounded (p.cfg.staleTenantIndex + d) := by
  have hgap := ck.staleness_le_ageGauge
  have hzero : (0 : Int) ≤ (p.cfg.staleTenantIndex + d).tdiv 1000000000 :=
    Int.tdiv_nonneg (by omega) (by omega)
  rcases pollTenantAndCreateIndexMetered_ops h with hops | ⟨i, hi, rfl⟩
  · intro op hop
    have hmem := hops hop
    simp only [List.mem_cons, List.not_mem_nil, or_false] at hmem
    rcases hmem with rfl | rfl | rfl | rfl
    exacts [.inl rfl, .inr rfl, trivial, hzero]
  · -- the age reading comes at most `d` after the staleness check the index passed
    have hfresh := tenantIndexPollError_fresh hi hs.ne'
    have hlater := @timeSub_le_add ck.staleness ck.ageGauge i.createdAt hgap
    intro op hop
    simp only [List.mem_cons, List.not_mem_nil, or_false] at hop
    rcases hop with rfl | rfl
    exacts [.inl rfl, tdiv_second_le (by omega) (by omega)]

/-! ## The gauges over any run -/

/-- The index gauges within bounds: every builder child is 0 or 1, and no age child
exceeds `s` nanoseconds in whole seconds. -/
structure IndexGauges (s : Int) (m : IndexMetrics) : Prop where
  builder : ∀ lvs v, m.tenantIndexBuilder.values lvs = some v → v = 0 ∨ v = 1
  age : ∀ lvs v, m.tenantIndexAgeSeconds.values lvs = some v → v ≤ s.tdiv 1000000000

theorem IndexGauges.empty (s : Int) : IndexGauges s .empty :=
  ⟨fun _ _ h => (by cases h), fun _ _ h => (by cases h)⟩

/-- A bounded update keeps the gauges within bounds. -/
theorem IndexGauges.apply {s : Int} {m : IndexMetrics} {op : IndexMetricOp}
    (h : IndexGauges s m) (hop : op.Bounded s) : IndexGauges s (op.apply m) := by
  cases op with
  | setBuilder T v =>
    refine ⟨fun lvs w hw => ?_, h.age⟩
    simp only [IndexMetricOp.apply, MetricVec.set_values, Function.update_apply] at hw
    split at hw
    · cases hw; exact hop
    · exact h.builder lvs w hw
  | setAgeSeconds T v =>
    refine ⟨h.builder, fun lvs w hw => ?_⟩
    simp only [IndexMetricOp.apply, MetricVec.set_values, Function.update_apply] at hw
    split at hw
    · cases hw; exact hop
    · exact h.age lvs w hw
  | incErrors T => exact ⟨h.builder, h.age⟩

/-- Take any calls of `pollTenantAndCreateIndex` by instances with `StaleTenantIndex = s`
positive, over any store states and tenants, each reading the clock for its age gauge at
most `d` after its staleness check, and any interleaving of their updates of the index
vecs. Every builder child is 0 or 1, and no age child exceeds `s + d` in whole seconds:
a pulled index older than `s` at the check is rejected as stale, and a poll sets the age
to 0. -/
theorem indexGauges_of_ops {s d : Int} (hs : 0 < s) {ops : List IndexMetricOp}
    (hops : ∀ op ∈ ops, ∃ (p : Poller) (ck : CallClock) (T : TenantID) (previous : Blocklist)
      (sched : Schedule) (res : PollResult) (calls : List WriterCall) (callOps : List IndexMetricOp),
      p.cfg.staleTenantIndex = s ∧ ck.ageGauge - ck.staleness ≤ d ∧
        p.pollTenantAndCreateIndexMetered T ck previous sched = some (res, calls, callOps) ∧
        op ∈ callOps) :
    IndexGauges (s + d) (ops.foldl (fun m op => op.apply m) .empty) := by
  suffices ∀ m, IndexGauges (s + d) m →
      IndexGauges (s + d) (ops.foldl (fun m op => op.apply m) m) from
    this _ (IndexGauges.empty _)
  induction ops with
  | nil => exact fun _ h => h
  | cons op ops ih =>
    intro m h
    obtain ⟨p, ck, T, previous, sched, res, calls, callOps, rfl, hd, hcall, hop⟩ :=
      hops op (List.mem_cons_self _ _)
    exact ih (fun op' h' => hops op' (List.mem_cons_of_mem _ h')) _
      (h.apply (pollTenantAndCreateIndexMetered_bounded hs hd hcall op hop))

/-- An instance that owns no builder job and pulls the index of `t` written at time 0, with
`StaleTenantIndex` at ten seconds. -/
def pullingPoller : Poller :=
  { oneBlockPoller with
    reader := { oneBlockPoller.reader with tenantIndex := oneIndexWritten }
    cfg := { oneBlockPoller.cfg with staleTenantIndex := 10000000000 }
    sharder := ownsNothingSharder }

/-- A call that checks the index at 4.5 s and reads the clock for the gauge at 5.2 s. -/
def pullClock : CallClock :=
  ⟨4500000000, 5200000000, fun _ => 5200000000, by decide,
    fun _ => (by decide : (4500000000 : Int) ≤ 5200000000), fun _ => Int.le_refl _⟩

/-- The call pulls the index and sets the age gauge of `t` to 5 s, within ten seconds
plus the 0.7 s between its readings. -/
theorem indexGauges_of_ops_pulled :
    pullingPoller.pollTenantAndCreateIndexMetered "t" pullClock .empty nothingUnknown =
      some (.ok ([⟨1, 1, 1⟩], []), [], [.setBuilder "t" 0, .setAgeSeconds "t" 5]) ∧
    IndexGauges (10000000000 + 700000000)
      ([IndexMetricOp.setBuilder "t" 0, .setAgeSeconds "t" 5].foldl (fun m op => op.apply m) .empty) := by
  have hcall : pullingPoller.pollTenantAndCreateIndexMetered "t" pullClock .empty nothingUnknown =
      some (.ok ([⟨1, 1, 1⟩], []), [], [.setBuilder "t" 0, .setAgeSeconds "t" 5]) := by decide
  exact ⟨hcall, indexGauges_of_ops (by decide) fun op hop =>
    ⟨_, _, _, _, _, _, _, _, rfl, by decide, hcall, hop⟩⟩

end Poller

end BlocklistPoller
