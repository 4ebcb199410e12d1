import BlocklistPoller.TenantBlocks
import BlocklistPoller.Reaper

/-!
# Polling a tenant and writing its index

`Poller.pollTenantAndCreateIndex` decides whether this instance builds the tenant
index. A follower pulls the index and returns its lists, and falls back to polling
when the pull fails or is stale and `PollFallback` is set. A builder polls the
tenant's blocks, writes the index (a failed write is only logged), and hands a
tenant with no block at all to the reaper.

The reaper runs whenever both lists come out empty, and the lists drop a listed
block that carries the no-compact flag when `SkipNoCompactBlocks` is set, however
readable its meta: `pollTenantAndCreateIndex_delete_conditions` says exactly when a
`Delete` can be issued.
-/

namespace BlocklistPoller

/-- What one call of `pollTenantAndCreateIndex` returns. -/
abbrev PollResult := Except Error (List BlockMeta × List CompactedBlockMeta)

/-- `jobPrefix`, the prefix of the sharder's job names for index builders. -/
def jobPrefix : String := "build-tenant-index-"

/-- The clock readings (nanoseconds) of one call of `pollTenantAndCreateIndex`, each
`time.Since` its own: the staleness check of `tenantIndexPollError` (poller.go:528),
the index age gauge once the pulled index passed it (poller.go:275), and one per object
`deleteTenant`'s callback visits (poller.go:555), by visit number. A call takes them in
that order on each of its paths, and the clock does not go back. -/
structure CallClock where
  staleness : Int
  ageGauge : Int
  reaper : Nat → Int
  staleness_le_ageGauge : staleness ≤ ageGauge
  staleness_le_reaper : ∀ k, staleness ≤ reaper k
  reaper_le_succ : ∀ k, reaper k ≤ reaper (k + 1)

/-- A clock that stands still during the call: every reading is `now`. -/
def CallClock.fixed (now : Int) : CallClock :=
  ⟨now, now, fun _ => now, Int.le_refl now, fun _ => Int.le_refl now, fun _ => Int.le_refl now⟩

namespace Poller

variable (p : Poller)

/-- `Poller.tenantIndexBuilder`: whether this instance owns one of the
`TenantIndexBuilders` builder jobs of the tenant. -/
def tenantIndexBuilder (tenant : String) : Bool :=
  (List.range p.cfg.tenantIndexBuilders.toNat).any fun i =>
    p.sharder.owns (jobPrefix ++ toString i ++ "-" ++ tenant)

/-- `Poller.tenantIndexPollError` applied to the pulled index, its `time.Since`
reading the clock as `now`: the index when the read succeeded and the index is not
stale, else the error. -/
def tenantIndexPollError (now : Int) : Except Error TenantIndex → Except Error TenantIndex
  | .error err => .error err
  | .ok idx =>
    if p.cfg.staleTenantIndex ≠ 0 ∧ timeSub now idx.createdAt > p.cfg.staleTenantIndex then
      .error (.new ("tenant index created at " ++ toString idx.createdAt ++ " is stale"))
    else .ok idx

/-- `Poller.pollTenantAndCreateIndex` with clock readings `ck`: its result and the
writes it issues, `none` when the schedule of `pollUnknown` is not a whole run. -/
def pollTenantAndCreateIndex (ck : CallClock) (tenantID : TenantID) (previous : Blocklist)
    (sched : Schedule) : Option (PollResult × List WriterCall) :=
  if p.tenantIndexBuilder tenantID then build
  else
    match p.tenantIndexPollError ck.staleness (p.reader.tenantIndex tenantID) with
    | .ok i => some (.ok (i.meta, i.compactedMeta), [])
    | .error err =>
      if !p.cfg.pollFallback then
        some (.error (.wrap "failed to pull tenant index and no fallback configured" err), [])
      else build
where
  /-- The builder path of `pollTenantAndCreateIndex`, also taken on fallback. -/
  build : Option (PollResult × List WriterCall) :=
    (p.pollTenantBlocks tenantID previous sched).map fun
      | .error err => (.error (.wrap "failed to poll tenant blocks" err), [])
      | .ok (blocklist, compactedBlocklist) =>
        let write := WriterCall.writeTenantIndex tenantID blocklist compactedBlocklist
        if blocklist.length = 0 ∧ compactedBlocklist.length = 0 then
          match p.deleteTenant ck.reaper tenantID with
          | (some err, deletes) => (.error (.wrap "failed to delete tenant" err), write :: deletes)
          | (none, deletes) => (.ok (blocklist, compactedBlocklist), write :: deletes)
        else (.ok (blocklist, compactedBlocklist), [write])

variable {p} {ck : CallClock} {now : Int} {tenantID : TenantID} {previous : Blocklist}
  {sched : Schedule}
  {res : PollResult} {calls : List WriterCall}

/-- A call that issues any write took the builder path. -/
theorem pollTenantAndCreateIndex_build (h : p.pollTenantAndCreateIndex ck tenantID previous sched =
    some (res, calls)) (hcalls : calls ≠ []) :
    pollTenantAndCreateIndex.build p ck tenantID previous sched = some (res, calls) := by
  unfold pollTenantAndCreateIndex at h
  split at h
  · exact h
  · split at h
    · cases h; exact absurd rfl hcalls
    · split at h
      · cases h; exact absurd rfl hcalls
      · exact h

/-- Everything the builder path can do: fail as `pollTenantBlocks` did and write
nothing; or write the lists it found as the tenant's index and return them, and when
both are empty, also issue the reaper's deletes and fail if the reaper did. -/
theorem build_cases
    (h : pollTenantAndCreateIndex.build p ck tenantID previous sched = some (res, calls)) :
    (∃ err, p.pollTenantBlocks tenantID previous sched = some (.error err) ∧
      res = .error (.wrap "failed to poll tenant blocks" err) ∧ calls = []) ∨
    ∃ l c, p.pollTenantBlocks tenantID previous sched = some (.ok (l, c)) ∧
      ((¬(l = [] ∧ c = []) ∧ res = .ok (l, c) ∧ calls = [.writeTenantIndex tenantID l c]) ∨
        (l = [] ∧ c = [] ∧
          res = (p.deleteTenant ck.reaper tenantID).1.elim (.ok ([], []))
            (fun err => .error (.wrap "failed to delete tenant" err)) ∧
          calls = .writeTenantIndex tenantID [] [] :: (p.deleteTenant ck.reaper tenantID).2)) := by
  unfold pollTenantAndCreateIndex.build at h
  obtain ⟨r, hr, hres⟩ := Option.map_eq_some'.mp h
  rcases r with err | ⟨l, c⟩
  · cases hres
    exact .inl ⟨err, hr, rfl, rfl⟩
  refine .inr ⟨l, c, hr, ?_⟩
  simp only [List.length_eq_zero] at hres
  split at hres
  · rename_i hempty
    obtain ⟨rfl, rfl⟩ := hempty
    rcases hdt : p.deleteTenant ck.reaper tenantID with ⟨_ | err, deletes⟩ <;> rw [hdt] at hres <;>
      cases hres <;> exact .inr ⟨rfl, rfl, rfl, rfl⟩
  · cases hres
    exact .inl ⟨‹_›, rfl, rfl⟩

/-- The builder path deletes only what the reaper deletes, and calls the reaper only
when `pollTenantBlocks` found no block at all. -/
theorem build_delete {name : String} {keypath : KeyPath}
    (h : pollTenantAndCreateIndex.build p ck tenantID previous sched = some (res, calls))
    (hdel : WriterCall.delete name keypath ∈ calls) :
    p.pollTenantBlocks tenantID previous sched = some (.ok ([], [])) ∧
      WriterCall.delete name keypath ∈ (p.deleteTenant ck.reaper tenantID).2 := by
  rcases build_cases h with ⟨-, -, -, rfl⟩ | ⟨l, c, hp, ⟨-, -, rfl⟩ | ⟨rfl, rfl, -, rfl⟩⟩
  · cases hdel
  · simp at hdel
  · exact ⟨hp, (List.mem_cons.mp hdel).resolve_left (by simp)⟩

/-- The builder path returns lists only when `pollTenantBlocks` found them. -/
theorem build_ok {l : List BlockMeta} {c : List CompactedBlockMeta}
    (h : pollTenantAndCreateIndex.build p ck tenantID previous sched = some (.ok (l, c), calls)) :
    p.pollTenantBlocks tenantID previous sched = some (.ok (l, c)) := by
  rcases build_cases h with ⟨_, -, he, -⟩ | ⟨l', c', hp, ⟨-, he, -⟩ | ⟨rfl, rfl, he, -⟩⟩
  · cases he
  · cases he; exact hp
  · rcases hd : (p.deleteTenant ck.reaper tenantID).1 with _ | err <;> rw [hd] at he <;> cases he
    exact hp

/-- A builder returns the lists `pollTenantBlocks` found. -/
theorem pollTenantAndCreateIndex_builder_ok {l : List BlockMeta} {c : List CompactedBlockMeta}
    (hb : p.tenantIndexBuilder tenantID = true)
    (h : p.pollTenantAndCreateIndex ck tenantID previous sched = some (.ok (l, c), calls)) :
    p.pollTenantBlocks tenantID previous sched = some (.ok (l, c)) := by
  rw [pollTenantAndCreateIndex, if_pos hb] at h
  exact build_ok h

/-- A pulled index passes the staleness check unchanged. -/
theorem tenantIndexPollError_eq_ok {x : Except Error TenantIndex} {i : TenantIndex}
    (h : p.tenantIndexPollError now x = .ok i) : x = .ok i := by
  unfold tenantIndexPollError at h
  split at h
  · cases h
  · split at h
    · cases h
    · exact h

/-- A call returns lists from the index it pulled, or from `pollTenantBlocks`. -/
theorem pollTenantAndCreateIndex_ok_cases {l : List BlockMeta} {c : List CompactedBlockMeta}
    (h : p.pollTenantAndCreateIndex ck tenantID previous sched = some (.ok (l, c), calls)) :
    (∃ i, p.reader.tenantIndex tenantID = .ok i ∧ l = i.meta ∧ c = i.compactedMeta) ∨
      p.pollTenantBlocks tenantID previous sched = some (.ok (l, c)) := by
  unfold pollTenantAndCreateIndex at h
  split at h
  · exact .inr (build_ok h)
  · split at h
    · rename_i i hi
      obtain ⟨rfl, rfl⟩ := Prod.mk.inj (Except.ok.inj (Prod.mk.inj (Option.some.inj h)).1)
      exact .inl ⟨i, tenantIndexPollError_eq_ok hi, rfl, rfl⟩
    · split at h
      · cases h
      · exact .inr (build_ok h)

/-- With room for one goroutine in `pollUnknown`'s wait group, a call can return: some
run of its `pollUnknown` is whole. -/
theorem pollTenantAndCreateIndex_returns (hcap : 0 < p.cfg.pollConcurrency) :
    ∃ sched r, p.pollTenantAndCreateIndex ck tenantID previous sched = some r := by
  obtain ⟨sched, r, hr⟩ := @pollTenantBlocks_returns p tenantID previous hcap
  have hbuild : (pollTenantAndCreateIndex.build p ck tenantID previous sched).isSome := by
    rw [pollTenantAndCreateIndex.build, hr]; rfl
  refine ⟨sched, Option.isSome_iff_exists.mp ?_⟩
  unfold pollTenantAndCreateIndex
  split
  · exact hbuild
  · split
    · rfl
    · split
      · rfl
      · exact hbuild

/-- A call writes the index of its own tenant only, with the lists `pollTenantBlocks`
returned. -/
theorem pollTenantAndCreateIndex_writeTenantIndex {T : TenantID} {l : List BlockMeta}
    {c : List CompactedBlockMeta}
    (h : p.pollTenantAndCreateIndex ck tenantID previous sched = some (res, calls))
    (hw : .writeTenantIndex T l c ∈ calls) :
    T = tenantID ∧ p.pollTenantBlocks tenantID previous sched = some (.ok (l, c)) := by
  rcases build_cases (pollTenantAndCreateIndex_build h (List.ne_nil_of_mem hw)) with
    ⟨-, -, -, rfl⟩ | ⟨l', c', hp, ⟨-, -, rfl⟩ | ⟨rfl, rfl, -, rfl⟩⟩
  · cases hw
  · obtain ⟨rfl, rfl, rfl⟩ : T = tenantID ∧ l = l' ∧ c = c' := by simpa using hw
    exact ⟨rfl, hp⟩
  · rcases List.mem_cons.mp hw with hw | hw
    · obtain ⟨rfl, rfl, rfl⟩ : T = tenantID ∧ l = [] ∧ c = [] := by simpa using hw
      exact ⟨rfl, hp⟩
    · exact absurd hw writeTenantIndex_not_mem_deleteTenant

/-- A `pollBlock` result that carries no meta and no error is the empty triple. -/
theorem eq_none_none_of {r : BlockResult} (hl : liveMeta? r = none) (hc : compactedMeta? r = none)
    (he : error? r = none) : r = .ok (none, none) := by
  rcases r with e | ⟨_ | m, _ | cm⟩ <;> simp_all [liveMeta?, compactedMeta?, error?]

/-- A `Delete` is issued only by the reaper on the builder path, after the listing
succeeded with no listed id known to the previous list and `pollBlock` returned
nothing, without error, for every unknown entry. -/
theorem pollTenantAndCreateIndex_delete_conditions {name : String} {keypath : KeyPath}
    (h : p.pollTenantAndCreateIndex ck tenantID previous sched = some (res, calls))
    (hdel : WriterCall.delete name keypath ∈ calls) :
    WriterCall.delete name keypath ∈ (p.deleteTenant ck.reaper tenantID).2 ∧
    ∃ lv cp, p.reader.blocks tenantID = .ok (lv, cp) ∧
      (∀ k ∈ lv, ∀ m ∈ previous.Metas tenantID, m.blockID ≠ k) ∧
      (∀ k ∈ cp, ∀ m ∈ previous.CompactedMetas tenantID, m.blockID ≠ k) ∧
      ∀ b, UnknownEntry (previous.Metas tenantID) (previous.CompactedMetas tenantID) lv cp b →
        p.pollBlock tenantID b.1 b.2 = .ok (none, none) := by
  obtain ⟨hpoll, hreap⟩ := build_delete (pollTenantAndCreateIndex_build h (List.ne_nil_of_mem hdel)) hdel
  obtain ⟨lv, cp, hb, l', c', hl, hc, hlp, hcp, herr⟩ := pollTenantBlocks_ok hpoll
  have hd := mem_delta_unknownBlockIDs (previous.Metas tenantID) (previous.CompactedMetas tenantID) lv cp
  obtain ⟨hcarried, rfl⟩ := List.append_eq_nil.mp hl.symm
  obtain ⟨hccarried, rfl⟩ := List.append_eq_nil.mp hc.symm
  rw [Blocklist.deltaFor, delta_newBlockList, List.filterMap_eq_nil_iff] at hcarried
  rw [Blocklist.deltaFor, delta_newCompactedBlocklist, List.filterMap_eq_nil_iff] at hccarried
  refine ⟨hreap, lv, cp, hb, fun k hk => (indexByID_eq_none _).mp (hcarried k hk),
    fun k hk => (indexByID_eq_none _).mp (hccarried k hk), fun b hb => ?_⟩
  have hbU := (hd b).mpr hb
  exact eq_none_none_of
    (List.filterMap_eq_nil_iff.mp (List.Perm.nil_eq hlp).symm b hbU)
    (List.filterMap_eq_nil_iff.mp (List.Perm.nil_eq hcp).symm b hbU) (herr b hbU)

/-- A builder with `SkipNoCompactBlocks` and deletion after one ns, over a tenant whose
one listed block `1` has a readable meta and the no-compact flag, whose one object
`t/1/meta.json` was written at time `0`, and whose index is absent. -/
def noCompactPoller : Poller where
  reader := { tenants := .ok ["t"], blocks := fun _ => .ok ([1], []),
              blockMeta := fun id _ => .ok ⟨id, 1, 1⟩, tenantIndex := fun _ => .error .doesNotExist,
              hasNoCompactFlag := fun _ _ => .ok true,
              find := fun _ => ([⟨"t/1/meta.json", 0⟩], none) }
  writer := ⟨fun _ _ _ => none, fun _ _ => none⟩
  compactor := ⟨fun _ _ => .error .doesNotExist⟩
  cfg := { pollConcurrency := 1, tenantPollConcurrency := 1, pollFallback := true,
           tenantIndexBuilders := 1, staleTenantIndex := 0, tolerateConsecutiveErrors := 0,
           tolerateTenantFailures := 0, emptyTenantDeletionAge := 1,
           emptyTenantDeletionEnabled := true, skipNoCompactBlocks := true }
  sharder := ⟨fun _ => true⟩

theorem pollTenantAndCreateIndex_delete_conditions_noCompact :
    noCompactPoller.pollTenantAndCreateIndex (.fixed 10) "t" .empty oneBlockSchedule =
      some (.ok ([], []), [.writeTenantIndex "t" [] [], .delete "meta.json" ["t/1/"]]) ∧
    (WriterCall.delete "meta.json" ["t/1/"] ∈ (noCompactPoller.deleteTenant (CallClock.fixed 10).reaper "t").2 ∧
      ∃ lv cp, noCompactPoller.reader.blocks "t" = .ok (lv, cp) ∧
        (∀ k ∈ lv, ∀ m ∈ Blocklist.empty.Metas "t", m.blockID ≠ k) ∧
        (∀ k ∈ cp, ∀ m ∈ Blocklist.empty.CompactedMetas "t", m.blockID ≠ k) ∧
        ∀ b, UnknownEntry (Blocklist.empty.Metas "t") (Blocklist.empty.CompactedMetas "t") lv cp b →
          noCompactPoller.pollBlock "t" b.1 b.2 = .ok (none, none)) :=
  have h : noCompactPoller.pollTenantAndCreateIndex (.fixed 10) "t" .empty oneBlockSchedule =
      some (.ok ([], []), [.writeTenantIndex "t" [] [], .delete "meta.json" ["t/1/"]]) := rfl
  ⟨h, pollTenantAndCreateIndex_delete_conditions h (by decide)⟩

/-- The listed block's live meta reads back, yet `pollBlock` drops it for its flag, the
lists come out empty and the reaper deletes the block's meta. -/
theorem pollTenantAndCreateIndex_reaps_readable_block :
    noCompactPoller.reader.blocks "t" = .ok ([1], []) ∧
    noCompactPoller.reader.blockMeta 1 "t" = .ok ⟨1, 1, 1⟩ ∧
    noCompactPoller.pollTenantAndCreateIndex (.fixed 10) "t" .empty oneBlockSchedule =
      some (.ok ([], []), [.writeTenantIndex "t" [] [], .delete "meta.json" ["t/1/"]]) :=
  ⟨rfl, rfl, by decide⟩

end Poller

end BlocklistPoller
