import BlocklistPoller.Incremental
import BlocklistPoller.Cycle

/-!
# Runs of polling cycles

An instance polls cycle after cycle, each time from the lists the last successful cycle
returned to it (`Blocklist.after`), and the store may change between its calls.
`Poller.Realises` ties the oracle of `Do` to the code: each call of
`pollTenantAndCreateIndex` a cycle makes is a run of it over some store state, with its
own clock readings. With room for one goroutine in each wait group, every call has a
whole run, so some outcomes of them realise the oracle and the cycle can always return
(`Do_completes`).
`Poller.Reaches` collects the lists an instance can hold after any number of cycles,
with the store states its calls read.

With `SkipNoCompactBlocks` set and the instance building the tenant's index, every live
meta it holds was read in a store state where its block's flag was not set
(`Do_builder_live_unflagged`). The flag can be set later, and the next cycle carries
the block forward (`Do_builder_keeps_flagged_block`). A store that lists a block both
live and compacted, as while a compaction is being recorded, makes an instance that
already holds the block as live hold it in both lists (`Do_publishes_block_twice`).
-/

namespace BlocklistPoller

/-- The lists an instance polls from after a cycle: the maps a successful cycle
returned, else the lists it polled from. -/
def Blocklist.after (previous : Blocklist) :
    Except Error (PerTenant × PerTenantCompacted) → Blocklist
  | .ok (bl, cbl) => ⟨bl, cbl⟩
  | .error _ => previous

@[simp] theorem Blocklist.after_ok (previous : Blocklist) (bl : PerTenant)
    (cbl : PerTenantCompacted) : previous.after (.ok (bl, cbl)) = ⟨bl, cbl⟩ := rfl

@[simp] theorem Blocklist.after_error (previous : Blocklist) (e : Error) :
    previous.after (.error e) = previous := rfl

namespace Poller

/-- The calls of a cycle of `p` from `previous`: the `i`-th call for a listed tenant `T`
is a run of `pollTenantAndCreateIndex` over the store state `store T i`, read with `p`'s
configuration and sharder, with clock readings `clock T i`, returning `poll T i` and issuing
`writes T i`. -/
def Realises (p : Poller) (store : TenantID → Nat → Poller) (clock : TenantID → Nat → CallClock)
    (writes : TenantID → Nat → List WriterCall) (previous : Blocklist)
    (poll : TenantID → Nat → PollResult) : Prop :=
  ∀ tenants, p.reader.tenants = .ok tenants → ∀ T ∈ tenants, ∀ i,
    (store T i).cfg = p.cfg ∧ (store T i).sharder = p.sharder ∧
      ∃ sched, (store T i).pollTenantAndCreateIndex (clock T i) T previous sched =
        some (poll T i, writes T i)

/-- The lists an instance holds after a run of cycles, each polling from the lists the
one before left, with the store states read by each cycle's calls, the last cycle's
first. `Allowed` says which store states the run may read. -/
inductive Reaches (Allowed : Poller → Prop) : List (TenantID → Nat → Poller) → Blocklist → Prop
  /-- Before its first cycle an instance holds the empty list. -/
  | init : Reaches Allowed [] .empty
  /-- A cycle of `p` whose calls read store states `Allowed` admits. -/
  | cycle {stores : List (TenantID → Nat → Poller)} {previous : Blocklist} {p : Poller}
      {store : TenantID → Nat → Poller} {clock : TenantID → Nat → CallClock}
      {writes : TenantID → Nat → List WriterCall} {poll : TenantID → Nat → PollResult}
      {events : List CycleEvent} {r : Except Error (PerTenant × PerTenantCompacted)} :
      Reaches Allowed stores previous → (∀ T i, Allowed (store T i)) →
      p.Realises store clock writes previous poll → p.Do previous poll events = some r →
      Reaches Allowed (store :: stores) (previous.after r)

/-- A poller whose one listed tenant is `t` realises an oracle by the runs of its calls
for `t`. -/
theorem realises_of_tenants_t {p : Poller} {store : TenantID → Nat → Poller}
    {clock : TenantID → Nat → CallClock} {writes : TenantID → Nat → List WriterCall}
    {previous : Blocklist} {poll : TenantID → Nat → PollResult}
    (ht : p.reader.tenants = .ok ["t"])
    (h : ∀ i, (store "t" i).cfg = p.cfg ∧ (store "t" i).sharder = p.sharder ∧
      ∃ sched, (store "t" i).pollTenantAndCreateIndex (clock "t" i) "t" previous sched =
        some (poll "t" i, writes "t" i)) :
    p.Realises store clock writes previous poll := by
  intro tenants htenants T hT
  obtain rfl := Except.ok.inj (htenants.symm.trans ht)
  rw [List.mem_singleton.mp hT]
  exact h

/-- The lists a successful cycle records for a tenant: the lists it polled from, none, or
what one of its calls returned. -/
theorem Do_ok_lists {p : Poller} {previous : Blocklist} {store : TenantID → Nat → Poller}
    {clock : TenantID → Nat → CallClock} {writes : TenantID → Nat → List WriterCall}
    {poll : TenantID → Nat → PollResult} {events : List CycleEvent} {bl : PerTenant}
    {cbl : PerTenantCompacted} (hreal : p.Realises store clock writes previous poll)
    (h : p.Do previous poll events = some (.ok (bl, cbl))) (T : TenantID) :
    ((bl T).getD [] = previous.Metas T ∧ (cbl T).getD [] = previous.CompactedMetas T) ∨
      ((bl T).getD [] = [] ∧ (cbl T).getD [] = []) ∨
      ∃ i sched w, (store T i).pollTenantAndCreateIndex (clock T i) T previous sched =
        some (.ok ((bl T).getD [], (cbl T).getD []), w) := by
  cases htenants : p.reader.tenants with
  | error e => simp [Do, htenants] at h
  | ok tenants =>
    obtain ⟨hbl, hcbl⟩ := Do_ok_maps htenants h T
    rw [hbl, hcbl]
    cases he : p.entryAfter previous poll (FanOut.finishedOf (loopEvents events)) T with
    | none => exact .inr (.inl ⟨rfl, rfl⟩)
    | some lc =>
      obtain ⟨l, c⟩ := lc
      simp only [Option.map_some', Option.getD_some]
      obtain ⟨hT, ⟨-, rfl, rfl⟩ | ⟨hres, -⟩⟩ := entryAfter_eq_some_cases he
      · exact .inl ⟨rfl, rfl⟩
      rcases @tenantResult_cases p poll T with h0 | ⟨i, hi⟩
      · obtain ⟨rfl, rfl⟩ := Prod.mk.inj (Except.ok.inj (h0.symm.trans hres))
        exact .inr (.inl ⟨rfl, rfl⟩)
      obtain ⟨-, -, sched, hcall⟩ :=
        hreal tenants htenants T ((Do_finished_subperm htenants h).subset hT) i
      rw [← hi, hres] at hcall
      exact .inr (.inr ⟨i, sched, _, hcall⟩)

/-! ## Live metas under `SkipNoCompactBlocks` -/

section Unflagged

variable {p : Poller} {T : TenantID} {previous : Blocklist} {sched : Schedule}

/-- A live meta a successful poll returns is carried from the previous list or read
for an id whose flag, under `SkipNoCompactBlocks`, read as not set. -/
theorem pollTenantBlocks_live_mem {l : List BlockMeta} {c : List CompactedBlockMeta}
    {m : BlockMeta} (h : p.pollTenantBlocks T previous sched = some (.ok (l, c))) (hm : m ∈ l) :
    m ∈ previous.Metas T ∨ ∃ k, p.reader.blockMeta k T = .ok m ∧
      (p.cfg.skipNoCompactBlocks = true → p.reader.hasNoCompactFlag k T = .ok false) := by
  obtain ⟨lv, cp, -, l', c', rfl, -, hl', -, -⟩ := pollTenantBlocks_ok h
  rcases List.mem_append.mp hm with hm | hm
  · rw [Blocklist.deltaFor, delta_newBlockList] at hm
    obtain ⟨k, -, hk⟩ := List.mem_filterMap.mp hm
    exact .inl (indexByID_eq_some _ hk).1
  · obtain ⟨b, -, hb⟩ := List.mem_filterMap.mp (hl'.subset hm)
    have hb' : liveMeta? (p.pollBlock T b.1 b.2) = some m := hb
    obtain ⟨-, hflag, hmeta⟩ := liveMeta?_pollBlock hb'
    exact .inr ⟨b.1, hmeta, hflag⟩

/-- `SkipNoCompactBlocks` is set and the instance builds `T`'s index. -/
def BuildsSkipping (T : TenantID) (s : Poller) : Prop :=
  s.cfg.skipNoCompactBlocks = true ∧ s.tenantIndexBuilder T = true

/-- A live meta of a successful cycle of a builder that skips flagged blocks is carried
from the lists it polled from, or was read by one of its calls for an id whose flag
read as not set in that call's store state. -/
theorem Do_live_mem {store : TenantID → Nat → Poller} {clock : TenantID → Nat → CallClock}
    {writes : TenantID → Nat → List WriterCall} {poll : TenantID → Nat → PollResult}
    {events : List CycleEvent} {bl : PerTenant} {cbl : PerTenantCompacted}
    (hstore : ∀ i, BuildsSkipping T (store T i)) (hreal : p.Realises store clock writes previous poll)
    (h : p.Do previous poll events = some (.ok (bl, cbl))) {m : BlockMeta}
    (hm : m ∈ (bl T).getD []) :
    m ∈ previous.Metas T ∨ ∃ i k, (store T i).reader.blockMeta k T = .ok m ∧
      (store T i).reader.hasNoCompactFlag k T = .ok false := by
  rcases Do_ok_lists hreal h T with ⟨hl, -⟩ | ⟨hl, -⟩ | ⟨i, sched, w, hcall⟩
  · exact .inl (hl ▸ hm)
  · rw [hl] at hm; cases hm
  rcases pollTenantBlocks_live_mem (pollTenantAndCreateIndex_builder_ok (hstore i).2 hcall) hm with
    hprev | ⟨k, hk, hflag⟩
  · exact .inl hprev
  · exact .inr ⟨i, k, hk, hflag (hstore i).1⟩

/-- The block of `m` was read for some id, in a store state one of the calls of a run
read, where that id's no-compact flag read as not set. -/
def ReadUnflagged (stores : List (TenantID → Nat → Poller)) (T : TenantID) (m : BlockMeta) :
    Prop :=
  ∃ store ∈ stores, ∃ i k, (store T i).reader.blockMeta k T = .ok m ∧
    (store T i).reader.hasNoCompactFlag k T = .ok false

theorem ReadUnflagged.cons {stores : List (TenantID → Nat → Poller)} {m : BlockMeta}
    (store : TenantID → Nat → Poller) (h : ReadUnflagged stores T m) :
    ReadUnflagged (store :: stores) T m := by
  obtain ⟨s, hs, hread⟩ := h
  exact ⟨s, List.mem_cons_of_mem _ hs, hread⟩

/-- Over a run in which every call builds `T`'s index and skips flagged blocks, every
live meta the instance holds for `T` was read where its flag read as not set. -/
theorem Reaches.readUnflagged {stores : List (TenantID → Nat → Poller)}
    (hrun : Reaches (BuildsSkipping T) stores previous) :
    ∀ m ∈ previous.Metas T, ReadUnflagged stores T m := by
  induction hrun with
  | init => simp
  | @cycle stores previous p store clock writes poll events r _ hstore hreal h ih =>
    intro m hm
    rcases r with e | ⟨bl, cbl⟩
    · exact (ih m hm).cons store
    rcases Do_live_mem (fun i => hstore T i) hreal h hm with hprev | ⟨i, k, hread⟩
    · exact (ih m hprev).cons store
    · exact ⟨store, List.mem_cons_self _ _, i, k, hread⟩

end Unflagged

/-- With `SkipNoCompactBlocks` set, over a run of cycles in which the instance builds
`T`'s index, every live meta a successful cycle returns for `T` was read, in this cycle
or an earlier one, for an id whose no-compact flag read as not set in the same store
state. -/
theorem Do_builder_live_unflagged {T : TenantID} {stores : List (TenantID → Nat → Poller)}
    {previous : Blocklist} {p : Poller} {store : TenantID → Nat → Poller}
    {clock : TenantID → Nat → CallClock} {writes : TenantID → Nat → List WriterCall}
    {poll : TenantID → Nat → PollResult} {events : List CycleEvent} {bl : PerTenant}
    {cbl : PerTenantCompacted}
    (hrun : Reaches (BuildsSkipping T) stores previous)
    (hstore : ∀ U i, BuildsSkipping T (store U i))
    (hreal : p.Realises store clock writes previous poll)
    (h : p.Do previous poll events = some (.ok (bl, cbl))) :
    ∀ m ∈ (bl T).getD [], ∃ s ∈ store :: stores, ∃ i k,
      (s T i).reader.blockMeta k T = .ok m ∧ (s T i).reader.hasNoCompactFlag k T = .ok false :=
  (Reaches.cycle hrun hstore hreal h).readUnflagged

/-- Every call of a cycle reads the store state `s`. -/
def constStore (s : Poller) : TenantID → Nat → Poller := fun _ _ => s

/-- With room for one goroutine in each wait group, a cycle can always return. Over any
store states with the instance's configuration and sharder, and any clock readings,
each call of its goroutines has a whole run; the outcomes of such runs realise the
oracle, and with them every started run of `Do` extends to a whole run. -/
theorem Do_completes {p : Poller} {tenants : List TenantID} {previous : Blocklist}
    (hcap : 0 < p.cfg.tenantPollConcurrency) (hpoll : 0 < p.cfg.pollConcurrency)
    (htenants : p.reader.tenants = .ok tenants) (store : TenantID → Nat → Poller)
    (clock : TenantID → Nat → CallClock)
    (hstore : ∀ T i, (store T i).cfg = p.cfg ∧ (store T i).sharder = p.sharder) :
    ∃ poll writes, p.Realises store clock writes previous poll ∧
      ∀ events c s, p.admission previous poll tenants events = some (c, s) →
        ∃ events' r, p.Do previous poll (events ++ events') = some r := by
  have hcall : ∀ T i, ∃ res : PollResult × List WriterCall, ∃ sched,
      (store T i).pollTenantAndCreateIndex (clock T i) T previous sched = some res := by
    intro T i
    obtain ⟨sched, r, hr⟩ := @pollTenantAndCreateIndex_returns (store T i) (clock T i) T previous
      ((hstore T i).1 ▸ hpoll)
    exact ⟨r, sched, hr⟩
  choose res hres using hcall
  exact ⟨fun T i => (res T i).1, fun T i => (res T i).2,
    fun _ _ T _ i => ⟨(hstore T i).1, (hstore T i).2, hres T i⟩,
    fun _ _ _ h => Do_extends hcap htenants h⟩

theorem Do_completes_oneTenant :
    ∃ poll writes, (oneTenantPoller 0 0).Realises (constStore (oneTenantPoller 0 0))
        (fun _ _ => .fixed 0) writes .empty poll ∧
      ∀ events c s, (oneTenantPoller 0 0).admission .empty poll ["t"] events = some (c, s) →
        ∃ events' r, (oneTenantPoller 0 0).Do .empty poll (events ++ events') = some r :=
  Do_completes (by decide) (by decide) rfl _ _ fun _ _ => ⟨rfl, rfl⟩

/-- The one-tenant store state listing block `1` as live, whose meta reads back, with its
no-compact flag read as `flag`, polled by a builder with `SkipNoCompactBlocks`. -/
def flagStore (flag : Bool) : Poller :=
  { oneBlockPoller with
    reader := { oneBlockPoller.reader with hasNoCompactFlag := fun _ _ => .ok flag }
    cfg := { oneBlockPoller.cfg with skipNoCompactBlocks := true } }

/-- The index write of a call for `T` that found block `1` as live. -/
def blockFoundWrites : TenantID → Nat → List WriterCall :=
  fun T _ => [.writeTenantIndex T [⟨1, 1, 1⟩] []]

/-- The lists an instance holds after a cycle that found block `1` as live for `t`. -/
def liveOneSnapshot : Blocklist := Blocklist.empty.after (.ok blockFoundMaps)

theorem flagStore_realises_empty :
    (flagStore false).Realises (constStore (flagStore false)) (fun _ _ => .fixed 0) blockFoundWrites
      .empty blockFound :=
  realises_of_tenants_t rfl fun _ => ⟨rfl, rfl, oneBlockSchedule, rfl⟩

theorem flagStore_Do_empty :
    (flagStore false).Do .empty blockFound oneTenantRun = some (.ok blockFoundMaps) := rfl

/-- One cycle over the unflagged store, from the empty list, leaves block `1` as live. -/
theorem reaches_liveOneSnapshot {Allowed : Poller → Prop} (h : Allowed (flagStore false)) :
    Reaches Allowed [constStore (flagStore false)] liveOneSnapshot :=
  .cycle .init (fun _ _ => h) flagStore_realises_empty flagStore_Do_empty

theorem Do_builder_live_unflagged_flagStore :
    Reaches (BuildsSkipping "t") [] .empty ∧
    (∀ U i, BuildsSkipping "t" (constStore (flagStore false) U i)) ∧
    (flagStore false).Realises (constStore (flagStore false)) (fun _ _ => .fixed 0) blockFoundWrites
      .empty blockFound ∧
    (flagStore false).Do .empty blockFound oneTenantRun = some (.ok blockFoundMaps) ∧
    ∀ m ∈ (blockFoundMaps.1 "t").getD [], ∃ s ∈ [constStore (flagStore false)], ∃ i k,
      (s "t" i).reader.blockMeta k "t" = .ok m ∧ (s "t" i).reader.hasNoCompactFlag k "t" = .ok false :=
  have hstore : ∀ U i, BuildsSkipping "t" (constStore (flagStore false) U i) :=
    fun _ _ => ⟨rfl, rfl⟩
  ⟨.init, hstore, flagStore_realises_empty, flagStore_Do_empty,
    Do_builder_live_unflagged .init hstore flagStore_realises_empty flagStore_Do_empty⟩

/-- A builder that skips flagged blocks keeps a block whose flag was set after it first
read the block: the second cycle carries the block's meta forward without reading the
flag, and returns it for `t` although the flag is set when that cycle lists the block. -/
theorem Do_builder_keeps_flagged_block :
    Reaches (BuildsSkipping "t") [constStore (flagStore false)] liveOneSnapshot ∧
    (∀ U i, BuildsSkipping "t" (constStore (flagStore true) U i)) ∧
    (flagStore true).reader.blocks "t" = .ok ([1], []) ∧
    (flagStore true).reader.hasNoCompactFlag 1 "t" = .ok true ∧
    (flagStore true).Realises (constStore (flagStore true)) (fun _ _ => .fixed 0) blockFoundWrites
      liveOneSnapshot blockFound ∧
    (flagStore true).Do liveOneSnapshot blockFound oneTenantRun = some (.ok blockFoundMaps) ∧
    blockFoundMaps.1 "t" = some [⟨1, 1, 1⟩] :=
  ⟨reaches_liveOneSnapshot ⟨rfl, rfl⟩, fun _ _ => ⟨rfl, rfl⟩, rfl, rfl,
    realises_of_tenants_t rfl fun _ => ⟨rfl, rfl, nothingUnknown, rfl⟩, rfl, rfl⟩

/-! ## A block in both lists -/

/-- A store state whose listings hold each id at most once in each list, and whose meta
reads return metas carrying the id read. -/
structure WellFormedStore (s : Poller) : Prop where
  listings : ∀ T lv cp, s.reader.blocks T = .ok (lv, cp) → lv.Nodup ∧ cp.Nodup
  blockIDs : ∀ k T m, s.reader.blockMeta k T = .ok m → m.blockID = k
  compactedBlockIDs : ∀ k T cm, s.compactor.compactedBlockMeta k T = .ok cm → cm.blockID = k

/-- What each call for `t` returns over `bothListedPoller` after a cycle that found
block `1` as live: the live meta carried, the compacted one read. -/
def bothFound : TenantID → Nat → PollResult := fun _ _ => .ok ([⟨1, 1, 1⟩], [⟨⟨1, 1, 1⟩, 7⟩])

/-- The maps of a cycle that found block `1` for `t` in both lists. -/
def bothFoundMaps : PerTenant × PerTenantCompacted :=
  (Function.update (fun _ => none) "t" (some [⟨1, 1, 1⟩]),
    Function.update (fun _ => none) "t" (some [⟨⟨1, 1, 1⟩, 7⟩]))

/-- A builder that polled block `1` as live keeps it as live when the store then lists
it both live and compacted, and reads it as compacted too: a successful cycle over
well-formed store states with no tenant index returns block `1` in both of `t`'s lists. -/
theorem Do_publishes_block_twice :
    Reaches (fun s => s.WellFormedStore ∧ ∀ T, ∃ e, s.reader.tenantIndex T = .error e)
      [constStore (flagStore false)] liveOneSnapshot ∧
    bothListedPoller.WellFormedStore ∧
    (∀ T, ∃ e, bothListedPoller.reader.tenantIndex T = .error e) ∧
    bothListedPoller.Realises (constStore bothListedPoller) (fun _ _ => .fixed 0)
      (fun T _ => [.writeTenantIndex T [⟨1, 1, 1⟩] [⟨⟨1, 1, 1⟩, 7⟩]]) liveOneSnapshot bothFound ∧
    bothListedPoller.Do liveOneSnapshot bothFound oneTenantRun = some (.ok bothFoundMaps) ∧
    bothFoundMaps.1 "t" = some [⟨1, 1, 1⟩] ∧ bothFoundMaps.2 "t" = some [⟨⟨1, 1, 1⟩, 7⟩] :=
  have hone : (flagStore false).WellFormedStore :=
    ⟨fun _ _ _ h => by cases h; decide, fun _ _ _ h => by cases h; rfl, fun _ _ _ h => by cases h⟩
  have hboth : bothListedPoller.WellFormedStore :=
    ⟨fun _ _ _ h => by cases h; decide, fun _ _ _ h => by cases h; rfl,
      fun _ _ _ h => by cases h; rfl⟩
  ⟨reaches_liveOneSnapshot ⟨hone, fun _ => ⟨_, rfl⟩⟩, hboth, fun _ => ⟨_, rfl⟩,
    realises_of_tenants_t rfl fun _ => ⟨rfl, rfl, oneCompactedSchedule, rfl⟩, rfl, rfl, rfl⟩

/-! ## Where the metas come from -/

section Sources

variable {p : Poller} {T : TenantID} {previous : Blocklist} {sched : Schedule}

/-- A compacted meta a successful poll returns is carried from the previous list or
read by `CompactedBlockMeta`. -/
theorem pollTenantBlocks_compacted_mem {l : List BlockMeta} {c : List CompactedBlockMeta}
    {cm : CompactedBlockMeta} (h : p.pollTenantBlocks T previous sched = some (.ok (l, c)))
    (hcm : cm ∈ c) :
    cm ∈ previous.CompactedMetas T ∨ ∃ k, p.compactor.compactedBlockMeta k T = .ok cm := by
  obtain ⟨lv, cp, -, l', c', -, rfl, -, hc', -⟩ := pollTenantBlocks_ok h
  rcases List.mem_append.mp hcm with hcm | hcm
  · rw [Blocklist.deltaFor, delta_newCompactedBlocklist] at hcm
    obtain ⟨k, -, hk⟩ := List.mem_filterMap.mp hcm
    exact .inl (indexByID_eq_some _ hk).1
  · obtain ⟨b, -, hb⟩ := List.mem_filterMap.mp (hc'.subset hcm)
    exact .inr ⟨b.1, compactedMeta?_pollBlock hb⟩

/-- A live meta read from the store state `s` for `T`: by `BlockMeta`, or from the live
list of the tenant index object. -/
def LiveRead (T : TenantID) (s : Poller) (m : BlockMeta) : Prop :=
  (∃ k, s.reader.blockMeta k T = .ok m) ∨ ∃ i, s.reader.tenantIndex T = .ok i ∧ m ∈ i.meta

/-- A compacted meta read from the store state `s` for `T`: by `CompactedBlockMeta`, or
from the compacted list of the tenant index object. -/
def CompactedRead (T : TenantID) (s : Poller) (cm : CompactedBlockMeta) : Prop :=
  (∃ k, s.compactor.compactedBlockMeta k T = .ok cm) ∨
    ∃ i, s.reader.tenantIndex T = .ok i ∧ cm ∈ i.compactedMeta

/-- Every meta a successful call returns is carried from the previous lists or read from
the store state the call read. -/
theorem pollTenantAndCreateIndex_ok_sources {ck : CallClock} {calls : List WriterCall}
    {l : List BlockMeta} {c : List CompactedBlockMeta}
    (h : p.pollTenantAndCreateIndex ck T previous sched = some (.ok (l, c), calls)) :
    (∀ m ∈ l, m ∈ previous.Metas T ∨ LiveRead T p m) ∧
      ∀ cm ∈ c, cm ∈ previous.CompactedMetas T ∨ CompactedRead T p cm := by
  rcases pollTenantAndCreateIndex_ok_cases h with ⟨i, hi, rfl, rfl⟩ | hp
  · exact ⟨fun m hm => .inr (.inr ⟨i, hi, hm⟩), fun cm hcm => .inr (.inr ⟨i, hi, hcm⟩)⟩
  refine ⟨fun m hm => ?_, fun cm hcm => ?_⟩
  · rcases pollTenantBlocks_live_mem hp hm with hprev | ⟨k, hk, -⟩
    · exact .inl hprev
    · exact .inr (.inl ⟨k, hk⟩)
  · exact (pollTenantBlocks_compacted_mem hp hcm).imp_right .inl

/-- Every meta a successful cycle returns is carried from the lists it polled from or
read from the store state of one of its calls. -/
theorem Do_ok_sources {store : TenantID → Nat → Poller} {clock : TenantID → Nat → CallClock}
    {writes : TenantID → Nat → List WriterCall} {poll : TenantID → Nat → PollResult}
    {events : List CycleEvent} {bl : PerTenant} {cbl : PerTenantCompacted}
    (hreal : p.Realises store clock writes previous poll)
    (h : p.Do previous poll events = some (.ok (bl, cbl))) (T : TenantID) :
    (∀ m ∈ (bl T).getD [], m ∈ previous.Metas T ∨ ∃ i, LiveRead T (store T i) m) ∧
      ∀ cm ∈ (cbl T).getD [], cm ∈ previous.CompactedMetas T ∨ ∃ i, CompactedRead T (store T i) cm := by
  rcases Do_ok_lists hreal h T with ⟨hl, hc⟩ | ⟨hl, hc⟩ | ⟨i, sched, w, hcall⟩
  · exact ⟨fun m hm => .inl (hl ▸ hm), fun cm hcm => .inl (hc ▸ hcm)⟩
  · rw [hl, hc]; exact ⟨nofun, nofun⟩
  · obtain ⟨hl, hc⟩ := pollTenantAndCreateIndex_ok_sources hcall
    exact ⟨fun m hm => (hl m hm).imp_right (⟨i, ·⟩), fun cm hcm => (hc cm hcm).imp_right (⟨i, ·⟩)⟩

end Sources

/-- Over any run of cycles, whatever the store does between and during them, every meta
an instance holds for a tenant was read from the store by a call of the run: a live
meta by `BlockMeta` or from a tenant index object's live list, a compacted meta by
`CompactedBlockMeta` or from an index object's compacted list. The poller makes up no
meta. -/
theorem Reaches.sources {Allowed : Poller → Prop} {stores : List (TenantID → Nat → Poller)}
    {previous : Blocklist} (hrun : Reaches Allowed stores previous) (T : TenantID) :
    (∀ m ∈ previous.Metas T, ∃ store ∈ stores, ∃ i, LiveRead T (store T i) m) ∧
      ∀ cm ∈ previous.CompactedMetas T, ∃ store ∈ stores, ∃ i, CompactedRead T (store T i) cm := by
  induction hrun with
  | init => exact ⟨nofun, nofun⟩
  | @cycle stores previous p store clock writes poll events r _ _ hreal h ih =>
    rcases r with e | ⟨bl, cbl⟩
    · exact ⟨fun m hm => List.exists_mem_cons_of_exists (ih.1 m hm),
        fun cm hcm => List.exists_mem_cons_of_exists (ih.2 cm hcm)⟩
    obtain ⟨hl, hc⟩ := Do_ok_sources hreal h T
    refine ⟨fun m hm => ?_, fun cm hcm => ?_⟩
    · rcases hl m hm with hprev | ⟨i, hi⟩
      · exact List.exists_mem_cons_of_exists (ih.1 m hprev)
      · exact ⟨store, List.mem_cons_self _ _, i, hi⟩
    · rcases hc cm hcm with hprev | ⟨i, hi⟩
      · exact List.exists_mem_cons_of_exists (ih.2 cm hprev)
      · exact ⟨store, List.mem_cons_self _ _, i, hi⟩

theorem Reaches.sources_liveOneSnapshot :
    Reaches (fun _ => True) [constStore (flagStore false)] liveOneSnapshot ∧
    ((∀ m ∈ liveOneSnapshot.Metas "t", ∃ store ∈ [constStore (flagStore false)], ∃ i,
        LiveRead "t" (store "t" i) m) ∧
      ∀ cm ∈ liveOneSnapshot.CompactedMetas "t", ∃ store ∈ [constStore (flagStore false)], ∃ i,
        CompactedRead "t" (store "t" i) cm) :=
  have hrun : Reaches (fun _ => True) [constStore (flagStore false)] liveOneSnapshot :=
    reaches_liveOneSnapshot trivial
  ⟨hrun, hrun.sources "t"⟩

/-! ## Each block id once -/

/-- Store states whose listings share no id between the live and the compacted list. -/
def DisjointListings (s : Poller) : Prop :=
  ∀ T lv cp, s.reader.blocks T = .ok (lv, cp) → ∀ k ∈ lv, k ∉ cp

/-- Store states whose tenant indexes, when readable, hold each block id at most once
across both lists. -/
def IndexUniqueIDs (s : Poller) : Prop :=
  ∀ T i, s.reader.tenantIndex T = .ok i → UniqueIDs i.meta i.compactedMeta

/-- The store state `flagStore false` is well formed: its one listing holds block `1`
once, live only, and its meta reads carry the id read. -/
theorem flagStore_wellFormedStore : (flagStore false).WellFormedStore :=
  ⟨fun _ _ _ h => by cases h; decide, fun _ _ _ h => by cases h; rfl, fun _ _ _ h => by cases h⟩

theorem flagStore_disjointListings : (flagStore false).DisjointListings :=
  fun _ _ _ h => by cases h; simp

section UniqueIDs

variable {s : Poller} {ck : CallClock} {T : TenantID} {previous : Blocklist} {sched : Schedule}
  {l : List BlockMeta} {c : List CompactedBlockMeta}

theorem WellFormedStore.uniqueIDs_of_pollTenantBlocks (hwf : s.WellFormedStore)
    (hdisj : s.DisjointListings) (h : s.pollTenantBlocks T previous sched = some (.ok (l, c))) :
    UniqueIDs l c := by
  obtain ⟨lv, cp, hb, -⟩ := pollTenantBlocks_ok h
  exact pollTenantBlocks_uniqueIDs hb (hwf.listings T lv cp hb).1 (hwf.listings T lv cp hb).2
    (hdisj T lv cp hb) (fun k m => hwf.blockIDs k T m) (fun k cm => hwf.compactedBlockIDs k T cm) h

/-- Over a well-formed store with disjoint listings, every tenant index a call writes
holds each block id at most once across both lists. -/
theorem pollTenantAndCreateIndex_writes_uniqueIDs {res : PollResult} {calls : List WriterCall}
    {U : TenantID} (hwf : s.WellFormedStore) (hdisj : s.DisjointListings)
    (h : s.pollTenantAndCreateIndex ck T previous sched = some (res, calls))
    (hw : .writeTenantIndex U l c ∈ calls) : UniqueIDs l c :=
  hwf.uniqueIDs_of_pollTenantBlocks hdisj (pollTenantAndCreateIndex_writeTenantIndex h hw).2

/-- A call over such a store whose pulled indexes hold each id once returns lists that
hold each id once. -/
theorem pollTenantAndCreateIndex_uniqueIDs {calls : List WriterCall} (hwf : s.WellFormedStore)
    (hdisj : s.DisjointListings) (hidx : s.IndexUniqueIDs)
    (h : s.pollTenantAndCreateIndex ck T previous sched = some (.ok (l, c), calls)) :
    UniqueIDs l c := by
  rcases pollTenantAndCreateIndex_ok_cases h with ⟨i, hi, rfl, rfl⟩ | hp
  · exact hidx T i hi
  · exact hwf.uniqueIDs_of_pollTenantBlocks hdisj hp

end UniqueIDs

/-- Over a run whose calls read well-formed store states with disjoint listings and
tenant indexes that hold each id once, the lists an instance holds for a tenant hold
each block id at most once across its live and compacted lists. -/
theorem Reaches.uniqueIDs {stores : List (TenantID → Nat → Poller)} {previous : Blocklist}
    (hrun : Reaches (fun s => s.WellFormedStore ∧ s.DisjointListings ∧ s.IndexUniqueIDs)
      stores previous) (T : TenantID) :
    UniqueIDs (previous.Metas T) (previous.CompactedMetas T) := by
  induction hrun with
  | init => exact List.nodup_nil
  | @cycle stores previous p store clock writes poll events r _ hstore hreal h ih =>
    rcases r with e | ⟨bl, cbl⟩
    · exact ih
    show UniqueIDs ((bl T).getD []) ((cbl T).getD [])
    rcases Do_ok_lists hreal h T with ⟨hl, hc⟩ | ⟨hl, hc⟩ | ⟨i, sched, w, hcall⟩
    · rwa [hl, hc]
    · rw [hl, hc]; exact List.nodup_nil
    · obtain ⟨hwf, hdisj, hidx⟩ := hstore T i
      exact pollTenantAndCreateIndex_uniqueIDs hwf hdisj hidx hcall

theorem Reaches.uniqueIDs_liveOneSnapshot :
    Reaches (fun s => s.WellFormedStore ∧ s.DisjointListings ∧ s.IndexUniqueIDs)
      [constStore (flagStore false)] liveOneSnapshot ∧
    UniqueIDs (liveOneSnapshot.Metas "t") (liveOneSnapshot.CompactedMetas "t") :=
  have hrun : Reaches (fun s => s.WellFormedStore ∧ s.DisjointListings ∧ s.IndexUniqueIDs)
      [constStore (flagStore false)] liveOneSnapshot :=
    reaches_liveOneSnapshot ⟨flagStore_wellFormedStore, flagStore_disjointListings,
      fun _ _ h => by cases h⟩
  ⟨hrun, hrun.uniqueIDs "t"⟩

/-- The tenant index objects of a store that any number of instances share: none at
first; then any instance's call of `pollTenantAndCreateIndex`, over a store state with
well-formed, disjoint listings, writes one, the last write winning; and any object can
disappear or fail to read. -/
inductive IndexHistory : (TenantID → Except Error TenantIndex) → Prop
  /-- No tenant index object yet. -/
  | init {idx : TenantID → Except Error TenantIndex} : (∀ T, ∃ e, idx T = .error e) →
      IndexHistory idx
  /-- A call writes the index of a tenant, created at some time. -/
  | write {idx : TenantID → Except Error TenantIndex} {s : Poller} {ck : CallClock} {createdAt : Int}
      {T U : TenantID} {previous : Blocklist} {sched : Schedule} {res : PollResult}
      {calls : List WriterCall} {l : List BlockMeta} {c : List CompactedBlockMeta} :
      IndexHistory idx → s.WellFormedStore → s.DisjointListings →
      s.pollTenantAndCreateIndex ck T previous sched = some (res, calls) →
      .writeTenantIndex U l c ∈ calls → IndexHistory (Function.update idx U (.ok ⟨createdAt, l, c⟩))
  /-- The object of a tenant is deleted or cannot be read. -/
  | fail {idx : TenantID → Except Error TenantIndex} {U : TenantID} {e : Error} :
      IndexHistory idx → IndexHistory (Function.update idx U (.error e))

/-- Whatever any number of instances sharing the store do, every tenant index object
holds each block id at most once across its two lists: a follower's `IndexUniqueIDs`
holds of every state of such a store. -/
theorem IndexHistory.uniqueIDs_of_ok {idx : TenantID → Except Error TenantIndex}
    (h : IndexHistory idx) (T : TenantID) (i : TenantIndex) (hi : idx T = .ok i) :
    UniqueIDs i.meta i.compactedMeta := by
  induction h with
  | init hnone =>
    obtain ⟨e, he⟩ := hnone T
    rw [he] at hi; cases hi
  | @write idx s ck createdAt T' U previous sched res calls l c _ hwf hdisj hcall hw ih =>
    by_cases hTU : T = U
    · subst hTU
      rw [Function.update_same] at hi; cases hi
      exact pollTenantAndCreateIndex_writes_uniqueIDs hwf hdisj hcall hw
    · rw [Function.update_noteq hTU] at hi
      exact ih hi
  | @fail idx U e _ ih =>
    by_cases hTU : T = U
    · subst hTU
      rw [Function.update_same] at hi; cases hi
    · rw [Function.update_noteq hTU] at hi
      exact ih hi

/-- The index objects after the first write of the run of `flagStore false`. -/
def oneIndexWritten : TenantID → Except Error TenantIndex :=
  Function.update (fun _ => .error .doesNotExist) "t" (.ok ⟨0, [⟨1, 1, 1⟩], []⟩)

theorem IndexHistory.uniqueIDs_of_ok_oneIndexWritten :
    IndexHistory oneIndexWritten ∧ oneIndexWritten "t" = .ok ⟨0, [⟨1, 1, 1⟩], []⟩ ∧
    UniqueIDs [⟨1, 1, 1⟩] [] :=
  have h : IndexHistory oneIndexWritten :=
    .write (.init fun _ => ⟨_, rfl⟩) flagStore_wellFormedStore flagStore_disjointListings
      (show (flagStore false).pollTenantAndCreateIndex (.fixed 0) "t" .empty oneBlockSchedule =
        some (.ok ([⟨1, 1, 1⟩], []), [.writeTenantIndex "t" [⟨1, 1, 1⟩] []]) from rfl)
      (List.mem_singleton_self _)
  have hi : oneIndexWritten "t" = .ok ⟨0, [⟨1, 1, 1⟩], []⟩ := Function.update_same _ _ _
  ⟨h, hi, h.uniqueIDs_of_ok "t" _ hi⟩

end Poller

end BlocklistPoller
