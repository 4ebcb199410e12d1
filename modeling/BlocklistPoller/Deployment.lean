import BlocklistPoller.Runs
import Mathlib.Data.Fintype.Card

/-!
# Instances sharing a store

A deployment runs any number of instances of the poller over one store. An instance
that owns a tenant's builder job writes the tenant's index object; the others pull it,
or fall back to polling. `Poller.Deployment` is the state of a whole deployment: the
store states the calls have read, the index objects the store has held, latest first,
and the lists each instance holds. Its steps are a cycle of any instance, a write of an
index object by a call of any instance, and the loss of an index object, in any order.
A call can read index objects the store held at any earlier point.

The index protocol makes up no meta. Every live meta that an instance holds or that an
index object lists was returned by a `BlockMeta` read of the store, and every compacted
one by a `CompactedBlockMeta` read (`Poller.Deployment.readEverywhere`).

The sharder gives each builder job one owner among the instances, as a ring does. A tenant
then has between one and `TenantIndexBuilders` builders when that setting is positive, and
none otherwise (`Poller.tenantIndexBuilder_owners_card`). With fallback off only they
write the tenant's index object (`Poller.Deployment.index_writers_owners`).
-/

namespace BlocklistPoller

namespace Poller

/-- `m` was returned for `T` by a `BlockMeta` read of a store state of `stores`. -/
def MetaRead (stores : List (TenantID → Nat → Poller)) (T : TenantID) (m : BlockMeta) : Prop :=
  ∃ store ∈ stores, ∃ i k, (store T i).reader.blockMeta k T = .ok m

/-- `cm` was returned for `T` by a `CompactedBlockMeta` read of a store state of
`stores`. -/
def CompactedMetaRead (stores : List (TenantID → Nat → Poller)) (T : TenantID)
    (cm : CompactedBlockMeta) : Prop :=
  ∃ store ∈ stores, ∃ i k, (store T i).compactor.compactedBlockMeta k T = .ok cm

/-- Lists of `T` whose metas were all read from the store states of `stores`. -/
def ReadLists (stores : List (TenantID → Nat → Poller)) (T : TenantID) (l : List BlockMeta)
    (c : List CompactedBlockMeta) : Prop :=
  (∀ m ∈ l, MetaRead stores T m) ∧ ∀ cm ∈ c, CompactedMetaRead stores T cm

theorem ReadLists.mono {stores stores' : List (TenantID → Nat → Poller)} {T : TenantID}
    {l : List BlockMeta} {c : List CompactedBlockMeta} (h : ReadLists stores T l c)
    (hsub : stores ⊆ stores') : ReadLists stores' T l c :=
  ⟨fun m hm => let ⟨s, hs, hread⟩ := h.1 m hm; ⟨s, hsub hs, hread⟩,
    fun cm hcm => let ⟨s, hs, hread⟩ := h.2 cm hcm; ⟨s, hsub hs, hread⟩⟩

/-- The state of a deployment: the store states its calls read, the tenant index objects
the store has held, latest first, and the lists of each instance, `Allowed` saying which
store states the calls may read. -/
inductive Deployment (Allowed : Poller → Prop) : List (TenantID → Nat → Poller) →
    List (TenantID → Except Error TenantIndex) → (Nat → Blocklist) → Prop
  /-- No instance has polled, and the store holds no index object. -/
  | init : Deployment Allowed [] [fun _ => .error .doesNotExist] fun _ => .empty
  /-- Instance `j` runs a cycle from its lists, whose calls read store states `Allowed`
  admits, with index objects the store has held. -/
  | cycle {stores : List (TenantID → Nat → Poller)}
      {history : List (TenantID → Except Error TenantIndex)} {insts : Nat → Blocklist} {j : Nat}
      {p : Poller} {store : TenantID → Nat → Poller} {clock : TenantID → Nat → CallClock}
      {writes : TenantID → Nat → List WriterCall} {poll : TenantID → Nat → PollResult}
      {events : List CycleEvent} {r : Except Error (PerTenant × PerTenantCompacted)} :
      Deployment Allowed stores history insts →
      (∀ T i, Allowed (store T i) ∧ (store T i).reader.tenantIndex ∈ history) →
      p.Realises store clock writes (insts j) poll → p.Do (insts j) poll events = some r →
      Deployment Allowed (store :: stores) history (Function.update insts j ((insts j).after r))
  /-- A call of instance `j`, over a store state `Allowed` admits with index objects the
  store has held, writes the index object of a tenant. -/
  | write {stores : List (TenantID → Nat → Poller)} {idx : TenantID → Except Error TenantIndex}
      {history : List (TenantID → Except Error TenantIndex)} {insts : Nat → Blocklist} {j : Nat}
      {s : Poller} {ck : CallClock} {createdAt : Int} {T U : TenantID} {sched : Schedule} {res : PollResult}
      {calls : List WriterCall} {l : List BlockMeta} {c : List CompactedBlockMeta} :
      Deployment Allowed stores (idx :: history) insts → Allowed s →
      s.reader.tenantIndex ∈ idx :: history →
      s.pollTenantAndCreateIndex ck T (insts j) sched = some (res, calls) →
      .writeTenantIndex U l c ∈ calls →
      Deployment Allowed (constStore s :: stores)
        (Function.update idx U (.ok ⟨createdAt, l, c⟩) :: idx :: history) insts
  /-- The index object of a tenant is deleted or cannot be read. -/
  | fail {stores : List (TenantID → Nat → Poller)} {idx : TenantID → Except Error TenantIndex}
      {history : List (TenantID → Except Error TenantIndex)} {insts : Nat → Blocklist}
      {U : TenantID} {e : Error} :
      Deployment Allowed stores (idx :: history) insts →
      Deployment Allowed stores (Function.update idx U (.error e) :: idx :: history) insts

/-- Every list of an instance, and every index object the store has held, holds only
metas read from the store states of `stores`. -/
structure ReadEverywhere (stores : List (TenantID → Nat → Poller))
    (history : List (TenantID → Except Error TenantIndex)) (insts : Nat → Blocklist) : Prop where
  lists : ∀ j T, ReadLists stores T ((insts j).Metas T) ((insts j).CompactedMetas T)
  index : ∀ idx ∈ history, ∀ T i, idx T = .ok i → ReadLists stores T i.meta i.compactedMeta

section ReadEverywhere

variable {stores : List (TenantID → Nat → Poller)} {idx : TenantID → Except Error TenantIndex}
  {history : List (TenantID → Except Error TenantIndex)} {insts : Nat → Blocklist}

theorem ReadEverywhere.cons (h : ReadEverywhere stores history insts)
    (store : TenantID → Nat → Poller) : ReadEverywhere (store :: stores) history insts :=
  ⟨fun j T => (h.lists j T).mono (List.subset_cons_self _ _),
    fun idx hidx T i hi => (h.index idx hidx T i hi).mono (List.subset_cons_self _ _)⟩

/-- A cycle records lists it polled from, or lists its calls read from the store or
pulled from an index object the store held. -/
theorem ReadEverywhere.cycle {j : Nat} {p : Poller} {store : TenantID → Nat → Poller}
    {clock : TenantID → Nat → CallClock} {writes : TenantID → Nat → List WriterCall}
    {poll : TenantID → Nat → PollResult} {events : List CycleEvent}
    {r : Except Error (PerTenant × PerTenantCompacted)} (h : ReadEverywhere stores history insts)
    (hstore : ∀ T i, (store T i).reader.tenantIndex ∈ history)
    (hreal : p.Realises store clock writes (insts j) poll)
    (hDo : p.Do (insts j) poll events = some r) :
    ReadEverywhere (store :: stores) history (Function.update insts j ((insts j).after r)) := by
  have h' := h.cons store
  refine ⟨fun j' T => ?_, h'.index⟩
  rcases eq_or_ne j' j with rfl | hj
  swap; · rw [Function.update_noteq hj]; exact h'.lists j' T
  rw [Function.update_same]
  rcases r with e | ⟨bl, cbl⟩
  · exact h'.lists j' T
  obtain ⟨hl, hc⟩ := Do_ok_sources hreal hDo T
  refine ⟨fun m hm => ?_, fun cm hcm => ?_⟩
  · rcases hl m hm with hprev | ⟨i, ⟨k, hk⟩ | ⟨ti, hti, hm'⟩⟩
    · exact (h'.lists j' T).1 m hprev
    · exact ⟨store, List.mem_cons_self _ _, i, k, hk⟩
    · exact (h'.index _ (hstore T i) T ti hti).1 m hm'
  · rcases hc cm hcm with hprev | ⟨i, ⟨k, hk⟩ | ⟨ti, hti, hcm'⟩⟩
    · exact (h'.lists j' T).2 cm hprev
    · exact ⟨store, List.mem_cons_self _ _, i, k, hk⟩
    · exact (h'.index _ (hstore T i) T ti hti).2 cm hcm'

/-- A written index object holds what the writing call polled: metas carried from the
instance's lists, or read by the call. -/
theorem ReadEverywhere.write {j : Nat} {s : Poller} {ck : CallClock} {createdAt : Int} {T U : TenantID}
    {sched : Schedule} {res : PollResult} {calls : List WriterCall} {l : List BlockMeta}
    {c : List CompactedBlockMeta} (h : ReadEverywhere stores (idx :: history) insts)
    (hcall : s.pollTenantAndCreateIndex ck T (insts j) sched = some (res, calls))
    (hw : .writeTenantIndex U l c ∈ calls) :
    ReadEverywhere (constStore s :: stores)
      (Function.update idx U (.ok ⟨createdAt, l, c⟩) :: idx :: history) insts := by
  have h' := h.cons (constStore s)
  refine ⟨h'.lists, fun idx' hidx' T' i hi => ?_⟩
  rcases List.mem_cons.mp hidx' with rfl | hold
  swap; · exact h'.index idx' hold T' i hi
  by_cases hT : T' = U
  swap; · rw [Function.update_noteq hT] at hi; exact h'.index idx (List.mem_cons_self _ _) T' i hi
  subst hT
  rw [Function.update_same] at hi
  cases hi
  obtain ⟨rfl, hp⟩ := pollTenantAndCreateIndex_writeTenantIndex hcall hw
  refine ⟨fun m hm => ?_, fun cm hcm => ?_⟩
  · rcases pollTenantBlocks_live_mem hp hm with hprev | ⟨k, hk, -⟩
    · exact (h'.lists j T').1 m hprev
    · exact ⟨constStore s, List.mem_cons_self _ _, 0, k, hk⟩
  · rcases pollTenantBlocks_compacted_mem hp hcm with hprev | ⟨k, hk⟩
    · exact (h'.lists j T').2 cm hprev
    · exact ⟨constStore s, List.mem_cons_self _ _, 0, k, hk⟩

theorem ReadEverywhere.fail {U : TenantID} {e : Error} (h : ReadEverywhere stores (idx :: history) insts) :
    ReadEverywhere stores (Function.update idx U (.error e) :: idx :: history) insts := by
  refine ⟨h.lists, fun idx' hidx' T i hi => ?_⟩
  rcases List.mem_cons.mp hidx' with rfl | hold
  · by_cases hT : T = U
    · subst hT; rw [Function.update_same] at hi; cases hi
    · rw [Function.update_noteq hT] at hi; exact h.index idx (List.mem_cons_self _ _) T i hi
  · exact h.index idx' hold T i hi

end ReadEverywhere

/-- Whatever the instances of a deployment do, in whatever order, and whatever the store
returns: every live meta an instance holds, and every live meta an index object the
store has held lists, was returned by a `BlockMeta` read of the store by one of the
deployment's calls, and every compacted one by a `CompactedBlockMeta` read. Pulling
index objects makes up no meta. -/
theorem Deployment.readEverywhere {Allowed : Poller → Prop} {stores : List (TenantID → Nat → Poller)}
    {history : List (TenantID → Except Error TenantIndex)} {insts : Nat → Blocklist}
    (h : Deployment Allowed stores history insts) : ReadEverywhere stores history insts := by
  induction h with
  | init =>
    refine ⟨fun _ _ => ⟨nofun, nofun⟩, fun idx hidx T i hi => ?_⟩
    rw [List.mem_singleton.mp hidx] at hi
    cases hi
  | cycle _ hstore hreal hDo ih => exact ih.cycle (fun T i => (hstore T i).2) hreal hDo
  | write _ _ _ hcall hw ih => exact ih.write hcall hw
  | fail _ ih => exact ih.fail

/-- A follower store: it owns no builder job, and reads the index object instance `0`
wrote for `t`. -/
def followerStore : Poller :=
  { oneBlockPoller with
    reader := { oneBlockPoller.reader with tenantIndex := oneIndexWritten }
    sharder := ownsNothingSharder }

/-- Instance `0` writes the index object of `t` from its call over `flagStore false`, then
instance `1`, a follower, pulls it in a cycle: its lists come from the index object. -/
theorem Deployment.readEverywhere_follower :
    Deployment (fun _ => True) [constStore followerStore, constStore (flagStore false)]
      [oneIndexWritten, fun _ => .error .doesNotExist]
      (Function.update (fun _ => .empty) 1 liveOneSnapshot) ∧
    (Function.update (fun _ => Blocklist.empty) 1 liveOneSnapshot 1).Metas "t" = [⟨1, 1, 1⟩] ∧
    MetaRead [constStore followerStore, constStore (flagStore false)] "t" ⟨1, 1, 1⟩ := by
  have hwrite : Deployment (fun _ => True) [constStore (flagStore false)]
      [oneIndexWritten, fun _ => .error .doesNotExist] fun _ => .empty :=
    @Deployment.write _ _ _ _ _ 0 _ _ _ _ _ _ _ _ _ _ .init trivial (List.mem_singleton_self _)
      (show (flagStore false).pollTenantAndCreateIndex (.fixed 0) "t" .empty oneBlockSchedule =
        some (.ok ([⟨1, 1, 1⟩], []), [.writeTenantIndex "t" [⟨1, 1, 1⟩] []]) from rfl)
      (List.mem_singleton_self _)
  have hreal : followerStore.Realises (constStore followerStore) (fun _ _ => .fixed 0) (fun _ _ => [])
      Blocklist.empty blockFound :=
    realises_of_tenants_t rfl fun _ => ⟨rfl, rfl, oneBlockSchedule, rfl⟩
  have hDo : followerStore.Do Blocklist.empty blockFound oneTenantRun = some (.ok blockFoundMaps) :=
    rfl
  have hdep : Deployment (fun _ => True) [constStore followerStore, constStore (flagStore false)]
      [oneIndexWritten, fun _ => .error .doesNotExist]
      (Function.update (fun _ => .empty) 1 liveOneSnapshot) :=
    .cycle hwrite (fun _ _ => ⟨trivial, List.mem_cons_self _ _⟩) hreal hDo
  exact ⟨hdep, rfl, (hdep.readEverywhere.lists 1 "t").1 _ (List.mem_singleton_self _)⟩

section Builders

variable {ι : Type} [DecidableEq ι] {owner : String → ι} {n : Int}

/-- An instance that owns the jobs `owner` gives it builds a tenant's index exactly when it
owns one of the tenant's `TenantIndexBuilders` builder jobs. -/
theorem tenantIndexBuilder_iff_owner {s : Poller} {j : ι} (hcfg : s.cfg.tenantIndexBuilders = n)
    (hown : ∀ job, s.sharder.owns job = decide (owner job = j)) (T : TenantID) :
    s.tenantIndexBuilder T = true ↔ ∃ k < n.toNat, owner (jobPrefix ++ toString k ++ "-" ++ T) = j := by
  simp [tenantIndexBuilder, hcfg, hown]

/-- The instances that build a tenant's index are the owners of its `TenantIndexBuilders`
builder jobs, when the instances share that setting and `owner` names the one instance
that owns each job, as the ring a deployment shards over does. -/
theorem builders_eq_owners [Fintype ι] (insts : ι → Poller) (owner : String → ι)
    (hcfg : ∀ j, (insts j).cfg.tenantIndexBuilders = n)
    (hown : ∀ j job, (insts j).sharder.owns job = decide (owner job = j)) (T : TenantID) :
    Finset.univ.filter (fun j => (insts j).tenantIndexBuilder T) =
      (Finset.range n.toNat).image fun i => owner (jobPrefix ++ toString i ++ "-" ++ T) := by
  ext j
  simpa using tenantIndexBuilder_iff_owner (hcfg j) (hown j) T

/-- In a deployment whose instances share `TenantIndexBuilders = n` and whose sharder gives
every job one owner, each tenant has at most `n` index builders, and has one exactly when
`n` is positive. -/
theorem tenantIndexBuilder_owners_card [Fintype ι] (insts : ι → Poller) (owner : String → ι)
    (hcfg : ∀ j, (insts j).cfg.tenantIndexBuilders = n)
    (hown : ∀ j job, (insts j).sharder.owns job = decide (owner job = j)) (T : TenantID) :
    (Finset.univ.filter fun j => (insts j).tenantIndexBuilder T).card ≤ n.toNat ∧
      (0 < (Finset.univ.filter fun j => (insts j).tenantIndexBuilder T).card ↔ 0 < n) := by
  rw [builders_eq_owners insts owner hcfg hown]
  refine ⟨Finset.card_image_le.trans (Finset.card_range _).le, ?_⟩
  rw [Finset.card_pos, Finset.image_nonempty, Finset.nonempty_range_iff]
  omega

/-- A call that issues a write is a builder of its tenant, or a follower that fell back. -/
theorem pollTenantAndCreateIndex_writer {s : Poller} {ck : CallClock} {T : TenantID}
    {previous : Blocklist} {sched : Schedule} {res : PollResult} {calls : List WriterCall}
    (h : s.pollTenantAndCreateIndex ck T previous sched = some (res, calls)) (hcalls : calls ≠ []) :
    s.tenantIndexBuilder T = true ∨ s.cfg.pollFallback = true := by
  unfold pollTenantAndCreateIndex at h
  split at h
  · exact .inl ‹_›
  · split at h
    · cases h; exact absurd rfl hcalls
    · split at h
      · cases h; exact absurd rfl hcalls
      · rename_i hfb
        exact .inr (by simpa using hfb)

/-- A store state of an instance of a deployment sharded over a ring, with fallback off:
`TenantIndexBuilders` is `n`, and the instance owns the jobs `owner` gives it. -/
def RingNoFallback (owner : String → ι) (n : Int) (s : Poller) : Prop :=
  s.cfg.pollFallback = false ∧ s.cfg.tenantIndexBuilders = n ∧
    ∃ j, ∀ job, s.sharder.owns job = decide (owner job = j)

/-- Every index object of a tenant the store has held was written by a call over a store
state of `stores`, of an instance that owns one of the tenant's `n` builder jobs. -/
def WrittenByOwners (owner : String → ι) (n : Int) (stores : List (TenantID → Nat → Poller))
    (history : List (TenantID → Except Error TenantIndex)) : Prop :=
  ∀ idx ∈ history, ∀ U i, idx U = .ok i → ∃ s j, constStore s ∈ stores ∧
    (∀ job, s.sharder.owns job = decide (owner job = j)) ∧
    ∃ k < n.toNat, owner (jobPrefix ++ toString k ++ "-" ++ U) = j

namespace WrittenByOwners

variable {stores : List (TenantID → Nat → Poller)} {idx : TenantID → Except Error TenantIndex}
  {history : List (TenantID → Except Error TenantIndex)}

theorem cons (h : WrittenByOwners owner n stores history) (store : TenantID → Nat → Poller) :
    WrittenByOwners owner n (store :: stores) history := fun idx hidx U i hi =>
  let ⟨s, j, hs, hown, hk⟩ := h idx hidx U i hi
  ⟨s, j, List.mem_cons_of_mem _ hs, hown, hk⟩

/-- Changing the index object of one tenant keeps the invariant when the new object, if
readable, was written by an owner of the tenant's builder jobs. -/
theorem update {U : TenantID} {v : Except Error TenantIndex}
    (h : WrittenByOwners owner n stores (idx :: history))
    (hv : ∀ i, v = .ok i → ∃ s j, constStore s ∈ stores ∧
      (∀ job, s.sharder.owns job = decide (owner job = j)) ∧
      ∃ k < n.toNat, owner (jobPrefix ++ toString k ++ "-" ++ U) = j) :
    WrittenByOwners owner n stores (Function.update idx U v :: idx :: history) := by
  intro idx' hidx' U' i hi
  rcases List.mem_cons.mp hidx' with rfl | hold
  · by_cases hU : U' = U
    · subst hU
      rw [Function.update_same] at hi
      exact hv i hi
    · rw [Function.update_noteq hU] at hi
      exact h idx (List.mem_cons_self _ _) U' i hi
  · exact h idx' hold U' i hi

end WrittenByOwners

/-- In a deployment sharded over a ring with fallback off, every index object of a tenant
the store has held was written by one of the owners of the tenant's `TenantIndexBuilders`
builder jobs: followers never write an index, and at most `TenantIndexBuilders` instances
write each tenant's. -/
theorem Deployment.index_writers_owners {stores : List (TenantID → Nat → Poller)}
    {history : List (TenantID → Except Error TenantIndex)} {insts : Nat → Blocklist}
    (h : Deployment (RingNoFallback owner n) stores history insts) :
    WrittenByOwners owner n stores history := by
  induction h with
  | init =>
    intro idx hidx U i hi
    rw [List.mem_singleton.mp hidx] at hi
    cases hi
  | cycle _ _ _ _ ih => exact ih.cons _
  | @write _ _ _ _ _ s _ _ _ _ _ _ _ _ _ _ hallowed _ hcall hw ih =>
    refine (ih.cons (constStore s)).update fun i hi => ?_
    obtain ⟨hfb, hcfg, j, hown⟩ := hallowed
    obtain ⟨rfl, -⟩ := pollTenantAndCreateIndex_writeTenantIndex hcall hw
    have hb := (pollTenantAndCreateIndex_writer hcall (List.ne_nil_of_mem hw)).resolve_right
      (by simp [hfb])
    exact ⟨s, j, List.mem_cons_self _ _, hown, (tenantIndexBuilder_iff_owner hcfg hown _).mp hb⟩
  | fail _ ih => exact ih.update fun _ hi => by cases hi

end Builders

/-- The instance of three that owns a job: the job name's length modulo three. -/
def ringOwner (job : String) : Fin 3 := ⟨job.length % 3, Nat.mod_lt _ (by decide)⟩

/-- Instance `j` of three over `oneBlockPoller`'s store, with two builder jobs a tenant,
owning the jobs `ringOwner` gives it. -/
def ringPoller (j : Fin 3) : Poller :=
  { oneBlockPoller with
    cfg := { oneBlockPoller.cfg with tenantIndexBuilders := 2 }
    sharder := ⟨fun job => decide (ringOwner job = j)⟩ }

theorem tenantIndexBuilder_owners_card_ring :
    (Finset.univ.filter fun j => (ringPoller j).tenantIndexBuilder "t").card ≤ Int.toNat 2 ∧
      (0 < (Finset.univ.filter fun j => (ringPoller j).tenantIndexBuilder "t").card ↔
        (0 : Int) < 2) :=
  tenantIndexBuilder_owners_card ringPoller ringOwner (fun _ => rfl) (fun _ _ => rfl) "t"

/-- Instance `1` of the three `ringOwner` shards over, with fallback off and one builder
job a tenant: it owns the job of `t`, and its store lists block `1`. -/
def ringWriter : Poller :=
  { oneBlockPoller with
    cfg := { oneBlockPoller.cfg with pollFallback := false }
    sharder := ⟨fun job => decide (ringOwner job = 1)⟩ }

/-- The builder of `t` writes its index object. -/
theorem Deployment.index_writers_owners_ring :
    Deployment (RingNoFallback ringOwner 1) [constStore ringWriter]
      [oneIndexWritten, fun _ => .error .doesNotExist] (fun _ => .empty) ∧
    WrittenByOwners ringOwner 1 [constStore ringWriter]
      [oneIndexWritten, fun _ => .error .doesNotExist] := by
  have hdep : Deployment (RingNoFallback ringOwner 1) [constStore ringWriter]
      [oneIndexWritten, fun _ => .error .doesNotExist] (fun _ => .empty) :=
    @Deployment.write _ _ _ _ _ 0 _ _ _ _ _ _ _ _ _ _ .init ⟨rfl, rfl, 1, fun _ => rfl⟩
      (List.mem_singleton_self _)
      (show ringWriter.pollTenantAndCreateIndex (.fixed 0) "t" .empty oneBlockSchedule =
        some (.ok ([⟨1, 1, 1⟩], []), [.writeTenantIndex "t" [⟨1, 1, 1⟩] []]) from rfl)
      (List.mem_singleton_self _)
  exact ⟨hdep, hdep.index_writers_owners⟩

end Poller

end BlocklistPoller
