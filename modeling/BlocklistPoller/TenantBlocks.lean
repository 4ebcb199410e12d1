import BlocklistPoller.Resolver
import Mathlib.Data.List.Nodup

/-!
# Polling one tenant's blocks

`Poller.pollTenantBlocks` lists a tenant's live and compacted block ids, carries
forward every meta the previous list already holds for a listed id, and hands the
other ids to `pollUnknown`, each marked with whether it was listed as compacted. A
Go map holds the unknown ids, so an id listed both ways is polled once, as
compacted. `pollTenantBlocks_spec` says what every run returns.
-/

namespace BlocklistPoller

/-- A Go map from block ids to metas, filled by `for _, i := range metas { m[i.BlockID] = i }`:
the last meta with an id wins. -/
def indexByID {β : Type} (blockID : β → UUID) (metas : List β) : UUID → Option β :=
  metas.foldl (fun m i => Function.update m (blockID i) (some i)) fun _ => none

section IndexByID

variable {β : Type} (blockID : β → UUID)

@[simp] theorem indexByID_nil (k : UUID) : indexByID blockID [] k = none := rfl

/-- The map holds, for each id, the last meta with that id. -/
theorem indexByID_eq_find? (metas : List β) (k : UUID) :
    indexByID blockID metas k = metas.reverse.find? fun i => blockID i = k := by
  induction metas using List.reverseRecOn with
  | nil => rfl
  | append_singleton metas i ih =>
    simp only [indexByID, List.foldl_append, List.foldl_cons, List.foldl_nil, List.reverse_append,
      List.reverse_cons, List.reverse_nil, List.nil_append, List.singleton_append,
      List.find?_cons] at ih ⊢
    rw [Function.update_apply, ← ih]
    by_cases hk : k = blockID i <;> simp [hk, eq_comm]

theorem indexByID_eq_none {metas : List β} {k : UUID} :
    indexByID blockID metas k = none ↔ ∀ i ∈ metas, blockID i ≠ k := by
  simp [indexByID_eq_find?]

theorem indexByID_eq_some {metas : List β} {k : UUID} {i : β}
    (h : indexByID blockID metas k = some i) : i ∈ metas ∧ blockID i = k := by
  rw [indexByID_eq_find?] at h
  exact ⟨List.mem_reverse.mp (List.mem_of_find?_eq_some h), by simpa using List.find?_some h⟩

/-- The map gives `o` for `k` when `o` is the one meta with id `k`. -/
theorem indexByID_eq_of_unique {metas : List β} {k : UUID} {o : Option β}
    (hsome : ∀ i, o = some i → i ∈ metas ∧ blockID i = k)
    (huniq : ∀ i ∈ metas, blockID i = k → o = some i) :
    indexByID blockID metas k = o := by
  cases h : indexByID blockID metas k with
  | some i =>
    obtain ⟨hi, hk⟩ := indexByID_eq_some _ h
    exact (huniq i hi hk).symm
  | none =>
    cases ho : o with
    | none => rfl
    | some i =>
      obtain ⟨hi, hk⟩ := hsome i ho
      exact absurd hk ((indexByID_eq_none _).mp h i hi)

/-- With distinct ids, `find?` gives the one meta with the id. -/
theorem find?_eq_some_iff_of_nodup {metas : List β} (hnd : (metas.map blockID).Nodup)
    {k : UUID} {i : β} :
    metas.find? (fun j => blockID j = k) = some i ↔ i ∈ metas ∧ blockID i = k := by
  constructor
  · intro h
    exact ⟨List.mem_of_find?_eq_some h, by simpa using List.find?_some h⟩
  · rintro ⟨hi, rfl⟩
    cases hf : metas.find? fun j => blockID j = blockID i with
    | none => exact absurd (List.find?_eq_none.mp hf i hi) (by simp)
    | some j =>
      have hji : blockID j = blockID i := by simpa using List.find?_some hf
      rw [List.inj_on_of_nodup_map hnd (List.mem_of_find?_eq_some hf) hi hji]

/-- With distinct ids, the map gives the meta `find?` gives. -/
theorem indexByID_eq_find?_of_nodup {metas : List β} (hnd : (metas.map blockID).Nodup) (k : UUID) :
    indexByID blockID metas k = metas.find? fun i => blockID i = k := by
  have hrev : (metas.reverse.map blockID).Nodup := by simpa [List.map_reverse] using hnd
  apply Option.ext
  intro i
  rw [Option.mem_def, Option.mem_def, indexByID_eq_find?, find?_eq_some_iff_of_nodup blockID hrev,
    find?_eq_some_iff_of_nodup blockID hnd, List.mem_reverse]

end IndexByID

/-- Go's `m[k] = v` on a map held as the list of its entries. -/
def mapSet {κ ν : Type} [DecidableEq κ] (m : List (κ × ν)) (k : κ) (v : ν) : List (κ × ν) :=
  m.filter (fun e => e.1 != k) ++ [(k, v)]

section MapSet

variable {κ ν : Type} [DecidableEq κ] {m : List (κ × ν)} {k : κ} {v : ν}

theorem mem_mapSet {b : κ × ν} : b ∈ mapSet m k v ↔ b = (k, v) ∨ (b ∈ m ∧ b.1 ≠ k) := by
  simp [mapSet, or_comm]

/-- Setting a key keeps the map's keys distinct. -/
theorem mapSet_keys_nodup (h : (m.map Prod.fst).Nodup) : ((mapSet m k v).map Prod.fst).Nodup := by
  simp only [mapSet, List.map_append, List.map_cons, List.map_nil]
  refine List.Nodup.append (h.sublist ((List.filter_sublist m).map Prod.fst))
    (List.nodup_singleton k) ?_
  simp [List.disjoint_singleton]

end MapSet

/-- The locals `pollTenantBlocks` fills before it resolves the unknown ids. -/
structure Delta where
  newBlockList : List BlockMeta
  newCompactedBlocklist : List CompactedBlockMeta
  unknownBlockIDs : List (UUID × Bool)

namespace Delta

/-- One iteration of the loop over `currentBlockIDs`. -/
def live (mm : UUID → Option BlockMeta) (d : Delta) (blockID : UUID) : Delta :=
  match mm blockID with
  | some v => { d with newBlockList := d.newBlockList ++ [v] }
  | none => { d with unknownBlockIDs := mapSet d.unknownBlockIDs blockID false }

/-- One iteration of the loop over `currentCompactedBlockIDs`. -/
def compacted (cm : UUID → Option CompactedBlockMeta) (d : Delta) (blockID : UUID) : Delta :=
  match cm blockID with
  | some v => { d with newCompactedBlocklist := d.newCompactedBlocklist ++ [v] }
  | none => { d with unknownBlockIDs := mapSet d.unknownBlockIDs blockID true }

end Delta

/-- The delta of `pollTenantBlocks`: known metas carried forward in listing order,
unknown ids marked with whether the listing named them compacted. -/
def delta (metas : List BlockMeta) (compactedMetas : List CompactedBlockMeta)
    (currentBlockIDs currentCompactedBlockIDs : List UUID) : Delta :=
  let mm := indexByID BlockMeta.blockID metas
  let cm := indexByID (fun c : CompactedBlockMeta => c.blockID) compactedMetas
  currentCompactedBlockIDs.foldl (Delta.compacted cm)
    (currentBlockIDs.foldl (Delta.live mm) ⟨[], [], []⟩)

/-- The entries of the unknown map as the spec describes them: an id listed as
compacted with no compacted meta in the previous list maps to `true`; an id listed as
live with no live meta maps to `false`, unless the first case applies to it. -/
def UnknownEntry (metas : List BlockMeta) (compactedMetas : List CompactedBlockMeta)
    (currentBlockIDs currentCompactedBlockIDs : List UUID) (b : UUID × Bool) : Prop :=
  (b.1 ∈ currentCompactedBlockIDs ∧ (∀ m ∈ compactedMetas, m.blockID ≠ b.1) ∧ b.2 = true) ∨
  (b.1 ∈ currentBlockIDs ∧ (∀ m ∈ metas, m.blockID ≠ b.1) ∧ b.2 = false ∧
    ¬(b.1 ∈ currentCompactedBlockIDs ∧ ∀ m ∈ compactedMetas, m.blockID ≠ b.1))

namespace Delta

theorem live_unknownBlockIDs (mm : UUID → Option BlockMeta) (d : Delta) (k : UUID) :
    (live mm d k).unknownBlockIDs =
      if (mm k).isSome then d.unknownBlockIDs else mapSet d.unknownBlockIDs k false := by
  unfold live; cases mm k <;> rfl

theorem compacted_unknownBlockIDs (cm : UUID → Option CompactedBlockMeta) (d : Delta) (k : UUID) :
    (compacted cm d k).unknownBlockIDs =
      if (cm k).isSome then d.unknownBlockIDs else mapSet d.unknownBlockIDs k true := by
  unfold compacted; cases cm k <;> rfl

/-- Both loops of the delta put an id in the unknown map, with their own flag, exactly
when the previous list has no meta for it; a later loop overwrites an earlier one. -/
theorem mem_foldl_unknown {step : Delta → UUID → Delta} {known : UUID → Bool} {c : Bool}
    (hstep : ∀ d k, (step d k).unknownBlockIDs =
      if known k then d.unknownBlockIDs else mapSet d.unknownBlockIDs k c)
    (ks : List UUID) (d : Delta) (b : UUID × Bool) :
    b ∈ (ks.foldl step d).unknownBlockIDs ↔
      (b.1 ∈ ks ∧ known b.1 = false ∧ b.2 = c) ∨
        (b ∈ d.unknownBlockIDs ∧ ¬(b.1 ∈ ks ∧ known b.1 = false)) := by
  induction ks generalizing d with
  | nil => simp
  | cons k ks ih =>
    rw [List.foldl_cons, ih, hstep]
    obtain ⟨b1, b2⟩ := b
    by_cases hk : b1 = k
    · subst hk
      cases hkn : known b1
      · simp [hkn, mem_mapSet]; tauto
      · simp [hkn, mem_mapSet]
    · split <;> simp [hk, mem_mapSet]

/-- Both loops keep the unknown map's keys distinct. -/
theorem foldl_unknown_keys_nodup {step : Delta → UUID → Delta} {known : UUID → Bool} {c : Bool}
    (hstep : ∀ d k, (step d k).unknownBlockIDs =
      if known k then d.unknownBlockIDs else mapSet d.unknownBlockIDs k c)
    (ks : List UUID) {d : Delta} (hd : (d.unknownBlockIDs.map Prod.fst).Nodup) :
    ((ks.foldl step d).unknownBlockIDs.map Prod.fst).Nodup := by
  induction ks generalizing d with
  | nil => exact hd
  | cons k ks ih =>
    refine ih ?_
    rw [hstep]
    split
    · exact hd
    · exact mapSet_keys_nodup hd

theorem foldl_live_newBlockList (mm : UUID → Option BlockMeta) (ks : List UUID) (d : Delta) :
    (ks.foldl (live mm) d).newBlockList = d.newBlockList ++ ks.filterMap mm := by
  induction ks generalizing d with
  | nil => simp
  | cons k ks ih => rw [List.foldl_cons, ih]; cases h : mm k <;> simp [live, h]

theorem foldl_live_newCompactedBlocklist (mm : UUID → Option BlockMeta) (ks : List UUID)
    (d : Delta) : (ks.foldl (live mm) d).newCompactedBlocklist = d.newCompactedBlocklist := by
  induction ks generalizing d with
  | nil => rfl
  | cons k ks ih => rw [List.foldl_cons, ih]; cases h : mm k <;> simp [live, h]

theorem foldl_compacted_newBlockList (cm : UUID → Option CompactedBlockMeta) (ks : List UUID)
    (d : Delta) : (ks.foldl (compacted cm) d).newBlockList = d.newBlockList := by
  induction ks generalizing d with
  | nil => rfl
  | cons k ks ih => rw [List.foldl_cons, ih]; cases h : cm k <;> simp [compacted, h]

theorem foldl_compacted_newCompactedBlocklist (cm : UUID → Option CompactedBlockMeta)
    (ks : List UUID) (d : Delta) :
    (ks.foldl (compacted cm) d).newCompactedBlocklist = d.newCompactedBlocklist ++ ks.filterMap cm := by
  induction ks generalizing d with
  | nil => simp
  | cons k ks ih => rw [List.foldl_cons, ih]; cases h : cm k <;> simp [compacted, h]

end Delta

section DeltaSpec

variable (metas : List BlockMeta) (compactedMetas : List CompactedBlockMeta)
  (currentBlockIDs currentCompactedBlockIDs : List UUID)

/-- The live metas carried forward: for each live-listed id, the previous list's
meta for it, in listing order. -/
theorem delta_newBlockList :
    (delta metas compactedMetas currentBlockIDs currentCompactedBlockIDs).newBlockList =
      currentBlockIDs.filterMap (indexByID BlockMeta.blockID metas) := by
  simp [delta, Delta.foldl_compacted_newBlockList, Delta.foldl_live_newBlockList]

/-- The compacted metas carried forward, in listing order. -/
theorem delta_newCompactedBlocklist :
    (delta metas compactedMetas currentBlockIDs currentCompactedBlockIDs).newCompactedBlocklist =
      currentCompactedBlockIDs.filterMap (indexByID (fun c : CompactedBlockMeta => c.blockID)
        compactedMetas) := by
  simp [delta, Delta.foldl_compacted_newCompactedBlocklist, Delta.foldl_live_newCompactedBlocklist]

/-- The unknown map holds exactly the entries the spec describes. -/
theorem mem_delta_unknownBlockIDs (b : UUID × Bool) :
    b ∈ (delta metas compactedMetas currentBlockIDs currentCompactedBlockIDs).unknownBlockIDs ↔
      UnknownEntry metas compactedMetas currentBlockIDs currentCompactedBlockIDs b := by
  simp only [delta, UnknownEntry]
  rw [Delta.mem_foldl_unknown (Delta.compacted_unknownBlockIDs _),
    Delta.mem_foldl_unknown (Delta.live_unknownBlockIDs _)]
  simp [indexByID_eq_none]
  tauto

/-- The unknown map has each id once. -/
theorem delta_unknownBlockIDs_nodup :
    (delta metas compactedMetas currentBlockIDs currentCompactedBlockIDs).unknownBlockIDs.Nodup :=
  List.Nodup.of_map Prod.fst <|
    Delta.foldl_unknown_keys_nodup (Delta.compacted_unknownBlockIDs _) _ <|
      Delta.foldl_unknown_keys_nodup (Delta.live_unknownBlockIDs _) _ List.nodup_nil

end DeltaSpec

/-- The previous list holds each block id at most once among a tenant's live metas,
and at most once among its compacted metas. -/
def Blocklist.DistinctIDs (l : Blocklist) (tenantID : TenantID) : Prop :=
  ((l.Metas tenantID).map BlockMeta.blockID).Nodup ∧
    ((l.CompactedMetas tenantID).map fun c : CompactedBlockMeta => c.blockID).Nodup

instance (l : Blocklist) (tenantID : TenantID) : Decidable (l.DistinctIDs tenantID) :=
  inferInstanceAs (Decidable (_ ∧ _))

/-- The delta `pollTenantBlocks` computes from the previous list for a listing. -/
def Blocklist.deltaFor (previous : Blocklist) (tenantID : TenantID)
    (currentBlockIDs currentCompactedBlockIDs : List UUID) : Delta :=
  delta (previous.Metas tenantID) (previous.CompactedMetas tenantID) currentBlockIDs
    currentCompactedBlockIDs

namespace Poller

variable (p : Poller) (tenantID : TenantID)

/-- `Poller.pollTenantBlocks`, `none` when the schedule of `pollUnknown` is not a
whole run. -/
def pollTenantBlocks (previous : Blocklist) (sched : Schedule) :
    Option (Except Error (List BlockMeta × List CompactedBlockMeta)) :=
  match p.reader.blocks tenantID with
  | .error err => some (.error (.wrap "failed listing tenant blocks" err))
  | .ok (currentBlockIDs, currentCompactedBlockIDs) =>
    let d := previous.deltaFor tenantID currentBlockIDs currentCompactedBlockIDs
    (p.pollUnknown tenantID d.unknownBlockIDs sched).map fun
      | .error err => .error (.wrap "failed reading unknown blocks" err)
      | .ok (newM, newCm) => .ok (d.newBlockList ++ newM, d.newCompactedBlocklist ++ newCm)

variable {p tenantID} {previous : Blocklist} {sched : Schedule}
  {r : Except Error (List BlockMeta × List CompactedBlockMeta)}

/-- On a listing that succeeded, `pollTenantBlocks` is `pollUnknown` over the unknown
map, its error wrapped and its metas appended to the carried ones. -/
theorem pollTenantBlocks_of_listing {lv cp : List UUID}
    (hb : p.reader.blocks tenantID = .ok (lv, cp))
    (h : p.pollTenantBlocks tenantID previous sched = some r) :
    ∃ r₀, p.pollUnknown tenantID (previous.deltaFor tenantID lv cp).unknownBlockIDs sched = some r₀ ∧
      r = match r₀ with
        | .error err => .error (.wrap "failed reading unknown blocks" err)
        | .ok (newM, newCm) => .ok ((previous.deltaFor tenantID lv cp).newBlockList ++ newM,
            (previous.deltaFor tenantID lv cp).newCompactedBlocklist ++ newCm) := by
  simp only [pollTenantBlocks, hb] at h
  obtain ⟨r₀, hr₀, rfl⟩ := Option.map_eq_some'.mp h
  exact ⟨r₀, hr₀, rfl⟩

/-- `pollTenantBlocks` fails exactly when the listing fails or `pollBlock` fails on an
entry of the unknown map. -/
theorem pollTenantBlocks_error_iff (h : p.pollTenantBlocks tenantID previous sched = some r) :
    (∃ e, r = .error e) ↔ (∃ e, p.reader.blocks tenantID = .error e) ∨
      ∃ lv cp, p.reader.blocks tenantID = .ok (lv, cp) ∧
        ∃ b ∈ (previous.deltaFor tenantID lv cp).unknownBlockIDs, ∃ e, p.pollEntry tenantID b = .error e := by
  cases hb : p.reader.blocks tenantID with
  | error e =>
    simp only [pollTenantBlocks, hb, Option.some.injEq] at h
    subst h
    simp
  | ok listing =>
    obtain ⟨lv, cp⟩ := listing
    obtain ⟨r₀, hr₀, rfl⟩ := pollTenantBlocks_of_listing hb h
    have herr := (pollUnknown_spec hr₀).2.1
    constructor
    · rintro ⟨e, he⟩
      rcases r₀ with e₀ | _
      · exact .inr ⟨lv, cp, rfl, herr.mp ⟨e₀, rfl⟩⟩
      · exact nomatch he
    · rintro (⟨e, he⟩ | ⟨lv', cp', hb', hex⟩)
      · exact nomatch he
      · obtain ⟨rfl, rfl⟩ := Prod.mk.inj (Except.ok.inj hb')
        obtain ⟨e₀, rfl⟩ := herr.mpr hex
        exact ⟨_, rfl⟩

/-- A successful run of `pollTenantBlocks`: the listing succeeded, no unknown entry
failed, and the result is the carried metas followed by what `pollBlock` resolved for
the unknown entries, up to order. -/
theorem pollTenantBlocks_ok {l : List BlockMeta} {c : List CompactedBlockMeta}
    (h : p.pollTenantBlocks tenantID previous sched = some (.ok (l, c))) :
    ∃ lv cp, p.reader.blocks tenantID = .ok (lv, cp) ∧ ∃ l' c',
      l = (previous.deltaFor tenantID lv cp).newBlockList ++ l' ∧
      c = (previous.deltaFor tenantID lv cp).newCompactedBlocklist ++ c' ∧
      l'.Perm ((previous.deltaFor tenantID lv cp).unknownBlockIDs.filterMap
        (liveMeta? ∘ p.pollEntry tenantID)) ∧
      c'.Perm ((previous.deltaFor tenantID lv cp).unknownBlockIDs.filterMap
        (compactedMeta? ∘ p.pollEntry tenantID)) ∧
      ∀ b ∈ (previous.deltaFor tenantID lv cp).unknownBlockIDs, error? (p.pollEntry tenantID b) = none := by
  cases hb : p.reader.blocks tenantID with
  | error e => simp [pollTenantBlocks, hb] at h
  | ok listing =>
    obtain ⟨lv, cp⟩ := listing
    obtain ⟨r₀, hr₀, hr⟩ := pollTenantBlocks_of_listing hb h
    obtain ⟨-, herr, hok⟩ := pollUnknown_spec hr₀
    rcases r₀ with e | ⟨newM, newCm⟩
    · exact nomatch hr
    · obtain ⟨rfl, rfl⟩ := Prod.mk.inj (Except.ok.inj hr)
      refine ⟨lv, cp, rfl, newM, newCm, rfl, rfl, (hok _ _ rfl).1, (hok _ _ rfl).2, fun b hb => ?_⟩
      cases he : p.pollEntry tenantID b with
      | error e => exact absurd (herr.mpr ⟨b, hb, e, he⟩) (by simp)
      | ok => rfl

/-- `pollTenantBlocks` calls `pollBlock` on entries of the unknown map, each at most once. -/
theorem pollTenantBlocks_calls {lv cp : List UUID} (hb : p.reader.blocks tenantID = .ok (lv, cp))
    (h : p.pollTenantBlocks tenantID previous sched = some r) :
    (FanOut.finishedOf sched.events).Subperm (previous.deltaFor tenantID lv cp).unknownBlockIDs := by
  obtain ⟨r₀, hr₀, -⟩ := pollTenantBlocks_of_listing hb h
  exact (pollUnknown_spec hr₀).1

/-- Every run of `pollTenantBlocks`. It calls `pollBlock` only on entries of the
unknown map the spec describes, each at most once, and each call keeps the `pollBlock`
contract. It fails exactly when the listing fails or `pollBlock` fails on some entry of
that map. A successful run returns the previous list's metas for the listed ids, in
listing order, followed by what `pollBlock` resolves for the unknown entries, up to
order. -/
theorem pollTenantBlocks_spec (hprev : previous.DistinctIDs tenantID)
    (h : p.pollTenantBlocks tenantID previous sched = some r) :
    (∀ b : UUID × Bool, PollBlockContract p tenantID b.1 b.2 (p.pollEntry tenantID b)) ∧
    ((∃ e, r = .error e) ↔ (∃ e, p.reader.blocks tenantID = .error e) ∨
      ∃ lv cp, p.reader.blocks tenantID = .ok (lv, cp) ∧
        ∃ b, UnknownEntry (previous.Metas tenantID) (previous.CompactedMetas tenantID) lv cp b ∧
          ∃ e, p.pollEntry tenantID b = .error e) ∧
    ∀ lv cp, p.reader.blocks tenantID = .ok (lv, cp) →
      (∀ b ∈ FanOut.finishedOf sched.events,
        UnknownEntry (previous.Metas tenantID) (previous.CompactedMetas tenantID) lv cp b) ∧
      (FanOut.finishedOf sched.events).Nodup ∧
      ∀ l c, r = .ok (l, c) → ∃ l' c',
        l = lv.filterMap (fun k => (previous.Metas tenantID).find? fun m => m.blockID = k) ++ l' ∧
        c = cp.filterMap (fun k => (previous.CompactedMetas tenantID).find? fun m => m.blockID = k) ++
          c' ∧
        ∀ us : List (UUID × Bool), us.Nodup → (∀ b, b ∈ us ↔
            UnknownEntry (previous.Metas tenantID) (previous.CompactedMetas tenantID) lv cp b) →
          l'.Perm (us.filterMap (liveMeta? ∘ p.pollEntry tenantID)) ∧
          c'.Perm (us.filterMap (compactedMeta? ∘ p.pollEntry tenantID)) := by
  have hmem (lv cp : List UUID) := mem_delta_unknownBlockIDs (previous.Metas tenantID)
    (previous.CompactedMetas tenantID) lv cp
  have hnd (lv cp : List UUID) := delta_unknownBlockIDs_nodup (previous.Metas tenantID)
    (previous.CompactedMetas tenantID) lv cp
  refine ⟨fun _ => pollBlock_contract, (pollTenantBlocks_error_iff h).trans ?_, fun lv cp hb => ?_⟩
  · simp only [Blocklist.deltaFor, hmem]
  · have hcalls := pollTenantBlocks_calls hb h
    have hsubset := hcalls.subset
    obtain ⟨w, hw, hsub⟩ := hcalls
    refine ⟨fun b hb => (hmem lv cp b).mp (hsubset hb), ((hnd lv cp).sublist hsub).perm hw,
      fun l c hlc => ?_⟩
    subst hlc
    obtain ⟨lv', cp', hb', l', c', rfl, rfl, hl, hc, -⟩ := pollTenantBlocks_ok h
    obtain ⟨rfl, rfl⟩ := Prod.mk.inj (Except.ok.inj (hb'.symm.trans hb))
    refine ⟨l', c', ?_, ?_, fun us hus hmemus => ?_⟩
    · rw [Blocklist.deltaFor, delta_newBlockList, funext (indexByID_eq_find?_of_nodup _ hprev.1)]
    · rw [Blocklist.deltaFor, delta_newCompactedBlocklist,
        funext (indexByID_eq_find?_of_nodup _ hprev.2)]
    · have hperm : (previous.deltaFor tenantID lv' cp').unknownBlockIDs.Perm us :=
        (List.perm_ext_iff_of_nodup (hnd lv' cp') hus).mpr fun b => (hmem lv' cp' b).trans (hmemus b).symm
      exact ⟨hl.trans (hperm.filterMap _), hc.trans (hperm.filterMap _)⟩

/-- With room for one goroutine in `pollUnknown`'s wait group, `pollTenantBlocks` can
return: some run of `pollUnknown` is whole. -/
theorem pollTenantBlocks_returns (hcap : 0 < p.cfg.pollConcurrency) :
    ∃ sched r, p.pollTenantBlocks tenantID previous sched = some r := by
  cases hb : p.reader.blocks tenantID with
  | error e => exact ⟨⟨.inOrder, []⟩, _, by rw [pollTenantBlocks, hb]⟩
  | ok listing =>
    obtain ⟨events, r, hr⟩ := @pollUnknown_returns p tenantID
      (previous.deltaFor tenantID listing.1 listing.2).unknownBlockIDs hcap .inOrder
    refine ⟨⟨.inOrder, events⟩, ?_⟩
    simp only [pollTenantBlocks, hb, hr, Option.map_some']
    exact ⟨_, rfl⟩

/-- A store in which tenant `t` lists one live block, `1`, whose meta reads fine. -/
def oneBlockPoller : Poller where
  reader := { tenants := .ok ["t"], blocks := fun _ => .ok ([1], []),
              blockMeta := fun id _ => .ok ⟨id, 1, 1⟩, tenantIndex := fun _ => .error .doesNotExist,
              hasNoCompactFlag := fun _ _ => .ok false, find := fun _ => ([], none) }
  writer := ⟨fun _ _ _ => none, fun _ _ => none⟩
  compactor := ⟨fun _ _ => .error .doesNotExist⟩
  cfg := { pollConcurrency := 1, tenantPollConcurrency := 1, pollFallback := true,
           tenantIndexBuilders := 1, staleTenantIndex := 0, tolerateConsecutiveErrors := 0,
           tolerateTenantFailures := 0, emptyTenantDeletionAge := 0,
           emptyTenantDeletionEnabled := false, skipNoCompactBlocks := false }
  sharder := ⟨fun _ => true⟩

/-- The one interleaving of `pollUnknown` over a single unknown live id `1`. -/
def oneBlockSchedule : Schedule := ⟨.inOrder, [.check, .add, .finish (1, false), .check]⟩

theorem pollTenantBlocks_spec_oneBlock :
    Blocklist.empty.DistinctIDs "t" ∧
    oneBlockPoller.pollTenantBlocks "t" .empty oneBlockSchedule = some (.ok ([⟨1, 1, 1⟩], [])) ∧
    ((∀ b : UUID × Bool, PollBlockContract oneBlockPoller "t" b.1 b.2 (oneBlockPoller.pollEntry "t" b)) ∧
    ((∃ e, (.ok ([⟨1, 1, 1⟩], []) : Except Error (List BlockMeta × List CompactedBlockMeta)) =
        .error e) ↔ (∃ e, oneBlockPoller.reader.blocks "t" = .error e) ∨
      ∃ lv cp, oneBlockPoller.reader.blocks "t" = .ok (lv, cp) ∧
        ∃ b, UnknownEntry (Blocklist.empty.Metas "t") (Blocklist.empty.CompactedMetas "t") lv cp b ∧
          ∃ e, oneBlockPoller.pollEntry "t" b = .error e) ∧
    ∀ lv cp, oneBlockPoller.reader.blocks "t" = .ok (lv, cp) →
      (∀ b ∈ FanOut.finishedOf oneBlockSchedule.events,
        UnknownEntry (Blocklist.empty.Metas "t") (Blocklist.empty.CompactedMetas "t") lv cp b) ∧
      (FanOut.finishedOf oneBlockSchedule.events).Nodup ∧
      ∀ l c, (.ok ([⟨1, 1, 1⟩], []) : Except Error (List BlockMeta × List CompactedBlockMeta)) =
          .ok (l, c) → ∃ l' c',
        l = lv.filterMap (fun k => (Blocklist.empty.Metas "t").find? fun m => m.blockID = k) ++ l' ∧
        c = cp.filterMap
          (fun k => (Blocklist.empty.CompactedMetas "t").find? fun m => m.blockID = k) ++ c' ∧
        ∀ us : List (UUID × Bool), us.Nodup → (∀ b, b ∈ us ↔
            UnknownEntry (Blocklist.empty.Metas "t") (Blocklist.empty.CompactedMetas "t") lv cp b) →
          l'.Perm (us.filterMap (liveMeta? ∘ oneBlockPoller.pollEntry "t")) ∧
          c'.Perm (us.filterMap (compactedMeta? ∘ oneBlockPoller.pollEntry "t"))) :=
  ⟨by decide, rfl, pollTenantBlocks_spec (by decide) rfl⟩

end Poller

end BlocklistPoller
