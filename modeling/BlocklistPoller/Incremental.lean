import BlocklistPoller.TenantBlocks

/-!
# Carrying known metas forward

`pollTenantBlocks` reads only the blocks the previous list does not know, and carries
the metas of the others forward. Over listings that hold each id once and in one list
only, what a successful poll returns is, up to order, one entry per listed id: the
previous meta, or what `pollBlock` reads for it (`pollTenantBlocks_ok_perm`), whatever
the order its goroutines ran in.

An id listed both ways that the previous list does not know is polled as compacted
only, so the same holds over listings that share ids the previous list does not know
(`pollTenantBlocks_ok_perm_of_shared`).

Two consequences follow. Over a store whose previous metas are what the store returns,
carrying gives the lists a re-read of every listed block gives, unless the previous list
knows an id listed both ways or a carried live block carries the no-compact flag under
`SkipNoCompactBlocks` (`pollTenantBlocks_carry_perm_reread`, and
`pollTenantBlocks_carry_differs` for a store breaking each condition). And polling again, with what a poll returned as the previous
list, returns the same lists (`pollTenantBlocks_repoll`).
-/

namespace BlocklistPoller

/-- Taking `f`'s value where there is one and `g`'s elsewhere keeps `f`'s values and
then `g`'s, up to order. -/
theorem filterMap_or_perm {α β : Type} (f g : α → Option β) (l : List α) :
    (l.filterMap fun a => (f a).or (g a)).Perm
      (l.filterMap f ++ (l.filter fun a => (f a).isNone).filterMap g) := by
  induction l with
  | nil => rfl
  | cons a l ih =>
    cases hf : f a with
    | none =>
      cases hg : g a with
      | none => simpa [List.filterMap_cons, List.filter_cons, hf, hg] using ih
      | some b =>
        simpa [List.filterMap_cons, List.filter_cons, hf, hg] using
          (ih.cons b).trans List.perm_middle.symm
    | some b => simpa [List.filterMap_cons, List.filter_cons, hf] using ih.cons b

section Unknown

variable {previous : Blocklist} {tenantID : TenantID} {lv cp : List UUID}

/-- When an id listed both ways has no meta in the previous list, the unknown map polls
as live the ids listed live only that the previous live metas do not know, and as
compacted the compacted-listed ids the previous compacted metas do not know. -/
theorem deltaFor_unknownBlockIDs_perm_of_shared (hlv : lv.Nodup) (hcp : cp.Nodup)
    (hshared : ∀ k ∈ lv, k ∈ cp → (∀ m ∈ previous.Metas tenantID, m.blockID ≠ k) ∧
      ∀ cm ∈ previous.CompactedMetas tenantID, cm.blockID ≠ k) :
    (previous.deltaFor tenantID lv cp).unknownBlockIDs.Perm
      (((lv.filter (· ∉ cp)).filter fun k =>
          (indexByID BlockMeta.blockID (previous.Metas tenantID) k).isNone).map (·, false) ++
        (cp.filter fun k => (indexByID (fun c : CompactedBlockMeta => c.blockID)
          (previous.CompactedMetas tenantID) k).isNone).map (·, true)) := by
  have hinj : ∀ c : Bool, Function.Injective fun k : UUID => (k, c) :=
    fun _ _ _ h => (Prod.mk.inj h).1
  refine (List.perm_ext_iff_of_nodup (delta_unknownBlockIDs_nodup _ _ lv cp)
    ((((hlv.filter _).filter _).map (hinj false)).append ((hcp.filter _).map (hinj true)) ?_)).mpr ?_
  · intro b h₁ h₂
    obtain ⟨k, -, rfl⟩ := List.mem_map.mp h₁
    obtain ⟨k', -, h⟩ := List.mem_map.mp h₂
    exact Bool.noConfusion (Prod.mk.inj h).2
  · rintro ⟨k, c⟩
    have := hshared k
    simp only [Blocklist.deltaFor, mem_delta_unknownBlockIDs, UnknownEntry]
    cases c with
    | false => simp [indexByID_eq_none]; tauto
    | true => simp [indexByID_eq_none]

/-- Over listings that share no id, no live-listed id is dropped for being listed both
ways. -/
theorem filter_not_mem_eq_self (hdisj : ∀ k ∈ lv, k ∉ cp) : lv.filter (· ∉ cp) = lv :=
  List.filter_eq_self.mpr fun k hk => by simpa using hdisj k hk

/-- With disjoint listings, the unknown map polls the live-listed ids the previous live
metas do not know as live, and the compacted-listed ids the previous compacted metas do
not know as compacted. -/
theorem deltaFor_unknownBlockIDs_perm (hlv : lv.Nodup) (hcp : cp.Nodup)
    (hdisj : ∀ k ∈ lv, k ∉ cp) :
    (previous.deltaFor tenantID lv cp).unknownBlockIDs.Perm
      ((lv.filter fun k => (indexByID BlockMeta.blockID (previous.Metas tenantID) k).isNone).map
          (·, false) ++
        (cp.filter fun k => (indexByID (fun c : CompactedBlockMeta => c.blockID)
          (previous.CompactedMetas tenantID) k).isNone).map (·, true)) := by
  simpa only [filter_not_mem_eq_self hdisj] using
    deltaFor_unknownBlockIDs_perm_of_shared hlv hcp fun k hk hk' => absurd hk' (hdisj k hk)

/-- A re-read of every listed block polls each live-listed id as live, unless it is
also listed as compacted, and each compacted-listed id as compacted. -/
theorem mem_deltaFor_empty {b : UUID × Bool} :
    b ∈ (Blocklist.empty.deltaFor tenantID lv cp).unknownBlockIDs ↔
      (b.1 ∈ cp ∧ b.2 = true) ∨ (b.1 ∈ lv ∧ b.2 = false ∧ b.1 ∉ cp) := by
  simp [Blocklist.deltaFor, mem_delta_unknownBlockIDs, UnknownEntry]

end Unknown

namespace Poller

variable (p : Poller) (tenantID : TenantID) (previous : Blocklist)

/-- What a successful `pollTenantBlocks` holds for a live-listed id: the previous meta
when the previous list knows the id, else the live meta `pollBlock` reads. -/
def liveFor (k : UUID) : Option BlockMeta :=
  (indexByID BlockMeta.blockID (previous.Metas tenantID) k).or
    (liveMeta? (p.pollBlock tenantID k false))

/-- What it holds for a compacted-listed id: the previous compacted meta when the
previous list knows the id, else the compacted meta `pollBlock` reads. -/
def compactedFor (k : UUID) : Option CompactedBlockMeta :=
  (indexByID (fun c : CompactedBlockMeta => c.blockID) (previous.CompactedMetas tenantID) k).or
    (compactedMeta? (p.pollBlock tenantID k true))

/-- What it holds among the compacted metas for a live-listed id: the compacted meta
`pollBlock` falls back to for an id the previous live metas do not know. -/
def fallbackFor (k : UUID) : Option CompactedBlockMeta :=
  if (indexByID BlockMeta.blockID (previous.Metas tenantID) k).isNone then
    compactedMeta? (p.pollBlock tenantID k false)
  else none

variable {p tenantID previous} {blockID : UUID}

/-- A block listed as live whose meta reads back, which `pollBlock` neither skips nor
fails on, comes out as that meta. -/
theorem pollBlock_false_of_blockMeta {m : BlockMeta}
    (hm : p.reader.blockMeta blockID tenantID = .ok m)
    (hflag : p.cfg.skipNoCompactBlocks = true → p.reader.hasNoCompactFlag blockID tenantID ≠ .ok true)
    (herr : error? (p.pollBlock tenantID blockID false) = none) :
    p.pollBlock tenantID blockID false = .ok (some m, none) := by
  have hlive : p.readLive tenantID blockID = .ok (some m, none) := by simp [readLive, hm]
  rw [pollBlock_false] at herr ⊢
  by_cases hskip : p.cfg.skipNoCompactBlocks = true
  · simp only [hskip, if_true] at herr ⊢
    cases hf : p.reader.hasNoCompactFlag blockID tenantID with
    | error e => simp [hf, error?] at herr
    | ok b =>
      cases b
      · simpa using hlive
      · exact absurd hf (hflag hskip)
  · simpa [hskip] using hlive

/-- A block listed as compacted whose compacted meta reads back comes out as that meta. -/
theorem pollBlock_true_of_compactedBlockMeta {cm : CompactedBlockMeta}
    (hcm : p.compactor.compactedBlockMeta blockID tenantID = .ok cm) :
    p.pollBlock tenantID blockID true = .ok (none, some cm) := by
  rw [pollBlock_true, readCompacted, hcm]

theorem compactedMeta?_eq_none_of_liveMeta? {r : BlockResult} {m : BlockMeta}
    (h : liveMeta? r = some m) : compactedMeta? r = none := by
  rcases r with _ | ⟨_ | _, _⟩ <;> simp_all [liveMeta?, compactedMeta?]

section Canonical

variable {lv cp : List UUID}

/-- Over a store whose metas carry the ids they are read for, each entry `liveFor`
gives carries its id. -/
theorem liveFor_blockID (hids : ∀ k m, p.reader.blockMeta k tenantID = .ok m → m.blockID = k)
    {k : UUID} {m : BlockMeta} (h : p.liveFor tenantID previous k = some m) : m.blockID = k := by
  rcases Option.or_eq_some.mp h with h | ⟨-, h⟩
  · exact (indexByID_eq_some _ h).2
  · exact hids k m (liveMeta?_pollBlock h).2.2

theorem compactedFor_blockID
    (hcids : ∀ k cm, p.compactor.compactedBlockMeta k tenantID = .ok cm → cm.blockID = k)
    {k : UUID} {cm : CompactedBlockMeta} (h : p.compactedFor tenantID previous k = some cm) :
    cm.blockID = k := by
  rcases Option.or_eq_some.mp h with h | ⟨-, h⟩
  · exact (indexByID_eq_some _ h).2
  · exact hcids k cm (compactedMeta?_pollBlock h)

theorem fallbackFor_blockID
    (hcids : ∀ k cm, p.compactor.compactedBlockMeta k tenantID = .ok cm → cm.blockID = k)
    {k : UUID} {cm : CompactedBlockMeta} (h : p.fallbackFor tenantID previous k = some cm) :
    cm.blockID = k := by
  rw [fallbackFor] at h
  split at h
  · exact hcids k cm (compactedMeta?_pollBlock h)
  · cases h

/-- A successful poll over duplicate-free listings, in which an id listed both ways has
no meta in the previous list, holds, up to order, one entry per compacted-listed id,
given by `compactedFor`, and one per id listed live only, given by `liveFor` and
`fallbackFor`, whatever the order the goroutines ran in. -/
theorem pollTenantBlocks_ok_perm_of_shared {sched : Schedule} {l : List BlockMeta}
    {c : List CompactedBlockMeta}
    (hb : p.reader.blocks tenantID = .ok (lv, cp)) (hlv : lv.Nodup) (hcp : cp.Nodup)
    (hshared : ∀ k ∈ lv, k ∈ cp → (∀ m ∈ previous.Metas tenantID, m.blockID ≠ k) ∧
      ∀ cm ∈ previous.CompactedMetas tenantID, cm.blockID ≠ k)
    (h : p.pollTenantBlocks tenantID previous sched = some (.ok (l, c))) :
    l.Perm ((lv.filter (· ∉ cp)).filterMap (p.liveFor tenantID previous)) ∧
      c.Perm (cp.filterMap (p.compactedFor tenantID previous) ++
        (lv.filter (· ∉ cp)).filterMap (p.fallbackFor tenantID previous)) := by
  obtain ⟨lv', cp', hb', l', c', rfl, rfl, hl', hc', -⟩ := pollTenantBlocks_ok h
  obtain ⟨rfl, rfl⟩ := Prod.mk.inj (Except.ok.inj (hb.symm.trans hb'))
  have hU := @deltaFor_unknownBlockIDs_perm_of_shared previous tenantID lv cp hlv hcp hshared
  -- the previous list carries no live meta for an id listed both ways
  have hcarry : lv.filterMap (indexByID BlockMeta.blockID (previous.Metas tenantID)) =
      (lv.filter (· ∉ cp)).filterMap (indexByID BlockMeta.blockID (previous.Metas tenantID)) := by
    rw [List.filterMap_filter]
    refine List.filterMap_congr fun k hk => ?_
    by_cases hk' : k ∈ cp
    · simp [hk', (indexByID_eq_none _).mpr (hshared k hk hk').1]
    · simp [hk']
  rw [Blocklist.deltaFor, delta_newBlockList, delta_newCompactedBlocklist, hcarry]
  constructor
  · have hdrop : ∀ ks : List UUID,
        ks.filterMap ((liveMeta? ∘ p.pollEntry tenantID) ∘ (·, true)) = [] := fun _ =>
      List.filterMap_eq_nil_iff.mpr fun k _ => by
        simp only [Function.comp, pollEntry, pollBlock_true]; exact liveMeta?_readCompacted
    refine ((hl'.trans (hU.filterMap _)).append_left _).trans ?_
    rw [List.filterMap_append, List.filterMap_map, List.filterMap_map, hdrop, List.append_nil]
    exact (filterMap_or_perm _ _ _).symm
  · have hfallback : (lv.filter (· ∉ cp)).filterMap (p.fallbackFor tenantID previous) =
        ((lv.filter (· ∉ cp)).filter fun k =>
          (indexByID BlockMeta.blockID (previous.Metas tenantID) k).isNone).filterMap
            fun k => compactedMeta? (p.pollBlock tenantID k false) := by
      exact (List.filterMap_filter ..).symm
    refine ((hc'.trans (hU.filterMap _)).append_left _).trans ?_
    rw [List.filterMap_append, List.filterMap_map, List.filterMap_map, hfallback]
    refine (List.perm_append_comm.append_left _).trans ?_
    rw [← List.append_assoc]
    exact (filterMap_or_perm _ _ cp).symm.append_right _

/-- A successful poll over duplicate-free, disjoint listings holds, up to order, one
entry per listed id, given by `liveFor`, `compactedFor` and `fallbackFor`, whatever the
order the goroutines ran in. -/
theorem pollTenantBlocks_ok_perm {sched : Schedule} {l : List BlockMeta}
    {c : List CompactedBlockMeta}
    (hb : p.reader.blocks tenantID = .ok (lv, cp)) (hlv : lv.Nodup) (hcp : cp.Nodup)
    (hdisj : ∀ k ∈ lv, k ∉ cp)
    (h : p.pollTenantBlocks tenantID previous sched = some (.ok (l, c))) :
    l.Perm (lv.filterMap (p.liveFor tenantID previous)) ∧
      c.Perm (cp.filterMap (p.compactedFor tenantID previous) ++
        lv.filterMap (p.fallbackFor tenantID previous)) := by
  simpa only [filter_not_mem_eq_self hdisj] using
    pollTenantBlocks_ok_perm_of_shared hb hlv hcp (fun k hk hk' => absurd hk' (hdisj k hk)) h

/-- A successful poll read every unknown block without error. -/
theorem pollTenantBlocks_ok_unknown {sched : Schedule} {l : List BlockMeta}
    {c : List CompactedBlockMeta} (hb : p.reader.blocks tenantID = .ok (lv, cp))
    (h : p.pollTenantBlocks tenantID previous sched = some (.ok (l, c))) :
    ∀ b ∈ (previous.deltaFor tenantID lv cp).unknownBlockIDs,
      error? (p.pollEntry tenantID b) = none := by
  obtain ⟨lv', cp', hb', -, -, -, -, -, -, herr⟩ := pollTenantBlocks_ok h
  obtain ⟨rfl, rfl⟩ := Prod.mk.inj (Except.ok.inj (hb.symm.trans hb'))
  exact herr

/-- An id `fallbackFor` gives a compacted meta for has no live meta. -/
theorem liveFor_eq_none_of_fallbackFor {k : UUID} {cm : CompactedBlockMeta}
    (h : p.fallbackFor tenantID previous k = some cm) : p.liveFor tenantID previous k = none := by
  rw [fallbackFor] at h
  split at h
  · rename_i hnone
    rw [liveFor, Option.isNone_iff_eq_none.mp hnone, Option.none_or]
    cases hl : liveMeta? (p.pollBlock tenantID k false) with
    | none => rfl
    | some m => rw [compactedMeta?_eq_none_of_liveMeta? hl] at h; cases h
  · cases h

/-- A tenant's live and compacted lists hold each block id at most once, across both
lists. -/
def UniqueIDs (l : List BlockMeta) (c : List CompactedBlockMeta) : Prop :=
  (l.map BlockMeta.blockID ++ c.map fun cm : CompactedBlockMeta => cm.blockID).Nodup

/-- The ids of the entries a keyed function gives, when each entry carries its key. -/
theorem map_filterMap_of_key {β : Type} {key : β → UUID} {F : UUID → Option β}
    {keys : List UUID} (hF : ∀ k ∈ keys, ∀ b, F k = some b → key b = k) :
    (keys.filterMap F).map key = keys.filter fun k => (F k).isSome := by
  induction keys with
  | nil => rfl
  | cons k ks ih =>
    have ih' := ih fun k' hk' => hF k' (List.mem_cons_of_mem _ hk')
    cases hk : F k with
    | none => simp [List.filterMap_cons, List.filter_cons, hk, ih']
    | some b =>
      simp [List.filterMap_cons, List.filter_cons, hk, ih', hF k (List.mem_cons_self _ _) b hk]

/-- Over listings that hold each id once and in one list only, and metas that carry the
ids they are read for, a successful poll holds each id at most once across both lists,
whatever the previous list holds. -/
theorem pollTenantBlocks_uniqueIDs {sched : Schedule} {l : List BlockMeta}
    {c : List CompactedBlockMeta}
    (hb : p.reader.blocks tenantID = .ok (lv, cp)) (hlv : lv.Nodup) (hcp : cp.Nodup)
    (hdisj : ∀ k ∈ lv, k ∉ cp)
    (hids : ∀ k m, p.reader.blockMeta k tenantID = .ok m → m.blockID = k)
    (hcids : ∀ k cm, p.compactor.compactedBlockMeta k tenantID = .ok cm → cm.blockID = k)
    (h : p.pollTenantBlocks tenantID previous sched = some (.ok (l, c))) : UniqueIDs l c := by
  obtain ⟨hl, hc⟩ := pollTenantBlocks_ok_perm hb hlv hcp hdisj h
  have hL : (lv.filterMap (p.liveFor tenantID previous)).map BlockMeta.blockID =
      lv.filter fun k => (p.liveFor tenantID previous k).isSome :=
    map_filterMap_of_key fun _ _ _ hm => liveFor_blockID hids hm
  have hC : (cp.filterMap (p.compactedFor tenantID previous)).map
      (fun cm : CompactedBlockMeta => cm.blockID) =
        cp.filter fun k => (p.compactedFor tenantID previous k).isSome :=
    map_filterMap_of_key fun _ _ _ hm => compactedFor_blockID hcids hm
  have hF : (lv.filterMap (p.fallbackFor tenantID previous)).map
      (fun cm : CompactedBlockMeta => cm.blockID) =
        lv.filter fun k => (p.fallbackFor tenantID previous k).isSome :=
    map_filterMap_of_key fun _ _ _ hm => fallbackFor_blockID hcids hm
  rw [UniqueIDs, ((hl.map _).append (hc.map _)).nodup_iff, List.map_append, hL, hC, hF]
  refine (hlv.filter _).append ((hcp.filter _).append (hlv.filter _) ?_) ?_
  · exact fun k h₁ h₂ => hdisj k (List.mem_of_mem_filter h₂) (List.mem_of_mem_filter h₁)
  · intro k h₁ h₂
    rcases List.mem_append.mp h₂ with h₂ | h₂
    · exact hdisj k (List.mem_of_mem_filter h₁) (List.mem_of_mem_filter h₂)
    · -- an id has a live meta or a fallback compacted one, never both
      obtain ⟨cm, hcm⟩ := Option.isSome_iff_exists.mp (List.mem_filter.mp h₂).2
      have := (List.mem_filter.mp h₁).2
      rw [liveFor_eq_none_of_fallbackFor hcm] at this
      cases this

end Canonical

/-- Over a store that returns the previous metas for their ids, with duplicate-free
listings in which an id listed both ways has no meta in the previous list, carrying
known metas forward gives the lists a re-read of every listed block gives, up to order,
unless `SkipNoCompactBlocks` would drop a carried live block for its flag. -/
theorem pollTenantBlocks_carry_perm_reread {previous : Blocklist} {sched sched' : Schedule}
    {lv cp : List UUID} {l l₀ : List BlockMeta} {c c₀ : List CompactedBlockMeta}
    (hb : p.reader.blocks tenantID = .ok (lv, cp)) (hlv : lv.Nodup) (hcp : cp.Nodup)
    (hshared : ∀ k ∈ lv, k ∈ cp → (∀ m ∈ previous.Metas tenantID, m.blockID ≠ k) ∧
      ∀ cm ∈ previous.CompactedMetas tenantID, cm.blockID ≠ k)
    (hmeta : ∀ m ∈ previous.Metas tenantID, p.reader.blockMeta m.blockID tenantID = .ok m)
    (hcmeta : ∀ cm ∈ previous.CompactedMetas tenantID,
      p.compactor.compactedBlockMeta cm.blockID tenantID = .ok cm)
    (hflag : p.cfg.skipNoCompactBlocks = true → ∀ m ∈ previous.Metas tenantID, m.blockID ∈ lv →
      p.reader.hasNoCompactFlag m.blockID tenantID ≠ .ok true)
    (hinc : p.pollTenantBlocks tenantID previous sched = some (.ok (l, c)))
    (hfull : p.pollTenantBlocks tenantID .empty sched' = some (.ok (l₀, c₀))) :
    l.Perm l₀ ∧ c.Perm c₀ := by
  obtain ⟨hl, hc⟩ := pollTenantBlocks_ok_perm_of_shared hb hlv hcp hshared hinc
  obtain ⟨hl₀, hc₀⟩ := pollTenantBlocks_ok_perm_of_shared hb hlv hcp (by simp) hfull
  -- a carried live meta is what the re-read reads for its id
  have hread : ∀ k ∈ lv.filter (· ∉ cp), ∀ m,
      indexByID BlockMeta.blockID (previous.Metas tenantID) k = some m →
        p.pollBlock tenantID k false = .ok (some m, none) := by
    intro k hk m hm
    obtain ⟨hk, hkc⟩ : k ∈ lv ∧ k ∉ cp := by simpa using hk
    obtain ⟨hmem, rfl⟩ := indexByID_eq_some _ hm
    exact pollBlock_false_of_blockMeta (hmeta m hmem) (fun hs => hflag hs m hmem hk)
      (pollTenantBlocks_ok_unknown hb hfull (m.blockID, false)
        (mem_deltaFor_empty.mpr (.inr ⟨hk, rfl, hkc⟩)))
  have hlive : ∀ k ∈ lv.filter (· ∉ cp),
      p.liveFor tenantID previous k = p.liveFor tenantID .empty k := fun k hk => by
    cases hm : indexByID BlockMeta.blockID (previous.Metas tenantID) k with
    | none => simp [liveFor, hm]
    | some m => simp [liveFor, hm, hread k hk m hm, liveMeta?]
  have hcomp : ∀ k ∈ cp, p.compactedFor tenantID previous k = p.compactedFor tenantID .empty k :=
    fun k _ => by
      cases hcm : indexByID (fun c : CompactedBlockMeta => c.blockID)
          (previous.CompactedMetas tenantID) k with
      | none => simp [compactedFor, hcm]
      | some cm =>
        obtain ⟨hmem, rfl⟩ := indexByID_eq_some _ hcm
        simp [compactedFor, hcm, pollBlock_true_of_compactedBlockMeta (hcmeta cm hmem),
          compactedMeta?]
  have hfall : ∀ k ∈ lv.filter (· ∉ cp),
      p.fallbackFor tenantID previous k = p.fallbackFor tenantID .empty k := fun k hk => by
    cases hm : indexByID BlockMeta.blockID (previous.Metas tenantID) k with
    | none => simp [fallbackFor, hm]
    | some m => simp [fallbackFor, hm, hread k hk m hm, compactedMeta?]
  rw [List.filterMap_congr hlive] at hl
  rw [List.filterMap_congr hcomp, List.filterMap_congr hfall] at hc
  exact ⟨hl.trans hl₀.symm, hc.trans hc₀.symm⟩

/-- A store listing block `1` both live and compacted, as while a compaction is being
recorded, and block `2` live; every meta reads back. -/
def sharedPoller : Poller :=
  { oneBlockPoller with
    reader := { oneBlockPoller.reader with blocks := fun _ => .ok ([1, 2], [1]) }
    compactor := ⟨fun id _ => .ok ⟨⟨id, 1, 1⟩, 7⟩⟩ }

/-- A previous list that knows block `2` of every tenant as live. -/
def liveTwoPrevious : Blocklist := ⟨fun _ => some [⟨2, 1, 1⟩], fun _ => none⟩

/-- The run of `pollUnknown` over block `1` read as compacted. -/
def oneCompactedSchedule : Schedule := ⟨.inOrder, [.check, .add, .finish (1, true), .check]⟩

/-- The run of `pollUnknown` over block `2` read live, then block `1` read as compacted. -/
def sharedSchedule : Schedule :=
  ⟨.inOrder, [.check, .add, .finish (2, false), .check, .add, .finish (1, true), .check]⟩

theorem pollTenantBlocks_carry_perm_reread_shared :
    sharedPoller.reader.blocks "t" = .ok ([1, 2], [1]) ∧
    sharedPoller.pollTenantBlocks "t" liveTwoPrevious oneCompactedSchedule =
      some (.ok ([⟨2, 1, 1⟩], [⟨⟨1, 1, 1⟩, 7⟩])) ∧
    sharedPoller.pollTenantBlocks "t" .empty sharedSchedule =
      some (.ok ([⟨2, 1, 1⟩], [⟨⟨1, 1, 1⟩, 7⟩])) ∧
    [(⟨2, 1, 1⟩ : BlockMeta)].Perm [⟨2, 1, 1⟩] ∧
    [(⟨⟨1, 1, 1⟩, 7⟩ : CompactedBlockMeta)].Perm [⟨⟨1, 1, 1⟩, 7⟩] :=
  have hb : sharedPoller.reader.blocks "t" = .ok ([1, 2], [1]) := rfl
  have hinc : sharedPoller.pollTenantBlocks "t" liveTwoPrevious oneCompactedSchedule =
      some (.ok ([⟨2, 1, 1⟩], [⟨⟨1, 1, 1⟩, 7⟩])) := rfl
  have hfull : sharedPoller.pollTenantBlocks "t" .empty sharedSchedule =
      some (.ok ([⟨2, 1, 1⟩], [⟨⟨1, 1, 1⟩, 7⟩])) := rfl
  ⟨hb, hinc, hfull, pollTenantBlocks_carry_perm_reread hb (by decide) (by decide)
    (by simp [liveTwoPrevious, Blocklist.Metas, Blocklist.CompactedMetas])
    (by decide) (by decide) (by decide) hinc hfull⟩

/-- A previous list that knows block `1` of every tenant as live. -/
def liveOnePrevious : Blocklist := ⟨fun _ => some [⟨1, 1, 1⟩], fun _ => none⟩

/-- The run of `pollUnknown` with nothing to poll. -/
def nothingUnknown : Schedule := ⟨.inOrder, [.check]⟩

/-- A store whose one live block `1` reads back and carries the no-compact flag, polled
with `SkipNoCompactBlocks`. -/
def flaggedPoller : Poller :=
  { oneBlockPoller with
    reader := { oneBlockPoller.reader with hasNoCompactFlag := fun _ _ => .ok true }
    cfg := { oneBlockPoller.cfg with skipNoCompactBlocks := true } }

/-- A store listing block `1` both live and compacted, both metas readable, as while a
compaction is being recorded. -/
def bothListedPoller : Poller :=
  { oneBlockPoller with
    reader := { oneBlockPoller.reader with blocks := fun _ => .ok ([1], [1]) }
    compactor := ⟨fun id _ => .ok ⟨⟨id, 1, 1⟩, 7⟩⟩ }

/-- A previous list that knows block `1` of every tenant as compacted. -/
def compactedOnePrevious : Blocklist := ⟨fun _ => none, fun _ => some [⟨⟨1, 1, 1⟩, 7⟩]⟩

/-- Carrying and re-reading disagree over stores that agree with the previous list: a
carried block with the no-compact flag is kept by the one and dropped by the other, and
a block listed both ways is carried as compacted and read as live by the one, read as
compacted by the other. -/
theorem pollTenantBlocks_carry_differs :
    (flaggedPoller.reader.blocks "t" = .ok ([1], []) ∧
      flaggedPoller.reader.blockMeta 1 "t" = .ok ⟨1, 1, 1⟩ ∧
      flaggedPoller.pollTenantBlocks "t" liveOnePrevious nothingUnknown =
        some (.ok ([⟨1, 1, 1⟩], [])) ∧
      flaggedPoller.pollTenantBlocks "t" .empty oneBlockSchedule = some (.ok ([], []))) ∧
    (bothListedPoller.reader.blocks "t" = .ok ([1], [1]) ∧
      bothListedPoller.compactor.compactedBlockMeta 1 "t" = .ok ⟨⟨1, 1, 1⟩, 7⟩ ∧
      bothListedPoller.pollTenantBlocks "t" compactedOnePrevious oneBlockSchedule =
        some (.ok ([⟨1, 1, 1⟩], [⟨⟨1, 1, 1⟩, 7⟩])) ∧
      bothListedPoller.pollTenantBlocks "t" .empty oneCompactedSchedule =
        some (.ok ([], [⟨⟨1, 1, 1⟩, 7⟩]))) :=
  ⟨⟨rfl, rfl, rfl, rfl⟩, ⟨rfl, rfl, rfl, rfl⟩⟩

section Repoll

variable {P Q : Blocklist} {lv cp : List UUID}

/-- Over a store that lists each id once, in one list only, and whose metas carry the
ids they are read for, polling again with a previous list that holds what a successful
poll returned succeeds and returns the same lists, up to order. -/
theorem pollTenantBlocks_repoll {sched₁ sched₂ : Schedule} {l : List BlockMeta}
    {c : List CompactedBlockMeta} {r : Except Error (List BlockMeta × List CompactedBlockMeta)}
    (hb : p.reader.blocks tenantID = .ok (lv, cp)) (hlv : lv.Nodup) (hcp : cp.Nodup)
    (hdisj : ∀ k ∈ lv, k ∉ cp)
    (hids : ∀ k m, p.reader.blockMeta k tenantID = .ok m → m.blockID = k)
    (hcids : ∀ k cm, p.compactor.compactedBlockMeta k tenantID = .ok cm → cm.blockID = k)
    (h₁ : p.pollTenantBlocks tenantID P sched₁ = some (.ok (l, c)))
    (hQ : (Q.Metas tenantID).Perm l) (hQc : (Q.CompactedMetas tenantID).Perm c)
    (h₂ : p.pollTenantBlocks tenantID Q sched₂ = some r) :
    ∃ l' c', r = .ok (l', c') ∧ l'.Perm l ∧ c'.Perm c := by
  obtain ⟨hl, hc⟩ := pollTenantBlocks_ok_perm hb hlv hcp hdisj h₁
  -- the metas the second poll carries are what the first one returned for their ids
  have hliveQ : ∀ k ∈ lv,
      indexByID BlockMeta.blockID (Q.Metas tenantID) k = p.liveFor tenantID P k := by
    intro k hk
    refine indexByID_eq_of_unique _ (fun m hm => ⟨(hQ.trans hl).mem_iff.mpr
      (List.mem_filterMap.mpr ⟨k, hk, hm⟩), liveFor_blockID hids hm⟩) fun m hm hid => ?_
    obtain ⟨k', -, hk'⟩ := List.mem_filterMap.mp ((hQ.trans hl).mem_iff.mp hm)
    rwa [← hid, liveFor_blockID hids hk']
  have hcompQ : ∀ k ∈ cp, indexByID (fun c : CompactedBlockMeta => c.blockID)
      (Q.CompactedMetas tenantID) k = p.compactedFor tenantID P k := by
    intro k hk
    refine indexByID_eq_of_unique _ (fun cm hcm => ⟨(hQc.trans hc).mem_iff.mpr
      (List.mem_append_left _ (List.mem_filterMap.mpr ⟨k, hk, hcm⟩)),
        compactedFor_blockID hcids hcm⟩) fun cm hcm hid => ?_
    rcases List.mem_append.mp ((hQc.trans hc).mem_iff.mp hcm) with h | h
    · obtain ⟨k', -, hk'⟩ := List.mem_filterMap.mp h
      rwa [← hid, compactedFor_blockID hcids hk']
    · obtain ⟨k', hk', hf⟩ := List.mem_filterMap.mp h
      exact absurd hk (by rw [← hid, fallbackFor_blockID hcids hf]; exact hdisj k' hk')
  have hlive : ∀ k ∈ lv, p.liveFor tenantID Q k = p.liveFor tenantID P k := fun k hk => by
    rw [liveFor, hliveQ k hk, liveFor, Option.or_assoc, Option.or_self]
  have hcomp : ∀ k ∈ cp, p.compactedFor tenantID Q k = p.compactedFor tenantID P k :=
    fun k hk => by rw [compactedFor, hcompQ k hk, compactedFor, Option.or_assoc, Option.or_self]
  have hfall : ∀ k ∈ lv, p.fallbackFor tenantID Q k = p.fallbackFor tenantID P k :=
    fun k hk => by
      rw [fallbackFor, fallbackFor, hliveQ k hk, liveFor]
      cases indexByID BlockMeta.blockID (P.Metas tenantID) k with
      | some m => simp
      | none =>
        cases hm : liveMeta? (p.pollBlock tenantID k false) with
        | none => simp
        | some m => simp [compactedMeta?_eq_none_of_liveMeta? hm]
  rcases r with e | ⟨l', c'⟩
  · -- the second poll reads only blocks the first one read without error
    exfalso
    rcases (pollTenantBlocks_error_iff h₂).mp ⟨e, rfl⟩ with ⟨e', he'⟩ | ⟨lv', cp', hb', b, hbU, e', he'⟩
    · rw [hb] at he'; cases he'
    obtain ⟨rfl, rfl⟩ := Prod.mk.inj (Except.ok.inj (hb.symm.trans hb'))
    have hbP : b ∈ (P.deltaFor tenantID lv cp).unknownBlockIDs := by
      rw [(deltaFor_unknownBlockIDs_perm hlv hcp hdisj).mem_iff]
      rw [(deltaFor_unknownBlockIDs_perm hlv hcp hdisj).mem_iff] at hbU
      simp only [List.mem_append, List.mem_map, List.mem_filter] at hbU ⊢
      rcases hbU with ⟨k, ⟨hk, hnone⟩, rfl⟩ | ⟨k, ⟨hk, hnone⟩, rfl⟩
      · rw [hliveQ k hk, liveFor] at hnone
        simp only [Option.isNone_iff_eq_none, Option.or_eq_none] at hnone ⊢
        exact .inl ⟨k, ⟨hk, hnone.1⟩, rfl⟩
      · rw [hcompQ k hk, compactedFor] at hnone
        simp only [Option.isNone_iff_eq_none, Option.or_eq_none] at hnone ⊢
        exact .inr ⟨k, ⟨hk, hnone.1⟩, rfl⟩
    have := pollTenantBlocks_ok_unknown hb h₁ b hbP
    rw [he'] at this
    cases this
  · obtain ⟨hl', hc'⟩ := pollTenantBlocks_ok_perm hb hlv hcp hdisj h₂
    rw [List.filterMap_congr hlive] at hl'
    rw [List.filterMap_congr hcomp, List.filterMap_congr hfall] at hc'
    exact ⟨l', c', rfl, hl'.trans hl.symm, hc'.trans hc.symm⟩

end Repoll

end Poller

end BlocklistPoller
