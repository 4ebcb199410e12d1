import BlocklistPoller.FanOut

/-!
# The unknown-block resolver

`Poller.pollBlock` reads the meta of one block the previous list does not know,
and `Poller.pollUnknown` runs it for every unknown id on goroutines admitted by a
wait group of capacity `PollConcurrency`, stopping early once an error is
recorded. The goroutines append to shared slices in the order they finish, and the
ids come out of a Go map in an unspecified order: both are inputs of the model.
The main result, `pollUnknown_spec`, says what every such run returns.
-/

namespace BlocklistPoller

/-- A Go call's `(value, err)` pair. -/
def goPair {α : Type} : Except Error α → Option α × Option Error
  | .ok a => (some a, none)
  | .error e => (none, some e)

/-- What `pollBlock` returns: the Go triple `(*BlockMeta, *CompactedBlockMeta, error)`. -/
abbrev BlockResult := Except Error (Option BlockMeta × Option CompactedBlockMeta)

namespace Poller

variable (p : Poller) (tenantID : TenantID) (blockID : UUID)

/-- `Poller.pollBlock`. `compacted` says whether the listing named the block as
compacted. A block carrying the no-compact flag is skipped when
`SkipNoCompactBlocks` is set; a missing live meta falls back to the compacted one;
a block whose last read finds nothing is dropped without an error. -/
def pollBlock (compacted : Bool) : BlockResult :=
  if !compacted && p.cfg.skipNoCompactBlocks then
    match p.reader.hasNoCompactFlag blockID tenantID with
    | .error flagErr => .error (.wrap "failed to check nocompact flag" flagErr)
    | .ok true => .ok (none, none)
    | .ok false => readMetas
  else readMetas
where
  /-- The lines of `pollBlock` after the no-compact check. -/
  readMetas : BlockResult :=
    let (blockMeta, err) :=
      if !compacted then goPair (p.reader.blockMeta blockID tenantID) else (none, none)
    let (blockMeta, compactedBlockMeta, err) :=
      if isDoesNotExist err || compacted then
        let (compactedBlockMeta, err) := goPair (p.compactor.compactedBlockMeta blockID tenantID)
        (none, compactedBlockMeta, err)
      else (blockMeta, none, err)
    if isDoesNotExist err then .ok (none, none)
    else match err with
      | some e => .error e
      | none => .ok (blockMeta, compactedBlockMeta)

/-- The compacted-meta read of `pollBlock`, a missing meta dropped. -/
def readCompacted : BlockResult :=
  match p.compactor.compactedBlockMeta blockID tenantID with
  | .ok cm => .ok (none, some cm)
  | .error e => if e.isDoesNotExist then .ok (none, none) else .error e

/-- The live-meta read of `pollBlock`, falling back to `readCompacted`. -/
def readLive : BlockResult :=
  match p.reader.blockMeta blockID tenantID with
  | .ok m => .ok (some m, none)
  | .error e => if e.isDoesNotExist then p.readCompacted tenantID blockID else .error e

/-- A block listed as compacted is only read through `CompactedBlockMeta`. -/
theorem pollBlock_true : p.pollBlock tenantID blockID true = p.readCompacted tenantID blockID := by
  simp only [pollBlock, pollBlock.readMetas, readCompacted, Bool.not_true, Bool.false_and,
    Bool.or_true, if_false, if_true]
  cases p.compactor.compactedBlockMeta blockID tenantID <;> simp [goPair, isDoesNotExist]

/-- A block listed as live is checked for the no-compact flag when
`SkipNoCompactBlocks` is set, then read live. -/
theorem pollBlock_false : p.pollBlock tenantID blockID false =
    if p.cfg.skipNoCompactBlocks then
      match p.reader.hasNoCompactFlag blockID tenantID with
      | .error flagErr => .error (.wrap "failed to check nocompact flag" flagErr)
      | .ok true => .ok (none, none)
      | .ok false => p.readLive tenantID blockID
    else p.readLive tenantID blockID := by
  have hread : pollBlock.readMetas p tenantID blockID false = p.readLive tenantID blockID := by
    simp only [pollBlock.readMetas, readLive, readCompacted, Bool.not_false, if_true, Bool.or_false]
    cases p.reader.blockMeta blockID tenantID with
    | ok m => simp [goPair, isDoesNotExist]
    | error e =>
      cases he : e.isDoesNotExist <;>
        cases p.compactor.compactedBlockMeta blockID tenantID <;> simp [goPair, isDoesNotExist, he]
  simp only [pollBlock, Bool.not_false, Bool.true_and, hread]

end Poller

/-- The live meta a `pollBlock` result carries. -/
def liveMeta? : BlockResult → Option BlockMeta
  | .ok (some m, _) => some m
  | _ => none

/-- The compacted meta a `pollBlock` result carries, when it carries no live one. -/
def compactedMeta? : BlockResult → Option CompactedBlockMeta
  | .ok (none, some cm) => some cm
  | _ => none

/-- The error a `pollBlock` result carries. -/
def error? : BlockResult → Option Error
  | .error e => some e
  | .ok _ => none

namespace Poller

variable (p : Poller) (tenantID : TenantID) (blockID : UUID)

/-- The no-compact check lets the block through: it is off, or the flag is absent. -/
def FlagCleared : Prop :=
  p.cfg.skipNoCompactBlocks = true → p.reader.hasNoCompactFlag blockID tenantID = .ok false

/-- `pollBlock` reaches its `CompactedBlockMeta` read: the block was listed as compacted,
or it was listed live, passed the no-compact check, and its live meta does not exist. -/
def ReadsCompacted (c : Bool) : Prop :=
  c = true ∨ c = false ∧ p.FlagCleared tenantID blockID ∧
    ∃ e, p.reader.blockMeta blockID tenantID = .error e ∧ e.isDoesNotExist = true

/-- The paths through `pollBlock`, one constructor each: the reads the path makes and
the result it returns for a block listed with `compacted = c`. -/
inductive PollBlockPath : Bool → BlockResult → Prop
  | flagFailed {fe : Error} : p.cfg.skipNoCompactBlocks = true →
      p.reader.hasNoCompactFlag blockID tenantID = .error fe →
      PollBlockPath false (.error (.wrap "failed to check nocompact flag" fe))
  | flagged : p.cfg.skipNoCompactBlocks = true →
      p.reader.hasNoCompactFlag blockID tenantID = .ok true → PollBlockPath false (.ok (none, none))
  | live {m : BlockMeta} : p.FlagCleared tenantID blockID →
      p.reader.blockMeta blockID tenantID = .ok m → PollBlockPath false (.ok (some m, none))
  | liveFailed {e : Error} : p.FlagCleared tenantID blockID →
      p.reader.blockMeta blockID tenantID = .error e → e.isDoesNotExist = false →
      PollBlockPath false (.error e)
  | compacted {c : Bool} {cm : CompactedBlockMeta} : p.ReadsCompacted tenantID blockID c →
      p.compactor.compactedBlockMeta blockID tenantID = .ok cm → PollBlockPath c (.ok (none, some cm))
  | vanished {c : Bool} {e : Error} : p.ReadsCompacted tenantID blockID c →
      p.compactor.compactedBlockMeta blockID tenantID = .error e → e.isDoesNotExist = true →
      PollBlockPath c (.ok (none, none))
  | compactedFailed {c : Bool} {e : Error} : p.ReadsCompacted tenantID blockID c →
      p.compactor.compactedBlockMeta blockID tenantID = .error e → e.isDoesNotExist = false →
      PollBlockPath c (.error e)

/-- The `pollBlock` contract: what a result `r` for a block listed with `compacted = c`
says about the reads behind it. A live meta comes only from a block listed live that
passed the no-compact check; a compacted meta only from the `CompactedBlockMeta` read,
once reached; nothing only for a flagged block or when that last read finds no meta;
an error only from a failed flag check or a read failing otherwise. -/
structure PollBlockContract (c : Bool) (r : BlockResult) : Prop where
  live : ∀ m, liveMeta? r = some m →
    c = false ∧ p.FlagCleared tenantID blockID ∧ p.reader.blockMeta blockID tenantID = .ok m
  compacted : ∀ cm, compactedMeta? r = some cm →
    p.ReadsCompacted tenantID blockID c ∧ p.compactor.compactedBlockMeta blockID tenantID = .ok cm
  nothing : r = .ok (none, none) →
    (c = false ∧ p.cfg.skipNoCompactBlocks = true ∧
      p.reader.hasNoCompactFlag blockID tenantID = .ok true) ∨
    p.ReadsCompacted tenantID blockID c ∧
      ∃ e, p.compactor.compactedBlockMeta blockID tenantID = .error e ∧ e.isDoesNotExist = true
  error : ∀ e, r = .error e →
    (c = false ∧ p.cfg.skipNoCompactBlocks = true ∧
      ∃ fe, p.reader.hasNoCompactFlag blockID tenantID = .error fe ∧
        e = .wrap "failed to check nocompact flag" fe) ∨
    (c = false ∧ p.FlagCleared tenantID blockID ∧
      p.reader.blockMeta blockID tenantID = .error e ∧ e.isDoesNotExist = false) ∨
    p.ReadsCompacted tenantID blockID c ∧
      p.compactor.compactedBlockMeta blockID tenantID = .error e ∧ e.isDoesNotExist = false

variable {p tenantID blockID} {c : Bool}

/-- Every path keeps the contract. -/
theorem PollBlockPath.contract {r : BlockResult} (h : PollBlockPath p tenantID blockID c r) :
    PollBlockContract p tenantID blockID c r := by
  cases h with
  | flagFailed hs hf =>
    exact ⟨nofun, nofun, nofun, fun _ h => (by cases h; exact .inl ⟨rfl, hs, _, hf, rfl⟩)⟩
  | flagged hs hf => exact ⟨nofun, nofun, fun _ => .inl ⟨rfl, hs, hf⟩, nofun⟩
  | live hf hm => exact ⟨fun _ h => (by cases h; exact ⟨rfl, hf, hm⟩), nofun, nofun, nofun⟩
  | liveFailed hf hm he =>
    exact ⟨nofun, nofun, nofun, fun _ h => (by cases h; exact .inr (.inl ⟨rfl, hf, hm, he⟩))⟩
  | compacted hc hm => exact ⟨nofun, fun _ h => (by cases h; exact ⟨hc, hm⟩), nofun, nofun⟩
  | vanished hc hm he => exact ⟨nofun, nofun, fun _ => .inr ⟨hc, _, hm, he⟩, nofun⟩
  | compactedFailed hc hm he =>
    exact ⟨nofun, nofun, nofun, fun _ h => (by cases h; exact .inr (.inr ⟨hc, hm, he⟩))⟩

theorem readCompacted_path (hc : p.ReadsCompacted tenantID blockID c) :
    PollBlockPath p tenantID blockID c (p.readCompacted tenantID blockID) := by
  unfold readCompacted
  cases h : p.compactor.compactedBlockMeta blockID tenantID with
  | ok cm => exact .compacted hc h
  | error e =>
    dsimp only
    cases he : e.isDoesNotExist
    · exact .compactedFailed hc h he
    · exact .vanished hc h he

theorem readLive_path (hf : p.FlagCleared tenantID blockID) :
    PollBlockPath p tenantID blockID false (p.readLive tenantID blockID) := by
  unfold readLive
  cases h : p.reader.blockMeta blockID tenantID with
  | ok m => exact .live hf h
  | error e =>
    dsimp only
    cases he : e.isDoesNotExist
    · exact .liveFailed hf h he
    · exact readCompacted_path (.inr ⟨rfl, hf, e, h, he⟩)

/-- Every call of `pollBlock` takes one of its paths. -/
theorem pollBlock_path : PollBlockPath p tenantID blockID c (p.pollBlock tenantID blockID c) := by
  cases c with
  | true => rw [pollBlock_true]; exact readCompacted_path (.inl rfl)
  | false =>
    rw [pollBlock_false]
    cases hs : p.cfg.skipNoCompactBlocks with
    | false => exact readLive_path fun h => absurd (hs.symm.trans h) Bool.false_ne_true
    | true =>
      cases hf : p.reader.hasNoCompactFlag blockID tenantID with
      | error fe => exact .flagFailed hs hf
      | ok flag =>
        cases flag
        · exact readLive_path fun _ => hf
        · exact .flagged hs hf

theorem pollBlock_contract : PollBlockContract p tenantID blockID c (p.pollBlock tenantID blockID c) :=
  pollBlock_path.contract

theorem liveMeta?_readCompacted : liveMeta? (p.readCompacted tenantID blockID) = none := by
  cases h : liveMeta? (p.readCompacted tenantID blockID) with
  | none => rfl
  | some m => exact absurd ((readCompacted_path (c := true) (.inl rfl)).contract.live m h).1 nofun

/-- `pollBlock` returns a live meta only for a block listed as live, whose no-compact
check (when enabled) is negative and whose `BlockMeta` read gave that meta. -/
theorem liveMeta?_pollBlock {m : BlockMeta} (h : liveMeta? (p.pollBlock tenantID blockID c) = some m) :
    c = false ∧ (p.cfg.skipNoCompactBlocks = true → p.reader.hasNoCompactFlag blockID tenantID = .ok false) ∧
      p.reader.blockMeta blockID tenantID = .ok m :=
  pollBlock_contract.live m h

/-- `pollBlock` returns a compacted meta only when its `CompactedBlockMeta` read gave it. -/
theorem compactedMeta?_pollBlock {cm : CompactedBlockMeta}
    (h : compactedMeta? (p.pollBlock tenantID blockID c) = some cm) :
    p.compactor.compactedBlockMeta blockID tenantID = .ok cm :=
  (pollBlock_contract.compacted cm h).2

end Poller

/-- The slices and the error list that `pollUnknown`'s goroutines share under `mtx`. -/
structure Resolved where
  newBlockList : List BlockMeta
  newCompactedBlocklist : List CompactedBlockMeta
  errs : List Error

namespace Resolved

/-- A goroutine of `pollUnknown` once `pollBlock` returned: keep a live meta, else a
compacted meta, else record the error. -/
def record (res : BlockResult) (r : Resolved) : Resolved :=
  match res with
  | .ok (some m, _) => { r with newBlockList := r.newBlockList ++ [m] }
  | .ok (none, some cm) => { r with newCompactedBlocklist := r.newCompactedBlocklist ++ [cm] }
  | .ok (none, none) => r
  | .error e => { r with errs := r.errs ++ [e] }

/-- The check at the top of `pollUnknown`'s loop: leave it once an error is recorded. -/
def exit (r : Resolved) : Option Exit := if r.errs.isEmpty then none else some .breakLoop

/-- What the goroutines of the finished ids recorded, in the order they finished. -/
def ofFinished (poll : UUID × Bool → BlockResult) (finished : List (UUID × Bool)) : Resolved :=
  ⟨finished.filterMap (liveMeta? ∘ poll), finished.filterMap (compactedMeta? ∘ poll),
    finished.filterMap (error? ∘ poll)⟩

theorem ofFinished_append_singleton (poll : UUID × Bool → BlockResult)
    (finished : List (UUID × Bool)) (b : UUID × Bool) :
    ofFinished poll (finished ++ [b]) = (ofFinished poll finished).record (poll b) := by
  rcases h : poll b with e | ⟨_ | m, _ | cm⟩ <;>
    simp [ofFinished, record, liveMeta?, compactedMeta?, error?, h]

/-- Recording a result keeps every error recorded so far. -/
theorem record_errs_ne_nil {res : BlockResult} {r : Resolved} (h : r.errs ≠ []) :
    (r.record res).errs ≠ [] := by
  rcases res with e | ⟨_ | m, _ | cm⟩ <;> simp [record, h]

end Resolved

/-- A Go map's iteration order: some arrangement of its entries. -/
structure MapOrder (κ ν : Type) where
  arrange : List (κ × ν) → List (κ × ν)
  perm : ∀ l, (arrange l).Perm l

/-- Iteration in the order the entries are held. -/
def MapOrder.inOrder {κ ν : Type} : MapOrder κ ν := ⟨id, fun l => List.Perm.refl l⟩

/-- The unspecified parts of one run of `pollUnknown`: the map's iteration order, and
how the loop interleaves with its goroutines. -/
structure Schedule where
  order : MapOrder UUID Bool
  events : List (FanOut.Event (UUID × Bool))

namespace Poller

variable (p : Poller) (tenantID : TenantID)

/-- `pollBlock` on a map entry `(blockID, compacted)`. -/
def pollEntry (b : UUID × Bool) : BlockResult := p.pollBlock tenantID b.1 b.2

/-- The loop of `pollUnknown` and its goroutines, over the map's entries in
iteration order. -/
def pollUnknownLoop (unknownBlocks : List (UUID × Bool)) (sched : Schedule) :
    Option (FanOut (UUID × Bool) Resolved) :=
  FanOut.run p.cfg.pollConcurrency Resolved.exit (fun b => Resolved.record (p.pollEntry tenantID b))
    (FanOut.init (sched.order.arrange unknownBlocks) ⟨[], [], []⟩) sched.events

/-- `Poller.pollUnknown`: `none` when the schedule is not a whole run, that is when
the events cannot be taken or leave a goroutine unjoined. -/
def pollUnknown (unknownBlocks : List (UUID × Bool)) (sched : Schedule) :
    Option (Except Error (List BlockMeta × List CompactedBlockMeta)) :=
  (p.pollUnknownLoop tenantID unknownBlocks sched).bind fun s =>
    if s.Done then
      some (if s.shared.errs.isEmpty then .ok (s.shared.newBlockList, s.shared.newCompactedBlocklist)
        else .error (.join s.shared.errs))
    else none

end Poller

/-- What holds after every prefix of a run of `pollUnknown`'s loop, `finished` being
the entries whose goroutines are done, in the order they finished. -/
structure UnknownInv (poll : UUID × Bool → BlockResult) (items finished : List (UUID × Bool))
    (s : FanOut (UUID × Bool) Resolved) : Prop where
  dispatched : FanOut.Dispatched items finished s
  shared : s.shared = Resolved.ofFinished poll finished
  /-- The loop is only left early once an error is recorded. -/
  stopped : s.phase = .broken ∨ s.phase = .returning → s.pending = [] ∨ s.shared.errs ≠ []

namespace UnknownInv

variable {poll : UUID × Bool → BlockResult} {items finished : List (UUID × Bool)}
  {s s' : FanOut (UUID × Bool) Resolved} {cap : Nat} {e : FanOut.Event (UUID × Bool)}

theorem init (poll : UUID × Bool → BlockResult) (items : List (UUID × Bool)) :
    UnknownInv poll items [] (FanOut.init items ⟨[], [], []⟩) :=
  ⟨FanOut.dispatched_init _ _, rfl, by simp [FanOut.init]⟩

/-- Every move of the loop keeps the invariant. -/
theorem move (h : FanOut.Moves cap Resolved.exit (fun b => Resolved.record (poll b)) s e s')
    (hi : UnknownInv poll items finished s) : UnknownInv poll items (finished ++ e.item?.toList) s' where
  dispatched := h.dispatched hi.dispatched
  shared := by
    cases h <;> simp [hi.shared, FanOut.Event.item?, Resolved.ofFinished_append_singleton]
  stopped := by
    have hst := hi.stopped
    cases h with
    | exhaust _ hq => exact fun _ => .inl hq
    | dispatch => simp
    | @leave _ _ x _ _ hx =>
      refine fun _ => .inr ?_
      simp only [Resolved.exit] at hx
      split at hx <;> simp_all
    | add => simp
    | finish =>
      intro hp
      rcases hst hp with hq | hne
      · exact .inl hq
      · refine .inr ?_
        rcases h : poll _ with _ | ⟨_ | _, _ | _⟩ <;> simp_all [Resolved.record]

/-- When both `Wait()`s returned with no error recorded, every entry has finished. -/
theorem perm_of_errs_nil (hi : UnknownInv poll items finished s) (hd : s.Done)
    (he : s.shared.errs = []) : finished.Perm items := by
  have hq : s.pending = [] := (hi.stopped hd.2).resolve_right (by simp [he])
  refine hi.dispatched.perm_of_rest_nil hd.1 ?_
  rcases hd.2 with hp | hp <;> simp [FanOut.rest, hp, hq]

end UnknownInv

/-- Once an error is recorded, a run of the loop starts no goroutine but the one whose
`Add(1)` is waiting: every later check leaves the loop. -/
theorem run_count_add_le_of_errs {poll : UUID × Bool → BlockResult} {cap : Nat}
    {es : List (FanOut.Event (UUID × Bool))} {s s' : FanOut (UUID × Bool) Resolved}
    (h : FanOut.run cap Resolved.exit (fun b => Resolved.record (poll b)) s es = some s')
    (herr : s.shared.errs ≠ []) : es.count .add ≤ s.phase.item?.toList.length := by
  induction es generalizing s with
  | nil => exact Nat.zero_le _
  | cons e es ih =>
    obtain ⟨s₁, h₁, h⟩ := Option.bind_eq_some.mp h
    cases FanOut.moves_of_step h₁ with
    | exhaust hp _ => simpa [hp] using ih h herr
    | dispatch _ _ hx => simp [Resolved.exit, herr] at hx
    | leave hp _ _ => simpa [hp] using ih h herr
    | add hp _ => simpa [hp] using ih h herr
    | finish _ => simpa using ih h (Resolved.record_errs_ne_nil herr)

namespace Poller

variable {p : Poller} {tenantID : TenantID} {unknownBlocks : List (UUID × Bool)} {sched : Schedule}

theorem pollUnknownLoop_inv {s : FanOut (UUID × Bool) Resolved}
    (h : p.pollUnknownLoop tenantID unknownBlocks sched = some s) :
    UnknownInv (p.pollEntry tenantID) (sched.order.arrange unknownBlocks)
      (FanOut.finishedOf sched.events) s := by
  simpa using FanOut.run_induction _ (fun hm hi => UnknownInv.move hm hi) h (UnknownInv.init _ _)

/-- Every whole run of `pollUnknown`: its goroutines ran `pollBlock` on entries of
the map, each at most once; the run fails exactly when `pollBlock` fails on some
entry; and a successful run returns, up to order, the live and the compacted metas
`pollBlock` gives for all the entries. -/
theorem pollUnknown_spec {r : Except Error (List BlockMeta × List CompactedBlockMeta)}
    (h : p.pollUnknown tenantID unknownBlocks sched = some r) :
    (FanOut.finishedOf sched.events).Subperm unknownBlocks ∧
    ((∃ e, r = .error e) ↔ ∃ b ∈ unknownBlocks, ∃ e, p.pollEntry tenantID b = .error e) ∧
    ∀ l c, r = .ok (l, c) →
      l.Perm (unknownBlocks.filterMap (liveMeta? ∘ p.pollEntry tenantID)) ∧
      c.Perm (unknownBlocks.filterMap (compactedMeta? ∘ p.pollEntry tenantID)) := by
  obtain ⟨s, hloop, hr⟩ := Option.bind_eq_some.mp h
  have hi := pollUnknownLoop_inv hloop
  have harr := sched.order.perm unknownBlocks
  split at hr
  · rename_i hd
    have hsub : (FanOut.finishedOf sched.events).Subperm unknownBlocks :=
      harr.subperm_left.mp hi.dispatched.subperm
    have herrs := congrArg Resolved.errs hi.shared
    by_cases he : s.shared.errs = []
    · have hperm := (hi.perm_of_errs_nil hd he).trans harr
      have hnone : ∀ b ∈ unknownBlocks, error? (p.pollEntry tenantID b) = none := fun b hb =>
        List.filterMap_eq_nil_iff.mp (herrs ▸ he) b (hperm.mem_iff.mpr hb)
      simp only [he, List.isEmpty_nil, if_true, Option.some.injEq] at hr
      subst hr
      refine ⟨hsub, ⟨(fun ⟨_, h⟩ => nomatch h), fun ⟨b, hb, e, hbe⟩ => ?_⟩, fun l c hlc => ?_⟩
      · simpa [hbe, error?] using hnone b hb
      · obtain ⟨rfl, rfl⟩ := Prod.mk.inj (Except.ok.inj hlc)
        have hl := congrArg Resolved.newBlockList hi.shared
        have hc := congrArg Resolved.newCompactedBlocklist hi.shared
        exact ⟨hl ▸ hperm.filterMap _, hc ▸ hperm.filterMap _⟩
    · have hne : s.shared.errs.isEmpty = false := by simpa using he
      simp only [hne, Option.some.injEq] at hr
      subst hr
      refine ⟨hsub, ⟨fun _ => ?_, fun _ => ⟨_, rfl⟩⟩, fun l c hlc => nomatch hlc⟩
      obtain ⟨b, hb, hbe⟩ : ∃ b ∈ FanOut.finishedOf sched.events,
          error? (p.pollEntry tenantID b) ≠ none := by
        by_contra hall
        push_neg at hall
        exact he (herrs.trans (List.filterMap_eq_nil_iff.mpr hall))
      refine ⟨b, hsub.subset hb, ?_⟩
      cases h : p.pollEntry tenantID b with
      | error e => exact ⟨e, rfl⟩
      | ok => simp [h, error?] at hbe
  · cases hr

/-- Once a goroutine of `pollUnknown` has recorded an error, the loop starts at most one
more goroutine, the one whose `Add(1)` was already waiting: the check at the top of the
loop leaves it at the next entry. -/
theorem pollUnknownLoop_add_after_error {order : MapOrder UUID Bool}
    {es₁ es₂ : List (FanOut.Event (UUID × Bool))} {s₁ s : FanOut (UUID × Bool) Resolved}
    (h₁ : p.pollUnknownLoop tenantID unknownBlocks ⟨order, es₁⟩ = some s₁)
    (herr : s₁.shared.errs ≠ [])
    (h : p.pollUnknownLoop tenantID unknownBlocks ⟨order, es₁ ++ es₂⟩ = some s) :
    es₂.count .add ≤ 1 := by
  unfold pollUnknownLoop at h₁ h
  rw [FanOut.run_append, h₁, Option.some_bind] at h
  have hwait : s₁.phase.item?.toList.length ≤ 1 := by cases s₁.phase.item? <;> simp
  exact (run_count_add_le_of_errs h herr).trans hwait

/-- With room for one goroutine, `pollUnknown` can return: for every iteration order of
the map, some interleaving of its loop and goroutines is a whole run. -/
theorem pollUnknown_returns (hcap : 0 < p.cfg.pollConcurrency) (order : MapOrder UUID Bool) :
    ∃ events r, p.pollUnknown tenantID unknownBlocks ⟨order, events⟩ = some r := by
  obtain ⟨es, s, hrun, hdone⟩ : ∃ es s, FanOut.run p.cfg.pollConcurrency Resolved.exit
      (fun b => Resolved.record (p.pollEntry tenantID b))
      (FanOut.init (order.arrange unknownBlocks) ⟨[], [], []⟩) es = some s ∧ s.Done :=
    FanOut.exists_run_done hcap _
  refine ⟨es, ?_⟩
  simp only [pollUnknown, pollUnknownLoop, hrun, Option.some_bind, if_pos hdone]
  exact ⟨_, rfl⟩

/-- A poller whose live meta reads fail with an error other than `ErrDoesNotExist`,
polling two blocks at a time. -/
def failingMetaPoller : Poller where
  reader := { tenants := .ok ["t"], blocks := fun _ => .ok ([1, 2], []),
              blockMeta := fun _ _ => .error (.new "read failed"),
              tenantIndex := fun _ => .error .doesNotExist,
              hasNoCompactFlag := fun _ _ => .ok false, find := fun _ => ([], none) }
  writer := ⟨fun _ _ _ => none, fun _ _ => none⟩
  compactor := ⟨fun _ _ => .error .doesNotExist⟩
  cfg := { pollConcurrency := 2, tenantPollConcurrency := 1, pollFallback := true,
           tenantIndexBuilders := 1, staleTenantIndex := 0, tolerateConsecutiveErrors := 0,
           tolerateTenantFailures := 0, emptyTenantDeletionAge := 0,
           emptyTenantDeletionEnabled := false, skipNoCompactBlocks := false }
  sharder := ⟨fun _ => true⟩

/-- Block `1` failed while the `Add(1)` for block `2` waits. -/
def failedFirst : FanOut (UUID × Bool) Resolved :=
  ⟨[], .adding (2, false), [], ⟨[], [], [.new "read failed"]⟩⟩

/-- Both reads failed and the loop was left. -/
def failedBoth : FanOut (UUID × Bool) Resolved :=
  ⟨[], .broken, [], ⟨[], [], [.new "read failed", .new "read failed"]⟩⟩

theorem pollUnknownLoop_add_after_error_failingMeta :
    failingMetaPoller.pollUnknownLoop "t" [(1, false), (2, false)]
        ⟨.inOrder, [.check, .add, .check, .finish (1, false)]⟩ = some failedFirst ∧
    failedFirst.shared.errs ≠ [] ∧
    failingMetaPoller.pollUnknownLoop "t" [(1, false), (2, false)]
        ⟨.inOrder, [.check, .add, .check, .finish (1, false)] ++ [.add, .finish (2, false), .check]⟩ =
      some failedBoth ∧
    [FanOut.Event.add, .finish (2, false), .check].count .add ≤ 1 :=
  have h₁ : failingMetaPoller.pollUnknownLoop "t" [(1, false), (2, false)]
      ⟨.inOrder, [.check, .add, .check, .finish (1, false)]⟩ = some failedFirst := rfl
  have herr : failedFirst.shared.errs ≠ [] := List.cons_ne_nil _ _
  have h : failingMetaPoller.pollUnknownLoop "t" [(1, false), (2, false)]
      ⟨.inOrder, [.check, .add, .check, .finish (1, false)] ++ [.add, .finish (2, false), .check]⟩ =
      some failedBoth := rfl
  ⟨h₁, herr, h, pollUnknownLoop_add_after_error h₁ herr h⟩

end Poller

end BlocklistPoller
