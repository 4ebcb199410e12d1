import BlocklistPoller.Backend
import Mathlib.Data.List.Perm.Basic

/-!
# The range loop over a bounded wait group

`Poller.Do` and `Poller.pollUnknown` have one shape: a `for ... range` loop checks
a condition at the top of its body, calls `Add(1)` on a bounded wait group and
starts a goroutine, which updates state shared under a mutex and calls `Done()`;
after the loop, `Wait()` joins the goroutines. This file models that shape once,
as a step function over the events of an interleaving, and proves what every step
keeps: which items were handed out, and that some step is always enabled.
-/

namespace BlocklistPoller

/-- How the check at the top of the loop body leaves the loop. -/
inductive Exit where
  /-- `break`, then `Wait()` and the code after the loop. -/
  | breakLoop
  /-- An early `return`, after `Wait()`. -/
  | returnEarly
  deriving DecidableEq, Repr

/-- Where the range loop stands. -/
inductive LoopPhase (α : Type) where
  /-- At the top of the body for the next item, or at the end of the range. -/
  | head
  /-- The checks passed for this item and `Add(1)` waits for room in the group. -/
  | adding (item : α)
  /-- The loop was left by `break` or at the end of the range. -/
  | broken
  /-- The loop returns early, once the goroutines are done. -/
  | returning
  deriving DecidableEq, Repr

/-- The item `Add(1)` is waiting for, if any. -/
def LoopPhase.item? {α : Type} : LoopPhase α → Option α
  | .adding a => some a
  | _ => none

/-- The phase a loop exit leads to. -/
def Exit.phase {α : Type} : Exit → LoopPhase α
  | .breakLoop => .broken
  | .returnEarly => .returning

@[simp] theorem LoopPhase.item?_head {α : Type} : (LoopPhase.head : LoopPhase α).item? = none := rfl

@[simp] theorem LoopPhase.item?_adding {α : Type} (a : α) : (LoopPhase.adding a).item? = some a :=
  rfl

@[simp] theorem LoopPhase.item?_broken {α : Type} : (LoopPhase.broken : LoopPhase α).item? = none :=
  rfl

@[simp] theorem LoopPhase.item?_returning {α : Type} :
    (LoopPhase.returning : LoopPhase α).item? = none :=
  rfl

@[simp] theorem Exit.phase_item? {α : Type} (x : Exit) : (x.phase : LoopPhase α).item? = none := by
  cases x <;> rfl

@[simp] theorem Exit.phase_ne_head {α : Type} (x : Exit) : (x.phase : LoopPhase α) ≠ .head := by
  cases x <;> nofun

/-- The loop, its goroutines and the state they share. -/
structure FanOut (α σ : Type) where
  /-- The items the range loop has not reached. -/
  pending : List α
  phase : LoopPhase α
  /-- The items whose goroutines started and have not called `Done()`. -/
  running : List α
  /-- The state the goroutines update under the mutex. -/
  shared : σ

namespace FanOut

/-- One event of an interleaving. -/
inductive Event (α : Type) where
  /-- The loop runs its checks on the next item, or finds the range exhausted. -/
  | check
  /-- `Add(1)` returns and the goroutine for the item starts. -/
  | add
  /-- The goroutine for the item records its result under the mutex and calls `Done()`. -/
  | finish (item : α)
  deriving DecidableEq, Repr

/-- The item a `finish` event is about. -/
def Event.item? {α : Type} : Event α → Option α
  | .finish a => some a
  | _ => none

/-- The items of the `finish` events of an interleaving, in order. -/
def finishedOf {α : Type} (es : List (Event α)) : List α := es.filterMap Event.item?

@[simp] theorem finishedOf_nil {α : Type} : finishedOf ([] : List (Event α)) = [] := rfl

@[simp] theorem finishedOf_cons {α : Type} (e : Event α) (es : List (Event α)) :
    finishedOf (e :: es) = e.item?.toList ++ finishedOf es := by
  cases e <;> rfl

variable {α σ : Type} [DecidableEq α]

/-- The loop before its first iteration. -/
def init (items : List α) (shared : σ) : FanOut α σ := ⟨items, .head, [], shared⟩

/-- One event, `none` when the interleaving cannot take it. `cap` is the wait
group's capacity, `exit` the check at the top of the body, `body` what a goroutine
does under the mutex.

Modelled from the spec (§4.1, a counted semaphore whose admission blocks until
capacity is free): `pkg/boundedwaitgroup` is not under src/. `Add(1)` returns once
fewer than `cap` goroutines run, and never otherwise. What `boundedwaitgroup.New(0)`
does is not established here; at capacity zero the model's `Add(1)` blocks for ever. -/
def step (cap : Nat) (exit : σ → Option Exit) (body : α → σ → σ) (s : FanOut α σ) :
    Event α → Option (FanOut α σ)
  | .check =>
    match s.phase, s.pending with
    | .head, [] => some { s with phase := .broken }
    | .head, a :: rest =>
      match exit s.shared with
      | none => some { s with pending := rest, phase := .adding a }
      | some x => some { s with phase := x.phase }
    | _, _ => none
  | .add =>
    match s.phase with
    | .adding a =>
      if s.running.length < cap then some { s with phase := .head, running := a :: s.running }
      else none
    | _ => none
  | .finish a =>
    if a ∈ s.running then some { s with running := s.running.erase a, shared := body a s.shared }
    else none

/-- A whole interleaving, `none` when one of its events cannot be taken. -/
def run (cap : Nat) (exit : σ → Option Exit) (body : α → σ → σ) (s : FanOut α σ) :
    List (Event α) → Option (FanOut α σ)
  | [] => some s
  | e :: es => (step cap exit body s e).bind fun s' => run cap exit body s' es

/-- Both `Wait()`s returned: the loop was left and every goroutine is done. -/
def Done (s : FanOut α σ) : Prop :=
  s.running = [] ∧ (s.phase = .broken ∨ s.phase = .returning)

instance (s : FanOut α σ) : Decidable s.Done := inferInstanceAs (Decidable (_ ∧ _))

/-- The items the loop has not handed to a goroutine, the one waiting in `Add(1)` first. -/
def rest (s : FanOut α σ) : List α := s.phase.item?.toList ++ s.pending

/-- What one step can do, case by case. -/
inductive Moves (cap : Nat) (exit : σ → Option Exit) (body : α → σ → σ) :
    FanOut α σ → Event α → FanOut α σ → Prop
  | exhaust {s : FanOut α σ} : s.phase = .head → s.pending = [] →
      Moves cap exit body s .check { s with phase := .broken }
  | dispatch {s : FanOut α σ} {a : α} {rest : List α} : s.phase = .head → s.pending = a :: rest →
      exit s.shared = none → Moves cap exit body s .check { s with pending := rest, phase := .adding a }
  | leave {s : FanOut α σ} {a : α} {rest : List α} {x : Exit} : s.phase = .head →
      s.pending = a :: rest → exit s.shared = some x →
      Moves cap exit body s .check { s with phase := x.phase }
  | add {s : FanOut α σ} {a : α} : s.phase = .adding a → s.running.length < cap →
      Moves cap exit body s .add { s with phase := .head, running := a :: s.running }
  | finish {s : FanOut α σ} {a : α} : a ∈ s.running →
      Moves cap exit body s (.finish a) { s with running := s.running.erase a, shared := body a s.shared }

variable {cap : Nat} {exit : σ → Option Exit} {body : α → σ → σ} {s s' : FanOut α σ} {e : Event α}

/-- Every step is one of the moves. -/
theorem moves_of_step (h : step cap exit body s e = some s') : Moves cap exit body s e s' := by
  obtain ⟨pending, phase, running, shared⟩ := s
  cases e with
  | check =>
    cases phase <;> cases pending <;> simp only [step, reduceCtorEq] at h
    · cases h; exact .exhaust rfl rfl
    · cases hx : exit shared <;> simp only [hx, Option.some.injEq] at h <;> subst h
      · exact .dispatch rfl rfl hx
      · exact .leave rfl rfl hx
  | add =>
    cases phase <;> simp only [step, reduceCtorEq] at h
    split at h
    · cases h; exact .add rfl ‹_›
    · cases h
  | finish a =>
    simp only [step] at h
    split at h
    · cases h; exact .finish ‹_›
    · cases h

/-- A goroutine's effect is the only change to the shared state. -/
theorem Moves.shared_eq (h : Moves cap exit body s e s') :
    s'.shared = e.item?.elim s.shared fun a => body a s.shared := by
  cases h <;> rfl

theorem run_append (s : FanOut α σ) (es es' : List (Event α)) :
    run cap exit body s (es ++ es') = (run cap exit body s es).bind fun s' => run cap exit body s' es' := by
  induction es generalizing s with
  | nil => rfl
  | cons e es ih =>
    simp only [List.cons_append, run]
    cases step cap exit body s e <;> simp [ih]

/-- With no item left to reach, the loop never runs its check again: a step does not
depend on it. -/
theorem step_exit_irrelevant (exit₁ exit₂ : σ → Option Exit) (h : s.pending = []) :
    step cap exit₁ body s e = step cap exit₂ body s e := by
  obtain ⟨pending, phase, running, shared⟩ := s
  cases h
  cases e <;> cases phase <;> rfl

/-- No move brings back an item to reach. -/
theorem Moves.pending_nil (h : Moves cap exit body s e s') (hs : s.pending = []) :
    s'.pending = [] := by
  cases h <;> simp_all

/-- With a capacity of zero and no goroutine running, `Add(1)` never returns: only the
check at the top of the loop moves, and it starts nothing. -/
theorem Moves.check_of_cap_zero (h : Moves 0 exit body s e s') (hs : s.running = []) :
    e = .check ∧ s'.running = [] ∧ s'.shared = s.shared := by
  cases h with
  | exhaust | dispatch | leave => exact ⟨rfl, hs, rfl⟩
  | add _ hcap => exact absurd hcap (Nat.not_lt_zero _)
  | finish ha => rw [hs] at ha; cases ha

/-- A property of runs is proved by showing that every move keeps it, the finished
item joining the finished list. -/
theorem run_induction (P : List α → FanOut α σ → Prop)
    (hmove : ∀ {fin s e s'}, Moves cap exit body s e s' → P fin s → P (fin ++ e.item?.toList) s')
    {es : List (Event α)} {fin : List α} (hrun : run cap exit body s es = some s') (hs : P fin s) :
    P (fin ++ finishedOf es) s' := by
  induction es generalizing s fin with
  | nil => cases hrun; simpa using hs
  | cons e es ih =>
    obtain ⟨s₁, h₁, hrun⟩ := Option.bind_eq_some.mp hrun
    simpa using ih hrun (hmove (moves_of_step h₁) hs)

/-- The items handed out are a prefix of the range, and they are the finished ones
and the running ones, up to order. -/
def Dispatched (items finished : List α) (s : FanOut α σ) : Prop :=
  ∃ d, items = d ++ s.rest ∧ d.Perm (finished ++ s.running)

omit [DecidableEq α] in
theorem dispatched_init (items : List α) (shared : σ) :
    Dispatched items [] (init items shared) :=
  ⟨[], rfl, .nil⟩

/-- Every step keeps `Dispatched`, the finished item joining the finished list. -/
theorem Moves.dispatched {items finished : List α} (h : Moves cap exit body s e s')
    (hd : Dispatched items finished s) : Dispatched items (finished ++ e.item?.toList) s' := by
  obtain ⟨d, hitems, hperm⟩ := hd
  cases h with
  | exhaust hp _ =>
    exact ⟨d, by simpa [rest, hp] using hitems, by simpa [Event.item?] using hperm⟩
  | leave hp _ _ =>
    exact ⟨d, by simpa [rest, hp] using hitems, by simpa [Event.item?] using hperm⟩
  | dispatch hp hq _ =>
    exact ⟨d, by simpa [rest, hp, hq] using hitems, by simpa [Event.item?] using hperm⟩
  | @add a hp _ =>
    refine ⟨d ++ [a], by simpa [rest, hp] using hitems, ?_⟩
    have hmid : (finished ++ s.running ++ [a]).Perm (finished ++ a :: s.running) := by
      rw [List.append_assoc]; exact (List.perm_append_singleton a s.running).append_left finished
    simpa [Event.item?] using (hperm.append_right [a]).trans hmid
  | @finish a ha =>
    refine ⟨d, hitems, hperm.trans ?_⟩
    simpa [Event.item?] using ((List.perm_cons_erase ha).append_left finished).trans
      (by simp [List.perm_middle])

omit [DecidableEq α] in
/-- The finished items are among the range's items, each as often at most. -/
theorem Dispatched.subperm {items finished : List α} (hd : Dispatched items finished s) :
    finished.Subperm items := by
  obtain ⟨d, hitems, hperm⟩ := hd
  have hfin : finished.Subperm d := (List.sublist_append_left _ _).subperm.trans hperm.symm.subperm
  exact hfin.trans (hitems ▸ List.sublist_append_left d s.rest).subperm

omit [DecidableEq α] in
/-- Once nothing runs and nothing is left, every item of the range has finished. -/
theorem Dispatched.perm_of_rest_nil {items finished : List α} (hd : Dispatched items finished s)
    (hrun : s.running = []) (hrest : s.rest = []) : finished.Perm items := by
  obtain ⟨d, hitems, hperm⟩ := hd
  simpa [hitems, hrest, hrun] using hperm.symm

/-- A measure that every step lowers: the loop can take only finitely many steps. -/
def measure (s : FanOut α σ) : Nat :=
  3 * s.rest.length + s.running.length + if s.phase = .head then 1 else 0

theorem Moves.measure_lt (h : Moves cap exit body s e s') : s'.measure < s.measure := by
  cases h with
  | exhaust hp _ | leave hp _ _ => simp [measure, rest, hp]
  | dispatch hp hq _ => simp [measure, rest, hp, hq]
  | add hp _ => simp [measure, rest, hp]; omega
  | finish ha =>
    have := List.length_erase_of_mem ha
    have := List.length_pos_of_mem ha
    simp only [measure, rest]; omega

/-- `Add(1)` starts a goroutine only with room in the group: no move takes the number of
running goroutines past the capacity. -/
theorem Moves.running_le (h : Moves cap exit body s e s') (hs : s.running.length ≤ cap) :
    s'.running.length ≤ cap := by
  cases h with
  | add _ hcap => exact hcap
  | finish => exact (List.length_erase_le _ _).trans hs
  | exhaust | dispatch | leave => exact hs

/-- No run takes the number of running goroutines past the capacity. -/
theorem run_running_le {es : List (Event α)} (hrun : run cap exit body s es = some s')
    (hs : s.running.length ≤ cap) : s'.running.length ≤ cap :=
  @run_induction _ _ _ _ _ _ _ _ (fun _ t => t.running.length ≤ cap)
    (fun hm ht => hm.running_le ht) _ [] hrun hs

/-- In the model, a wait group of capacity zero starts nothing: from a state with no
goroutine running, no run starts one or changes the shared state. -/
theorem run_cap_zero {es : List (Event α)} (hrun : run 0 exit body s es = some s')
    (hs : s.running = []) : s'.running = [] ∧ s'.shared = s.shared :=
  @run_induction _ _ _ _ _ _ _ _ (fun _ t => t.running = [] ∧ t.shared = s.shared)
    (fun hm ⟨ht, hsh⟩ => by obtain ⟨-, h, h'⟩ := hm.check_of_cap_zero ht; exact ⟨h, h'.trans hsh⟩)
    _ [] hrun ⟨hs, rfl⟩

/-- With room for one goroutine, a loop that is not done can always take a step. -/
theorem exists_step (hcap : 0 < cap) (hs : ¬ s.Done) : ∃ e s', step cap exit body s e = some s' := by
  obtain ⟨pending, phase, running, shared⟩ := s
  cases phase with
  | head =>
    cases pending with
    | nil => exact ⟨.check, _, rfl⟩
    | cons a rest => cases hx : exit shared <;> exact ⟨.check, by simp [step, hx]⟩
  | adding a =>
    by_cases hr : running.length < cap
    · exact ⟨.add, by simp [step, hr]⟩
    · cases running with
      | nil => exact absurd hcap hr
      | cons b rs => exact ⟨.finish b, by simp [step]⟩
  | broken | returning =>
    cases running with
    | nil => exact absurd ⟨rfl, by simp⟩ hs
    | cons b rs => exact ⟨.finish b, by simp [step]⟩

/-- With room for one goroutine, every partial interleaving extends to one where
both `Wait()`s return. -/
theorem exists_run_done (hcap : 0 < cap) (s : FanOut α σ) :
    ∃ es s', run cap exit body s es = some s' ∧ s'.Done := by
  generalize hm : s.measure = n
  induction n using Nat.strong_induction_on generalizing s with
  | _ n ih =>
    by_cases hs : s.Done
    · exact ⟨[], s, rfl, hs⟩
    · obtain ⟨e, s₁, h₁⟩ : ∃ e s₁, step cap exit body s e = some s₁ := exists_step hcap hs
      obtain ⟨es, s', hrun, hdone⟩ := ih _ (hm ▸ (moves_of_step h₁).measure_lt) s₁ rfl
      exact ⟨e :: es, s', by simp [run, h₁, hrun], hdone⟩

/-- The loop with its shared state seen through `f`. -/
def mapShared {τ : Type} (f : σ → τ) (s : FanOut α σ) : FanOut α τ :=
  ⟨s.pending, s.phase, s.running, f s.shared⟩

omit [DecidableEq α] in
@[simp] theorem done_mapShared {τ : Type} (f : σ → τ) (s : FanOut α σ) : (s.mapShared f).Done ↔ s.Done :=
  Iff.rfl

/-- A loop whose check reads the shared state through `f`, and whose goroutines act on
what `f` sees as `body'` does, steps as the loop over what `f` sees. -/
theorem step_mapShared {τ : Type} (f : σ → τ) {check : τ → Option Exit} {body' : α → τ → τ}
    (hbody : ∀ a x, f (body a x) = body' a (f x)) (s : FanOut α σ) (e : Event α) :
    (step cap (fun x => check (f x)) body s e).map (mapShared f) =
      step cap check body' (s.mapShared f) e := by
  obtain ⟨pending, phase, running, shared⟩ := s
  cases e with
  | check =>
    cases phase <;> cases pending <;> try rfl
    cases hx : check (f shared) <;> simp [step, mapShared, hx]
  | add =>
    cases phase <;> try rfl
    simp only [step, mapShared]
    split <;> rfl
  | finish a =>
    simp only [step, mapShared]
    split <;> simp [mapShared, hbody]

end FanOut

end BlocklistPoller
