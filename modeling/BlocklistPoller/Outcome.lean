import BlocklistPoller.Cycle

/-!
# What a cycle returns, whatever the interleaving

Without a cancellation, `Do` computes one function of the tenant listing, the previous
lists and the outcomes of its calls (`Poller.cycleOutcome`): every whole run of its
admission loop and goroutines returns it, whatever the interleaving
(`Do_eq_cycleOutcome`). The tenant goroutines write distinct keys under the mutex and
the failure counter only goes down, so no run can tell the order they ran in.

`Do` reads the parent context in one place: at the top of its range loop, before it
admits the next tenant. Its goroutines run against a background context, and once the
range is exhausted the loop ends without a check. So a cancellation while tenants are
left to admit ends the cycle with the context's error once every started goroutine is
done, unless the failure budget already stopped the loop (`Do_canceled_of_pending`),
and a cancellation once the loop has reached its last tenant changes nothing
(`Do_cancel_after_range_eq`).
-/

namespace BlocklistPoller

section AdmissionRun

variable {cap : Nat} {body : TenantID → Tally → Tally}

/-- Once the range has no tenant left to reach, whether the context is done does not
change the state a run of the admission loop leads to. -/
theorem admissionRun_bind_of_pending_nil {β : Type} (f : FanOut TenantID Tally → Option β)
    (c c' : Bool) (es : List CycleEvent) {s : FanOut TenantID Tally} (h : s.pending = []) :
    (admissionRun cap body c s es).bind (fun r => f r.2) =
      (admissionRun cap body c' s es).bind (fun r => f r.2) := by
  induction es generalizing s c c' with
  | nil => rfl
  | cons e es ih =>
    cases e with
    | cancel => rfl
    | loop e =>
      simp only [admissionRun]
      rw [FanOut.step_exit_irrelevant (admissionExit c) (admissionExit c') h]
      cases hs : FanOut.step cap (admissionExit c') body s e with
      | none => rfl
      | some s₁ => exact ih c c' ((FanOut.moves_of_step hs).pending_nil h)

end AdmissionRun

namespace Poller

variable {p : Poller} {previous : Blocklist} {poll : TenantID → Nat → PollResult}
  {tenants : List TenantID} {es₁ es₂ : List CycleEvent} {c : Bool} {s : FanOut TenantID Tally}

/-- What a cycle whose context is not cancelled returns, as one function of the listed
tenants, the previous lists and the calls' outcomes: each tenant's entry when at most
`TolerateTenantFailures`, as an `int32`, of them failed, the budget's error otherwise. -/
def cycleOutcome (p : Poller) (previous : Blocklist) (poll : TenantID → Nat → PollResult)
    (tenants : List TenantID) : Except Error (PerTenant × PerTenantCompacted) :=
  if (p.failures poll tenants : Int) ≤ int32 p.cfg.tolerateTenantFailures then
    .ok (fun T => (p.entryAfter previous poll tenants T).map Prod.fst,
      fun T => (p.entryAfter previous poll tenants T).map Prod.snd)
  else .error (.new "too many tenant failures; abandoning polling cycle")

/-- An entry depends on which tenants finished, not on the order they finished in. -/
theorem entryAfter_perm {finished finished' : List TenantID} (h : finished.Perm finished') :
    p.entryAfter previous poll finished = p.entryAfter previous poll finished' := by
  funext T
  simp only [entryAfter, h.mem_iff]

/-- Over a duplicate-free listing of fewer than `2 ^ 31` tenants, in which each tenant's
goroutine makes the calls `poll` gives for it, every whole run of `Do` without a
cancellation returns `cycleOutcome`: the interleaving of the admission loop and the
goroutines does not show in the result. -/
theorem Do_eq_cycleOutcome {r : Except Error (PerTenant × PerTenantCompacted)}
    {events : List CycleEvent} (htenants : p.reader.tenants = .ok tenants)
    (_hnodup : tenants.Nodup) (hlen : tenants.length < 2 ^ 31) (hc : CycleEvent.cancel ∉ events)
    (h : p.Do previous poll events = some r) : r = p.cycleOutcome previous poll tenants := by
  obtain ⟨c, s, hadm, hdone, rfl⟩ := Do_eq_some htenants h
  have hi := admission_inv hadm
  have hret := admission_returning hadm hc
  -- the failures of the finished tenants are among those of all tenants
  have hsub : p.failures poll (FanOut.finishedOf (loopEvents events)) ≤ p.failures poll tenants :=
    hi.dispatched.subperm.countP_le _
  unfold cycleOutcome
  cases hres : cycleResult s with
  | ok m =>
    obtain ⟨bl, cbl⟩ := m
    obtain ⟨hperm, hle, rfl, rfl⟩ := hi.done_ok hdone hres hlen
    rw [failures, hperm.countP_eq, ← failures] at hle
    rw [if_pos hle, ← entryAfter_perm hperm]
    exact congrArg Except.ok (Prod.ext (funext hi.blocklist) (funext hi.compactedBlocklist))
  | error e =>
    have hneg := cycleResult_eq_error hres hret
    have hmsg : cycleResult s = .error (.new "too many tenant failures; abandoning polling cycle") := by
      rw [cycleResult, if_neg hret, if_pos hneg]
    rw [hmsg] at hres
    rw [← hres, if_neg]
    intro hle
    have hk : 0 ≤ int32 p.cfg.tolerateTenantFailures := le_trans (Int.natCast_nonneg _) hle
    rw [hi.counter, hi.int32_budget hk hlen (List.prefix_refl _)] at hneg
    omega

theorem Do_eq_cycleOutcome_oneTenant :
    (oneTenantPoller 0 0).reader.tenants = .ok ["t"] ∧ ["t"].Nodup ∧ ["t"].length < 2 ^ 31 ∧
    CycleEvent.cancel ∉ oneTenantRun ∧
    (oneTenantPoller 0 0).Do .empty blockFound oneTenantRun = some (.ok blockFoundMaps) ∧
    Except.ok blockFoundMaps = (oneTenantPoller 0 0).cycleOutcome .empty blockFound ["t"] :=
  have hc : CycleEvent.cancel ∉ oneTenantRun := by simp [oneTenantRun]
  have h : (oneTenantPoller 0 0).Do .empty blockFound oneTenantRun = some (.ok blockFoundMaps) := rfl
  ⟨rfl, List.nodup_singleton _, by decide, hc, h,
    Do_eq_cycleOutcome rfl (List.nodup_singleton _) (by decide) hc h⟩

/-- The loop checks the context only before a tenant: a cancellation once the range
has no tenant left changes nothing, and the cycle returns what it returns without it. -/
theorem Do_cancel_after_range_eq (htenants : p.reader.tenants = .ok tenants)
    (h₁ : p.admission previous poll tenants es₁ = some (c, s)) (hpending : s.pending = []) :
    p.Do previous poll (es₁ ++ .cancel :: es₂) = p.Do previous poll (es₁ ++ es₂) := by
  simp only [Do, htenants, admission, admissionRun_append] at h₁ ⊢
  rw [h₁, Option.some_bind, Option.some_bind]
  exact admissionRun_bind_of_pending_nil (fun t => if t.Done then some (cycleResult t) else none)
    true c es₂ hpending

/-- Whatever the interleaving and wherever it stands, at most `TenantPollConcurrency`
goroutines of `Do` run at once, and at most `PollConcurrency` goroutines of each
`pollUnknown`: every point of an interleaving is the end of a run of its loop. -/
theorem running_le_concurrency (p : Poller) :
    (∀ previous poll tenants events c (s : FanOut TenantID Tally),
      p.admission previous poll tenants events = some (c, s) →
        s.running.length ≤ p.cfg.tenantPollConcurrency) ∧
    ∀ tenantID unknownBlocks sched (s : FanOut (UUID × Bool) Resolved),
      p.pollUnknownLoop tenantID unknownBlocks sched = some s →
        s.running.length ≤ p.cfg.pollConcurrency := by
  refine ⟨fun previous poll tenants events c s h => ?_, fun tenantID unknownBlocks sched s h => ?_⟩
  · exact @admissionRun_induction _ _ (fun _ _ s => s.running.length ≤ p.cfg.tenantPollConcurrency)
      (fun hm hs => hm.running_le hs) (fun hs => hs) _ _ _ _ _ [] h (Nat.zero_le _)
  · exact FanOut.run_running_le h (Nat.zero_le _)

end Poller

end BlocklistPoller
