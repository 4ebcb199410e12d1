import BlocklistPoller.Resolver

/-!
# The empty-tenant reaper

`Poller.deleteTenant` deletes every object of a tenant when deletion is enabled,
none of the tenant's objects was modified within `EmptyTenantDeletionAge`, and the
tenant index is still absent. Its callback calls `time.Since` once per object, so each
visit reads the clock afresh: the model takes one reading per visit.

The guard on the age only rejects zero, although its error text says the age must be
greater than zero: `deleteTenant_negative_age` shows a negative age deleting an object
that was just written.
-/

namespace BlocklistPoller

/-- `path.Split`: the path up to and including its last `/`, and the rest. -/
def pathSplit (path : String) : String × String :=
  let rev := path.data.reverse
  (String.mk (rev.dropWhile (· != '/')).reverse, String.mk (rev.takeWhile (· != '/')).reverse)

/-- The directory and the name `path.Split` gives join back to the path. -/
theorem pathSplit_append (path : String) : (pathSplit path).1 ++ (pathSplit path).2 = path := by
  apply String.ext
  simp only [pathSplit, String.data_append, ← List.reverse_append, List.takeWhile_append_dropWhile,
    List.reverse_reverse]

/-- The `Delete` call that `deleteTenant` makes for an object key. -/
def deleteCall (object : String) : WriterCall :=
  .delete (pathSplit object).2 [(pathSplit object).1]

namespace Poller

variable (p : Poller)

/-- The loop of `deleteTenant` over `foundObjects`: delete each object in turn and
return the first error. The result is that error and the `Delete` calls issued. -/
def deleteObjects : List String → Option Error × List WriterCall
  | [] => (none, [])
  | object :: rest =>
    let (dir, name) := pathSplit object
    match p.writer.delete name [dir] with
    | some err => (some err, [.delete name [dir]])
    | none => ((deleteObjects rest).1, .delete name [dir] :: (deleteObjects rest).2)

/-- The callback `deleteTenant` hands to `Find`, at its visit number `ko.1`, of the
object `ko.2`: its `time.Since` reads the clock as `clock ko.1`. Remember an object
older than the age, count a recent one. -/
def visitObject (clock : Nat → Int) (acc : List String × Nat) (ko : Nat × FindMatch) :
    List String × Nat :=
  if timeSub (clock ko.1) ko.2.modified > p.cfg.emptyTenantDeletionAge then
    (acc.1 ++ [ko.2.key], acc.2)
  else (acc.1, acc.2 + 1)

/-- `Poller.deleteTenant`, whose callback reads the clock (nanoseconds) once per object
it visits, `clock k` at the `k`-th: the error it returns and the `Delete` calls it
issues, in order. -/
def deleteTenant (clock : Nat → Int) (tenantID : TenantID) : Option Error × List WriterCall :=
  if !p.cfg.emptyTenantDeletionEnabled then (none, [])
  else if p.cfg.emptyTenantDeletionAge = 0 then
    (some (.new "empty tenant deletion age must be greater than 0"), [])
  else
    let (visited, err) := p.reader.find [tenantID]
    let (foundObjects, recentObjects) := visited.enum.foldl (p.visitObject clock) ([], 0)
    match err with
    | some err => (some err, [])
    | none =>
      if recentObjects > 0 then (none, [])
      else if !isDoesNotExist (goPair (p.reader.tenantIndex tenantID)).2 then (none, [])
      else p.deleteObjects foundObjects

variable {p}

/-- The callback leaves the objects older than the age at their visit's reading, in
order, and the count of the others. -/
theorem foldl_visitObject (clock : Nat → Int) (visits : List (Nat × FindMatch))
    (acc : List String × Nat) :
    visits.foldl (p.visitObject clock) acc =
      (acc.1 ++ (visits.filter fun ko =>
          timeSub (clock ko.1) ko.2.modified > p.cfg.emptyTenantDeletionAge).map fun ko => ko.2.key,
        acc.2 + (visits.filter fun ko =>
          ¬ timeSub (clock ko.1) ko.2.modified > p.cfg.emptyTenantDeletionAge).length) := by
  induction visits generalizing acc with
  | nil => simp
  | cons ko visits ih =>
    rw [List.foldl_cons, ih]
    by_cases ho : timeSub (clock ko.1) ko.2.modified > p.cfg.emptyTenantDeletionAge
    · simp only [visitObject, if_pos ho, List.filter_cons, ho, decide_True, not_true_eq_false,
        decide_False, if_true, List.map_cons, List.append_assoc, List.singleton_append]
      rfl
    · simp only [visitObject, if_neg ho, List.filter_cons, ho, decide_False, not_false_eq_true,
        decide_True, if_true, List.length_cons]
      simp only [Bool.false_eq_true, if_false, Nat.add_assoc, Nat.add_comm 1]

/-- The keys of the visits, in visit order, are the keys of the visited objects. -/
theorem map_key_enum (visited : List FindMatch) :
    (visited.enum.map fun ko => ko.2.key) = visited.map FindMatch.key := by
  conv_rhs => rw [← List.enum_map_snd visited]
  rw [List.map_map]
  rfl

/-- The deletes go through the objects in order, and stop after the first failed
one: the calls are those of a prefix, and all but the last succeeded. -/
theorem deleteObjects_calls (objects : List String) :
    ∃ k, (p.deleteObjects objects).2 = (objects.take k).map deleteCall ∧
      ∀ o ∈ objects.take (k - 1), p.writer.delete (pathSplit o).2 [(pathSplit o).1] = none := by
  induction objects with
  | nil => exact ⟨0, rfl, by simp⟩
  | cons o objects ih =>
    obtain ⟨k, hk, hok⟩ := ih
    cases hd : p.writer.delete (pathSplit o).2 [(pathSplit o).1] with
    | some err => exact ⟨1, by simp [deleteObjects, hd, deleteCall], by simp⟩
    | none =>
      refine ⟨k + 1, by simp [deleteObjects, hd, hk, deleteCall], fun o' ho' => ?_⟩
      cases k with
      | zero => simp at ho'
      | succ k =>
        rcases List.mem_cons.mp (by simpa using ho') with rfl | ho'
        · exact hd
        · exact hok o' (by simpa using ho')

/-- `deleteTenant` issues a `Delete` only when deletion is enabled, the age is not
zero, `Find` succeeded and visited no object modified within the age at its visit's
reading, and the tenant index read failed with `ErrDoesNotExist`. The calls delete a
prefix of the visited keys, in order, and stop after the first failure. -/
theorem deleteTenant_deletes {clock : Nat → Int} {tenantID : TenantID}
    (h : (p.deleteTenant clock tenantID).2 ≠ []) :
    p.cfg.emptyTenantDeletionEnabled = true ∧ p.cfg.emptyTenantDeletionAge ≠ 0 ∧
    (p.reader.find [tenantID]).2 = none ∧
    (∀ ko ∈ (p.reader.find [tenantID]).1.enum,
      timeSub (clock ko.1) ko.2.modified > p.cfg.emptyTenantDeletionAge) ∧
    (∃ e, p.reader.tenantIndex tenantID = .error e ∧ e.isDoesNotExist) ∧
    ∃ k, (p.deleteTenant clock tenantID).2 =
        (((p.reader.find [tenantID]).1.map FindMatch.key).take k).map deleteCall ∧
      ∀ o ∈ ((p.reader.find [tenantID]).1.map FindMatch.key).take (k - 1),
        p.writer.delete (pathSplit o).2 [(pathSplit o).1] = none := by
  by_cases hen : p.cfg.emptyTenantDeletionEnabled
  swap; · simp [deleteTenant, hen] at h
  by_cases hage : p.cfg.emptyTenantDeletionAge = 0
  · simp [deleteTenant, hen, hage] at h
  rcases hf : p.reader.find [tenantID] with ⟨visited, _ | err⟩
  swap; · simp [deleteTenant, hen, hage, hf] at h
  simp only [deleteTenant, hen, hage, hf, foldl_visitObject, Bool.not_true, if_false,
    Bool.false_eq_true, List.nil_append, Nat.zero_add] at h ⊢
  split at h
  · exact absurd rfl h
  rename_i hrecent
  split at h
  · exact absurd rfl h
  rename_i hidx
  have hold : ∀ ko ∈ visited.enum,
      timeSub (clock ko.1) ko.2.modified > p.cfg.emptyTenantDeletionAge := by
    intro ko ho
    by_contra hno
    exact hrecent (List.length_pos_of_mem (List.mem_filter.mpr ⟨ho, by simpa using hno⟩))
  have hfound : (visited.enum.filter fun ko =>
      timeSub (clock ko.1) ko.2.modified > p.cfg.emptyTenantDeletionAge) = visited.enum :=
    List.filter_eq_self.mpr fun ko ho => by simpa using hold ko ho
  refine ⟨trivial, hage, trivial, hold, ?_, ?_⟩
  · cases hti : p.reader.tenantIndex tenantID with
    | ok => simp [hti, goPair, isDoesNotExist] at hidx
    | error e => exact ⟨e, rfl, by simpa [hti, goPair, isDoesNotExist] using hidx⟩
  · simp only [hrecent, hidx, if_false, hfound, Bool.false_eq_true, map_key_enum]
    exact deleteObjects_calls _

/-- The reaper issues deletes only. -/
theorem writeTenantIndex_not_mem_deleteTenant {clock : Nat → Int} {tenantID T : TenantID}
    {l : List BlockMeta} {c : List CompactedBlockMeta} :
    WriterCall.writeTenantIndex T l c ∉ (p.deleteTenant clock tenantID).2 := by
  intro hw
  obtain ⟨-, -, -, -, -, k, hk, -⟩ := deleteTenant_deletes (List.ne_nil_of_mem hw)
  rw [hk] at hw
  obtain ⟨o, -, ho⟩ := List.mem_map.mp hw
  simp [deleteCall] at ho

/-- A poller with empty-tenant deletion enabled and an age of `-1` ns, over a tenant
whose one object `t/b/meta.json` was modified at time `0` and whose index is
absent. -/
def negativeAgePoller : Poller where
  reader := { tenants := .ok ["t"], blocks := fun _ => .ok ([], []),
              blockMeta := fun _ _ => .error .doesNotExist,
              tenantIndex := fun _ => .error .doesNotExist,
              hasNoCompactFlag := fun _ _ => .ok false,
              find := fun _ => ([⟨"t/b/meta.json", 0⟩], none) }
  writer := ⟨fun _ _ _ => none, fun _ _ => none⟩
  compactor := ⟨fun _ _ => .error .doesNotExist⟩
  cfg := { pollConcurrency := 1, tenantPollConcurrency := 1, pollFallback := false,
           tenantIndexBuilders := 1, staleTenantIndex := 0, tolerateConsecutiveErrors := 0,
           tolerateTenantFailures := 0, emptyTenantDeletionAge := -1,
           emptyTenantDeletionEnabled := true, skipNoCompactBlocks := false }
  sharder := ⟨fun _ => true⟩

/-- With the clock reading `0` at the visit, the object is `0` ns old, not older than a
positive age, yet the negative age passes the guard and the object is deleted. -/
theorem deleteTenant_negative_age :
    negativeAgePoller.deleteTenant (fun _ => 0) "t" = (none, [.delete "meta.json" ["t/b/"]]) := by
  decide

end Poller

end BlocklistPoller
