import Preflight.Proofs.Evaluations

/-! # How many checks are under way
A slot of the pool is free again only when its check and all checks before it have finished. So at no instant are
more checks under way than there are workers, however long each of them takes, and whether the run is cancelled from
outside, by one of its checks or by nothing. -/
namespace Preflight

/-- At most as many members of a list have a property as any two of them are apart that have it. -/
private theorem countP_le_of_lt_add {α : Type} {p : α → Bool} {width : Nat} {l : List α}
    (h : ∀ j k a b, l[j]? = some a → l[k]? = some b → p a = true → p b = true → k < j + width) :
    l.countP p ≤ width := by
  induction l with
  | nil => exact Nat.zero_le _
  | cons a l ih =>
    by_cases ha : p a = true
    · -- With the head among them, the others that have the property are among the next ones, one
      -- fewer than the width.
      have hclose : ∀ k b, l[k]? = some b → p b = true → k + 1 < width := by
        intro k b hb hpb
        have := h 0 (k + 1) a b rfl (by simpa using hb) ha hpb
        omega
      have hwidth : 0 < width := by simpa using h 0 0 a a rfl rfl ha ha
      have hfar : (l.drop (width - 1)).countP p = 0 := by
        rw [List.countP_eq_zero]
        intro b hb hpb
        obtain ⟨k, hk⟩ := List.mem_iff_getElem?.1 hb
        rw [List.getElem?_drop] at hk
        have := hclose _ b hk hpb
        omega
      have hnear : (l.take (width - 1)).countP p ≤ width - 1 :=
        List.countP_le_length.trans (List.length_take_le _ _)
      have hsplit : l.countP p = (l.take (width - 1)).countP p + (l.drop (width - 1)).countP p := by
        rw [← List.countP_append, List.take_append_drop]
      rw [List.countP_cons_of_pos ha]
      omega
    · rw [List.countP_cons_of_neg ha]
      exact ih fun j k b c hb hc hpb hpc => by
        have := h (j + 1) (k + 1) b c (by simpa using hb) (by simpa using hc) hpb hpc
        omega

namespace Stop

theorem le_of_passage_brokenOff {stop : Option Stop} {position now duration time : Nat}
    (h : passage stop position now duration = .brokenOff time) : now ≤ time := by
  unfold passage at h
  split at h
  · cases h
  next hover =>
    cases stop with
    | none => cases h
    | some s =>
      dsimp only at h
      split at h
      · cases h
        simp only [isOver, Bool.or_eq_true, Bool.and_eq_true, decide_eq_true_eq, not_or] at hover
        omega
      · cases h

theorem le_of_passage_through {stop : Option Stop} {position now duration time : Nat}
    (h : passage stop position now duration = .through time) : now ≤ time := by
  unfold passage at h
  split at h
  · cases h
  · cases stop with
    | none =>
      cases h
      omega
    | some s =>
      dsimp only at h
      split at h
      · cases h
      · cases h
        omega

end Stop

theorem Program.le_run_finish {α : Type} (p : Program α) (cluster : Cluster) (position : Nat) (stop : Option Stop)
    (now : Nat) : now ≤ (p.run cluster position stop now).finish := by
  induction p generalizing stop now with
  | done a => exact Nat.le_refl _
  | fail e => exact Nat.le_refl _
  | list type options next ih =>
    unfold run
    split
    · exact Nat.le_refl _
    next hpassage => exact Stop.le_of_passage_brokenOff hpassage
    next hpassage => exact (Stop.le_of_passage_through hpassage).trans (ih _ _ _)
  | subscriptions next ih =>
    unfold run
    split
    · exact Nat.le_refl _
    next hpassage => exact Stop.le_of_passage_brokenOff hpassage
    next hpassage => exact (Stop.le_of_passage_through hpassage).trans (ih _ _ _)
  | wait milliseconds next ih =>
    unfold run
    split
    · exact Nat.le_refl _
    next hpassage => exact Stop.le_of_passage_brokenOff hpassage
    next hpassage => exact (Stop.le_of_passage_through hpassage).trans (ih _ _)
  | managerAvailable next ih => exact ih _ _ _
  | cancel next ih => exact ih _ _

def Evaluation.isUnderWay (e : Evaluation) (instant : Nat) : Bool := e.start ≤ instant && instant < e.finish

namespace Inspection

variable {i : Inspection} {stop : Option Stop} {e e' : Evaluation} {j k : Nat}

theorem evaluate_start (i : Inspection) (stop : Option Stop) (position start : Nat) (c : Check) :
    (i.evaluate stop position start c).start = start := by
  cases hs : i.settings.isSkipped c.about.id with
  | true => rw [evaluate_of_skipped hs]
  | false => rw [evaluate_of_not_skipped hs]

private theorem le_evaluate_finish (i : Inspection) (stop : Option Stop) (position start : Nat) (c : Check) :
    start ≤ (i.evaluate stop position start c).finish := by
  cases hs : i.settings.isSkipped c.about.id with
  | true => rw [evaluate_of_skipped hs]
  | false =>
    rw [evaluate_of_not_skipped hs]
    exact Program.le_run_finish _ _ _ _ _

theorem start_eq_of_getElem? (h : (i.evaluationsUntil stop)[k]? = some e) : e.start = i.startUntil stop k := by
  obtain ⟨c, -, rfl⟩ := exists_of_getElem?_evaluationsUntil h
  exact evaluate_start _ _ _ _ _

private theorem finish_eq_of_getElem? (h : (i.evaluationsUntil stop)[k]? = some e) :
    e.finish = i.finishUntil stop k := by
  rw [finishUntil, h]
  rfl

/-- No check is started before those have finished that are at least as far before it as there are workers. -/
theorem finish_le_start_of_getElem? (h : (i.evaluationsUntil stop)[j]? = some e)
    (h' : (i.evaluationsUntil stop)[k]? = some e') (hfar : j + i.settings.workers ≤ k) : e.finish ≤ e'.start := by
  rw [finish_eq_of_getElem? h, start_eq_of_getElem? h']
  exact Finset.le_sup (Finset.mem_range.2 (by omega))

private theorem startUntil_mono (i : Inspection) (stop : Option Stop) (h : j ≤ k) :
    i.startUntil stop j ≤ i.startUntil stop k := by
  have hrange : j + 1 - i.settings.workers ≤ k + 1 - i.settings.workers := by omega
  exact Finset.sup_mono (Finset.range_subset_range.2 hrange)

private theorem countP_isUnderWay_le (i : Inspection) (stop : Option Stop) (instant : Nat) :
    (i.evaluationsUntil stop).countP (·.isUnderWay instant) ≤ i.settings.workers := by
  apply countP_le_of_lt_add
  intro j k e e' he he' hearly hlate
  simp only [Evaluation.isUnderWay, Bool.and_eq_true, decide_eq_true_eq] at hearly hlate
  by_contra hfar
  have hcollected := finish_le_start_of_getElem? he he' (Nat.not_lt.1 hfar)
  omega

/-- Whatever the checks do, and however the run is cancelled, if it is: at every instant there are at most as many
checks under way as there are workers, the checks are started in the order of the catalog and each of them once, and
none is started before all those have finished that are at least as far before it as there are workers. -/
theorem evaluations_within_workers (i : Inspection) (stop : Option Stop) :
    (∀ instant, (i.evaluations stop).countP (·.isUnderWay instant) ≤ max 1 i.settings.concurrency.toNat) ∧
      (i.evaluations stop).Pairwise (fun e e' => e.start ≤ e'.start) ∧
      (i.evaluations stop).map Evaluation.checkId = i.catalog.ids ∧ i.catalog.ids.Nodup ∧
      (∀ j k e e', (i.evaluations stop)[j]? = some e → (i.evaluations stop)[k]? = some e' →
        j + max 1 i.settings.concurrency.toNat ≤ k → e.finish ≤ e'.start) ∧
      ∀ e ∈ i.evaluations stop, e.start ≤ e.finish := by
  obtain ⟨s, hs⟩ := i.exists_evaluationsUntil_eq stop
  rw [hs]
  refine ⟨i.countP_isUnderWay_le s, ?_, ?_, i.catalog.distinct, ?_, ?_⟩
  · rw [List.pairwise_iff_getElem]
    intro j k hj hk hjk
    rw [start_eq_of_getElem? (List.getElem?_eq_getElem hj), start_eq_of_getElem? (List.getElem?_eq_getElem hk)]
    exact i.startUntil_mono s hjk.le
  · exact i.checkIds_evaluationsUntil s
  · exact fun j k e e' he he' hfar => finish_le_start_of_getElem? he he' hfar
  · intro e he
    obtain ⟨k, hk⟩ := List.mem_iff_getElem?.1 he
    obtain ⟨c, -, rfl⟩ := exists_of_getElem?_evaluationsUntil hk
    rw [evaluate_start]
    exact i.le_evaluate_finish s k _ c

end Inspection

end Preflight
