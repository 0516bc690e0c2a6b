import Mathlib.Data.List.Basic

set_option autoImplicit false

namespace SasCore.Sweep

variable {α β σ : Type}

-- One pass over a list that rewrites every entry and threads a ledger through it.
def sweep (visit : α → σ → β × σ) : List α → σ → List β × σ
  | [], ledger => ([], ledger)
  | entry :: rest, ledger =>
      let first := visit entry ledger
      let others := sweep visit rest first.2
      (first.1 :: others.1, others.2)

theorem sweep_invariant_after (visit : α → σ → α × σ) (inv : List α → σ → Prop)
    (step : ∀ done entry rest ledger, inv (done ++ entry :: rest) ledger →
      inv (done ++ (visit entry ledger).1 :: rest) (visit entry ledger).2)
    (done entries : List α) (ledger : σ) (start : inv (done ++ entries) ledger) :
    inv (done ++ (sweep visit entries ledger).1) (sweep visit entries ledger).2 := by
  induction entries generalizing done ledger with
  | nil => exact start
  | cons entry rest ih =>
      have visited := step done entry rest ledger start
      have swept := ih (done ++ [(visit entry ledger).1]) (visit entry ledger).2 (by simpa using visited)
      simpa [sweep] using swept

-- What every visit preserves of the whole list and the ledger, a sweep preserves.
theorem sweep_invariant (visit : α → σ → α × σ) (inv : List α → σ → Prop)
    (step : ∀ done entry rest ledger, inv (done ++ entry :: rest) ledger →
      inv (done ++ (visit entry ledger).1 :: rest) (visit entry ledger).2)
    (entries : List α) (ledger : σ) (start : inv entries ledger) :
    inv (sweep visit entries ledger).1 (sweep visit entries ledger).2 :=
  sweep_invariant_after visit inv step [] entries ledger start

theorem sweep_forall (visit : α → σ → β × σ) (pre : α → Prop) (post : β → Prop)
    (step : ∀ entry ledger, pre entry → post (visit entry ledger).1)
    (entries : List α) (ledger : σ) (start : ∀ entry ∈ entries, pre entry) :
    ∀ entry ∈ (sweep visit entries ledger).1, post entry := by
  induction entries generalizing ledger with
  | nil => intro entry member; cases member
  | cons first rest ih =>
      intro entry member
      rcases List.mem_cons.mp member with same | later
      · subst same
        exact step first ledger (start first List.mem_cons_self)
      · exact ih (visit first ledger).2 (fun e m => start e (List.mem_cons_of_mem _ m)) entry later

theorem sweep_idle (visit : α → σ → α × σ) (entries : List α) (ledger : σ)
    (idle : ∀ entry ∈ entries, ∀ current, visit entry current = (entry, current)) :
    sweep visit entries ledger = (entries, ledger) := by
  induction entries generalizing ledger with
  | nil => rfl
  | cons first rest ih =>
      have others := ih ledger fun entry member => idle entry (List.mem_cons_of_mem first member)
      simp only [sweep, idle first List.mem_cons_self ledger, others]

-- What can be told of a rewritten entry from the entry alone.
theorem sweep_view {γ : Type} (visit : α → σ → β × σ) (view : β → γ) (seen : α → γ)
    (same : ∀ entry ledger, view (visit entry ledger).1 = seen entry) (entries : List α) (ledger : σ) :
    (sweep visit entries ledger).1.map view = entries.map seen := by
  induction entries generalizing ledger with
  | nil => rfl
  | cons entry rest ih => simp only [sweep, List.map_cons, same, ih]

theorem sweep_map (visit : α → σ → α × σ) (view : α → β)
    (same : ∀ entry ledger, view (visit entry ledger).1 = view entry) (entries : List α) (ledger : σ) :
    (sweep visit entries ledger).1.map view = entries.map view :=
  sweep_view visit view view same entries ledger

section Parts

-- A visit that rewrites the entry by itself and adds an effect on the ledger.
variable (visit : α → σ → β × σ) (after : α → β) (effect : α → σ → σ) (inv : σ → Prop)

theorem sweep_parts (entries : List α) (keeps : ∀ entry ledger, inv ledger → inv (effect entry ledger))
    (parts : ∀ entry ∈ entries, ∀ ledger, inv ledger → visit entry ledger = (after entry, effect entry ledger))
    (ledger : σ) (holds : inv ledger) :
    sweep visit entries ledger = (entries.map after, entries.foldl (fun current entry => effect entry current) ledger) := by
  induction entries generalizing ledger with
  | nil => rfl
  | cons entry rest ih =>
      have here := parts entry List.mem_cons_self ledger holds
      have later := ih (fun other among => parts other (List.mem_cons_of_mem entry among)) (effect entry ledger)
        (keeps entry ledger holds)
      rw [sweep, here]
      dsimp only
      rw [later, List.map_cons, List.foldl_cons]

-- Where effects commute the order of the entries is the order of the results, and the ledger has no order.
theorem sweep_perm (first second : List α) (perm : first.Perm second)
    (keeps : ∀ entry ledger, inv ledger → inv (effect entry ledger))
    (parts : ∀ entry ∈ first, ∀ ledger, inv ledger → visit entry ledger = (after entry, effect entry ledger))
    (commute : ∀ one other ledger, effect other (effect one ledger) = effect one (effect other ledger))
    (ledger : σ) (holds : inv ledger) :
    (sweep visit first ledger).1.Perm (sweep visit second ledger).1 ∧
      (sweep visit first ledger).2 = (sweep visit second ledger).2 := by
  rw [sweep_parts visit after effect inv first keeps parts ledger holds,
    sweep_parts visit after effect inv second keeps (fun entry among => parts entry (perm.mem_iff.mpr among)) ledger holds]
  exact ⟨perm.map after, perm.foldl_eq' (fun one _ other _ current => commute one other current) ledger⟩

end Parts

section Beside

variable (visit : α → σ → β × σ) (related : σ → σ → Prop)

theorem sweep_related
    (same : ∀ entry ledger other, related ledger other →
      (visit entry ledger).1 = (visit entry other).1 ∧ related (visit entry ledger).2 (visit entry other).2)
    (entries : List α) (ledger other : σ) (start : related ledger other) :
    (sweep visit entries ledger).1 = (sweep visit entries other).1 ∧
      related (sweep visit entries ledger).2 (sweep visit entries other).2 := by
  induction entries generalizing ledger other with
  | nil => exact ⟨rfl, start⟩
  | cons entry rest ih =>
      obtain ⟨here, next⟩ := same entry ledger other start
      obtain ⟨others, last⟩ := ih _ _ next
      refine ⟨?_, last⟩
      rw [sweep, sweep]
      dsimp only
      rw [here, others]

-- An entry whose visit leaves related ledgers related changes nothing for the entries around it.
theorem sweep_beside
    (same : ∀ entry ledger other, related ledger other →
      (visit entry ledger).1 = (visit entry other).1 ∧ related (visit entry ledger).2 (visit entry other).2)
    (guest : α) (became : β)
    (passes : ∀ ledger other, related ledger other → (visit guest ledger).1 = became ∧ related (visit guest ledger).2 other)
    (left right : List α) (ledger other : σ) (start : related ledger other) :
    ∃ newLeft newRight, (sweep visit (left ++ guest :: right) ledger).1 = newLeft ++ became :: newRight ∧
      (sweep visit (left ++ right) other).1 = newLeft ++ newRight ∧
      related (sweep visit (left ++ guest :: right) ledger).2 (sweep visit (left ++ right) other).2 := by
  induction left generalizing ledger other with
  | nil =>
      obtain ⟨here, next⟩ := passes ledger other start
      obtain ⟨others, last⟩ := sweep_related visit related same right _ _ next
      exact ⟨[], (sweep visit right other).1, by simp [sweep, here, others], rfl, last⟩
  | cons entry rest ih =>
      obtain ⟨here, next⟩ := same entry ledger other start
      obtain ⟨newLeft, newRight, whole, without, last⟩ := ih _ _ next
      refine ⟨(visit entry ledger).1 :: newLeft, newRight, ?_, ?_, last⟩
      · simp only [List.cons_append, sweep, whole]
      · simp only [List.cons_append, sweep, without, here]

end Beside

end SasCore.Sweep
