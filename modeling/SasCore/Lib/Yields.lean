import SasCore.Lib.Sweep

set_option autoImplicit false

-- Computations that may fail against total ones: where they return, they return what the total one computes.
namespace SasCore.Yields

variable {ε α β σ : Type}

def Returns (outcome : Except ε α) (value : α) : Prop := ∀ result, outcome = .ok result → result = value

def sweepM (visit : α → σ → Except ε (β × σ)) : List α → σ → Except ε (List β × σ)
  | [], ledger => .ok ([], ledger)
  | entry :: rest, ledger => do
      let first ← visit entry ledger
      let others ← sweepM visit rest first.2
      return (first.1 :: others.1, others.2)

theorem yields_ok (value : α) : Returns (.ok value : Except ε α) value := by
  intro result same
  cases same
  rfl

theorem yields_bind (outcome : Except ε α) (value : α) (next : α → Except ε β) (last : β)
    (first : Returns outcome value) (second : Returns (next value) last) : Returns (outcome >>= next) last := by
  intro result ran
  cases returned : outcome with
  | error fault =>
      rw [returned] at ran
      cases ran
  | ok found =>
      rw [returned] at ran
      rw [first found returned] at ran
      exact second result ran

theorem yields_map (outcome : Except ε α) (value : α) (shape : α → β) (first : Returns outcome value) :
    Returns (outcome.map shape) (shape value) := by
  intro result ran
  cases returned : outcome with
  | error fault =>
      rw [returned] at ran
      cases ran
  | ok found =>
      rw [returned, first found returned] at ran
      cases ran
      rfl

theorem yields_mapM (visit : α → Except ε β) (view : α → β) (entries : List α)
    (each : ∀ entry ∈ entries, Returns (visit entry) (view entry)) : Returns (entries.mapM visit) (entries.map view) := by
  induction entries with
  | nil => exact yields_ok []
  | cons entry rest ih =>
      rw [List.mapM_cons, List.map_cons]
      have later := ih fun other among => each other (List.mem_cons_of_mem entry among)
      exact yields_bind _ _ _ _ (each entry List.mem_cons_self) (yields_bind _ _ _ _ later (yields_ok _))

theorem yields_sweep (visit : α → σ → Except ε (β × σ)) (view : α → σ → β × σ)
    (each : ∀ entry ledger, Returns (visit entry ledger) (view entry ledger)) (entries : List α) (ledger : σ) :
    Returns (sweepM visit entries ledger) (Sweep.sweep view entries ledger) := by
  induction entries generalizing ledger with
  | nil => exact yields_ok _
  | cons entry rest ih =>
      rw [sweepM, Sweep.sweep]
      exact yields_bind _ _ _ _ (each entry ledger) (yields_bind _ _ _ _ (ih _) (yields_ok _))

end SasCore.Yields
