import SasCore.Registry.LifecycleSafety

set_option autoImplicit false
set_option linter.unusedSectionVars false

namespace SasCore.Registry

variable {K : Type} [Field K] [LinearOrder K]

def Separated (store : Store K) : Prop :=
  ∀ a ∈ store.grants, ∀ b ∈ store.grants, a.id ≠ b.id → a.cbsdId = b.cbsdId → a.terminated = false →
    b.terminated = false → overlapsHz a.lowFrequency a.highFrequency b.lowFrequency b.highFrequency = false

theorem overlaps_symm (aLow aHigh bLow bHigh : Int) : overlapsHz aLow aHigh bLow bHigh = overlapsHz bLow bHigh aLow aHigh := by
  rw [overlapsHz, overlapsHz, Bool.and_comm]

-- The half-open range [low, high).
def Grant.Covers (grant : Grant K) (f : Int) : Prop := grant.lowFrequency ≤ f ∧ f < grant.highFrequency

def LiveGrantsDisjoint (store : Store K) : Prop :=
  ∀ a ∈ store.grants, ∀ b ∈ store.grants, a ≠ b → a.cbsdId = b.cbsdId → a.terminated = false → b.terminated = false →
    ∀ f, a.Covers f → ¬ b.Covers f

theorem overlaps_false_disjoint (a b : Grant K)
    (apart : overlapsHz a.lowFrequency a.highFrequency b.lowFrequency b.highFrequency = false) (f : Int)
    (inA : a.Covers f) : ¬ b.Covers f := by
  intro inB
  simp only [overlapsHz, Bool.and_eq_false_iff, decide_eq_false_iff_not] at apart
  obtain ⟨aBegins, aEnds⟩ := inA
  obtain ⟨bBegins, bEnds⟩ := inB
  omega

-- A live row descends from a live row: the flag follows the column, and the column does not come back to life.
theorem live_from_live (old fresh : Grant K) (keeps : old.Advances fresh) (oldSync : old.InSync) (freshSync : fresh.InSync)
    (live : fresh.terminated = false) : old.terminated = false := by
  rw [oldSync]
  cases column : old.terminalColumn with
  | false => rfl
  | true =>
      have dead := keeps.dead column
      rw [← freshSync, live] at dead
      cases dead

theorem inherits_separated (now finish : Int) (store after : Store K) (sound : StoreSound store)
    (inherits : Inherits now finish store after) (separated : Separated store) : Separated after := by
  have afterSound := inherits_sound now finish store after sound inherits
  intro a aMember b bMember different sameCbsd aLive bLive
  obtain ⟨oldA, oldAMember, keepsA⟩ := inherits.rows a aMember
  obtain ⟨oldB, oldBMember, keepsB⟩ := inherits.rows b bMember
  have fromA := keepsA.advances
  have fromB := keepsB.advances
  have liveA := live_from_live oldA a fromA (sound.sync oldA oldAMember) (afterSound.sync a aMember) aLive
  have liveB := live_from_live oldB b fromB (sound.sync oldB oldBMember) (afterSound.sync b bMember) bLive
  rw [fromA.low, fromA.high, fromB.low, fromB.high]
  refine separated oldA oldAMember oldB oldBMember ?_ ?_ liveA liveB
  · rw [← fromA.id, ← fromB.id]
    exact different
  · rw [← fromA.cbsdId, ← fromB.cbsdId]
    exact sameCbsd

theorem creates_separated (store after : Store K) (row : Grant K) (creates : Creates store after row)
    (separated : Separated store) : Separated after := by
  obtain ⟨added, _, _, _, separate⟩ := creates
  subst added
  intro a aMember b bMember different sameCbsd aLive bLive
  rcases List.mem_append.mp aMember with aBefore | aNew
  · rcases List.mem_append.mp bMember with bBefore | bNew
    · exact separated a aBefore b bBefore different sameCbsd aLive bLive
    · rw [List.mem_singleton.mp bNew] at sameCbsd ⊢
      exact separate a aBefore sameCbsd aLive
  · rcases List.mem_append.mp bMember with bBefore | bNew
    · rw [List.mem_singleton.mp aNew] at sameCbsd ⊢
      rw [overlaps_symm]
      exact separate b bBefore sameCbsd.symm bLive
    · rw [List.mem_singleton.mp aNew, List.mem_singleton.mp bNew] at different
      exact absurd rfl different

theorem step_separated (event : Event K) (store : Store K) (sound : StoreSound store) (separated : Separated store) :
    Separated (step event store) := by
  rcases step_cases event store event.readings.finish with inherits | ⟨row, creates⟩
  · exact inherits_separated _ _ store _ sound inherits separated
  · exact creates_separated store _ row creates separated

theorem run_separated (events : List (Event K)) (store : Store K) (sound : StoreSound store)
    (separated : Separated store) : Separated (run events store) := by
  induction events generalizing store with
  | nil => exact separated
  | cons event rest ih =>
      exact ih (step event store) (step_sound event store sound).1 (step_separated event store sound separated)

theorem live_grants_disjoint (events : List (Event K)) : LiveGrantsDisjoint (run events Store.empty) := by
  have sound := (run_sound events Store.empty empty_sound).1
  have separated := run_separated events Store.empty empty_sound (fun _ member => (by cases member))
  intro a aMember b bMember different sameCbsd aLive bLive
  have keys : a.id ≠ b.id := fun same => different (nodup_key_eq _ sound.keys a b aMember bMember same)
  exact overlaps_false_disjoint a b (separated a aMember b bMember keys sameCbsd aLive bLive)

end SasCore.Registry
