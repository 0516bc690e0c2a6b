import SasCore.Lib.Collect
import Mathlib.Data.List.Forall2
import Mathlib.Data.List.Perm.Basic

set_option autoImplicit false

-- Two computations that may fail, alike in how they fail and in what they return; and lists of them that run in turn.
namespace SasCore.Outcomes

inductive Alike {ε α β : Type} (E : ε → ε → Prop) (R : α → β → Prop) : Except ε α → Except ε β → Prop where
  | ok (a : α) (b : β) (related : R a b) : Alike E R (.ok a) (.ok b)
  | error (e d : ε) (related : E e d) : Alike E R (.error e) (.error d)

section Rules

variable {ε α β γ δ : Type} {E : ε → ε → Prop} {R : α → β → Prop} {S : γ → δ → Prop}

theorem alike_refl (reflexive : ∀ e, E e e) (r : Except ε α) : Alike E (fun a b => a = b) r r := by
  cases r with
  | ok a => exact .ok a a rfl
  | error e => exact .error e e (reflexive e)

theorem alike_mono {R' : α → β → Prop} (r : Except ε α) (s : Except ε β) (alike : Alike E R r s)
    (weaker : ∀ a b, r = .ok a → s = .ok b → R a b → R' a b) : Alike E R' r s := by
  cases alike with
  | ok a b related => exact .ok a b (weaker a b rfl rfl related)
  | error e d related => exact .error e d related

theorem alike_bind (r : Except ε α) (s : Except ε β) (f : α → Except ε γ) (g : β → Except ε δ) (alike : Alike E R r s)
    (next : ∀ a b, R a b → Alike E S (f a) (g b)) : Alike E S (r.bind f) (s.bind g) := by
  cases alike with
  | ok a b related => exact next a b related
  | error e d related => exact .error e d related

theorem alike_map (r : Except ε α) (s : Except ε β) (f : α → γ) (g : β → δ) (alike : Alike E R r s)
    (next : ∀ a b, R a b → S (f a) (g b)) : Alike E S (r.map f) (s.map g) := by
  cases alike with
  | ok a b related => exact .ok (f a) (g b) (next a b related)
  | error e d related => exact .error e d related

end Rules

section Turns

variable {ε α : Type}

def fault? : Except ε α → Option ε
  | .ok _ => none
  | .error e => some e

-- The results of all of them, or the first failure.
def inTurn (outcomes : List (Except ε α)) : Except ε (List α) := outcomes.mapM id

theorem turn_cons_ok (a : α) (rest : List (Except ε α)) :
    inTurn (.ok a :: rest) = (inTurn rest).map fun found => a :: found := by
  rw [inTurn, List.mapM_cons]
  change (rest.mapM id).bind _ = (rest.mapM id).map _
  cases rest.mapM id <;> rfl

theorem turn_cons_error (e : ε) (rest : List (Except ε α)) : inTurn (.error e :: rest) = .error e := by
  rw [inTurn, List.mapM_cons]
  rfl

theorem turn_fault (outcomes : List (Except ε α)) : fault? (inTurn outcomes) = outcomes.findSome? fault? := by
  induction outcomes with
  | nil => rfl
  | cons outcome rest ih =>
      cases outcome with
      | ok a =>
          rw [turn_cons_ok, List.findSome?_cons, fault?, ← ih]
          cases inTurn rest <;> rfl
      | error e =>
          rw [turn_cons_error]
          rfl

theorem turn_ok (values : List α) : inTurn (values.map (.ok : α → Except ε α)) = .ok values := by
  induction values with
  | nil => rfl
  | cons a rest ih =>
      rw [List.map_cons, turn_cons_ok, ih]
      rfl

theorem turn_ok_iff (outcomes : List (Except ε α)) (values : List α) :
    inTurn outcomes = .ok values ↔ outcomes = values.map .ok := by
  constructor
  · intro all
    have each := Collect.all_ok id outcomes values all
    rwa [List.map_id] at each
  · intro same
    rw [same]
    exact turn_ok values

theorem turn_map {β : Type} (f : β → Except ε α) (items : List β) : inTurn (items.map f) = items.mapM f := by
  rw [inTurn, List.mapM_map]
  rfl

theorem turn_pairs {β : Type} (f : β → Except ε α) (items : List β) (values : List α) (all : items.mapM f = .ok values) :
    List.Forall₂ (fun item value => f item = .ok value) items values := by
  have each := Collect.all_ok f items values all
  rwa [← List.forall₂_eq_eq_eq, List.forall₂_map_left_iff, List.forall₂_map_right_iff] at each

theorem turn_mapped {β γ : Type} (f : β → Except ε α) (g : α → γ) (items : List β) :
    inTurn (items.map fun item => (f item).map g) = (items.mapM f).map fun found => found.map g := by
  rw [← turn_map]
  induction items with
  | nil => rfl
  | cons item rest ih =>
      rw [List.map_cons, List.map_cons]
      cases f item with
      | ok a =>
          change inTurn (.ok (g a) :: _) = _
          rw [turn_cons_ok, turn_cons_ok, ih]
          cases inTurn (rest.map f) <;> rfl
      | error e =>
          change inTurn (.error e :: _) = _
          rw [turn_cons_error, turn_cons_error]
          rfl

theorem turn_append (outcomes others : List (Except ε α)) :
    inTurn (outcomes ++ others) = (inTurn outcomes).bind fun found => (inTurn others).map fun more => found ++ more := by
  induction outcomes with
  | nil =>
      change inTurn others = (inTurn others).map fun more => [] ++ more
      cases inTurn others <;> rfl
  | cons outcome rest ih =>
      cases outcome with
      | ok a =>
          rw [List.cons_append, turn_cons_ok, turn_cons_ok, ih]
          cases inTurn rest with
          | ok found => cases inTurn others <;> rfl
          | error e => rfl
      | error e =>
          rw [List.cons_append, turn_cons_error, turn_cons_error]
          rfl

-- Outcomes in another order: all of them return, or neither list does.
theorem turn_perm (outcomes others : List (Except ε α)) (perm : outcomes.Perm others) (values : List α)
    (all : inTurn outcomes = .ok values) : ∃ found, inTurn others = .ok found ∧ values.Perm found := by
  have listed := (turn_ok_iff outcomes values).mp all
  cases ran : inTurn others with
  | ok found =>
      have otherListed := (turn_ok_iff others found).mp ran
      rw [listed, otherListed] at perm
      exact ⟨found, rfl, (List.map_perm_map_iff fun a b same => Except.ok.inj same).mp perm⟩
  | error e =>
      have fault := turn_fault others
      rw [ran] at fault
      obtain ⟨outcome, member, isFault⟩ := List.exists_of_findSome?_eq_some fault.symm
      have inOutcomes := perm.mem_iff.mpr member
      rw [listed] at inOutcomes
      obtain ⟨a, _, same⟩ := List.mem_map.mp inOutcomes
      rw [← same] at isFault
      cases isFault

theorem turn_alike {β : Type} {E : ε → ε → Prop} {R : α → β → Prop} (outcomes : List (Except ε α)) (others : List (Except ε β))
    (alike : List.Forall₂ (Alike E R) outcomes others) : Alike E (List.Forall₂ R) (inTurn outcomes) (inTurn others) := by
  induction alike with
  | nil => exact .ok [] [] .nil
  | cons first _ ih =>
      cases first with
      | ok a b related =>
          rw [turn_cons_ok, turn_cons_ok]
          exact alike_map _ _ _ _ ih fun found more rest => .cons related rest
      | error e d related =>
          rw [turn_cons_error, turn_cons_error]
          exact .error e d related

end Turns

end SasCore.Outcomes
