import SasCore.Registry.Run

set_option autoImplicit false
set_option linter.unusedSectionVars false

namespace SasCore.Registry

variable {K : Type} [Field K] [LinearOrder K]

-- Keys and foreign keys of the two tables.
structure Linked (store : Store K) : Prop where
  cbsdKeys : (store.cbsds.map (·.id)).Nodup
  cbsdFresh : ∀ row ∈ store.cbsds, row.id < store.nextCbsdPk
  names : (store.cbsds.map (·.cbsdId)).Nodup
  owners : ∀ grant ∈ store.grants, ∃ row ∈ store.cbsds, row.id = grant.cbsdPk ∧ row.cbsdId = grant.cbsdId
  grantKeys : (store.grants.map (·.id)).Nodup
  grantFresh : ∀ grant ∈ store.grants, grant.id < store.nextGrantPk

-- What an item on behalf of `cbsd` can do to the tables.
inductive ItemEffect (cbsd : Cbsd K) (store after : Store K) : Prop where
  | grantChanged (old fresh : Grant K) (member : old ∈ store.grants) (own : old.cbsdId = cbsd.cbsdId)
      (advances : old.Advances fresh) (result : after = store.putGrant fresh)
  | grantAdded (row : Grant K) (own : row.cbsdId = cbsd.cbsdId) (pk : row.cbsdPk = cbsd.id)
      (result : after = store.addGrant row)
  | removed (change : Grant K → Grant K) (advances : ∀ grant : Grant K, grant.Advances (change grant))
      (result : after = (store.mapGrantsOf cbsd.cbsdId change).deleteCbsd cbsd.id)
  | rewritten (row : Cbsd K) (change : Grant K → Grant K) (pk : row.id = cbsd.id) (own : row.cbsdId = cbsd.cbsdId)
      (advances : ∀ grant : Grant K, grant.Advances (change grant))
      (result : after = (store.putCbsd row).mapGrantsOf cbsd.cbsdId change)

section Tables

variable (store : Store K)

theorem linked_row_eq (linked : Linked store) (a b : Cbsd K) (aMember : a ∈ store.cbsds) (bMember : b ∈ store.cbsds)
    (same : a.id = b.id) : a = b := List.inj_on_of_nodup_map linked.cbsdKeys aMember bMember same

theorem linked_name_eq (linked : Linked store) (a b : Cbsd K) (aMember : a ∈ store.cbsds) (bMember : b ∈ store.cbsds)
    (same : a.cbsdId = b.cbsdId) : a = b := List.inj_on_of_nodup_map linked.names aMember bMember same

theorem find_cbsd_stored (cbsdId : String) (row : Cbsd K) (found : store.findCbsd cbsdId = some row) :
    row ∈ store.cbsds ∧ row.cbsdId = cbsdId :=
  ⟨List.mem_of_find?_eq_some found, by simpa using List.find?_some found⟩

theorem find_grant_stored (grantId cbsdId : String) (grant : Grant K)
    (found : store.findGrant grantId cbsdId = some grant) : grant ∈ store.grants ∧ grant.cbsdId = cbsdId := by
  have matching := List.find?_some found
  simp only [decide_eq_true_eq] at matching
  exact ⟨List.mem_of_find?_eq_some found, matching.2⟩

theorem put_grant_keys (fresh : Grant K) :
    (store.putGrant fresh).grants.map (·.id) = store.grants.map (·.id) := by
  simp only [Store.putGrant, List.map_map]
  refine List.map_congr_left fun grant _ => ?_
  rw [Function.comp_apply]
  by_cases here : grant.id = fresh.id
  · rw [if_pos here]
    exact here.symm
  · rw [if_neg here]

theorem map_grants_keys (cbsdId : String) (change : Grant K → Grant K)
    (advances : ∀ grant : Grant K, grant.Advances (change grant)) :
    (store.mapGrantsOf cbsdId change).grants.map (·.id) = store.grants.map (·.id) := by
  simp only [Store.mapGrantsOf, List.map_map]
  refine List.map_congr_left fun grant _ => ?_
  by_cases here : grant.cbsdId = cbsdId
  · simp only [Function.comp_apply, if_pos here, (advances grant).id]
  · simp only [Function.comp_apply, if_neg here]

theorem put_cbsd_map {α : Type} (row : Cbsd K) (column : Cbsd K → α)
    (same : ∀ old ∈ store.cbsds, old.id = row.id → column row = column old) :
    (store.putCbsd row).cbsds.map column = store.cbsds.map column := by
  simp only [Store.putCbsd, List.map_map]
  refine List.map_congr_left fun old member => ?_
  by_cases here : old.id = row.id
  · simp only [Function.comp_apply, if_pos here, same old member here]
  · simp only [Function.comp_apply, if_neg here]

theorem mem_map_grants (cbsdId : String) (change : Grant K → Grant K) (fresh : Grant K)
    (member : fresh ∈ (store.mapGrantsOf cbsdId change).grants)
    (advances : ∀ grant : Grant K, grant.Advances (change grant)) : ∃ old ∈ store.grants, old.Advances fresh := by
  obtain ⟨old, oldMember, same⟩ := List.mem_map.mp member
  refine ⟨old, oldMember, ?_⟩
  by_cases own : old.cbsdId = cbsdId
  · rw [if_pos own] at same
    exact same ▸ advances old
  · rw [if_neg own] at same
    exact same ▸ advances_refl old

theorem mem_put_grant (old fresh row : Grant K) (member : old ∈ store.grants) (advances : old.Advances fresh)
    (inAfter : row ∈ (store.putGrant fresh).grants) : ∃ before ∈ store.grants, before.Advances row := by
  obtain ⟨grant, grantMember, same⟩ := List.mem_map.mp inAfter
  by_cases here : grant.id = fresh.id
  · rw [if_pos here] at same
    exact ⟨old, member, same ▸ advances⟩
  · rw [if_neg here] at same
    exact ⟨grant, grantMember, same ▸ advances_refl grant⟩

theorem advances_owned (rows : List (Cbsd K)) (old fresh : Grant K) (advances : old.Advances fresh)
    (owned : ∃ row ∈ rows, row.id = old.cbsdPk ∧ row.cbsdId = old.cbsdId) :
    ∃ row ∈ rows, row.id = fresh.cbsdPk ∧ row.cbsdId = fresh.cbsdId := by
  obtain ⟨row, member, pk, name⟩ := owned
  exact ⟨row, member, pk.trans advances.cbsdPk.symm, name.trans advances.cbsdId.symm⟩

theorem grants_fresh (after : Store K) (keys : after.grants.map (·.id) = store.grants.map (·.id))
    (next : after.nextGrantPk = store.nextGrantPk) (linked : Linked store) :
    ∀ grant ∈ after.grants, grant.id < after.nextGrantPk := by
  intro grant member
  have listed : grant.id ∈ store.grants.map (·.id) := keys ▸ List.mem_map_of_mem member
  obtain ⟨old, oldMember, same⟩ := List.mem_map.mp listed
  rw [next, ← same]
  exact linked.grantFresh old oldMember

end Tables

section Effects

variable (cbsd : Cbsd K) (store after : Store K)

theorem grant_changed_linked (old fresh : Grant K) (linked : Linked store) (member : old ∈ store.grants)
    (advances : old.Advances fresh) : Linked (store.putGrant fresh) := by
  have keys := put_grant_keys store fresh
  refine ⟨linked.cbsdKeys, linked.cbsdFresh, linked.names, ?_, ?_, grants_fresh store _ keys rfl linked⟩
  · intro row inAfter
    obtain ⟨before, beforeMember, moved⟩ := mem_put_grant store old fresh row member advances inAfter
    exact advances_owned store.cbsds before row moved (linked.owners before beforeMember)
  · rw [keys]
    exact linked.grantKeys

theorem grant_added_linked (row : Grant K) (linked : Linked store) (owner : cbsd ∈ store.cbsds)
    (own : row.cbsdId = cbsd.cbsdId) (pk : row.cbsdPk = cbsd.id) : Linked (store.addGrant row) := by
  refine ⟨linked.cbsdKeys, linked.cbsdFresh, linked.names, ?_, ?_, ?_⟩
  · intro grant member
    rcases List.mem_append.mp member with before | new
    · exact linked.owners grant before
    · rw [List.mem_singleton.mp new]
      exact ⟨cbsd, owner, pk.symm, own.symm⟩
  · simp only [Store.addGrant, List.map_append, List.map_cons, List.map_nil]
    refine linked.grantKeys.append (List.nodup_singleton _) ?_
    intro key inStore isNew
    obtain ⟨grant, member, same⟩ := List.mem_map.mp inStore
    have less := linked.grantFresh grant member
    rw [same, List.mem_singleton.mp isNew] at less
    exact absurd less (lt_irrefl _)
  · intro grant member
    rcases List.mem_append.mp member with before | new
    · exact (linked.grantFresh grant before).trans (Nat.lt_succ_self _)
    · rw [List.mem_singleton.mp new]
      exact Nat.lt_succ_self _

theorem map_grants_linked (cbsdId : String) (change : Grant K → Grant K) (linked : Linked store)
    (advances : ∀ grant : Grant K, grant.Advances (change grant)) : Linked (store.mapGrantsOf cbsdId change) := by
  have keys := map_grants_keys store cbsdId change advances
  refine ⟨linked.cbsdKeys, linked.cbsdFresh, linked.names, ?_, ?_, grants_fresh store _ keys rfl linked⟩
  · intro fresh member
    obtain ⟨old, oldMember, moved⟩ := mem_map_grants store cbsdId change fresh member advances
    exact advances_owned store.cbsds old fresh moved (linked.owners old oldMember)
  · rw [keys]
    exact linked.grantKeys

theorem delete_cbsd_linked (pk : Nat) (linked : Linked store) : Linked (store.deleteCbsd pk) := by
  refine ⟨linked.cbsdKeys.sublist (List.filter_sublist.map _), ?_, linked.names.sublist (List.filter_sublist.map _), ?_,
    linked.grantKeys.sublist (List.filter_sublist.map _), ?_⟩
  · intro row member
    exact linked.cbsdFresh row (List.mem_of_mem_filter member)
  · intro grant member
    obtain ⟨inStore, kept⟩ := List.mem_filter.mp member
    obtain ⟨row, rowMember, owns, name⟩ := linked.owners grant inStore
    refine ⟨row, List.mem_filter.mpr ⟨rowMember, ?_⟩, owns, name⟩
    rw [owns]
    exact kept
  · intro grant member
    exact linked.grantFresh grant (List.mem_of_mem_filter member)

theorem put_cbsd_linked (row : Cbsd K) (linked : Linked store) (member : cbsd ∈ store.cbsds) (pk : row.id = cbsd.id)
    (own : row.cbsdId = cbsd.cbsdId) : Linked (store.putCbsd row) := by
  have isStored : ∀ old ∈ store.cbsds, old.id = row.id → old = cbsd := fun old oldMember same =>
    linked_row_eq store linked old cbsd oldMember member (same.trans pk)
  have keys := put_cbsd_map store row (·.id) (fun old oldMember same => same.symm)
  have names := put_cbsd_map store row (·.cbsdId) (fun old oldMember same => by rw [isStored old oldMember same, own])
  refine ⟨keys ▸ linked.cbsdKeys, ?_, names ▸ linked.names, ?_, linked.grantKeys, linked.grantFresh⟩
  · intro fresh freshMember
    have listed : fresh.id ∈ store.cbsds.map (·.id) := keys ▸ List.mem_map_of_mem freshMember
    obtain ⟨old, oldMember, same⟩ := List.mem_map.mp listed
    rw [← same]
    exact linked.cbsdFresh old oldMember
  · intro grant grantMember
    obtain ⟨owner, ownerMember, owns, name⟩ := linked.owners grant grantMember
    by_cases here : owner.id = row.id
    · have isCbsd := isStored owner ownerMember here
      refine ⟨row, List.mem_map.mpr ⟨owner, ownerMember, if_pos here⟩, here.symm.trans owns, ?_⟩
      rw [own, ← isCbsd]
      exact name
    · exact ⟨owner, List.mem_map.mpr ⟨owner, ownerMember, if_neg here⟩, owns, name⟩

theorem effect_linked (linked : Linked store) (member : cbsd ∈ store.cbsds) (effect : ItemEffect cbsd store after) :
    Linked after := by
  cases effect with
  | grantChanged old fresh oldMember own advances result =>
      rw [result]
      exact grant_changed_linked store old fresh linked oldMember advances
  | grantAdded row own pk result =>
      rw [result]
      exact grant_added_linked cbsd store row linked member own pk
  | removed change advances result =>
      rw [result]
      exact delete_cbsd_linked _ cbsd.id (map_grants_linked store cbsd.cbsdId change linked advances)
  | rewritten row change pk own advances result =>
      rw [result]
      exact map_grants_linked _ cbsd.cbsdId change (put_cbsd_linked cbsd store row linked member pk own) advances

theorem add_cbsd_linked (row : Cbsd K) (linked : Linked store) (fresh : store.findCbsd row.cbsdId = none) :
    Linked (store.addCbsd row) := by
  refine ⟨?_, ?_, ?_, ?_, linked.grantKeys, linked.grantFresh⟩
  · simp only [Store.addCbsd, List.map_append, List.map_cons, List.map_nil]
    refine linked.cbsdKeys.append (List.nodup_singleton _) ?_
    intro key inStore isNew
    obtain ⟨old, member, same⟩ := List.mem_map.mp inStore
    have less := linked.cbsdFresh old member
    rw [same, List.mem_singleton.mp isNew] at less
    exact absurd less (lt_irrefl _)
  · intro old member
    rcases List.mem_append.mp member with before | new
    · exact (linked.cbsdFresh old before).trans (Nat.lt_succ_self _)
    · rw [List.mem_singleton.mp new]
      exact Nat.lt_succ_self _
  · simp only [Store.addCbsd, List.map_append, List.map_cons, List.map_nil]
    refine linked.names.append (List.nodup_singleton _) ?_
    intro name inStore isNew
    obtain ⟨old, member, same⟩ := List.mem_map.mp inStore
    have absent := List.find?_eq_none.mp fresh old member
    rw [List.mem_singleton.mp isNew] at same
    simp only [decide_eq_true_eq] at absent
    exact absent same
  · intro grant member
    obtain ⟨owner, ownerMember, owns⟩ := linked.owners grant member
    exact ⟨owner, List.mem_append_left _ ownerMember, owns⟩

-- The rows of another CBSD and its grants stay as they are.
def Untouched (other : Cbsd K) (store after : Store K) : Prop :=
  other ∈ after.cbsds ∧ ∀ grant : Grant K, grant.cbsdId = other.cbsdId ∨ grant.cbsdPk = other.id →
    (grant ∈ after.grants ↔ grant ∈ store.grants)

theorem owned_by_other (other : Cbsd K) (linked : Linked store) (inStore : other ∈ store.cbsds) (grant : Grant K)
    (member : grant ∈ store.grants) (own : grant.cbsdId = other.cbsdId ∨ grant.cbsdPk = other.id) :
    grant.cbsdId = other.cbsdId ∧ grant.cbsdPk = other.id := by
  obtain ⟨row, rowMember, pk, name⟩ := linked.owners grant member
  rcases own with byName | byPk
  · have isOther := linked_name_eq store linked row other rowMember inStore (name.trans byName)
    exact ⟨byName, by rw [← pk, isOther]⟩
  · have isOther := linked_row_eq store linked row other rowMember inStore (pk.trans byPk)
    exact ⟨by rw [← name, isOther], byPk⟩

-- A change of the grants of one CBSD neither makes nor loses a grant of another.
theorem mem_map_grants_other (cbsdId : String) (change : Grant K → Grant K)
    (advances : ∀ grant : Grant K, grant.Advances (change grant)) (grant : Grant K) (name : grant.cbsdId ≠ cbsdId) :
    grant ∈ (store.mapGrantsOf cbsdId change).grants ↔ grant ∈ store.grants := by
  constructor
  · intro inAfter
    obtain ⟨before, beforeMember, same⟩ := List.mem_map.mp inAfter
    by_cases here : before.cbsdId = cbsdId
    · rw [if_pos here] at same
      have moved := same ▸ advances before
      exact absurd (moved.cbsdId.trans here) name
    · rw [if_neg here] at same
      exact same ▸ beforeMember
  · intro member
    exact List.mem_map.mpr ⟨grant, member, if_neg name⟩

theorem mem_put_grant_other (fresh grant : Grant K) (different : grant ≠ fresh)
    (keys : grant ∈ store.grants → grant.id ≠ fresh.id) : grant ∈ (store.putGrant fresh).grants ↔ grant ∈ store.grants := by
  constructor
  · intro inAfter
    obtain ⟨before, beforeMember, same⟩ := List.mem_map.mp inAfter
    by_cases here : before.id = fresh.id
    · rw [if_pos here] at same
      exact absurd same.symm different
    · rw [if_neg here] at same
      exact same ▸ beforeMember
  · intro member
    exact List.mem_map.mpr ⟨grant, member, if_neg (keys member)⟩

theorem effect_untouched (other : Cbsd K) (linked : Linked store) (member : cbsd ∈ store.cbsds)
    (inStore : other ∈ store.cbsds) (different : other ≠ cbsd) (effect : ItemEffect cbsd store after) :
    Untouched other store after := by
  have pkDifferent : other.id ≠ cbsd.id := fun same => different (linked_row_eq store linked other cbsd inStore member same)
  have nameDifferent : other.cbsdId ≠ cbsd.cbsdId := fun same =>
    different (linked_name_eq store linked other cbsd inStore member same)
  have afterLinked := effect_linked cbsd store after linked member effect
  cases effect with
  | grantChanged old fresh oldMember own advances result =>
      subst result
      have owner : fresh.cbsdId = cbsd.cbsdId := advances.cbsdId.trans own
      refine ⟨inStore, fun grant mine => ?_⟩
      have apart (name : grant.cbsdId = other.cbsdId) : grant ≠ fresh := by
        intro same
        rw [same, owner] at name
        exact nameDifferent name.symm
      have keys (grantMember : grant ∈ store.grants) : grant.id ≠ fresh.id := by
        intro same
        have isOld := List.inj_on_of_nodup_map linked.grantKeys grantMember oldMember (same.trans advances.id)
        have name := (owned_by_other store other linked inStore grant grantMember mine).1
        rw [isOld, own] at name
        exact nameDifferent name.symm
      constructor
      · intro inAfter
        have name := (owned_by_other _ other afterLinked inStore grant inAfter mine).1
        exact (mem_put_grant_other store fresh grant (apart name) keys).mp inAfter
      · intro grantMember
        have name := (owned_by_other store other linked inStore grant grantMember mine).1
        exact (mem_put_grant_other store fresh grant (apart name) keys).mpr grantMember
  | grantAdded row own pk result =>
      subst result
      refine ⟨inStore, fun grant mine => ⟨fun inAfter => ?_, fun grantMember => List.mem_append_left _ grantMember⟩⟩
      rcases List.mem_append.mp inAfter with before | new
      · exact before
      · have name := (owned_by_other _ other afterLinked inStore grant inAfter mine).1
        rw [List.mem_singleton.mp new, own] at name
        exact absurd name.symm nameDifferent
  | removed change advances result =>
      subst result
      have mapLinked := map_grants_linked store cbsd.cbsdId change linked advances
      refine ⟨List.mem_filter.mpr ⟨inStore, by simpa using pkDifferent⟩, fun grant mine => ?_⟩
      constructor
      · intro inAfter
        have inMapped := List.mem_of_mem_filter inAfter
        have name := (owned_by_other _ other mapLinked inStore grant inMapped mine).1
        exact (mem_map_grants_other store cbsd.cbsdId change advances grant (by rwa [name])).mp inMapped
      · intro grantMember
        obtain ⟨name, pk⟩ := owned_by_other store other linked inStore grant grantMember mine
        refine List.mem_filter.mpr
          ⟨(mem_map_grants_other store cbsd.cbsdId change advances grant (by rwa [name])).mpr grantMember, ?_⟩
        rw [pk]
        simpa using pkDifferent
  | rewritten row change pk own advances result =>
      subst result
      have rowKept : other ∈ (store.putCbsd row).cbsds :=
        List.mem_map.mpr ⟨other, inStore, if_neg (by rw [pk]; exact pkDifferent)⟩
      refine ⟨rowKept, fun grant mine => ?_⟩
      constructor
      · intro inAfter
        have name := (owned_by_other _ other afterLinked rowKept grant inAfter mine).1
        exact (mem_map_grants_other (store.putCbsd row) cbsd.cbsdId change advances grant (by rwa [name])).mp inAfter
      · intro grantMember
        have name := (owned_by_other store other linked inStore grant grantMember mine).1
        exact (mem_map_grants_other (store.putCbsd row) cbsd.cbsdId change advances grant (by rwa [name])).mpr grantMember

end Effects

end SasCore.Registry
