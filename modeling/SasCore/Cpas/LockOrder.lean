import SasCore.Lib.WaitGraph
import Mathlib.Data.String.Basic

set_option autoImplicit false

namespace SasCore.Cpas

open WaitGraph

-- The keyed locks of one process, the transaction locks of the database by namespace and name, and rows FOR UPDATE.
inductive Lock where
  | exclusiveIapAdmission (process : Nat)
  | exclusiveCbsd (process : Nat) (cbsdId : String)
  | exclusiveGrant (process : Nat) (grantId : String)
  | iapAdmissionXact
  | cpasPipelineXact
  | fadPublishXact
  | cbsdXact (cbsdId : String)
  | grantXact (grantId : String)
  | cbsdRow (cbsdId : String)
  | grantRow (pk : Nat)
  | peerRow (pk : Nat)
deriving DecidableEq

-- The rows that lock_grants_for_cbsd finds, in the order of the table scan.
structure GrantScan (owner : Nat → String) (cbsdId : String) where
  rows : List Nat
  owned : ∀ pk ∈ rows, owner pk = cbsdId

-- What is done between two commits: one item of a request, or the whole of the other operations.
inductive LockedItem (owner : Nat → String) where
  | registration (process : Nat) (cbsdId : String) (scan : GrantScan owner cbsdId)
  | deregistration (process : Nat) (cbsdId : String) (scan : GrantScan owner cbsdId)
  | grant (process : Nat) (cbsdId : String)
  | heartbeat (process : Nat) (cbsdId grantId : String) (registered : Bool) (pk : Nat)
  | relinquishment (process : Nat) (cbsdId grantId : String) (pk : Nat)
  | cpas (process : Nat) (decided : List Nat)
  | injection (process : Nat)
  | peerFad (process peer : Nat)

-- exclusive_cbsd, acquire_cbsd_xact_lock, lock_cbsd_row and lock_grants_for_cbsd.
def sweepLocks (process : Nat) (cbsdId : String) (rows : List Nat) : List Lock :=
  [.exclusiveCbsd process cbsdId, .cbsdXact cbsdId, .cbsdRow cbsdId] ++ rows.map .grantRow

-- The rows of apply_cpas_decisions are locked in the order of the decisions.
def LockedItem.locks {owner : Nat → String} : LockedItem owner → List Lock
  | .registration process cbsdId scan => sweepLocks process cbsdId scan.rows
  | .deregistration process cbsdId scan => sweepLocks process cbsdId scan.rows
  | .grant process cbsdId =>
      [.exclusiveIapAdmission process, .exclusiveCbsd process cbsdId, .iapAdmissionXact, .cbsdXact cbsdId, .cbsdRow cbsdId]
  | .heartbeat process cbsdId grantId registered pk =>
      [.exclusiveCbsd process cbsdId, .exclusiveGrant process grantId, .cbsdXact cbsdId, .grantXact grantId] ++
        (if registered then [.cbsdRow cbsdId] else []) ++ [.grantRow pk]
  | .relinquishment process cbsdId grantId pk =>
      [.exclusiveCbsd process cbsdId, .exclusiveGrant process grantId, .cbsdXact cbsdId, .grantXact grantId,
        .cbsdRow cbsdId, .grantRow pk]
  | .cpas process decided =>
      [.exclusiveIapAdmission process, .iapAdmissionXact, .cpasPipelineXact] ++ decided.map .grantRow ++ [.fadPublishXact]
  | .injection process => [.exclusiveIapAdmission process, .iapAdmissionXact]
  | .peerFad process peer => [.exclusiveIapAdmission process, .iapAdmissionXact, .peerRow peer]

-- An operation goes through its items one after another and commits after each.
def lockSections {T : Type} {owner : Nat → String} (operations : T → List (LockedItem owner)) (operation : T) :
    List (List Lock) :=
  (operations operation).map LockedItem.locks

def LockedItem.decidedRows {owner : Nat → String} : LockedItem owner → List Nat
  | .cpas _ decided => decided
  | _ => []

def LockedItem.scannedRows {owner : Nat → String} : LockedItem owner → List Nat
  | .registration _ _ scan => scan.rows
  | .deregistration _ _ scan => scan.rows
  | _ => []

section Order

-- An order that every item follows; only grant rows share a place.
def Lock.rank : Lock → Nat
  | .exclusiveIapAdmission _ => 0
  | .exclusiveCbsd _ _ => 1
  | .exclusiveGrant _ _ => 2
  | .iapAdmissionXact => 3
  | .cpasPipelineXact => 4
  | .cbsdXact _ => 5
  | .grantXact _ => 6
  | .cbsdRow _ => 7
  | .grantRow _ => 8
  | .peerRow _ => 9
  | .fadPublishXact => 10

variable {owner : Nat → String}

def Ranked (locks : List Lock) : Prop :=
  locks.Pairwise (fun first second => first.rank < second.rank ∨ first.rank = 8 ∧ second.rank = 8)

-- What stands around one grant row stands around all of them.
theorem around_ranked (front rows back) (one : Ranked (front ++ ([Lock.grantRow 0] ++ back))) :
    Ranked (front ++ (List.map Lock.grantRow rows ++ back)) := by
  obtain ⟨ahead, after, across⟩ := List.pairwise_append.mp one
  obtain ⟨_, behind, below⟩ := List.pairwise_append.mp after
  refine List.pairwise_append.mpr ⟨ahead, List.pairwise_append.mpr ⟨?_, behind, ?_⟩, ?_⟩
  · exact List.pairwise_map.mpr (List.pairwise_of_forall (fun _ _ => .inr ⟨rfl, rfl⟩))
  · intro first among second last
    obtain ⟨pk, _, rfl⟩ := List.mem_map.mp among
    exact below (.grantRow 0) (by simp) second last
  · intro first among second others
    rcases List.mem_append.mp others with row | last
    · obtain ⟨pk, _, rfl⟩ := List.mem_map.mp row
      exact across first among (.grantRow 0) (by simp)
    · exact across first among second (by simp [last])

theorem sweep_ranked (process : Nat) (cbsdId : String) (rows : List Nat) : Ranked (sweepLocks process cbsdId rows) := by
  simpa [sweepLocks] using around_ranked [.exclusiveCbsd process cbsdId, .cbsdXact cbsdId, .cbsdRow cbsdId] rows []
    (by simp [Ranked, Lock.rank])

theorem locks_ranked (item : LockedItem owner) : Ranked item.locks := by
  cases item with
  | registration process cbsdId scan => exact sweep_ranked process cbsdId scan.rows
  | deregistration process cbsdId scan => exact sweep_ranked process cbsdId scan.rows
  | grant process cbsdId => simp [LockedItem.locks, Ranked, Lock.rank]
  | heartbeat process cbsdId grantId registered pk => cases registered <;> simp [LockedItem.locks, Ranked, Lock.rank]
  | relinquishment process cbsdId grantId pk => simp [LockedItem.locks, Ranked, Lock.rank]
  | cpas process decided =>
      simpa [LockedItem.locks] using around_ranked [.exclusiveIapAdmission process, .iapAdmissionXact, .cpasPipelineXact]
        decided [.fadPublishXact] (by simp [Ranked, Lock.rank])
  | injection process => simp [LockedItem.locks, Ranked, Lock.rank]
  | peerFad process peer => simp [LockedItem.locks, Ranked, Lock.rank]

theorem rank_of_grant_row (lock : Lock) (last : lock.rank = 8) : ∃ pk, lock = .grantRow pk := by
  cases lock <;> simp [Lock.rank] at last ⊢

-- A lock that stands before a taken one of the rest has been taken.
theorem front_taken (front rest held wanted : List Lock) (parts : held ++ wanted = front ++ rest) (lock : Lock)
    (taken : lock ∈ held) (behind : lock ∉ front) : ∀ earlier ∈ front, earlier ∈ held := by
  intro earlier among
  rcases List.append_eq_append_iff.mp parts with ⟨extra, whole, _⟩ | ⟨extra, whole, _⟩
  · exact absurd (whole ▸ List.mem_append_left extra taken) behind
  · exact whole ▸ List.mem_append_left extra among

-- Who has taken a row that another list has too has taken the first such row.
theorem first_shared_taken (front back held wanted : List Lock) (rows others : List Nat)
    (parts : held ++ wanted = front ++ (rows.map Lock.grantRow ++ back)) (pk : Nat) (taken : Lock.grantRow pk ∈ held)
    (behind : Lock.grantRow pk ∉ front) (among : pk ∈ rows) (shared : pk ∈ others) :
    ∃ first, firstShared rows others = some first ∧ Lock.grantRow first ∈ held := by
  obtain ⟨first, found⟩ := find_of_mem rows (others.contains ·) pk among (by simpa using shared)
  obtain ⟨ahead, later, rowParts, only⟩ := first_shared_parts rows others first found
  refine ⟨first, found, ?_⟩
  have regrouped : held ++ wanted =
      (front ++ (ahead ++ [first]).map Lock.grantRow) ++ (later.map Lock.grantRow ++ back) := by
    rw [parts, rowParts, List.map_append, List.append_assoc, List.append_assoc]
  rcases List.append_eq_append_iff.mp regrouped with ⟨extra, whole, _⟩ | ⟨extra, whole, _⟩
  · have early : Lock.grantRow pk ∈ front ++ (ahead ++ [first]).map Lock.grantRow :=
      whole ▸ List.mem_append_left extra taken
    obtain ⟨row, rowAmong, same⟩ := List.mem_map.mp ((List.mem_append.mp early).resolve_left behind)
    cases same
    exact only pk rowAmong shared ▸ taken
  · exact whole ▸ List.mem_append_left extra (List.mem_append_right front (by simp))

end Order

section Cycles

variable {T : Type} {owner : Nat → String} (operations : T → List (LockedItem owner))
  (state : T → Worker Lock)

-- In apply_cpas_decisions, with a row taken and a row to come.
def Deciding (worker : T) : Prop :=
  ∃ process decided, .cpas process decided ∈ operations worker ∧
    (state worker).held ++ (state worker).wanted = (.cpas process decided : LockedItem owner).locks ∧
    Lock.iapAdmissionXact ∈ (state worker).held

-- In a scan of the grants of this CBSD.
def Scanning (cbsdId : String) (worker : T) : Prop :=
  ∃ item ∈ operations worker, ∃ process, (∀ pk ∈ item.scannedRows, owner pk = cbsdId) ∧
    (state worker).held ++ (state worker).wanted = sweepLocks process cbsdId item.scannedRows ∧
    Lock.cbsdXact cbsdId ∈ (state worker).held

theorem no_second_row (locks : List Lock) (only : locks.Pairwise (fun first second => first.rank ≠ 8 ∨ second.rank ≠ 8))
    (worker : Worker Lock) (parts : worker.held ++ worker.wanted = locks) (taken asked : Nat)
    (holds : Lock.grantRow taken ∈ worker.held) (wants : Lock.grantRow asked ∈ worker.wanted) : False := by
  have across := (List.pairwise_append.mp (parts ▸ only)).2.2 _ holds _ wants
  simp [Lock.rank] at across

theorem scanning_of_sweep (worker : T) (item : LockedItem owner) (among : item ∈ operations worker) (process : Nat)
    (cbsdId : String) (owned : ∀ pk ∈ item.scannedRows, owner pk = cbsdId)
    (parts : (state worker).held ++ (state worker).wanted = sweepLocks process cbsdId item.scannedRows) (taken : Nat)
    (holds : Lock.grantRow taken ∈ (state worker).held) : Scanning operations state cbsdId worker := by
  refine ⟨item, among, process, owned, parts, ?_⟩
  exact front_taken _ _ _ _ parts (.grantRow taken) holds (by simp) (.cbsdXact cbsdId) (by simp)

-- Only these two have a row while they ask for another one.
theorem holder_kind (inside : Inside (lockSections operations) state) (worker : T) (taken asked : Nat)
    (holds : Lock.grantRow taken ∈ (state worker).held) (wants : Lock.grantRow asked ∈ (state worker).wanted) :
    Deciding operations state worker ∨ ∃ cbsdId, Scanning operations state cbsdId worker := by
  rcases inside.opened worker with opened | nothing
  · obtain ⟨item, among, parts⟩ := List.mem_map.mp opened
    cases item with
    | registration process cbsdId scan =>
        exact .inr ⟨cbsdId, scanning_of_sweep operations state worker _ among process cbsdId scan.owned parts.symm taken holds⟩
    | deregistration process cbsdId scan =>
        exact .inr ⟨cbsdId, scanning_of_sweep operations state worker _ among process cbsdId scan.owned parts.symm taken holds⟩
    | cpas process decided =>
        refine .inl ⟨process, decided, among, parts.symm, ?_⟩
        have regrouped : (state worker).held ++ (state worker).wanted =
            [.exclusiveIapAdmission process, .iapAdmissionXact, .cpasPipelineXact] ++
              (decided.map Lock.grantRow ++ [.fadPublishXact]) := by
          rw [← parts, LockedItem.locks, List.append_assoc]
        exact front_taken _ _ _ _ regrouped (.grantRow taken) holds (by simp) .iapAdmissionXact (by simp)
    | grant process cbsdId =>
        exact (no_second_row _ (by simp [LockedItem.locks, Lock.rank]) _ parts.symm taken asked holds wants).elim
    | heartbeat process cbsdId grantId registered pk =>
        exact (no_second_row _ (by cases registered <;> simp [LockedItem.locks, Lock.rank]) _ parts.symm taken asked holds
          wants).elim
    | relinquishment process cbsdId grantId pk =>
        exact (no_second_row _ (by simp [LockedItem.locks, Lock.rank]) _ parts.symm taken asked holds wants).elim
    | injection process =>
        exact (no_second_row _ (by simp [LockedItem.locks, Lock.rank]) _ parts.symm taken asked holds wants).elim
    | peerFad process peer =>
        exact (no_second_row _ (by simp [LockedItem.locks, Lock.rank]) _ parts.symm taken asked holds wants).elim
  · rw [List.append_eq_nil_iff] at nothing
    rw [nothing.1] at holds
    cases holds

theorem scanned_row (cbsdId : String) (worker : T) (scanning : Scanning operations state cbsdId worker) (pk : Nat)
    (among : Lock.grantRow pk ∈ (state worker).held ++ (state worker).wanted) : owner pk = cbsdId := by
  obtain ⟨item, _, process, owned, parts, _⟩ := scanning
  rw [parts] at among
  exact owned pk (by simpa [sweepLocks] using among)

variable (inside : Inside (lockSections operations) state)
include inside

theorem one_deciding (first second : T) (one : Deciding operations state first) (two : Deciding operations state second) :
    first = second := by
  obtain ⟨_, _, _, _, guard⟩ := one
  obtain ⟨_, _, _, _, guardToo⟩ := two
  exact inside.exclusive first second _ guard guardToo

theorem one_scanning (cbsdId : String) (first second : T) (one : Scanning operations state cbsdId first)
    (two : Scanning operations state cbsdId second) : first = second := by
  obtain ⟨_, _, _, _, _, guard⟩ := one
  obtain ⟨_, _, _, _, _, guardToo⟩ := two
  exact inside.exclusive first second _ guard guardToo

-- On a cycle every worker asks for a row that the next one has, and that one asks for a row as well.
theorem cycle_rows (worker : T) (cycle : Relation.TransGen (Waits state) worker worker) :
    ∃ holder taken asked, holder ≠ worker ∧ Lock.grantRow taken ∈ (state worker).wanted ∧
      Lock.grantRow taken ∈ (state holder).held ∧ Lock.grantRow asked ∈ (state holder).wanted ∧
      Relation.TransGen (Waits state) holder holder := by
  have ranked : ∀ operation, ∀ locks ∈ lockSections operations operation, Ranked locks := by
    intro operation locks among
    obtain ⟨item, _, rfl⟩ := List.mem_map.mp among
    exact locks_ranked item
  obtain ⟨holder, taken, asked, differs, wanted, holds, wants, level, further⟩ :=
    cycle_next Lock.rank (lockSections operations) state inside
      (fun operation locks among => (ranked operation locks among).imp (fun one => by omega)) worker cycle
  have whole : Ranked ((state holder).held ++ (state holder).wanted) := by
    rcases inside.opened holder with opened | nothing
    · exact ranked holder _ opened
    · rw [nothing]
      exact List.Pairwise.nil
  have across := (List.pairwise_append.mp whole).2.2 taken holds asked wants
  obtain ⟨pk, rfl⟩ := rank_of_grant_row taken (by omega)
  obtain ⟨other, rfl⟩ := rank_of_grant_row asked (by omega)
  exact ⟨holder, pk, other, differs, wanted, holds, wants, further⟩

-- CPAS and a scan that wait for one another have both taken the first row that is of both.
theorem crossing_apart (deciding scanning : T) (cbsdId : String) (differs : scanning ≠ deciding)
    (agree : ∀ cpas ∈ operations deciding, ∀ sweep ∈ operations scanning,
      firstShared cpas.decidedRows sweep.scannedRows = firstShared sweep.scannedRows cpas.decidedRows)
    (one : Deciding operations state deciding) (two : Scanning operations state cbsdId scanning) (taken scanned : Nat)
    (holds : Lock.grantRow taken ∈ (state deciding).held) (wantsBack : Lock.grantRow taken ∈ (state scanning).wanted)
    (holdsToo : Lock.grantRow scanned ∈ (state scanning).held)
    (wants : Lock.grantRow scanned ∈ (state deciding).wanted) : False := by
  obtain ⟨process, decided, among, parts, _⟩ := one
  obtain ⟨item, amongToo, processToo, owned, partsToo, _⟩ := two
  have decidedMem : ∀ pk, Lock.grantRow pk ∈ (state deciding).held ++ (state deciding).wanted → pk ∈ decided := by
    intro pk whole
    rw [parts] at whole
    simpa [LockedItem.locks] using whole
  have scannedMem : ∀ pk, Lock.grantRow pk ∈ (state scanning).held ++ (state scanning).wanted → pk ∈ item.scannedRows := by
    intro pk whole
    rw [partsToo] at whole
    simpa [sweepLocks] using whole
  obtain ⟨first, found, firstHeld⟩ := first_shared_taken
    [.exclusiveIapAdmission process, .iapAdmissionXact, .cpasPipelineXact] [.fadPublishXact] (state deciding).held
    (state deciding).wanted decided item.scannedRows (by rw [parts, LockedItem.locks, List.append_assoc]) taken holds
    (by simp) (decidedMem taken (List.mem_append_left _ holds)) (scannedMem taken (List.mem_append_right _ wantsBack))
  obtain ⟨other, foundToo, otherHeld⟩ := first_shared_taken
    [.exclusiveCbsd processToo cbsdId, .cbsdXact cbsdId, .cbsdRow cbsdId] [] (state scanning).held
    (state scanning).wanted item.scannedRows decided (by rw [partsToo, sweepLocks, List.append_nil]) scanned holdsToo
    (by simp) (scannedMem scanned (List.mem_append_left _ holdsToo)) (decidedMem scanned (List.mem_append_right _ wants))
  have same : first = other := Option.some.inj (found.symm.trans ((agree _ among item amongToo).trans foundToo))
  rw [← same] at otherHeld
  exact differs (inside.exclusive scanning deciding _ otherHeld firstHeld)

variable (agree : ∀ first second, first ≠ second → ∀ cpas ∈ operations first, ∀ sweep ∈ operations second,
  firstShared cpas.decidedRows sweep.scannedRows = firstShared sweep.scannedRows cpas.decidedRows)
include agree

theorem deciding_off_cycle (worker : T) (deciding : Deciding operations state worker)
    (cycle : Relation.TransGen (Waits state) worker worker) : False := by
  obtain ⟨scanner, scanned, _, differs, wants, holdsToo, wantsNext, further⟩ :=
    cycle_rows operations state inside worker cycle
  rcases holder_kind operations state inside scanner _ _ holdsToo wantsNext with also | ⟨cbsdId, scanning⟩
  · exact differs (one_deciding operations state inside scanner worker also deciding)
  · obtain ⟨last, taken, _, apart, wantsBack, holds, wantsMore, _⟩ := cycle_rows operations state inside scanner further
    rcases holder_kind operations state inside last _ _ holds wantsMore with again | ⟨otherId, scanningToo⟩
    · cases one_deciding operations state inside last worker again deciding
      exact crossing_apart operations state inside worker scanner cbsdId differs (agree worker scanner differs.symm)
        deciding scanning taken scanned holds wantsBack holdsToo wants
    · -- The row is of the CBSD of both scans.
      have here := scanned_row operations state cbsdId scanner scanning taken (List.mem_append_right _ wantsBack)
      have there := scanned_row operations state otherId last scanningToo taken (List.mem_append_left _ holds)
      rw [← here.symm.trans there] at scanningToo
      exact apart (one_scanning operations state inside cbsdId last scanner scanningToo scanning)

theorem off_cycle (worker : T) (cycle : Relation.TransGen (Waits state) worker worker) : False := by
  obtain ⟨scanner, _, _, _, _, holds, wants, further⟩ := cycle_rows operations state inside worker cycle
  rcases holder_kind operations state inside scanner _ _ holds wants with deciding | ⟨cbsdId, scanning⟩
  · exact deciding_off_cycle operations state inside agree scanner deciding further
  · obtain ⟨last, taken, _, apart, wantsNext, holdsNext, wantsMore, around⟩ :=
      cycle_rows operations state inside scanner further
    rcases holder_kind operations state inside last _ _ holdsNext wantsMore with deciding | ⟨otherId, scanningToo⟩
    · exact deciding_off_cycle operations state inside agree last deciding around
    · have here := scanned_row operations state cbsdId scanner scanning taken (List.mem_append_right _ wantsNext)
      have there := scanned_row operations state otherId last scanningToo taken (List.mem_append_left _ holdsNext)
      rw [← here.symm.trans there] at scanningToo
      exact apart (one_scanning operations state inside cbsdId last scanner scanningToo scanning)

end Cycles

section Meeting

variable {owner : Nat → String}

theorem no_rows_shared (rows : List Nat) : firstShared rows [] = none := by
  induction rows with
  | nil => rfl
  | cons pk rest ih => simp [firstShared]

-- Between a CPAS section and a scan only the rows can be shared.
theorem first_shared_locks (process sweeper : Nat) (cbsdId : String) (decided rows : List Nat) :
    firstShared (.cpas process decided : LockedItem owner).locks (sweepLocks sweeper cbsdId rows) =
      (firstShared decided rows).map Lock.grantRow := by
  have none_ahead : ([.exclusiveIapAdmission process, .iapAdmissionXact, .cpasPipelineXact] : List Lock).find?
      ((sweepLocks sweeper cbsdId rows).contains ·) = none := by simp [sweepLocks]
  have none_after : ([.fadPublishXact] : List Lock).find? ((sweepLocks sweeper cbsdId rows).contains ·) = none := by
    simp [sweepLocks]
  have reads : (fun pk => (sweepLocks sweeper cbsdId rows).contains (Lock.grantRow pk)) = (rows.contains ·) := by
    funext pk
    rw [Bool.eq_iff_iff]
    simp [sweepLocks]
  rw [firstShared, LockedItem.locks, List.find?_append, List.find?_append, none_ahead, none_after, Option.none_or,
    Option.or_none, List.find?_map]
  exact congrArg (fun test => (decided.find? test).map Lock.grantRow) reads

theorem first_shared_scan (process sweeper : Nat) (cbsdId : String) (decided rows : List Nat) :
    firstShared (sweepLocks sweeper cbsdId rows) (.cpas process decided : LockedItem owner).locks =
      (firstShared rows decided).map Lock.grantRow := by
  have none_ahead : ([.exclusiveCbsd sweeper cbsdId, .cbsdXact cbsdId, .cbsdRow cbsdId] : List Lock).find?
      ((.cpas process decided : LockedItem owner).locks.contains ·) = none := by simp [LockedItem.locks]
  have reads : (fun pk => (.cpas process decided : LockedItem owner).locks.contains (Lock.grantRow pk)) =
      (decided.contains ·) := by
    funext pk
    rw [Bool.eq_iff_iff]
    simp [LockedItem.locks]
  rw [firstShared, sweepLocks, List.find?_append, none_ahead, Option.none_or, List.find?_map]
  exact congrArg (fun test => (rows.find? test).map Lock.grantRow) reads

theorem meet_of_free {T : Type} [DecidableEq T] (operations : T → List (LockedItem owner))
    (free : ∀ state, Reachable (lockSections operations) state → ¬ Deadlocked state) (first second : T)
    (differs : first ≠ second) (process sweeper : Nat) (cbsdId : String) (decided : List Nat)
    (among : .cpas process decided ∈ operations first) (sweep : LockedItem owner) (amongToo : sweep ∈ operations second)
    (sweeps : sweep.locks = sweepLocks sweeper cbsdId sweep.scannedRows) :
    firstShared decided sweep.scannedRows = firstShared sweep.scannedRows decided := by
  by_contra apart
  obtain ⟨state, reached, cycle⟩ := deadlock_reachable (lockSections operations) first second differs.symm _ _
    (List.mem_map_of_mem among) (List.mem_map_of_mem amongToo) (by
      rw [sweeps, first_shared_locks, first_shared_scan]
      exact fun same => apart (Option.map_injective (fun _ _ => Lock.grantRow.inj) same))
  exact free state reached cycle

end Meeting

-- The graph stays acyclic exactly when the decisions of CPAS and every scan of another operation come first to the same
-- row of those that both lock.
theorem wait_graph_acyclic_iff {T : Type} [DecidableEq T] {owner : Nat → String}
    (operations : T → List (LockedItem owner)) :
    (∀ state, Reachable (lockSections operations) state → ¬ Deadlocked state) ↔
      ∀ first second, first ≠ second → ∀ cpas ∈ operations first, ∀ sweep ∈ operations second,
        firstShared cpas.decidedRows sweep.scannedRows = firstShared sweep.scannedRows cpas.decidedRows := by
  refine ⟨fun free first second differs cpas among sweep amongToo => ?_, fun agree state reached cycle => ?_⟩
  · cases cpas with
    | cpas process decided =>
        cases sweep with
        | registration sweeper cbsdId scan =>
            exact meet_of_free operations free first second differs process sweeper cbsdId decided among _ amongToo rfl
        | deregistration sweeper cbsdId scan =>
            exact meet_of_free operations free first second differs process sweeper cbsdId decided among _ amongToo rfl
        | _ => exact no_rows_shared decided
    | _ => exact (no_rows_shared sweep.scannedRows).symm
  · obtain ⟨worker, around⟩ := cycle
    exact off_cycle operations state (reachable_inside _ state reached) agree worker around

-- CPAS decides on row 2 for a peer and on row 1 for a DPA while the CBSD of both rows registers again.
def crossedOperations : Bool → List (LockedItem fun _ => "FCC-1/SN-1")
  | false => [.cpas 0 [2, 1]]
  | true => [.registration 1 "FCC-1/SN-1" ⟨[1, 2], fun _ _ => rfl⟩]

theorem cpas_deadlocks_with_registration :
    ∃ state, Reachable (lockSections crossedOperations) state ∧ Deadlocked state := by
  refine deadlock_reachable (lockSections crossedOperations) false true (by simp) _ _ (List.mem_cons_self ..)
    (List.mem_cons_self ..) ?_
  decide

end SasCore.Cpas
