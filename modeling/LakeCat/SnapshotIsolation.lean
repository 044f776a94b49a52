import LakeCat.Transition

/-!
Transactions over rows under snapshot isolation. A transaction reads the store
as it was when it began; it commits when no row it writes has been written
since, and is rolled back otherwise, to be begun again.
-/

namespace SnapshotIsolation

universe u v w

/-- Rows that are read and written one by one. -/
structure Rows (Store : Type u) (Row : Type v) where
  Cell : Row → Type w
  lookup : Store → (row : Row) → Option (Cell row)
  write : Store → (row : Row) → Option (Cell row) → Store
  lookup_written : ∀ store row value, lookup (write store row value) row = value
  lookup_other : ∀ store row value other, row ≠ other →
    lookup (write store row value) other = lookup store other

variable {Store : Type u} {Row : Type v}

/-- Inserts or replaces a row, or deletes it. -/
structure Write (rows : Rows.{u, v, w} Store Row) where
  row : Row
  value : Option (rows.Cell row)

variable {rows : Rows.{u, v, w} Store Row}

def applyWrites (store : Store) (writes : List (Write rows)) : Store :=
  writes.foldl (fun store change => rows.write store change.row change.value) store

theorem applyWrites_append (store : Store) (first second : List (Write rows)) :
    applyWrites store (first ++ second) = applyWrites (applyWrites store first) second :=
  List.foldl_append

theorem lookup_unwritten (store : Store) (writes : List (Write rows)) (row : Row)
    (absent : ∀ change ∈ writes, change.row ≠ row) :
    rows.lookup (applyWrites store writes) row = rows.lookup store row := by
  induction writes generalizing store with
  | nil => rfl
  | cons change rest ih =>
      have head := absent change (by simp)
      have tail := ih (rows.write store change.row change.value) fun other member =>
        absent other (by simp [member])
      exact tail.trans (rows.lookup_other store change.row change.value row head)

/-- A row written once has the value written. -/
theorem lookup_applyWrites (store : Store) (first second : List (Write rows)) (change : Write rows)
    (absent : ∀ other ∈ second, other.row ≠ change.row) :
    rows.lookup (applyWrites store (first ++ change :: second)) change.row = change.value := by
  rw [applyWrites_append]
  have last := lookup_unwritten (rows.write (applyWrites store first) change.row change.value)
    second change.row absent
  exact last.trans (rows.lookup_written _ change.row change.value)

/-- A row that a transaction writes has the last value written, and any other is kept. -/
theorem lookup_applyWrites_cases (store : Store) (writes : List (Write rows)) (row : Row) :
    (rows.lookup (applyWrites store writes) row = rows.lookup store row ∧
      ∀ change ∈ writes, change.row ≠ row) ∨
    ∃ value, ⟨row, value⟩ ∈ writes ∧ rows.lookup (applyWrites store writes) row = value := by
  induction writes generalizing store with
  | nil => exact .inl ⟨rfl, by simp⟩
  | cons change rest ih =>
      have expanded : applyWrites store (change :: rest) =
          applyWrites (rows.write store change.row change.value) rest := rfl
      rw [expanded]
      rcases ih (rows.write store change.row change.value) with ⟨kept, others⟩ | written
      · by_cases own : change.row = row
        · subst own
          exact .inr ⟨change.value, by simp, kept.trans (rows.lookup_written _ _ _)⟩
        · refine .inl ⟨kept.trans (rows.lookup_other _ _ _ _ own), ?_⟩
          intro other member
          rcases List.mem_cons.mp member with rfl | later
          · exact own
          · exact others other later
      · obtain ⟨value, member, found⟩ := written
        exact .inr ⟨value, List.mem_cons_of_mem _ member, found⟩

/-- A store together with how often each of its rows has been written. -/
structure Database (Store : Type u) (Row : Type v) where
  store : Store
  stamp : Row → Nat

structure Active (Store : Type u) (Row : Type v) (Job : Type w) where
  job : Job
  snapshot : Database Store Row

structure System (Store : Type u) (Row : Type v) (Job : Type w) where
  database : Database Store Row
  active : Nat → Option (Active Store Row Job)

inductive Event (Job : Type w) where
  | begin (client : Nat) (job : Job)
  | commit (client : Nat)

variable {Job : Type w} [DecidableEq Row]

/-- The database after the writes of one transaction. -/
def Database.commit (database : Database Store Row) (writes : List (Write rows)) :
    Database Store Row where
  store := applyWrites database.store writes
  stamp := fun row => database.stamp row + if row ∈ writes.map Write.row then 1 else 0

/-- No row written has been written by another transaction in the meantime. -/
def Unconflicted (snapshot database : Database Store Row) (writes : List (Write rows)) : Prop :=
  ∀ change ∈ writes, snapshot.stamp change.row = database.stamp change.row

instance (snapshot database : Database Store Row) (writes : List (Write rows)) :
    Decidable (Unconflicted snapshot database writes) :=
  inferInstanceAs (Decidable (∀ change ∈ writes, _))

/-- A transaction whose body fails, or that conflicts, leaves the database. -/
def step (body : Job → Store → Option (List (Write rows))) (system : System Store Row Job) :
    Event Job → System Store Row Job
  | .begin client job => {
      system with
      active := Function.update system.active client (some ⟨job, system.database⟩)
    }
  | .commit client =>
      match system.active client with
      | none => system
      | some active =>
          let ended := Function.update system.active client none
          match body active.job active.snapshot.store with
          | none => { system with active := ended }
          | some writes =>
              if Unconflicted active.snapshot system.database writes then
                { database := system.database.commit writes, active := ended }
              else { system with active := ended }

/-- The transaction of a client that commits at this point, and what it writes. -/
structure Commits (body : Job → Store → Option (List (Write rows))) (system : System Store Row Job)
    (client : Nat) (active : Active Store Row Job) (writes : List (Write rows)) : Prop where
  running : system.active client = some active
  computed : body active.job active.snapshot.store = some writes
  unconflicted : Unconflicted active.snapshot system.database writes

variable {body : Job → Store → Option (List (Write rows))}

theorem Commits.step_eq {system : System Store Row Job} {client : Nat}
    {active : Active Store Row Job} {writes : List (Write rows)}
    (commits : Commits body system client active writes) : step body system (.commit client) =
      ⟨system.database.commit writes, Function.update system.active client none⟩ := by
  simp only [step, commits.running, commits.computed, if_pos commits.unconflicted]

theorem Commits.step_database {system : System Store Row Job} {client : Nat}
    {active : Active Store Row Job} {writes : List (Write rows)}
    (commits : Commits body system client active writes) :
    (step body system (.commit client)).database = system.database.commit writes :=
  congrArg System.database commits.step_eq

omit [DecidableEq Row] in
theorem Commits.unique {system : System Store Row Job} {client : Nat}
    {active other : Active Store Row Job} {writes others : List (Write rows)}
    (commits : Commits body system client active writes)
    (again : Commits body system client other others) : other = active ∧ others = writes := by
  obtain rfl : other = active := Option.some.inj (again.running.symm.trans commits.running)
  exact ⟨rfl, Option.some.inj (again.computed.symm.trans commits.computed)⟩

theorem step_database_kept {system : System Store Row Job} {client : Nat}
    (idle : ¬∃ active writes, Commits body system client active writes) :
    (step body system (.commit client)).database = system.database := by
  rw [step]
  split
  next => rfl
  next active running =>
    split
    next => rfl
    next writes computed =>
      split
      next unconflicted => exact absurd ⟨active, writes, running, computed, unconflicted⟩ idle
      next => rfl

/-- A transaction under way after a commit was under way before it. -/
theorem step_active {system : System Store Row Job} {client other : Nat}
    {active : Active Store Row Job}
    (running : (step body system (.commit client)).active other = some active) :
    system.active other = some active := by
  have ended (held : Function.update system.active client none other = some active) :
      system.active other = some active := by
    by_cases own : other = client
    · rw [own, Function.update_self] at held
      cases held
    · rwa [Function.update_of_ne own] at held
  rw [step] at running
  split at running
  next => exact running
  next =>
    split at running
    next => exact ended running
    next =>
      split at running
      next => exact ended running
      next => exact ended running

/-- Each transaction that commits is permitted between its snapshot and the database. -/
def Permits (body : Job → Store → Option (List (Write rows)))
    (permitted : Job → Database Store Row → Database Store Row → Prop)
    (system : System Store Row Job) : Event Job → Prop
  | .begin _ _ => True
  | .commit client => ∀ active writes, Commits body system client active writes →
      permitted active.job active.snapshot system.database

/-- Each transaction that commits leaves a store of which its job says something. -/
def Ends (body : Job → Store → Option (List (Write rows))) (ended : Job → Store → Prop)
    (system : System Store Row Job) : Event Job → Prop
  | .begin _ _ => True
  | .commit client => ∀ active writes, Commits body system client active writes →
      ended active.job (step body system (.commit client)).database.store

/-- The store is good after the event, and a commit leaves what its job says. -/
def Keeps (body : Job → Store → Option (List (Write rows))) (good : Store → Prop)
    (ended : Job → Store → Prop) (system : System Store Row Job) (event : Event Job) : Prop :=
  good (step body system event).database.store ∧ Ends body ended system event

/-- A row that has not been written since the snapshot is what the snapshot shows. -/
def Agrees (rows : Rows.{u, v, w} Store Row) (snapshot database : Database Store Row) : Prop :=
  ∀ row, snapshot.stamp row ≤ database.stamp row ∧
    (snapshot.stamp row = database.stamp row →
      rows.lookup snapshot.store row = rows.lookup database.store row)

omit [DecidableEq Row] in
theorem agrees_refl (database : Database Store Row) : Agrees rows database database :=
  fun _ => ⟨Nat.le_refl _, fun _ => rfl⟩

theorem agrees_commit {snapshot database : Database Store Row} (writes : List (Write rows))
    (agrees : Agrees rows snapshot database) : Agrees rows snapshot (database.commit writes) := by
  intro row
  obtain ⟨earlier, same⟩ := agrees row
  by_cases written : row ∈ writes.map Write.row
  · have later : (database.commit writes).stamp row = database.stamp row + 1 := by
      simp only [Database.commit, if_pos written]
    exact ⟨by omega, fun equal => by omega⟩
  · have kept : (database.commit writes).stamp row = database.stamp row := by
      simp only [Database.commit, if_neg written, Nat.add_zero]
    have absent : ∀ change ∈ writes, change.row ≠ row := by
      intro change member equal
      exact written (List.mem_map.mpr ⟨change, member, equal⟩)
    rw [kept]
    exact ⟨earlier, fun equal => (same equal).trans (lookup_unwritten _ _ _ absent).symm⟩

/-- Every snapshot was a good committed state and agrees with the database. -/
structure Sound (rows : Rows.{u, v, w} Store Row) (good : Store → Prop)
    (system : System Store Row Job) : Prop where
  database : good system.database.store
  snapshots : ∀ client active, system.active client = some active → good active.snapshot.store
  agrees : ∀ client active, system.active client = some active →
    Agrees rows active.snapshot system.database

theorem sound_step {good : Store → Prop} {system : System Store Row Job} {event : Event Job}
    (sound : Sound rows good system) (next : good (step body system event).database.store) :
    Sound rows good (step body system event) := by
  cases event with
  | begin client job =>
      have begun (other : Nat) (active : Active Store Row Job)
          (running : (step body system (.begin client job)).active other = some active) :
          active = ⟨job, system.database⟩ ∨ system.active other = some active := by
        simp only [step] at running
        by_cases own : other = client
        · rw [own, Function.update_self] at running
          exact .inl (Option.some.inj running).symm
        · rw [Function.update_of_ne own] at running
          exact .inr running
      refine ⟨next, ?_, ?_⟩
      · intro other active running
        rcases begun other active running with rfl | earlier
        · exact sound.database
        · exact sound.snapshots other active earlier
      · intro other active running
        rcases begun other active running with rfl | earlier
        · exact agrees_refl system.database
        · exact sound.agrees other active earlier
  | commit client =>
      refine ⟨next, fun other active running =>
        sound.snapshots other active (step_active running), ?_⟩
      intro other active running
      have agrees := sound.agrees other active (step_active running)
      by_cases commits : ∃ active writes, Commits body system client active writes
      · obtain ⟨_, writes, committed⟩ := commits
        rw [committed.step_database]
        exact agrees_commit writes agrees
      · rw [step_database_kept commits]
        exact agrees

/-- A system with no transaction under way. -/
def System.idle (database : Database Store Row) : System Store Row Job := ⟨database, fun _ => none⟩

omit [DecidableEq Row] in
theorem sound_idle {good : Store → Prop} {database : Database Store Row}
    (initial : good database.store) : Sound rows good (System.idle database : System Store Row Job) := by
  refine ⟨initial, ?_, ?_⟩
  · intro client active running
    cases running
  · intro client active running
    cases running

section
variable (body) (lasting good : Store → Prop) (ended : Job → Store → Prop)
  (permitted : Job → Database Store Row → Database Store Row → Prop)

/-- What a commit between two sound stores does: some facts last in any case, and the others,
with what its job says, exactly when it is permitted. -/
structure ExactAt (job : Job) (database : Database Store Row) (writes : List (Write rows))
    (allowed : Prop) : Prop where
  lasts : lasting (applyWrites database.store writes)
  keeps : good (applyWrites database.store writes) ∧
    ended job (applyWrites database.store writes) ↔ allowed

def Exact : Prop :=
  ∀ job snapshot database writes, lasting snapshot.store ∧ good snapshot.store →
    lasting database.store ∧ good database.store → Agrees rows snapshot database →
    body job snapshot.store = some writes → Unconflicted snapshot database writes →
    ExactAt lasting good ended job database writes (permitted job snapshot database)

variable {body lasting good ended permitted}

omit [DecidableEq Row] in
theorem Exact.commit (precise : Exact body lasting good ended permitted)
    {system : System Store Row Job} {client : Nat} {active : Active Store Row Job}
    {writes : List (Write rows)} (committed : Commits body system client active writes)
    (sound : Sound rows (fun store => lasting store ∧ good store) system) :
    ExactAt lasting good ended active.job system.database writes
      (permitted active.job active.snapshot system.database) :=
  precise active.job active.snapshot system.database writes
    (sound.snapshots client active committed.running) sound.database
    (sound.agrees client active committed.running) committed.computed committed.unconflicted

theorem lasting_step (precise : Exact body lasting good ended permitted)
    {system : System Store Row Job} (event : Event Job)
    (sound : Sound rows (fun store => lasting store ∧ good store) system) :
    lasting (step body system event).database.store := by
  cases event with
  | begin client job => exact sound.database.1
  | commit client =>
      by_cases commits : ∃ active writes, Commits body system client active writes
      · obtain ⟨active, writes, committed⟩ := commits
        rw [committed.step_database]
        exact (precise.commit committed sound).lasts
      · rw [step_database_kept commits]
        exact sound.database.1

theorem keeps_iff (precise : Exact body lasting good ended permitted)
    {system : System Store Row Job} (event : Event Job)
    (sound : Sound rows (fun store => lasting store ∧ good store) system) :
    Keeps body good ended system event ↔ Permits body permitted system event := by
  cases event with
  | begin client job => exact ⟨fun _ => trivial, fun _ => ⟨sound.database.2, trivial⟩⟩
  | commit client =>
      by_cases commits : ∃ active writes, Commits body system client active writes
      · obtain ⟨active, writes, committed⟩ := commits
        have rule := (precise.commit committed sound).keeps
        constructor
        · rintro ⟨next, ends⟩ other others again
          obtain ⟨rfl, rfl⟩ := committed.unique again
          have left := ends other others again
          rw [committed.step_database] at next left
          exact rule.mp ⟨next, left⟩
        · intro permits
          obtain ⟨next, left⟩ := rule.mpr (permits active writes committed)
          refine ⟨?_, ?_⟩
          · rw [committed.step_database]
            exact next
          · intro other others again
            obtain ⟨rfl, rfl⟩ := committed.unique again
            rw [committed.step_database]
            exact left
      · constructor
        · intro _ active writes committed
          exact absurd ⟨active, writes, committed⟩ commits
        · intro _
          refine ⟨?_, fun active writes committed => absurd ⟨active, writes, committed⟩ commits⟩
          rw [step_database_kept commits]
          exact sound.database.2

/-- A run keeps the invariant exactly when each of its commits is permitted. -/
theorem run_keeps_iff (precise : Exact body lasting good ended permitted)
    (start : Database Store Row) (lasts : lasting start.store) (initial : good start.store)
    (events : List (Event Job)) :
    Transition.Along (step body) (Keeps body good ended) (System.idle start) events ↔
      Transition.Along (step body) (Permits body permitted) (System.idle start) events :=
  Transition.along_congr (step body) (Keeps body good ended) (Permits body permitted)
    (Sound rows fun store => lasting store ∧ good store)
    (fun _ event sound keeps => sound_step sound ⟨lasting_step precise event sound, keeps.1⟩)
    (fun _ event sound => keeps_iff precise event sound) _ events (sound_idle ⟨lasts, initial⟩)

end

/-- Jobs one after the other, each committed before the next one begins. -/
def serial : List Job → List (Event Job)
  | [] => []
  | job :: rest => .begin 0 job :: .commit 0 :: serial rest

/-- What permits a commit to its own snapshot permits every serial run. -/
theorem serial_permitted {permitted : Job → Database Store Row → Database Store Row → Prop}
    (still : ∀ job database writes, body job database.store = some writes →
      permitted job database database) (jobs : List Job)
    (system : System Store Row Job) :
    Transition.Along (step body) (Permits body permitted) system (serial jobs) := by
  induction jobs generalizing system with
  | nil => trivial
  | cons job rest ih =>
      refine ⟨trivial, ?_, ih _⟩
      intro active writes commits
      have running := commits.running
      simp only [step, Function.update_self, Option.some.injEq] at running
      subst running
      exact still job system.database writes commits.computed

/-- Two transactions that begin together and write no common row commit both. -/
theorem overlapping_commit (start : Database Store Row) (first second : Job)
    (earlier later : List (Write rows)) (computed : body first start.store = some earlier)
    (recomputed : body second start.store = some later)
    (apart : ∀ change ∈ later, change.row ∉ earlier.map Write.row) :
    (Transition.run (step body) (System.idle start)
      [.begin 0 first, .begin 1 second, .commit 0, .commit 1]).database =
      (start.commit earlier).commit later := by
  let begun := Transition.run (step body) (System.idle start) [.begin 0 first, .begin 1 second]
  have commits : Commits body begun 0 ⟨first, start⟩ earlier := ⟨rfl, computed, fun _ _ => rfl⟩
  have unconflicted : Unconflicted start (start.commit earlier) later := by
    intro change member
    simp only [Database.commit, if_neg (apart change member), Nat.add_zero]
  have again : Commits body (step body begun (.commit 0)) 1 ⟨second, start⟩ later := by
    rw [commits.step_eq]
    exact ⟨rfl, recomputed, unconflicted⟩
  have reached := again.step_database
  rw [commits.step_database] at reached
  exact reached

end SnapshotIsolation
