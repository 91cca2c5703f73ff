import Mathlib.Data.List.Sort
import Roboat.Text.Strings
import Roboat.Transition.Machine
import Roboat.Transition.Tasks

/-! # Migrations

`Migrate` applies the embedded migrations that are not yet recorded in `schema_migrations`, each in
a transaction of its own: its SQL, then the row with its name. Several services can start at the
same time, and every one of them runs `Migrate`.

A run asks whether a migration is recorded before it opens the transaction, so two runs can both
find that it is not. What decides is the primary key of `schema_migrations`: of two transactions
with the same row one is not committed, and its SQL goes with it. `migrations_once` says so for any
number of runs, with failures of any statement, lost acknowledgements and crashes at any point.

Of Postgres it is assumed that a transaction is committed as a whole or not at all, and that no two
committed rows have one key. Locks are not modelled: an insert that would have to wait may succeed
here, and is then rejected by the commit, so there are more runs here than there. The SQL of a
migration is a text that the transaction executes; it holds no transaction commands of its own and
leaves `schema_migrations` alone. -/

namespace Roboat.Store

/-! ## The code -/

/-- An entry of the embedded directory. -/
structure DirEntry where
  name : Str
  isDir : Bool
  deriving DecidableEq, Repr

/-- The embedded file system: its directory `migrations`, and the files in it. -/
structure Embedded where
  readDir : Except Str (List DirEntry)
  readFile : Str → Except Str Str

/-- `sort.Strings`. -/
def sortStrings (names : List Str) : List Str := names.insertionSort fun a b => ¬ b < a

/-- The names of the migrations, in the order in which they are applied. -/
def migrationNames (entries : List DirEntry) : List Str :=
  sortStrings ((entries.filter fun e => !e.isDir && ".sql".toList.isSuffixOf e.name).map
    DirEntry.name)

/-- What a transaction has done so far. -/
inductive Effect where
  | sql (name text : Str)
  | insert (version : Str)
  deriving DecidableEq, Repr

/-- The database: `schema_migrations`, and the migrations whose SQL is committed, with the SQL. -/
structure Db where
  tableExists : Bool
  versions : List Str
  applied : List (Str × Str)
  deriving DecidableEq, Repr

namespace Db

/-- An effect becomes visible. -/
def apply (db : Db) : Effect → Db
  | .sql name text => { db with applied := db.applied ++ [(name, text)] }
  | .insert version => { db with versions := db.versions ++ [version] }

/-- The commit of a transaction, unless it would give two rows one key. -/
def commit (db : Db) (effects : List Effect) : Option Db :=
  let next := effects.foldl apply db
  if next.versions.Nodup then some next else none

end Db

/-- Where a run of `Migrate` stands; `rest` are the names that are left. -/
inductive Phase where
  /-- Before `CREATE TABLE IF NOT EXISTS`. -/
  | creating
  /-- At the head of the loop. -/
  | checking (rest : List Str)
  /-- The migration is not recorded, its file is read: before `Begin`. -/
  | beginning (name text : Str) (rest : List Str)
  /-- Before the SQL. -/
  | executing (name text : Str) (rest : List Str)
  /-- Before the row is inserted. -/
  | inserting (name text : Str) (rest : List Str)
  /-- Before `Commit`. -/
  | committing (name text : Str) (rest : List Str)
  /-- A statement has failed: before `Rollback`. -/
  | rollingBack (error : Str)
  /-- Returned, with `nil` or an error. -/
  | returned (error : Option Str)
  /-- The process is gone. -/
  | crashed
  deriving DecidableEq, Repr

/-- A run of `Migrate`, with its open transaction. -/
structure Run where
  embedded : Embedded
  phase : Phase
  tx : Option (List Effect)

/-- The database and the runs. -/
structure State where
  db : Db
  runs : List Run

/-- How a commit ends. -/
inductive CommitOutcome where
  | committed
  /-- Committed, but the answer was lost. -/
  | lost (error : Str)
  | failed (error : Str)
  deriving DecidableEq, Repr

/-- The statements of a run, with their errors. -/
inductive RunStep where
  | create (error : Option Str)
  /-- The query, or the end of the loop. -/
  | check (error : Option Str)
  | begin (error : Option Str)
  | exec (error : Option Str)
  | insert (error : Option Str)
  | commit (outcome : CommitOutcome)
  | rollback
  | crash
  deriving DecidableEq, Repr

/-- The atomic steps. -/
inductive Step where
  | start (embedded : Embedded)
  | run (r : Nat) (a : RunStep)

/-- The list of names after the table is there. -/
def afterCreate (embedded : Embedded) : Phase :=
  match embedded.readDir with
  | .error e => .returned (some e)
  | .ok entries => .checking (migrationNames entries)

/-- A migration that is not recorded: its file is read. -/
def afterMissing (embedded : Embedded) (name : Str) (rest : List Str) : Phase :=
  match embedded.readFile name with
  | .error e => .returned (some e)
  | .ok text => .beginning name text rest

/-- The run is over. -/
def Phase.over : Phase → Bool
  | returned _ => true
  | crashed => true
  | _ => false

/-- A statement of a run: the database and the run after it. -/
def Run.step (db : Db) (run : Run) : RunStep → Option (Db × Run)
  | .create error =>
    match run.phase, error with
    | .creating, some e => some (db, { run with phase := .returned (some e) })
    | .creating, none =>
      some ({ db with tableExists := true }, { run with phase := afterCreate run.embedded })
    | _, _ => none
  | .check error =>
    match run.phase, error with
    | .checking [], _ => some (db, { run with phase := .returned none })
    | .checking (_ :: _), some e => some (db, { run with phase := .returned (some e) })
    | .checking (name :: rest), none =>
      if !db.tableExists then none
      else if name ∈ db.versions then some (db, { run with phase := .checking rest })
      else some (db, { run with phase := afterMissing run.embedded name rest })
    | _, _ => none
  | .begin error =>
    match run.phase, error with
    | .beginning _ _ _, some e => some (db, { run with phase := .returned (some e) })
    | .beginning name text rest, none =>
      some (db, { run with phase := .executing name text rest, tx := some [] })
    | _, _ => none
  | .exec error =>
    match run.phase, error with
    | .executing name _ _, some e =>
      some (db, { run with
        phase := .rollingBack ("migration ".toList ++ name ++ ": ".toList ++ e) })
    | .executing name text rest, none =>
      some (db, { run with
        phase := .inserting name text rest
        tx := run.tx.map fun effects => effects ++ [.sql name text] })
    | _, _ => none
  | .insert error =>
    match run.phase, error with
    | .inserting _ _ _, some e => some (db, { run with phase := .rollingBack e })
    | .inserting name text rest, none =>
      -- a row that is committed already makes the insert fail
      if name ∈ db.versions then none
      else some (db, { run with
        phase := .committing name text rest
        tx := run.tx.map fun effects => effects ++ [.insert name] })
    | _, _ => none
  | .commit outcome =>
    match run.phase, outcome with
    | .committing _ _ rest, .committed =>
      run.tx.bind fun effects => (db.commit effects).map fun db =>
        (db, { run with phase := .checking rest, tx := none })
    | .committing _ _ _, .lost e =>
      run.tx.bind fun effects => (db.commit effects).map fun db =>
        (db, { run with phase := .returned (some e), tx := none })
    | .committing _ _ _, .failed e =>
      some (db, { run with phase := .returned (some e), tx := none })
    | _, _ => none
  | .rollback =>
    match run.phase with
    | .rollingBack e => some (db, { run with phase := .returned (some e), tx := none })
    | _ => none
  | .crash => if run.phase.over then none else some (db, { run with phase := .crashed, tx := none })

namespace State

/-- The step function. -/
def step (s : State) : Step → Option State
  | .start embedded => some { s with runs := s.runs ++ [⟨embedded, .creating, none⟩] }
  | .run r a => s.runs[r]?.bind fun run => (run.step s.db a).map fun next =>
    ⟨next.1, s.runs.set r next.2⟩

end State

/-- **A database and the services that migrate it.** -/
def machine : Machine State Step where
  init := ⟨⟨false, [], []⟩, []⟩
  step := State.step

/-! ## What a run knows -/

/-- The migrations that a run has to apply. -/
def Run.names (run : Run) : List Str :=
  match run.embedded.readDir with
  | .error _ => []
  | .ok entries => migrationNames entries

namespace Phase

/-- The names that a run has not yet seen committed, while it goes on or when it returns `nil`. -/
def remaining : Phase → Option (List Str)
  | checking rest => some rest
  | beginning name _ rest => some (name :: rest)
  | executing name _ rest => some (name :: rest)
  | inserting name _ rest => some (name :: rest)
  | committing name _ rest => some (name :: rest)
  | returned none => some []
  | _ => none

/-- The migration that a run is applying. -/
def file : Phase → Option (Str × Str)
  | beginning name text _ => some (name, text)
  | executing name text _ => some (name, text)
  | inserting name text _ => some (name, text)
  | committing name text _ => some (name, text)
  | _ => none

/-- What its transaction has done before the next statement. -/
def effects : Phase → Option (List Effect)
  | executing _ _ _ => some []
  | inserting name text _ => some [.sql name text]
  | committing name text _ => some [.sql name text, .insert name]
  | _ => none

end Phase

/-- **What holds of a run**: its transaction has done what the phase says, the SQL is that of the
file, and every migration is committed or still to be looked at. -/
structure Run.Ok (db : Db) (run : Run) : Prop where
  tx : ∀ effects ∈ run.phase.effects, run.tx = some effects
  file : ∀ f ∈ run.phase.file, run.embedded.readFile f.1 = .ok f.2
  progress : ∀ rest ∈ run.phase.remaining, ∀ name ∈ run.names, name ∈ db.versions ∨ name ∈ rest

/-- What a statement does to the database: nothing that is of interest here, or it commits one
migration with its row. -/
inductive Db.Change (embedded : Embedded) (db : Db) : Db → Prop
  | same {db' : Db} (versions : db'.versions = db.versions) (applied : db'.applied = db.applied) :
    Change embedded db db'
  | commit {db' : Db} {name text : Str} (file : embedded.readFile name = .ok text)
      (fresh : name ∉ db.versions) (versions : db'.versions = db.versions ++ [name])
      (applied : db'.applied = db.applied ++ [(name, text)]) : Change embedded db db'

section Statements

variable {db db' : Db} {run next : Run}

theorem Db.Change.subset {embedded : Embedded} (h : Db.Change embedded db db') :
    ∀ name ∈ db.versions, name ∈ db'.versions := by
  intro name hname
  cases h with
  | same versions _ =>
    rw [versions]
    exact hname
  | commit _ _ versions _ =>
    rw [versions]
    exact List.mem_append_left _ hname

/-- What is known of a run stays when migrations are committed. -/
theorem Run.Ok.mono (h : run.Ok db) (hsub : ∀ name ∈ db.versions, name ∈ db'.versions) :
    run.Ok db' :=
  ⟨h.tx, h.file, fun rest hrest name hname => (h.progress rest hrest name hname).imp_left
    (hsub name)⟩

/-- A run between two migrations. -/
theorem Run.Ok.of_between (hfile : run.phase.file = none) (heffects : run.phase.effects = none)
    (hprogress : ∀ rest ∈ run.phase.remaining, ∀ name ∈ run.names,
      name ∈ db.versions ∨ name ∈ rest) : run.Ok db where
  tx effects h := by rw [heffects] at h; cases h
  file f h := by rw [hfile] at h; cases h
  progress := hprogress

/-- A run that returns an error, rolls back or is gone. -/
theorem Run.Ok.of_given_up (hremaining : run.phase.remaining = none)
    (hfile : run.phase.file = none) (heffects : run.phase.effects = none) : run.Ok db :=
  .of_between hfile heffects fun rest h => by rw [hremaining] at h; cases h

/-- A commit of a migration with its row. -/
theorem Db.change_of_commit {embedded : Embedded} {name text : Str}
    (hfile : embedded.readFile name = .ok text)
    (h : db.commit [.sql name text, .insert name] = some db') :
    Db.Change embedded db db' ∧ name ∈ db'.versions := by
  obtain ⟨hnodup, h⟩ := Option.ite_none_right_eq_some.mp h
  cases h
  have hfresh : name ∉ db.versions := fun hmem =>
    (List.nodup_append.mp hnodup).2.2 name hmem name (List.mem_singleton_self _) rfl
  exact ⟨.commit hfile hfresh rfl rfl, List.mem_append_right _ (List.mem_singleton_self _)⟩

/-- The loop goes on when the first of the names left is committed. -/
theorem progress_tail {versions names rest : List Str} {name : Str} (hname : name ∈ versions)
    (h : ∀ n ∈ names, n ∈ versions ∨ n ∈ name :: rest) : ∀ n ∈ names, n ∈ versions ∨ n ∈ rest := by
  intro n hn
  rcases h n hn with hdone | hleft
  · exact Or.inl hdone
  · rcases List.mem_cons.mp hleft with rfl | hrest
    · exact Or.inl hname
    · exact Or.inr hrest

/-- The loop begins with all names. -/
theorem Run.ok_afterCreate (embedded : Embedded) (tx : Option (List Effect)) :
    Run.Ok db ⟨embedded, afterCreate embedded, tx⟩ := by
  unfold afterCreate
  cases hdir : embedded.readDir with
  | error e => exact .of_given_up rfl rfl rfl
  | ok entries =>
    refine .of_between rfl rfl fun rest hrest name hname => ?_
    cases hrest
    simp only [Run.names, hdir] at hname
    exact Or.inr hname

/-- A migration is taken on with the SQL of its file. -/
theorem Run.ok_afterMissing {embedded : Embedded} {tx : Option (List Effect)} {name : Str}
    {rest : List Str} (h : Run.Ok db ⟨embedded, .checking (name :: rest), tx⟩) :
    Run.Ok db ⟨embedded, afterMissing embedded name rest, tx⟩ := by
  unfold afterMissing
  cases hread : embedded.readFile name with
  | error e => exact .of_given_up rfl rfl rfl
  | ok text =>
    refine ⟨fun _ heffects => ?_, fun f hf => ?_, fun left hleft => ?_⟩
    · cases heffects
    · cases hf
      exact hread
    · cases hleft
      exact h.progress (name :: rest) rfl

/-- **One statement** keeps what is known of its run, and changes the database as it may. -/
theorem Run.Ok.step {a : RunStep} (h : run.Ok db) (hstep : run.step db a = some (db', next)) :
    next.embedded = run.embedded ∧ Db.Change run.embedded db db' ∧ next.Ok db' := by
  obtain ⟨embedded, phase, tx⟩ := run
  cases a with
  | create error =>
    cases phase <;> try cases hstep
    cases error with
    | some e =>
      cases hstep
      exact ⟨rfl, .same rfl rfl, .of_given_up rfl rfl rfl⟩
    | none =>
      cases hstep
      exact ⟨rfl, .same rfl rfl, Run.ok_afterCreate embedded tx⟩
  | check error =>
    cases phase <;> try cases hstep
    rename_i rest
    cases rest with
    | nil =>
      cases hstep
      refine ⟨rfl, .same rfl rfl, .of_between rfl rfl fun left hleft => ?_⟩
      cases hleft
      exact h.progress [] rfl
    | cons name rest =>
      cases error with
      | some e =>
        cases hstep
        exact ⟨rfl, .same rfl rfl, .of_given_up rfl rfl rfl⟩
      | none =>
        simp only [Run.step] at hstep
        split_ifs at hstep with htable hrecorded
        · cases hstep
          refine ⟨rfl, .same rfl rfl, .of_between rfl rfl fun left hleft => ?_⟩
          cases hleft
          exact progress_tail hrecorded (h.progress (name :: rest) rfl)
        · cases hstep
          exact ⟨rfl, .same rfl rfl, Run.ok_afterMissing h⟩
  | begin error =>
    cases phase <;> try cases hstep
    rename_i name text rest
    cases error with
    | some e =>
      cases hstep
      exact ⟨rfl, .same rfl rfl, .of_given_up rfl rfl rfl⟩
    | none =>
      cases hstep
      refine ⟨rfl, .same rfl rfl, fun _ heffects => ?_, h.file, h.progress⟩
      cases heffects
      rfl
  | exec error =>
    cases phase <;> try cases hstep
    rename_i name text rest
    obtain rfl : tx = some [] := h.tx [] rfl
    cases error with
    | some e =>
      cases hstep
      exact ⟨rfl, .same rfl rfl, .of_given_up rfl rfl rfl⟩
    | none =>
      cases hstep
      refine ⟨rfl, .same rfl rfl, fun _ heffects => ?_, h.file, h.progress⟩
      cases heffects
      rfl
  | insert error =>
    cases phase <;> try cases hstep
    rename_i name text rest
    obtain rfl : tx = some [.sql name text] := h.tx _ rfl
    cases error with
    | some e =>
      cases hstep
      exact ⟨rfl, .same rfl rfl, .of_given_up rfl rfl rfl⟩
    | none =>
      obtain ⟨-, hstep⟩ := Option.ite_none_left_eq_some.mp hstep
      cases hstep
      refine ⟨rfl, .same rfl rfl, fun _ heffects => ?_, h.file, h.progress⟩
      cases heffects
      rfl
  | commit outcome =>
    cases phase <;> try cases hstep
    rename_i name text rest
    -- the only statement that changes the rows; the transaction has the SQL and the row in it
    obtain rfl : tx = some [.sql name text, .insert name] := h.tx _ rfl
    have hfile : embedded.readFile name = .ok text := h.file (name, text) rfl
    cases outcome with
    | committed =>
      obtain ⟨committed, hcommit, heq⟩ := Option.map_eq_some_iff.mp hstep
      cases heq
      obtain ⟨hchange, hname⟩ := Db.change_of_commit hfile hcommit
      refine ⟨rfl, hchange, .of_between rfl rfl fun left hleft => ?_⟩
      cases hleft
      exact progress_tail hname ((h.mono hchange.subset).progress (name :: rest) rfl)
    | lost e =>
      -- committed all the same, but this run gives up; a later one finds the row
      obtain ⟨committed, hcommit, heq⟩ := Option.map_eq_some_iff.mp hstep
      cases heq
      exact ⟨rfl, (Db.change_of_commit hfile hcommit).1, .of_given_up rfl rfl rfl⟩
    | failed e =>
      cases hstep
      exact ⟨rfl, .same rfl rfl, .of_given_up rfl rfl rfl⟩
  | rollback =>
    cases phase <;> try cases hstep
    exact ⟨rfl, .same rfl rfl, .of_given_up rfl rfl rfl⟩
  | crash =>
    obtain ⟨-, hstep⟩ := Option.ite_none_left_eq_some.mp hstep
    cases hstep
    exact ⟨rfl, .same rfl rfl, .of_given_up rfl rfl rfl⟩

end Statements

/-! ## All runs -/

namespace State

/-- **The invariant**: the rows are those of the committed migrations, each once; the SQL of each
is that of a file; and what holds of each run. -/
structure Migrated (s : State) : Prop where
  recorded : s.db.versions = s.db.applied.map Prod.fst
  nodup : s.db.versions.Nodup
  source : ∀ m ∈ s.db.applied, ∃ run ∈ s.runs, run.embedded.readFile m.1 = .ok m.2
  runs : ∀ run ∈ s.runs, run.Ok s.db

variable {s t : State}

/-- The files of the runs stay when a run goes on. -/
theorem source_set {r : Nat} {run next : Run} {m : Str × Str} (hr : s.runs[r]? = some run)
    (hsame : next.embedded = run.embedded)
    (h : ∃ run ∈ s.runs, run.embedded.readFile m.1 = .ok m.2) :
    ∃ run ∈ s.runs.set r next, run.embedded.readFile m.1 = .ok m.2 :=
  Tasks.exists_mem_set hr (fun hfile => by rw [hsame]; exact hfile) h

/-- A step keeps the invariant. -/
theorem Migrated.step {a : Step} (h : s.Migrated) (hstep : s.step a = some t) : t.Migrated := by
  cases a with
  | start embedded =>
    cases hstep
    refine ⟨h.recorded, h.nodup, fun m hm => ?_, Tasks.forall_mem_append h.runs
      (.of_given_up rfl rfl rfl)⟩
    obtain ⟨run, hrun, hfile⟩ := h.source m hm
    exact ⟨run, List.mem_append_left _ hrun, hfile⟩
  | run r a =>
    obtain ⟨run, hr, hstep⟩ := Option.bind_eq_some_iff.mp hstep
    obtain ⟨⟨db', next⟩, hrun, rfl⟩ := Option.map_eq_some_iff.mp hstep
    obtain ⟨hsame, hchange, hnext⟩ := (h.runs run (List.mem_of_getElem? hr)).step hrun
    -- the other runs only see more rows than before
    have hruns : ∀ run ∈ s.runs.set r next, run.Ok db' :=
      Tasks.forall_mem_set r (fun run hmem => (h.runs run hmem).mono hchange.subset) hnext
    cases hchange with
    | same versions applied =>
      refine ⟨?_, ?_, fun m hm => ?_, hruns⟩
      · rw [versions, applied]
        exact h.recorded
      · rw [versions]
        exact h.nodup
      · rw [applied] at hm
        exact source_set hr hsame (h.source m hm)
    | @commit name text file fresh versions applied =>
      refine ⟨?_, ?_, fun m hm => ?_, hruns⟩
      · rw [versions, applied, List.map_append, h.recorded]
        rfl
      · rw [versions]
        exact List.nodup_append.mpr ⟨h.nodup, List.nodup_singleton _, fun a ha b hb => by
          rw [List.mem_singleton.mp hb]
          exact fun heq => fresh (heq ▸ ha)⟩
      · rw [applied] at hm
        rcases List.mem_append.mp hm with hold | hnew
        · exact source_set hr hsame (h.source m hold)
        · -- the migration that is committed now, by this run
          rw [List.mem_singleton.mp hnew]
          exact ⟨next, List.mem_of_getElem? (Tasks.set_self hr), by rw [hsame]; exact file⟩

end State

/-- **Migrations are applied once.** In every state that any number of runs reach: no migration is
committed twice; a migration is recorded exactly when its SQL is committed; the SQL is that of the
file; and a run that has returned `nil` leaves all its migrations committed. -/
theorem migrations_once (as : List Step) (s : State)
    (hrun : machine.run machine.init as = some s) :
    (s.db.applied.map Prod.fst).Nodup ∧
      (∀ name, name ∈ s.db.versions ↔ name ∈ s.db.applied.map Prod.fst) ∧
      (∀ m ∈ s.db.applied, ∃ run ∈ s.runs, run.embedded.readFile m.1 = .ok m.2) ∧
      ∀ run ∈ s.runs, run.phase = .returned none → ∀ name ∈ run.names,
        name ∈ s.db.applied.map Prod.fst := by
  have hinit : machine.init.Migrated :=
    ⟨rfl, List.nodup_nil, fun m hm => absurd hm List.not_mem_nil,
      fun run hrun => absurd hrun List.not_mem_nil⟩
  have h : s.Migrated := machine.run_invariant (fun _ _ _ hs hstep => hs.step hstep) hinit hrun
  refine ⟨h.recorded ▸ h.nodup, fun name => by rw [h.recorded], h.source, ?_⟩
  intro run hmem hphase name hname
  have hleft := (h.runs run hmem).progress [] (by rw [hphase]; rfl) name hname
  rw [← h.recorded]
  exact hleft.resolve_right List.not_mem_nil

/-- Two migrations, in a directory with other entries. -/
def twoMigrations : Embedded where
  readDir := .ok [⟨"0002_b.sql".toList, false⟩, ⟨"old.sql".toList, true⟩,
    ⟨"README.md".toList, false⟩, ⟨"0001_a.sql".toList, false⟩]
  readFile name := .ok ("SQL of ".toList ++ name)

/-- The statements of a run that finds the first `n` migrations recorded and takes on the next one,
up to its commit. -/
def takeOn (n : Nat) : List RunStep :=
  .create none :: (List.replicate n (.check none) ++
    [.check none, .begin none, .exec none, .insert none])

/-- Two services start together and both take on the first migration. One commits it but loses the
answer, the other is rejected; a third one applies the second migration after a crash of a
fourth. -/
def racingSteps : List Step :=
  List.flatten [
    [.start twoMigrations, .start twoMigrations],
    (takeOn 0).flatMap fun a => [.run 0 a, .run 1 a],
    [.run 0 (.commit (.lost "connection reset".toList)),
      .run 1 (.commit (.failed "duplicate key".toList)),
      .start twoMigrations, .start twoMigrations],
    (takeOn 1).map (.run 3),
    [.run 3 .crash],
    (takeOn 1).map (.run 2),
    [.run 2 (.commit .committed), .run 2 (.check none)]]

theorem migrations_once_racing :
    ∃ s, machine.run machine.init racingSteps = some s ∧
      (∃ run ∈ s.runs, run.phase = .returned none) ∧
      s.db.versions = ["0001_a.sql".toList, "0002_b.sql".toList] ∧
      (s.db.applied.map Prod.fst).Nodup := by
  obtain ⟨s, hs, hreturned, hversions⟩ := machine.exists_run racingSteps
    (fun s => (∃ run ∈ s.runs, run.phase = .returned none) ∧
      s.db.versions = ["0001_a.sql".toList, "0002_b.sql".toList]) (by decide +kernel)
  exact ⟨s, hs, hreturned, hversions, (migrations_once racingSteps s hs).1⟩

end Roboat.Store
