import Coinbend.Database.Defs

/-!
# Nested transactions

Within an outermost block the writes stay uncommitted on one connection, and
inner blocks leave them there whether they raise or not.  A statement that
fails replaces the connection and clears `in_transaction`.  When that happens
in the outermost block itself, its exit has nothing left to undo.  When it
happens in an inner block, the exception ends at that block's exit and the
outermost block goes on without its transaction: its earlier writes are lost,
and the next inner block starts and commits a transaction of its own.
-/

namespace Coinbend

variable {Write : Type}

/-! ## What the blocks promise -/

/-- Both flags have their values from before the block. -/
def LeftBlock.FlagsRestored (left : LeftBlock Write) : Prop :=
  left.after.disableTransactions = left.before.disableTransactions ∧
    left.after.inTransaction = left.before.inTransaction

/-- What was written before the block is as uncommitted as before it. -/
def LeftBlock.KeepsOuter (left : LeftBlock Write) : Prop :=
  left.after.stored = left.before.stored ∧
    ∀ writes, left.before.con.uncommitted = some writes →
      ∃ more, left.after.con.uncommitted = some (writes ++ more)

namespace OutermostBlock

/-- The block as it was left. -/
def left (block : OutermostBlock Write) : LeftBlock Write where
  before := block.before
  after := block.after
  raised := block.inner.raised

/-- The writes the block is to leave in the file. -/
def persisted (block : OutermostBlock Write) : List Write :=
  if block.inner.raised then block.before.stored
  else block.before.stored ++ block.inner.executed

/-- Only the exit of the outermost block commits, all or nothing. -/
structure AllOrNothing (block : OutermostBlock Write) : Prop where
  nothing_early : ∀ db ∈ block.entered :: block.inner.passed,
    db.stored = block.before.stored
  all_or_nothing : block.after.stored = block.persisted
  inner_exceptions : ∀ inner ∈ block.inner.blocks,
    inner.raised = true → inner.KeepsOuter
  flags : ∀ left ∈ block.left :: block.inner.blocks, left.FlagsRestored

end OutermostBlock

namespace DatabaseProgram

/-- A statement of the program, in whatever block, fails. -/
def fails : DatabaseProgram Write → Bool
  | done => false
  | raise => false
  | execute sql rest => !sql.accepted || rest.fails
  | block body rest => body.fails || rest.fails

/-- A statement fails in a block within the program. -/
def failsInBlock : DatabaseProgram Write → Bool
  | done => false
  | raise => false
  | execute sql rest => sql.accepted && rest.failsInBlock
  | block body rest => body.fails || rest.failsInBlock

/-- A statement fails in a block within an outermost block.  Outside of a
block there is no cursor, and the first statement ends the program. -/
def nestedFailure : DatabaseProgram Write → Bool
  | done => false
  | raise => false
  | execute _ _ => false
  | block body rest => body.failsInBlock || rest.nestedFailure

end DatabaseProgram

/-! ## The states of a database -/

namespace Database

/-- No transaction is going on. -/
structure Idle (db : Database Write) : Prop where
  connected : db.con.isOpen = true
  committed : db.con.uncommitted = none
  cursor : db.cur ≠ .usable
  no_transaction : db.inTransaction = false
  transactions_enabled : db.disableTransactions = false

/-- The transaction of the outermost block holds some writes; `nested` tells
whether there is a block around the current one. -/
structure Within
    (nested : Bool)
    (writes : List Write)
    (db : Database Write) : Prop where
  connected : db.con.isOpen = true
  uncommitted : db.con.uncommitted = some writes
  cursor : db.cur = .usable
  in_transaction : db.inTransaction = true
  disabled : db.disableTransactions = nested

/-- A statement failed in the current block. -/
structure Reconnected (nested : Bool) (db : Database Write) : Prop where
  connected : db.con.isOpen = true
  committed : db.con.uncommitted = none
  cursor : db.cur = .stale
  no_transaction : db.inTransaction = false
  disabled : db.disableTransactions = nested

theorem idle_new (stored : List Write) : (Database.new stored).Idle where
  connected := rfl
  committed := rfl
  cursor := by simp [Database.new]
  no_transaction := rfl
  transactions_enabled := rfl

/-! ## Single steps -/

/-- A statement that is accepted adds its write to the transaction. -/
theorem Within.execute_of_accepted
    {nested : Bool}
    {writes : List Write}
    {db : Database Write}
    (within : db.Within nested writes)
    {sql : Statement Write}
    (accepted : sql.accepted = true) :
    ∃ after, db.execute sql = (after, true) ∧
      after.Within nested (writes ++ [sql.write]) ∧
      after.stored = db.stored := by
  refine ⟨_, if_pos ⟨within.cursor, accepted⟩, ?_, rfl⟩
  exact {
    connected := within.connected
    uncommitted := by simp [within.uncommitted]
    cursor := within.cursor
    in_transaction := within.in_transaction
    disabled := within.disabled }

/-- A statement that fails replaces the connection. -/
theorem Within.execute_of_rejected
    {nested : Bool}
    {writes : List Write}
    {db : Database Write}
    (within : db.Within nested writes)
    {sql : Statement Write}
    (rejected : sql.accepted = false) :
    ∃ after, db.execute sql = (after, false) ∧
      after.Reconnected nested ∧ after.stored = db.stored := by
  refine ⟨_, if_neg (by simp [rejected]), ?_, rfl⟩
  exact {
    connected := rfl
    committed := rfl
    cursor := by simp [connect, killConnection, within.cursor]
    no_transaction := rfl
    disabled := within.disabled }

/-- Without a usable cursor every statement fails. -/
theorem Idle.execute
    {db : Database Write}
    (idle : db.Idle)
    (sql : Statement Write) :
    (db.execute sql).2 = false := by
  rw [Database.execute, if_neg (fun both => idle.cursor both.1)]

/-- Entering an outermost block begins a transaction. -/
theorem Idle.enter
    {db : Database Write}
    (idle : db.Idle) :
    ∃ entered,
      Transaction.enter db = .ok ({ disableTransactions := false }, entered) ∧
      entered.Within false [] ∧ entered.stored = db.stored := by
  refine ⟨{ db with
    con := { db.con with uncommitted := some [] }
    cur := .usable
    inTransaction := true }, ?_, ?_, rfl⟩
  · simp [Transaction.enter, startTransaction, Except.map, idle.no_transaction,
      idle.transactions_enabled, idle.connected, idle.committed]
  · exact {
      connected := idle.connected
      uncommitted := rfl
      cursor := rfl
      in_transaction := rfl
      disabled := idle.transactions_enabled }

/-- Entering an inner block only disables transactions. -/
theorem Within.enter
    {nested : Bool}
    {writes : List Write}
    {db : Database Write}
    (within : db.Within nested writes) :
    ∃ entered,
      Transaction.enter db = .ok ({ disableTransactions := nested }, entered) ∧
      entered.Within true writes ∧ entered.stored = db.stored := by
  refine ⟨{ db with disableTransactions := true }, ?_, ?_, rfl⟩
  · simp [Transaction.enter, startTransaction, Except.map, within.in_transaction,
      within.disabled]
  · exact {
      connected := within.connected
      uncommitted := within.uncommitted
      cursor := within.cursor
      in_transaction := within.in_transaction
      disabled := rfl }

/-- The exit of an inner block only restores the flag. -/
theorem exit_nested
    {db : Database Write}
    (disabled : db.disableTransactions = true)
    (saved raised : Bool) :
    Transaction.exit { disableTransactions := saved } raised db =
      { db with disableTransactions := saved } := by
  cases raised <;>
    simp [Transaction.exit, destroyTransaction, finishTransaction, disabled]

theorem Within.exit_nested
    {writes : List Write}
    {db : Database Write}
    (within : db.Within true writes)
    (nested raised : Bool) :
    (Transaction.exit { disableTransactions := nested } raised db).Within
      nested writes := by
  rw [Database.exit_nested within.disabled]
  exact {
    connected := within.connected
    uncommitted := within.uncommitted
    cursor := within.cursor
    in_transaction := within.in_transaction
    disabled := rfl }

/-- The exit of the outermost block commits or rolls back. -/
theorem Within.exit_outermost
    {writes : List Write}
    {db : Database Write}
    (within : db.Within false writes)
    (raised : Bool) :
    let after := Transaction.exit { disableTransactions := false } raised db
    after.Idle ∧
      after.stored = if raised then db.stored else db.stored ++ writes := by
  have connected := within.connected
  have uncommitted := within.uncommitted
  have cursor := within.cursor
  have disabled := within.disabled
  cases raised with
  | true =>
      refine ⟨⟨?_, ?_, ?_, ?_, ?_⟩, ?_⟩ <;>
        simp [Transaction.exit, destroyTransaction, rollback,
          leaveTransaction, closeCursor, connected, cursor, disabled]
  | false =>
      refine ⟨⟨?_, ?_, ?_, ?_, ?_⟩, ?_⟩ <;>
        simp [Transaction.exit, finishTransaction, commit,
          leaveTransaction, closeCursor, connected, cursor, disabled,
          uncommitted]

/-- After a failed statement the exit of the outermost block finds nothing to
roll back. -/
theorem Reconnected.exit_outermost
    {db : Database Write}
    (reconnected : db.Reconnected false) :
    let after := Transaction.exit { disableTransactions := false } true db
    after.Idle ∧ after.stored = db.stored := by
  have connected := reconnected.connected
  have cursor := reconnected.cursor
  have disabled := reconnected.disabled
  have committed := reconnected.committed
  have no_transaction := reconnected.no_transaction
  refine ⟨⟨?_, ?_, ?_, ?_, ?_⟩, ?_⟩ <;>
    simp [Transaction.exit, destroyTransaction, rollback, leaveTransaction,
      closeCursor, connected, cursor, disabled, no_transaction]

end Database

/-! ## Runs within an outermost block -/

namespace DatabaseProgram

/-- The equation of a run through a block that is entered. -/
theorem run_block
    {body rest : DatabaseProgram Write}
    {db entered : Database Write}
    {tx : Transaction}
    (enter : Transaction.enter db = .ok (tx, entered)) :
    let inner := body.run entered
    let after := tx.exit inner.raised inner.db
    (block body rest).run db =
      { rest.run after with
        executed := inner.executed ++ (rest.run after).executed
        passed := entered :: inner.passed ++ after :: (rest.run after).passed
        blocks := inner.blocks ++
          { before := db, after, raised := inner.raised } ::
            (rest.run after).blocks } := by
  simp only [run, enter]

theorem run_execute_of_returned
    {sql : Statement Write}
    {rest : DatabaseProgram Write}
    {db after : Database Write}
    (returned : db.execute sql = (after, true)) :
    (execute sql rest).run db =
      { rest.run after with
        executed := sql.write :: (rest.run after).executed
        passed := after :: (rest.run after).passed } := by
  simp [run, returned]

theorem run_execute_of_raised
    {sql : Statement Write}
    {rest : DatabaseProgram Write}
    {db after : Database Write}
    (raised : db.execute sql = (after, false)) :
    (execute sql rest).run db =
      { db := after, raised := true, executed := []
        passed := [after], blocks := [] } := by
  simp [run, raised]

/-- What a run within an outermost block did while no inner block saw a
statement fail. -/
structure Calm
    (db : Database Write)
    (found : DatabaseRun Write) : Prop where
  stored : found.db.stored = db.stored
  passed : ∀ after ∈ found.passed, after.stored = db.stored
  blocks : ∀ inner ∈ found.blocks, inner.KeepsOuter ∧ inner.FlagsRestored

theorem Calm.execute
    {sql : Statement Write}
    {rest : DatabaseProgram Write}
    {db after : Database Write}
    (returned : db.execute sql = (after, true))
    (stored : after.stored = db.stored)
    (calm : Calm after (rest.run after)) :
    Calm db ((execute sql rest).run db) := by
  rw [run_execute_of_returned returned]
  refine ⟨calm.stored.trans stored, ?_, calm.blocks⟩
  intro passed mem
  rcases List.mem_cons.mp mem with rfl | later
  · exact stored
  · exact (calm.passed passed later).trans stored

/-- A calm inner block leaves the transaction as it was, with more writes. -/
theorem Calm.block
    {body rest : DatabaseProgram Write}
    {nested : Bool}
    {writes more : List Write}
    {db entered : Database Write}
    (within : db.Within nested writes)
    (enter : Transaction.enter db =
      .ok ({ disableTransactions := nested }, entered))
    (entered_stored : entered.stored = db.stored)
    (inner : Calm entered (body.run entered))
    (inner_within : (body.run entered).db.Within true (writes ++ more))
    (outer : ∀ after : Database Write,
      after.Within nested (writes ++ more) → Calm after (rest.run after)) :
    Calm db ((block body rest).run db) := by
  have after_within :=
    inner_within.exit_nested nested (body.run entered).raised
  have after_stored :
      (Transaction.exit { disableTransactions := nested }
        (body.run entered).raised (body.run entered).db).stored =
        db.stored := by
    rw [Database.exit_nested inner_within.disabled]
    exact inner.stored.trans entered_stored
  have rest_calm := outer _ after_within
  rw [run_block enter]
  refine ⟨rest_calm.stored.trans after_stored, ?_, ?_⟩
  · intro passed mem
    simp only [List.cons_append, List.mem_cons, List.mem_append] at mem
    rcases mem with rfl | inside | rfl | later
    · exact entered_stored
    · exact (inner.passed passed inside).trans entered_stored
    · exact after_stored
    · exact (rest_calm.passed passed later).trans after_stored
  · intro left mem
    simp only [List.mem_append, List.mem_cons] at mem
    rcases mem with inside | rfl | later
    · exact inner.blocks left inside
    · refine ⟨⟨after_stored, ?_⟩, ?_, ?_⟩
      · intro before uncommitted
        rw [within.uncommitted] at uncommitted
        cases uncommitted
        exact ⟨more, after_within.uncommitted⟩
      · exact after_within.disabled.trans within.disabled.symm
      · exact after_within.in_transaction.trans within.in_transaction.symm
    · exact rest_calm.blocks left later

/-- Without a failing statement the run stays within the transaction. -/
theorem within_run
    {program : DatabaseProgram Write}
    {nested : Bool}
    {writes : List Write}
    {db : Database Write}
    (within : db.Within nested writes)
    (no_failure : program.fails = false) :
    Calm db (program.run db) ∧
      (program.run db).db.Within nested
        (writes ++ (program.run db).executed) := by
  induction program generalizing nested writes db with
  | done =>
      refine ⟨⟨rfl, by simp [run], by simp [run]⟩, ?_⟩
      simpa [run] using within
  | raise =>
      refine ⟨⟨rfl, by simp [run], by simp [run]⟩, ?_⟩
      simpa [run] using within
  | execute sql rest inductionHypothesis =>
      simp only [fails, Bool.or_eq_false_iff, Bool.not_eq_false'] at no_failure
      obtain ⟨after, executed, after_within, stored⟩ :=
        within.execute_of_accepted no_failure.1
      obtain ⟨calm, rest_within⟩ :=
        inductionHypothesis after_within no_failure.2
      refine ⟨calm.execute executed stored, ?_⟩
      rw [run_execute_of_returned executed]
      simpa using rest_within
  | block body rest body_hypothesis rest_hypothesis =>
      simp only [fails, Bool.or_eq_false_iff] at no_failure
      obtain ⟨entered, enter, entered_within, entered_stored⟩ := within.enter
      obtain ⟨body_calm, body_within⟩ :=
        body_hypothesis entered_within no_failure.1
      have after_within :=
        body_within.exit_nested nested (body.run entered).raised
      refine ⟨Calm.block within enter entered_stored body_calm body_within
        fun after found => (rest_hypothesis found no_failure.2).1, ?_⟩
      rw [run_block enter]
      simpa using (rest_hypothesis after_within no_failure.2).2

/-- Without a failing inner statement the run of a body stays within the
transaction, or ends at a failing statement of its own. -/
theorem calm_run
    {program : DatabaseProgram Write}
    {nested : Bool}
    {writes : List Write}
    {db : Database Write}
    (within : db.Within nested writes)
    (no_failure : program.failsInBlock = false) :
    Calm db (program.run db) ∧
      ((program.run db).db.Within nested
          (writes ++ (program.run db).executed) ∨
        (program.run db).raised = true ∧
          (program.run db).db.Reconnected nested) := by
  induction program generalizing writes db with
  | done =>
      obtain ⟨calm, within⟩ := @within_run _ .done _ _ _ within rfl
      exact ⟨calm, Or.inl within⟩
  | raise =>
      obtain ⟨calm, within⟩ := @within_run _ .raise _ _ _ within rfl
      exact ⟨calm, Or.inl within⟩
  | execute sql rest inductionHypothesis =>
      cases accepted : sql.accepted with
      | false =>
          obtain ⟨after, executed, reconnected, stored⟩ :=
            within.execute_of_rejected accepted
          rw [run_execute_of_raised executed]
          refine ⟨⟨stored, ?_, by simp⟩, Or.inr ⟨rfl, reconnected⟩⟩
          simpa using stored
      | true =>
          simp only [failsInBlock, accepted, Bool.true_and] at no_failure
          obtain ⟨after, executed, after_within, stored⟩ :=
            within.execute_of_accepted accepted
          obtain ⟨calm, ended⟩ := inductionHypothesis after_within no_failure
          refine ⟨calm.execute executed stored, ?_⟩
          rw [run_execute_of_returned executed]
          simpa using ended
  | block body rest body_hypothesis rest_hypothesis =>
      simp only [failsInBlock, Bool.or_eq_false_iff] at no_failure
      obtain ⟨entered, enter, entered_within, entered_stored⟩ := within.enter
      obtain ⟨body_calm, body_within⟩ :=
        within_run entered_within no_failure.1
      have after_within :=
        body_within.exit_nested nested (body.run entered).raised
      refine ⟨Calm.block within enter entered_stored body_calm body_within
        fun after found => (rest_hypothesis found no_failure.2).1, ?_⟩
      rw [run_block enter]
      simpa using (rest_hypothesis after_within no_failure.2).2

/-- A block of a run did not restore the flags. -/
def FlagsLost (found : DatabaseRun Write) : Prop :=
  ∃ left ∈ found.blocks, ¬left.FlagsRestored

/-- A block whose body reconnected does not restore the flags. -/
theorem flagsLost_of_reconnected
    {body rest : DatabaseProgram Write}
    {nested : Bool}
    {writes : List Write}
    {db entered : Database Write}
    (within : db.Within nested writes)
    (enter : Transaction.enter db =
      .ok ({ disableTransactions := nested }, entered))
    (reconnected : (body.run entered).db.Reconnected true) :
    FlagsLost ((block body rest).run db) := by
  rw [run_block enter]
  refine ⟨_, List.mem_append_right _ List.mem_cons_self, ?_⟩
  rintro ⟨_, in_transaction⟩
  rw [Database.exit_nested reconnected.disabled] at in_transaction
  have cleared := reconnected.no_transaction
  rw [in_transaction.trans within.in_transaction] at cleared
  cases cleared

/-- What an inner block lost stays lost for the program around it. -/
theorem FlagsLost.block
    {body rest : DatabaseProgram Write}
    {db entered : Database Write}
    {tx : Transaction}
    (enter : Transaction.enter db = .ok (tx, entered))
    (lost : FlagsLost (body.run entered) ∨
      FlagsLost (rest.run
        (tx.exit (body.run entered).raised (body.run entered).db))) :
    FlagsLost ((DatabaseProgram.block body rest).run db) := by
  rw [run_block enter]
  rcases lost with ⟨left, mem, changed⟩ | ⟨left, mem, changed⟩
  · exact ⟨left, List.mem_append_left _ mem, changed⟩
  · exact ⟨left, List.mem_append_right _ (List.mem_cons_of_mem _ mem), changed⟩

/-- The first statement that fails ends the body it stands in, or an inner
block has lost the flags. -/
theorem reconnected_or_flagsLost
    {program : DatabaseProgram Write}
    {nested : Bool}
    {writes : List Write}
    {db : Database Write}
    (within : db.Within nested writes)
    (failure : program.fails = true) :
    (program.run db).db.Reconnected nested ∨ FlagsLost (program.run db) := by
  induction program generalizing nested writes db with
  | done => cases failure
  | raise => cases failure
  | execute sql rest inductionHypothesis =>
      cases accepted : sql.accepted with
      | false =>
          obtain ⟨after, executed, reconnected, _⟩ :=
            within.execute_of_rejected accepted
          rw [run_execute_of_raised executed]
          exact Or.inl reconnected
      | true =>
          simp only [fails, accepted, Bool.not_true, Bool.false_or] at failure
          obtain ⟨after, executed, after_within, _⟩ :=
            within.execute_of_accepted accepted
          rw [run_execute_of_returned executed]
          exact inductionHypothesis after_within failure
  | block body rest body_hypothesis rest_hypothesis =>
      obtain ⟨entered, enter, entered_within, _⟩ := within.enter
      cases body_fails : body.fails with
      | true =>
          right
          rcases body_hypothesis entered_within body_fails with
            reconnected | lost
          · exact flagsLost_of_reconnected within enter reconnected
          · exact FlagsLost.block enter (Or.inl lost)
      | false =>
          simp only [fails, body_fails, Bool.false_or] at failure
          obtain ⟨_, body_within⟩ := within_run entered_within body_fails
          have after_within :=
            body_within.exit_nested nested (body.run entered).raised
          rcases rest_hypothesis after_within failure with reconnected | lost
          · left
            rw [run_block enter]
            exact reconnected
          · exact Or.inr (FlagsLost.block enter (Or.inr lost))

/-- A statement that fails in an inner block costs the flags. -/
theorem flagsLost_of_failsInBlock
    {program : DatabaseProgram Write}
    {nested : Bool}
    {writes : List Write}
    {db : Database Write}
    (within : db.Within nested writes)
    (failure : program.failsInBlock = true) :
    FlagsLost (program.run db) := by
  induction program generalizing writes db with
  | done => cases failure
  | raise => cases failure
  | execute sql rest inductionHypothesis =>
      simp only [failsInBlock, Bool.and_eq_true] at failure
      obtain ⟨after, executed, after_within, _⟩ :=
        within.execute_of_accepted failure.1
      rw [run_execute_of_returned executed]
      exact inductionHypothesis after_within failure.2
  | block body rest body_hypothesis rest_hypothesis =>
      obtain ⟨entered, enter, entered_within, _⟩ := within.enter
      cases body_fails : body.fails with
      | true =>
          rcases reconnected_or_flagsLost entered_within body_fails with
            reconnected | lost
          · exact flagsLost_of_reconnected within enter reconnected
          · exact FlagsLost.block enter (Or.inl lost)
      | false =>
          simp only [failsInBlock, body_fails, Bool.false_or] at failure
          obtain ⟨_, body_within⟩ := within_run entered_within body_fails
          have after_within :=
            body_within.exit_nested nested (body.run entered).raised
          exact FlagsLost.block enter
            (Or.inr (rest_hypothesis after_within failure))

end DatabaseProgram

/-! ## Whole programs -/

namespace OutermostBlock

/-- The block around a body, entered on a database. -/
def of
    (db entered : Database Write)
    (body : DatabaseProgram Write) : OutermostBlock Write where
  before := db
  entered := entered
  inner := body.run entered
  after := Transaction.exit { disableTransactions := false }
    (body.run entered).raised (body.run entered).db

/-- The exit of an outermost block without a failing inner statement commits
all writes, or none after an exception. -/
theorem allOrNothing_of_calm
    {db entered : Database Write}
    {body : DatabaseProgram Write}
    (idle : db.Idle)
    (entered_within : entered.Within false [])
    (entered_stored : entered.stored = db.stored)
    (no_failure : body.failsInBlock = false) :
    (of db entered body).AllOrNothing ∧ (of db entered body).after.Idle := by
  obtain ⟨calm, ended⟩ := DatabaseProgram.calm_run entered_within no_failure
  have exit :
      (of db entered body).after.Idle ∧
        (of db entered body).after.stored = (of db entered body).persisted := by
    rcases ended with within | ⟨raised, reconnected⟩
    · obtain ⟨after_idle, stored⟩ :=
        within.exit_outermost (body.run entered).raised
      rw [calm.stored, entered_stored] at stored
      exact ⟨after_idle, stored⟩
    · obtain ⟨after_idle, stored⟩ := reconnected.exit_outermost
      simp only [of, persisted, raised, if_true]
      exact ⟨after_idle, stored.trans (calm.stored.trans entered_stored)⟩
  refine ⟨⟨?_, exit.2, fun inner mem _ => (calm.blocks inner mem).1, ?_⟩,
    exit.1⟩
  · intro passed mem
    rcases List.mem_cons.mp mem with rfl | later
    · exact entered_stored
    · exact (calm.passed passed later).trans entered_stored
  · intro left mem
    rcases List.mem_cons.mp mem with rfl | inside
    · exact ⟨exit.1.transactions_enabled.trans idle.transactions_enabled.symm,
        exit.1.no_transaction.trans idle.no_transaction.symm⟩
    · exact (calm.blocks left inside).2

/-- A failing inner statement breaks the promise. -/
theorem not_allOrNothing_of_failsInBlock
    {db entered : Database Write}
    {body : DatabaseProgram Write}
    (entered_within : entered.Within false [])
    (failure : body.failsInBlock = true) :
    ¬(of db entered body).AllOrNothing := by
  intro kept
  obtain ⟨left, mem, lost⟩ :=
    DatabaseProgram.flagsLost_of_failsInBlock entered_within failure
  exact lost (kept.flags left (List.mem_cons_of_mem _ mem))

end OutermostBlock

namespace DatabaseProgram

/-- From an idle database the outermost blocks keep their promise exactly when
no statement fails in a block within one of them. -/
theorem outermostBlocks_iff
    (program : DatabaseProgram Write)
    {db : Database Write}
    (idle : db.Idle) :
    (∀ block ∈ program.outermostBlocks db, block.AllOrNothing) ↔
      program.nestedFailure = false := by
  induction program generalizing db with
  | done => simp [outermostBlocks, nestedFailure]
  | raise => simp [outermostBlocks, nestedFailure]
  | execute sql rest inductionHypothesis =>
      have raised := idle.execute sql
      simp [outermostBlocks, nestedFailure, raised]
  | block body rest body_hypothesis rest_hypothesis =>
      obtain ⟨entered, enter, entered_within, entered_stored⟩ := idle.enter
      have blocks :
          (DatabaseProgram.block body rest).outermostBlocks db =
            OutermostBlock.of db entered body ::
              rest.outermostBlocks (OutermostBlock.of db entered body).after := by
        simp only [outermostBlocks, enter]
        rfl
      rw [blocks, List.forall_mem_cons, nestedFailure, Bool.or_eq_false_iff]
      cases body_fails : body.failsInBlock with
      | true =>
          have broken := @OutermostBlock.not_allOrNothing_of_failsInBlock
            _ db _ _ entered_within body_fails
          simp [broken]
      | false =>
          obtain ⟨kept, after_idle⟩ := OutermostBlock.allOrNothing_of_calm
            idle entered_within entered_stored body_fails
          rw [rest_hypothesis after_idle]
          simp [kept]

/-- On a new `Database` object the outermost blocks of a program are
all-or-nothing exactly when no statement fails in a block within one. -/
theorem allOrNothing_iff
    (program : DatabaseProgram Write)
    (stored : List Write) :
    (∀ block ∈ program.outermostBlocks (Database.new stored),
        block.AllOrNothing) ↔
      program.nestedFailure = false :=
  program.outermostBlocks_iff (Database.idle_new stored)

end DatabaseProgram

/-! ## A proper part of a transaction -/

namespace Sample

/-- A write, an inner block whose statement fails and an inner block that
writes. -/
def reconnectingProgram : DatabaseProgram String :=
  .block
    (.execute { write := "debit", accepted := true }
      (.block (.execute { write := "log", accepted := false } .done)
        (.block (.execute { write := "credit", accepted := true } .done)
          .done)))
    .done

end Sample

/-- The first write is lost, and the second one is committed by the inner
block that made it. -/
theorem reconnectingProgram_persists_part :
    (Sample.reconnectingProgram.outermostBlocks (Database.new [])).map
        (fun block => (block.inner.raised, block.inner.executed,
          block.inner.db.stored, block.after.stored)) =
      [(false, ["debit", "credit"], ["credit"], ["credit"])] ∧
    ¬∀ block ∈ Sample.reconnectingProgram.outermostBlocks (Database.new []),
      block.AllOrNothing := by
  refine ⟨by decide, fun kept => ?_⟩
  have promised := (kept _ List.mem_cons_self).all_or_nothing
  revert promised
  decide

end Coinbend
