import Coinbend.PyError

/-!
# Database transactions

`Database` and the context manager `Transaction` of `database.py` over sqlite,
for code that writes, raises exceptions and nests `with Transaction(db)` blocks
on one `Database` object.  A statement that fails closes the connection, opens
a new one and raises.  An exception that leaves a block ends there: `__exit__`
returns true.
-/

namespace Coinbend

/-- A sqlite connection.  Uncommitted writes are lost when it is closed. -/
structure Connection (Write : Type) where
  isOpen : Bool
  /-- The writes of the transaction that is open on the connection. -/
  uncommitted : Option (List Write)
  deriving DecidableEq

/-- The cursor a `Database` keeps. -/
inductive Cursor
  /-- `None`. -/
  | missing
  | usable
  /-- Closed, on a connection that is open. -/
  | closed
  /-- Of a connection that is closed. -/
  | stale
  deriving DecidableEq

/-- A `Database` object, with the writes its file holds. -/
structure Database (Write : Type) where
  stored : List Write
  con : Connection Write
  cur : Cursor
  inTransaction : Bool
  disableTransactions : Bool
  deriving DecidableEq

/-- One SQL statement: what it writes and whether sqlite accepts it. -/
structure Statement (Write : Type) where
  write : Write
  accepted : Bool
  deriving DecidableEq

namespace Database

variable {Write : Type}

/-- The state `Database()` leaves: connected, without a cursor. -/
def new (stored : List Write) : Database Write where
  stored := stored
  con := { isOpen := true, uncommitted := none }
  cur := .missing
  inTransaction := false
  disableTransactions := false

/-! ## The connection -/

/-- `self.cur.close()`, unless it raises. -/
def closeCursor (db : Database Write) : Option (Database Write) :=
  match db.cur with
  | .usable | .closed => some { db with cur := .closed }
  | .missing | .stale => none

/-- `self.con.commit()`, unless it raises. -/
def commit (db : Database Write) : Option (Database Write) :=
  if db.con.isOpen then
    some { db with
      stored := db.stored ++ db.con.uncommitted.getD []
      con := { db.con with uncommitted := none } }
  else none

/-- `self.con.rollback()`, unless it raises. -/
def rollback (db : Database Write) : Option (Database Write) :=
  if db.con.isOpen then
    some { db with con := { db.con with uncommitted := none } }
  else none

/-- `kill_connection`. -/
def killConnection (db : Database Write) : Database Write :=
  { db with
    con := { isOpen := false, uncommitted := none }
    cur := if db.cur = .missing then .missing else .stale
    inTransaction := false }

/-- `connect`, which blocks until there is a connection. -/
def connect (db : Database Write) : Database Write :=
  { db with con := { isOpen := true, uncommitted := none } }

/-- `execute`: the database afterwards, and whether it returned. -/
def execute (db : Database Write) (sql : Statement Write) :
    Database Write × Bool :=
  if db.cur = .usable ∧ sql.accepted then
    ({ db with
        con := { db.con with
          uncommitted := some (db.con.uncommitted.getD [] ++ [sql.write]) } },
      true)
  else (db.killConnection.connect, false)

/-! ## Transactions -/

/-- `start_transaction`. -/
def startTransaction (db : Database Write) :
    Except PyError (Database Write × Bool) :=
  if db.disableTransactions then .ok (db, true)
  else if db.inTransaction then
    .error (.exception "Already in a transaction.")
  else if db.con.isOpen = false then .ok (db, false)
  else
    match db.con.uncommitted with
    -- sqlite refuses to begin a transaction within one.
    | some _ => .ok ({ db with cur := .usable }, false)
    | none =>
        .ok ({ db with
          con := { db.con with uncommitted := some [] }
          cur := .usable
          inTransaction := true }, true)

/-- What `finish_transaction` and `destroy_transaction` do after the commit or
the rollback. -/
def leaveTransaction (db : Database Write) : Database Write × Bool :=
  match db.closeCursor with
  | some closed => ({ closed with inTransaction := false }, true)
  | none => (db, false)

/-- `finish_transaction`. -/
def finishTransaction (db : Database Write) : Database Write × Bool :=
  if db.disableTransactions then (db, true)
  else
    match db.commit with
    | some committed => committed.leaveTransaction
    | none => (db, false)

/-- `destroy_transaction`. -/
def destroyTransaction (db : Database Write) : Database Write × Bool :=
  if db.disableTransactions then (db, true)
  else
    match db.rollback with
    | some undone => undone.leaveTransaction
    | none => (db, false)

end Database

/-- `Transaction`: the flag `__enter__` saves. -/
structure Transaction where
  disableTransactions : Bool

namespace Transaction

variable {Write : Type}

/-- `__enter__`. -/
def enter (db : Database Write) :
    Except PyError (Transaction × Database Write) :=
  let tx : Transaction := { disableTransactions := db.disableTransactions }
  let db :=
    if db.inTransaction then { db with disableTransactions := true } else db
  db.startTransaction.map fun (db, _) => (tx, db)

/-- `__exit__`, after an exception or without one. -/
def exit (tx : Transaction) (raised : Bool) (db : Database Write) :
    Database Write :=
  let db :=
    if raised then db.destroyTransaction.1
    else
      let (db, finished) := db.finishTransaction
      if finished then db else db.destroyTransaction.1
  { db with disableTransactions := tx.disableTransactions }

end Transaction

/-- Code that uses the database, up to where it ends or raises. -/
inductive DatabaseProgram (Write : Type)
  | done
  | raise
  | execute (sql : Statement Write) (rest : DatabaseProgram Write)
  /-- `with Transaction(db)` around a body, and what follows it. -/
  | block (body rest : DatabaseProgram Write)

/-- A block that was left: the database before and after it, and whether an
exception reached its exit. -/
structure LeftBlock (Write : Type) where
  before : Database Write
  after : Database Write
  raised : Bool

/-- What a run of a program leaves and what it went through. -/
structure DatabaseRun (Write : Type) where
  db : Database Write
  /-- The program ended with an exception. -/
  raised : Bool
  /-- The writes whose `execute` returned, in order. -/
  executed : List Write
  /-- The databases after the single steps, in order. -/
  passed : List (Database Write)
  /-- The blocks left, in order. -/
  blocks : List (LeftBlock Write)

/-- A block entered outside of any other: the database before and after
entering it, the run of its body and the database after its exit. -/
structure OutermostBlock (Write : Type) where
  before : Database Write
  entered : Database Write
  inner : DatabaseRun Write
  after : Database Write

namespace DatabaseProgram

variable {Write : Type}

/-- Run a program. -/
def run : DatabaseProgram Write → Database Write → DatabaseRun Write
  | done, db =>
      { db, raised := false, executed := [], passed := [], blocks := [] }
  | raise, db =>
      { db, raised := true, executed := [], passed := [], blocks := [] }
  | execute sql rest, db =>
      let (after, returned) := db.execute sql
      if returned then
        let rest := rest.run after
        { rest with
          executed := sql.write :: rest.executed
          passed := after :: rest.passed }
      else
        { db := after, raised := true, executed := []
          passed := [after], blocks := [] }
  | block body rest, db =>
      match Transaction.enter db with
      | .error _ =>
          { db, raised := true, executed := [], passed := [], blocks := [] }
      | .ok (tx, entered) =>
          let inner := body.run entered
          let after := tx.exit inner.raised inner.db
          let rest := rest.run after
          { rest with
            executed := inner.executed ++ rest.executed
            passed := entered :: inner.passed ++ after :: rest.passed
            blocks := inner.blocks ++
              { before := db, after, raised := inner.raised } :: rest.blocks }

/-- The outermost blocks of a program that starts outside of any. -/
def outermostBlocks :
    DatabaseProgram Write → Database Write → List (OutermostBlock Write)
  | done, _ => []
  | raise, _ => []
  | execute sql rest, db =>
      let (after, returned) := db.execute sql
      if returned then rest.outermostBlocks after else []
  | block body rest, db =>
      match Transaction.enter db with
      | .error _ => []
      | .ok (tx, entered) =>
          let inner := body.run entered
          let after := tx.exit inner.raised inner.db
          { before := db, entered, inner, after } ::
            rest.outermostBlocks after

end DatabaseProgram
end Coinbend
