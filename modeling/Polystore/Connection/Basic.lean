import Polystore.Value.Conversion

/-!
# Connections

A connection to a relational store answers requests one after the other, and may refuse any of them. A
`Connection` over a type of states is any such behaviour; an `Action` is a program that talks to a
store and keeps a log.
-/

namespace Polystore

/-- The behaviour of a connection: how it answers each request in each of its states. -/
structure Connection (σ : Type) where
  openCursor : σ → Except Error Unit × σ
  /-- Runs a statement on the open cursor; without parameters none are passed. -/
  execute : String → Option (List Value) → σ → Except Error Unit × σ
  /-- The rows of the statement that ran last, if it has a result. -/
  fetch : σ → Except Error (Option (List Row)) × σ
  closeCursor : σ → Except Error Unit × σ
  /-- Runs a query on a cursor that the connection gives to it, and that is not closed. -/
  query : String → σ → Except Error Unit × σ

/-- The importance of a log entry. -/
inductive LogLevel where
  | info
  | warning
  | error
  deriving DecidableEq, Repr

/-- The part of the library that writes a log entry. -/
inductive LogSource where
  | sync
  | migration
  deriving DecidableEq, Repr

/-- An entry of the log. -/
structure LogEntry where
  level : LogLevel
  source : LogSource
  text : String
  deriving DecidableEq, Repr

/-- The state of a store together with the log. -/
structure Session (σ : Type) where
  state : σ
  log : List LogEntry := []

/-- A program over a store: it ends with a value or an error, and the store has moved on in either
case. -/
abbrev Action (σ α : Type) := ExceptT Error (StateM (Session σ)) α

namespace Action

variable {σ α : Type}

/-- Runs a program from a session. -/
def runFrom (a : Action σ α) (s : Session σ) : Except Error α × Session σ :=
  StateT.run (ExceptT.run a) s

/-- The program with a given behaviour. -/
def ofFun (f : Session σ → Except Error α × Session σ) : Action σ α :=
  ExceptT.mk (fun s => f s)

/-- The outcome of a program as a value. -/
def attempt (a : Action σ α) : Action σ (Except Error α) :=
  ofFun fun s => let (r, s) := a.runFrom s; (.ok r, s)

/-- A computation without effects on the store. -/
def lift (r : Except Error α) : Action σ α :=
  ofFun fun s => (r, s)

/-- One request to the store. -/
def step (f : σ → Except Error α × σ) : Action σ α :=
  ofFun fun s => let (r, state) := f s.state; (r, { s with state })

/-- Adds an entry to the log. -/
def note (level : LogLevel) (source : LogSource) (text : String) : Action σ Unit :=
  ofFun fun s => (.ok (), { s with log := s.log ++ [⟨level, source, text⟩] })

/-- A program whose error is replaced by another one. -/
def mapError (f : Error → Error) (a : Action σ α) : Action σ α :=
  ofFun fun s =>
    match a.runFrom s with
    | (.ok v, s) => (.ok v, s)
    | (.error e, s) => (.error (f e), s)

end Action

namespace Connection

variable {σ α : Type}

/-- Runs a program over a cursor, which is closed however the program ends. -/
def withCursor (c : Connection σ) (body : Action σ α) : Action σ α := do
  Action.step c.openCursor
  let outcome ← body.attempt
  Action.step c.closeCursor
  .lift outcome

/-- Sends a statement to the open cursor. Parameters that count as nothing are not passed. -/
def send (c : Connection σ) (sql : String) (parameters : Value) : Action σ Unit :=
  if parameters.truthy then do
    let values ← .lift parameters.elements
    Action.step (c.execute sql (some values))
  else Action.step (c.execute sql none)

/-- Runs one statement and gives its rows, of which a statement without result has none. -/
def run (c : Connection σ) (sql : String) (parameters : Value) : Action σ (List Row) :=
  c.withCursor do
    c.send sql parameters
    let rows ← Action.step c.fetch
    pure (rows.getD [])

/-- Runs statements without parameters, one after the other. -/
def runAll (c : Connection σ) (statements : List String) : Action σ Unit :=
  statements.forM fun sql => do
    let _ ← c.run sql .null

end Connection

end Polystore
