import Appraisal.Postgres.Row
import Appraisal.Postgres.Statement
import Appraisal.Program

/-!
# Exchanges with the server

An exchange is a program that acquires connections from the pool and sends statements over them.
Every statement is answered by rows and a count of affected rows, or fails.
-/

namespace Appraisal.Postgres

/-- A statement with its parameters. -/
structure Bound where
  /-- The statement. -/
  statement : Statement
  /-- The values of its placeholders, in order. -/
  parameters : List Cell
deriving DecidableEq

/-- What the server answers to a statement. -/
structure Reply where
  /-- The rows. -/
  rows : List Row
  /-- How many rows the statement changed. -/
  affected : Nat

/-- A request to the pool, to the server or for random bits. -/
inductive Request
  /-- Acquires a connection. -/
  | acquire
  /-- Sends a statement. -/
  | send (bound : Bound)
  /-- Draws 128 random bits. -/
  | draw

/-- The answer to a request. -/
def Request.Answer : Request → Type
  | acquire => Except Failure Unit
  | send _ => Except Failure Reply
  | draw => Uuid

/-- A program that talks to the server. -/
abbrev Exchange (α : Type) : Type := Program Request Request.Answer α

/-- An exchange that may fail. -/
abbrev FallibleExchange (α : Type) : Type := ExceptT Failure Exchange α

namespace Exchange

/-- Acquires a connection. -/
def acquire : FallibleExchange Unit := ExceptT.mk (.call .acquire .pure)

/-- Sends a statement with parameters. -/
def send (statement : Statement) (parameters : List Cell) : FallibleExchange Reply :=
  ExceptT.mk (.call (.send ⟨statement, parameters⟩) .pure)

/-- A fresh identifier. -/
def freshUuid : Exchange Uuid := .call .draw fun bits => .pure bits.random

/-- The outcome of decoding as an exchange. -/
def decoded {α : Type} (result : Except Failure α) : FallibleExchange α := ExceptT.mk (pure result)

end Exchange

end Appraisal.Postgres
