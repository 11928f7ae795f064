import TurtleLogo.Text.Blank
import TurtleLogo.Text.Quoted
import TurtleLogo.Fingerprint

/-!
# The program store

The store keeps programs under trimmed, non-empty names. Deleting a program only marks its row, and
saving under the same name brings the row back; purging removes the rows that have been marked for
long enough. Times are in seconds.
-/

set_option autoImplicit false

namespace TurtleLogo

namespace Store

/-- A row of the store. `removedAt` is the time of its deletion, 0 while it is live. -/
structure Row where
  name : Text
  source : Text
  fingerprint : Text
  createdAt : Int
  updatedAt : Int
  removedAt : Int
  deleted : Bool
  deriving DecidableEq, Repr

inductive Obstacle where
  | closed
  | canceled
  | notFound
  deriving DecidableEq, Repr

def Obstacle.message : Obstacle → Text
  | .closed => utf8 "sql: database is closed"
  | .canceled => utf8 "context canceled"
  | .notFound => utf8 "program not found"

inductive Request where
  | save (name : Text)
  | load (name : Text)
  | delete (name : Text)
  | list
  | purge
  deriving DecidableEq, Repr

def Request.text : Request → Text
  | .save name => utf8 "save " ++ Text.quoted name
  | .load name => utf8 "load " ++ Text.quoted name
  | .delete name => utf8 "delete " ++ Text.quoted name
  | .list => utf8 "list"
  | .purge => utf8 "purge"

inductive Failure where
  | emptyName
  | during (request : Request) (obstacle : Obstacle)
  deriving DecidableEq, Repr

def Failure.message : Failure → Text
  | .emptyName => utf8 "program name is empty"
  | .during request obstacle => utf8 "store: " ++ request.text ++ utf8 ": " ++ obstacle.message

/-- The circumstances of a request: the time, and whether it was called off already. -/
structure Moment where
  now : Int
  canceled : Bool
  deriving DecidableEq, Repr

end Store

structure Store where
  rows : List Store.Row
  closed : Bool
  deriving DecidableEq, Repr

namespace Store

def empty : Store :=
  ⟨[], false⟩

def close (s : Store) : Store :=
  { s with closed := true }

/-- What keeps a store from answering at all. A closed store is noticed first. -/
def obstacle? (s : Store) (m : Moment) : Option Obstacle :=
  if s.closed then some .closed else if m.canceled then some .canceled else none

def row? (s : Store) (name : Text) : Option Row :=
  s.rows.find? fun r => r.name == name

def live? (s : Store) (name : Text) : Option Row :=
  s.rows.find? fun r => r.name == name && !r.deleted

/-- A row with a new source; a deleted one comes back to life. -/
def Row.revise (r : Row) (source : Text) (now : Int) : Row :=
  { r with
    source := source
    fingerprint := Fingerprint.of source
    updatedAt := now
    removedAt := 0
    deleted := false }

def Row.create (name source : Text) (now : Int) : Row :=
  ⟨name, source, Fingerprint.of source, now, now, 0, false⟩

def mapRows (s : Store) (name : Text) (change : Row → Row) : Store :=
  { s with rows := s.rows.map fun r => if r.name == name then change r else r }

def save (s : Store) (m : Moment) (name source : Text) : Except Failure Store :=
  let name := Text.trim name
  if name.isEmpty then .error .emptyName
  else
    match s.obstacle? m with
    | some obstacle => .error (.during (.save name) obstacle)
    | none =>
      match s.row? name with
      | some _ => .ok (s.mapRows name fun r => r.revise source m.now)
      | none => .ok { s with rows := s.rows ++ [Row.create name source m.now] }

def load (s : Store) (m : Moment) (name : Text) : Except Failure Row :=
  let name := Text.trim name
  match s.obstacle? m with
  | some obstacle => .error (.during (.load name) obstacle)
  | none =>
    match s.live? name with
    | some r => .ok r
    | none => .error (.during (.load name) .notFound)

def insertName (name : Text) : List Text → List Text
  | [] => [name]
  | other :: rest =>
    if Text.precedes other name then other :: insertName name rest else name :: other :: rest

def list (s : Store) (m : Moment) : Except Failure (List Text) :=
  match s.obstacle? m with
  | some obstacle => .error (.during .list obstacle)
  | none => .ok (((s.rows.filter fun r => !r.deleted).map (·.name)).foldr insertName [])

def delete (s : Store) (m : Moment) (name : Text) : Except Failure Store :=
  let name := Text.trim name
  match s.obstacle? m with
  | some obstacle => .error (.during (.delete name) obstacle)
  | none =>
    match s.live? name with
    | some _ =>
      .ok (s.mapRows name fun r =>
        if r.deleted then r else { r with removedAt := m.now, deleted := true })
    | none => .error (.during (.delete name) .notFound)

def Row.expired (r : Row) (before : Int) : Bool :=
  r.deleted && r.removedAt < before

def purge (s : Store) (m : Moment) (before : Int) : Except Failure (Nat × Store) :=
  match s.obstacle? m with
  | some obstacle => .error (.during .purge obstacle)
  | none =>
    .ok (s.rows.countP (·.expired before),
      { s with rows := s.rows.filter fun r => !r.expired before })

end Store

end TurtleLogo
