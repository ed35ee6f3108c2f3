import Playback.Text.Quoted

set_option autoImplicit false

namespace Playback

inductive Level where
  | error
  | warn
  | info
  | debug
  deriving DecidableEq, Repr

def Level.name : Level → String
  | error => "ERROR"
  | warn => "WARN"
  | info => "INFO"
  | debug => "DEBUG"

/-- How much detail a level lets through. -/
def Level.detail : Level → Nat
  | error => 1
  | warn => 2
  | info => 3
  | debug => 4

/-- The parts that write log records. -/
inductive Source where
  | context
  | recording
  | sharedKeys
  | externalCalls
  | forks
  deriving DecidableEq, Repr

/-- The name by which log filters select a part. -/
def Source.path : Source → String
  | context => "replay_ipc::Child::context"
  | recording => "replay_ipc::Child::recording"
  | sharedKeys => "replay_ipc::Child::shared_db"
  | externalCalls => "replay_ipc::Child::external_call"
  | forks => "replay_ipc::Child::fork"

inductive FieldValue where
  | text (value : String)
  /-- A text that is never put between quotes. -/
  | bare (value : String)
  | number (value : Nat)
  | signed (value : Int)
  deriving DecidableEq, Repr

namespace FieldValue

def plain : FieldValue → String
  | text value => value
  | bare value => value
  | number value => toString value
  | signed value => toString value

def quoted : FieldValue → String
  | text value => Quoted.quote value
  | other => other.plain

end FieldValue

structure Record where
  level : Level
  source : Source
  message : String
  fields : List (String × FieldValue) := []
  deriving DecidableEq, Repr

namespace Record

/-- The message counts as a field. -/
def fieldNames (record : Record) : List String := "message" :: record.fields.map Prod.fst

def withFields (show? : FieldValue → String) (fields : List (String × FieldValue)) : String :=
  String.join (fields.map fun field => " " ++ field.1 ++ "=" ++ show? field.2)

/-- The record with all its fields bare. -/
def plain (record : Record) : String :=
  record.level.name ++ " " ++ record.message ++ withFields FieldValue.plain record.fields

/-- The record as a line of a log, behind the name of the thread that speaks. -/
def line (thread : String) (record : Record) : String :=
  record.level.name ++ " " ++ thread ++ " " ++ record.message ++
    withFields FieldValue.quoted record.fields

end Record

end Playback
