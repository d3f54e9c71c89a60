import BoundSql.Call
/-!
# Session — calls one after another

A session has a configuration and a database.  A step may put another database in place, and then either sets the
configuration or makes a call.  A call goes by the configuration of the session or, made without it, by the default one.
-/
namespace BoundSql

structure Session where
  config : LogConfig := {}
  database : Database := .answering (.ofRows [])

inductive Route where
  | client
  | standalone
deriving DecidableEq

inductive Task where
  | configure (settings : List LogConfig.Setting)
  | call (route : Route) (c : Call)

structure Step where
  database : Option Database := none
  task : Task

inductive Entry where
  | configured (config : LogConfig)
  | report (r : Report Answer)

namespace Session

def configFor (s : Session) : Route → LogConfig
  | .client => s.config
  | .standalone => {}

/-- One step: the state after it, and what it gives. -/
def step (s : Session) (st : Step) : Session × Entry :=
  let s := { s with database := st.database.getD s.database }
  match st.task with
  | .configure settings =>
    let config := LogConfig.ofSettings settings
    ({ s with config }, .configured config)
  | .call route c => (s, .report (c.run (s.configFor route) s.database))

def run (s : Session) : List Step → List Entry
  | [] => []
  | st :: rest => (s.step st).2 :: (s.step st).1.run rest

end Session
end BoundSql
