import TunerRelay.Text.Visible

/-!
Entries of the program's log. An entry has a level and comes from one part of the program.
-/

namespace TunerRelay.Log

inductive Level where
  | error
  | warn
  | info
  | debug
  | trace
deriving DecidableEq, Repr

/-- The more an entry matters, the lower its number. -/
def Level.number : Level → Nat
  | .error => 1
  | .warn => 2
  | .info => 3
  | .debug => 4
  | .trace => 5

def Level.name : Level → String
  | .error => "ERROR"
  | .warn => "WARN"
  | .info => "INFO"
  | .debug => "DEBUG"
  | .trace => "TRACE"

/-- Every level, by ascending number. -/
def Level.all : List Level := [.error, .warn, .info, .debug, .trace]

/-- The parts of the program that write entries. -/
inductive Scope where
  | program
  | session
  | server
  | pool
  | adapter
  | receiver
deriving DecidableEq, Repr

/-- The path under which a part is known to whoever selects entries. -/
def Scope.path : Scope → String
  | .program => "rtl_tcp_server"
  | .session => "rtl_tcp_server::host::service"
  | .server => "rtl_tcp_server::server"
  | .pool => "rtl_tcp_server::pool"
  | .adapter => "rtl_tcp_server::device::adapter"
  | .receiver => "rtl_tcp_server::device::process"

structure Entry where
  level : Level
  scope : Scope
  text : String
deriving DecidableEq, Repr

namespace Entry

/-- The text as it is written. -/
def shown (entry : Entry) : String := Text.visible entry.text

/-- The entry as it is written, its level right-aligned. -/
def line (entry : Entry) : String :=
  String.ofList (List.replicate (5 - entry.level.name.length) ' ') ++ entry.level.name ++ " "
    ++ entry.shown

end Entry

end TunerRelay.Log
