import Connector.Text.Blank
import Connector.Text.Case

/-!
# Log levels

* `LogLevel` — from nothing at all to every detail.
* `LogLevel.ofText?` — the level of a name in any case; several levels have further names.
* `LogLevel.admits` — a level admits itself and everything that weighs more.
-/

namespace Connector

/-- **How much is logged.** -/
inductive LogLevel where
  | off
  | error
  | warn
  | info
  | debug
  | trace
  deriving DecidableEq

namespace LogLevel

/-- How much detail a level includes. -/
def detail : LogLevel → Nat
  | off => 0
  | error => 1
  | warn => 2
  | info => 3
  | debug => 4
  | trace => 5

/-- The name of a level. -/
def name : LogLevel → String
  | off => "off"
  | error => "error"
  | warn => "warn"
  | info => "info"
  | debug => "debug"
  | trace => "trace"

/-- Whether messages of a level are logged. -/
def admits (level message : LogLevel) : Bool := message.detail ≤ level.detail

/-- **The level of a name**, in any case and with blanks around it. -/
def ofText? (text : String) : Option LogLevel :=
  match Text.upper (Text.trim text) with
  | "TRACE" => some trace
  | "DEBUG" => some debug
  | "INFO" => some info
  | "WARN" | "WARNING" => some warn
  | "ERROR" | "CRITICAL" | "FATAL" => some error
  | "OFF" | "NONE" => some off
  | _ => none

end LogLevel

end Connector
