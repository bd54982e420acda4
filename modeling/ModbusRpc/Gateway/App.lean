import ModbusRpc.Gateway.Http
import ModbusRpc.Link.Execute
import ModbusRpc.Log.Setup
import ModbusRpc.Settings.Basic

/-! # The gateway

The gateway is started with its settings, answers requests, and is shut down. It has one link, which
is opened by the first call that needs it and closed at the end.
-/

namespace ModbusRpc

def gatewayVersion : String := "0.1.0"

structure ServiceConfig where
  mode : Mode
  wire : Wire

/-- The parts of a running gateway. Each may be taken away. -/
structure App where
  settings : Option Settings
  /-- The link that is closed at the end. -/
  transport : Option Wire
  service : Option ServiceConfig

namespace App

def ofSettings (s : Settings) : App := ⟨some s, some s.wire, some ⟨s.mode, s.wire⟩⟩

def greeting (s : Settings) : Text :=
  "Starting Modbus Gateway v" ++ gatewayVersion ++ " (" ++ s.linkDescription ++ ")"

/-- A gateway lacks a part that it is asked for. -/
inductive PartFault where
  | notInitialized
  deriving DecidableEq, Repr

def PartFault.message : PartFault → String
  | notInitialized => "App not initialized"

def require {α : Type} : Option α → Except PartFault α
  | some part => .ok part
  | none => .error .notInitialized

def getSettings (a : App) : Except PartFault Settings := require a.settings

def getService (a : App) : Except PartFault ServiceConfig := require a.service

/-- Starts a gateway. The log level in the settings may be refused, which leaves a log all the
same. -/
def start (log : Log) (s : Settings) : Log × Except LevelFault (App × List LogRecord) :=
  match log.setup s.logLevel with
  | (log, .error fault) => (log, .error fault)
  | (log, .ok ()) =>
    (log, .ok (ofSettings s, [⟨.info, .app, greeting s⟩]))

def about : Json :=
  .ofFields [("name", .ofString "Modbus Gateway"), ("version", .ofString gatewayVersion),
    ("status", .ofString "running")]

def health (a : App) : Json :=
  match a.settings, a.service with
  | some s, some _ =>
    .ofFields [("status", .ofString "healthy"), ("mode", .ofString s.mode.name),
      ("link", .text s.linkDescription)]
  | _, _ => .ofFields [("status", .ofString "unhealthy"), ("mode", .null), ("link", .null)]

def answer (service : ServiceConfig) (plan : Plan Request) (c : Call) : Activity Request Reply := do
  let outcome ←
    Service.call (Link.execute service.wire plan) service.mode c.method c.params
  match outcome with
  | .ok _ => pure (c.reply outcome)
  | .error fault => fun l => ⟨c.reply outcome, l, [], fault.notices ++ fault.complaints c.method⟩

/-- Answers a request for a call. The service has to be there before the call is checked. -/
def respondRpc (a : App) (plan : Plan Request) (r : Http.Request) :
    Activity Request Http.Response := do
  match Http.readBody r with
  | .error response => pure response
  | .ok body =>
    match a.getService with
    | .error _ => pure (Http.crashed .noService)
    | .ok service =>
      match Http.callOf body with
      | .error response => pure response
      | .ok c =>
        let reply ← answer service plan c
        pure (Http.answered reply.toJson)

def respond (a : App) (plan : Plan Request) (r : Http.Request) : Activity Request Http.Response :=
  match Http.route r with
  | .error response => pure response
  | .ok .root => pure (Http.ok about)
  | .ok .health => pure (Http.answered a.health)
  | .ok .rpc => a.respondRpc plan r

def closeLink (a : App) : Activity Request Unit :=
  match a.transport with
  | some w => Link.closeClient w
  | none => pure ()

def stop (a : App) : Activity Request Unit := do
  Activity.log .info .app "Shutting down..."
  a.closeLink

end App

end ModbusRpc
