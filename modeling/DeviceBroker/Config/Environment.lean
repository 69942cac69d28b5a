import DeviceBroker.Config.Settings
import DeviceBroker.Text.Number

/-!
# Settings from the environment

The settings of a broker as named variables give them. Texts are taken as they
are; a number that cannot be read or does not fit leaves the default.
-/

namespace DeviceBroker.Environment

/-- The 64-bit number that a text holds, with blanks around it ignored. -/
def number? (text : String) : Option UInt64 := Number.word? 10 (Blank.trim text.toList)

def port? (text : String) : Option UInt16 :=
  (number? text).bind fun n => if n < 65536 then some n.toUInt16 else none

def isOn (text : String) : Bool := text.toLower == "true" || text == "1"

def brokerConfig (lookup : String → Option String) : BrokerConfig :=
  let default : BrokerConfig := {}
  let number (name : String) : Option UInt64 := (lookup name).bind number?
  { server :=
      { host := (lookup "AR_HOST").getD default.server.host
        port := ((lookup "AR_PORT").bind port?).getD default.server.port
        maxFrameBytes := (number "AR_MAX_FRAME_BYTES").getD default.server.maxFrameBytes
        maxConnections := (number "AR_MAX_CONNECTIONS").getD default.server.maxConnections }
    dispatcher :=
      { maxPayloadBytes :=
          (number "AR_MAX_PAYLOAD_BYTES").getD default.dispatcher.maxPayloadBytes }
    logging :=
      { logLevel :=
          ((lookup "AR_LOG_LEVEL").or (lookup "RUST_LOG")).getD default.logging.logLevel
        jsonLogs := ((lookup "AR_JSON_LOGS").map isOn).getD default.logging.jsonLogs }
    simDevices := (number "AR_SIM_DEVICES").getD default.simDevices }

/-- Without variables, every setting has its default. -/
theorem brokerConfig_none : brokerConfig (fun _ => none) = {} := rfl

end DeviceBroker.Environment
