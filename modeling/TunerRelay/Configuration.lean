import TunerRelay.Arguments.Parse

/-!
The program's configuration, read from environment variables. A number that cannot be read counts as
not given.
-/

namespace TunerRelay

structure Configuration where
  /-- The capture tool. -/
  toolPath : String
  deviceIndex : UInt32
  /-- An argument string that replaces all fields below it. -/
  argumentString : Option String
  bindAddress : String
  port : UInt16
  sampleRate : UInt64
  frequency : UInt64
  /-- Tenths of a decibel; zero is automatic gain. -/
  gain : Int32
  ppm : Int32
deriving DecidableEq, Repr

namespace Configuration

/-- The value of a variable, if it is set. -/
abbrev Environment := String → Option String

/-- The variables that are read. -/
def names : List String :=
  ["RTL_SDR_PATH", "DEVICE_INDEX", "RTL_TCP_ARGS", "BIND_ADDRESS", "PORT", "SAMPLE_RATE",
    "FREQUENCY", "GAIN", "PPM"]

def numberFrom {α : Type} (environment : Environment) (name : String)
    (read? : List Char → Option α) (default : α) : α :=
  ((environment name).bind fun value => read? (Text.trim value.toList)).getD default

def ofEnvironment (environment : Environment) : Configuration :=
  { toolPath := (environment "RTL_SDR_PATH").getD "rtl_sdr"
    deviceIndex := numberFrom environment "DEVICE_INDEX" Text.uint32? 0
    argumentString :=
      (environment "RTL_TCP_ARGS").filter fun value => !(Text.trim value.toList).isEmpty
    bindAddress := (environment "BIND_ADDRESS").getD "127.0.0.1"
    port := numberFrom environment "PORT" Text.uint16? 1234
    sampleRate := numberFrom environment "SAMPLE_RATE" Text.uint64? Arguments.defaultSampleRate
    frequency := numberFrom environment "FREQUENCY" Text.uint64? Arguments.defaultFrequency
    gain := numberFrom environment "GAIN" Text.int32? Arguments.defaultGain
    ppm := numberFrom environment "PPM" Text.int32? Arguments.defaultPpm }

def arguments (configuration : Configuration) : Except Arguments.Fault Arguments :=
  match configuration.argumentString with
  | some text => Arguments.parse text
  | none =>
    .ok
      { gain := configuration.gain
        sampleRate := configuration.sampleRate
        frequency := configuration.frequency
        address := configuration.bindAddress
        port := configuration.port
        ppm := configuration.ppm }

end Configuration

end TunerRelay
