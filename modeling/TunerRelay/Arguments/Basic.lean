/-!
The parameters of a session, as its host hands them over, and their printed form.
-/

namespace TunerRelay

structure Arguments where
  /-- Tenths of a decibel; zero is automatic gain. -/
  gain : Int32
  sampleRate : UInt64
  frequency : UInt64
  address : String
  port : UInt16
  ppm : Int32
deriving DecidableEq, Repr

namespace Arguments

def defaultGain : Int32 := 24

def defaultSampleRate : UInt64 := 2048000

def defaultFrequency : UInt64 := 100000000

def defaultPpm : Int32 := 0

/-- Addresses are shorter than this many characters. -/
def addressLimit : Nat := 256

/-- All six flags, the address between double quotes. -/
def text (arguments : Arguments) : String :=
  "-a \"" ++ arguments.address ++ "\" -p " ++ toString arguments.port
    ++ " -f " ++ toString arguments.frequency ++ " -s " ++ toString arguments.sampleRate
    ++ " -g " ++ toString arguments.gain ++ " -P " ++ toString arguments.ppm

end Arguments

end TunerRelay
