set_option autoImplicit false

namespace BuildDigest

structure Duration where
  seconds : Int64 := 0
  nanos : Int32 := 0
  deriving DecidableEq

namespace Duration

def millis (d : Duration) : Int64 :=
  d.seconds * 1000 + d.nanos.toInt64 / 1000000

def ofMillis (ms : Int64) : Duration :=
  ⟨ms / 1000, (ms % 1000 * 1000000).toInt32⟩

end Duration

end BuildDigest
