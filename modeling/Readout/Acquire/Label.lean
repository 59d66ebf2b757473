/-
# Labels of requests

A request for chunks carries a label, and the chunks that answer it carry the same.  A label is a
random identifier of version 4: sixteen octets in hexadecimal, in groups of four, two, two, two and
six, of which the seventh tells the version and the ninth the variant.
-/
import Readout.Text.Hex

namespace Readout.Label

/-- The octet that tells the version: its high half is four. -/
def versioned (b : UInt8) : UInt8 := (b &&& 0x0f) ||| 0x40

/-- The octet that tells the variant: its two highest bits are one and zero. -/
def varied (b : UInt8) : UInt8 := (b &&& 0x3f) ||| 0x80

/-- The label with these octets, as far as the version and the variant leave them free. -/
def ofOctets (bs : Bytes) : String :=
  let bs := ((bs.take 16).modify 6 versioned).modify 8 varied
  let group (start size : Nat) : String := Text.hex ((bs.drop start).take size)
  "-".intercalate [group 0 4, group 4 2, group 6 2, group 8 2, group 10 6]

end Readout.Label
