/-!
# ImageLaunch.Word.Align

Rounding 64-bit addresses up to a power of two.  The rounding works on words: a
value too close to the top of the address space wraps round to zero.
-/

namespace ImageLaunch.Word

/-- Size of a memory page in bytes. -/
def pageSize : UInt64 := 4096

/-- The least multiple of `alignment`, a power of two, that is not below
`value`; zero when that multiple does not fit in a word. -/
def align (value alignment : UInt64) : UInt64 :=
  (value + (alignment - 1)) &&& ~~~(alignment - 1)

/-- Rounds up to a page boundary. -/
def pageAlign (value : UInt64) : UInt64 := align value pageSize

/-- The sum, if it fits in a word. -/
def add? (a b : UInt64) : Option UInt64 :=
  if a.toNat + b.toNat < UInt64.size then some (a + b) else none

end ImageLaunch.Word
