/-!
Random symbols from random bytes. A byte above the greatest multiple of 62 is thrown away, so that
every symbol is as likely as every other.
-/

namespace Snowflake.Draw

def ofByte? (b : UInt8) : Option (Fin 62) :=
  if b.toNat < 248 then some (Fin.ofNat 62 b.toNat) else none

def ofBytes (bs : List UInt8) : List (Fin 62) :=
  bs.filterMap ofByte?

end Snowflake.Draw
