import TransportHandler.Net.Objects

/-!
# Netmasks and prefixes

`prefixToNetmask` and `netmaskToPrefix` convert between an IPv4 prefix length and the
netmask the protocol carries, a 32-bit word in network byte order.
-/

namespace Ipmi.Transport

/-- `be32toh(a.s_addr)`: the four address bytes as a word, the first byte most significant. -/
def be32toh (a : Addr .inet) : BitVec 32 :=
  BitVec.ofNat 32 (a.toList.foldl (fun acc b => acc * 256 + b.toNat) 0)

/-- `htobe32`: the bytes of a word, most significant first. -/
def htobe32 (x : BitVec 32) : Addr .inet :=
  ⟨[UInt8.ofNat (x.toNat / 2 ^ 24), UInt8.ofNat (x.toNat / 2 ^ 16), UInt8.ofNat (x.toNat / 2 ^ 8),
    UInt8.ofNat x.toNat], rfl⟩

/-- `__builtin_ctz`: the number of trailing zero bits of a nonzero word. -/
def ctz (x : BitVec 32) : Nat := ((List.range 32).find? (x.getLsbD ·)).getD 32

/-- `x << n` on a `uint32_t`; the amount is a `Fin 32`, since C leaves larger shifts undefined. -/
def shl32 (x : BitVec 32) (n : Fin 32) : BitVec 32 := x <<< n.val

/-- The netmask of a prefix; a prefix above 32 is refused (`elog<InternalFailure>`). -/
def prefixToNetmask (prefixLength : Nat) : Option (Addr .inet) :=
  if prefixLength > 32 then none
  else if zero : prefixLength = 0 then some (htobe32 0)
  else some (htobe32 (shl32 (BitVec.allOnes 32) ⟨32 - prefixLength, by omega⟩))

/-- The prefix of a netmask; a mask that is not a run of ones from the top is refused. -/
def netmaskToPrefix (netmask : Addr .inet) : Option Nat :=
  let x := be32toh netmask
  if ~~~x &&& (~~~x + 1) ≠ 0 then none
  else some (if x ≠ 0 then Family.inet.defaultPrefix - ctz x else 0)

end Ipmi.Transport
