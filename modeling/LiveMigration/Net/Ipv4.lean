import LiveMigration.Text.Decimal

/-! IPv4 addresses as four octets, written as a dotted quad. Reading is strict: exactly four
    parts, each of one to three ASCII digits with no leading zero (a lone `0` is fine), each at
    most 255, and no other character, blank or sign. Socket addresses are an address and a port,
    written `a.b.c.d:port`. -/

namespace LiveMigration
namespace Net

/-- An IPv4 address. --/
structure Ipv4 where
  a : UInt8
  b : UInt8
  c : UInt8
  d : UInt8
deriving DecidableEq, Repr

/-- One part of a dotted quad: one to three digits, no leading zero, at most 255. --/
def readOctet? (ds : List Char) : Option UInt8 :=
  if Text.allDigits ds && ds.length ≤ 3 && !(ds.length > 1 && ds.head? = some '0') then
    let v := Text.digitsValue ds
    if v ≤ 255 then some v.toUInt8 else none
  else none

namespace Ipv4

/-- Reads a dotted quad. --/
def read? (s : String) : Option Ipv4 :=
  match s.toList.splitOn '.' with
  | [p, q, r, t] => do
    let a ← readOctet? p
    let b ← readOctet? q
    let c ← readOctet? r
    let d ← readOctet? t
    pure ⟨a, b, c, d⟩
  | _ => none

/-- The dotted quad of an address. --/
def render (ip : Ipv4) : String :=
  s!"{ip.a.toNat}.{ip.b.toNat}.{ip.c.toNat}.{ip.d.toNat}"

end Ipv4

/-- An IPv4 address with a port. --/
structure SocketAddr where
  ip : Ipv4
  port : UInt16
deriving DecidableEq, Repr

/-- `a.b.c.d:port`. --/
def SocketAddr.render (sa : SocketAddr) : String := s!"{sa.ip.render}:{sa.port.toNat}"

end Net
end LiveMigration
