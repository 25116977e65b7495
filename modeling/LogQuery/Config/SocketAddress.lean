import LogQuery.Http.IpAddress

namespace LogQuery.Config

/-! The address of a socket: a numeric host and a port. -/

inductive Host where
  | v4 (octets : List Nat)
  | v6 (groups : List Nat) (scope : Nat)
  deriving DecidableEq, Repr

structure SocketAddress where
  host : Host
  port : Nat
  deriving DecidableEq, Repr

/-! ## Reading -/

open Http (takeChar takeDecimal takeV4 takeV6 dottedText v6Text)

def maxPort : Nat := 65535

def takePort (input : List Char) : Option (Nat × List Char) := do
  let rest ← takeChar ':' input
  takeDecimal maxPort rest

def maxScope : Nat := Nat.pow 2 32 - 1

def takeScope : List Char → Option (Nat × List Char)
  | '%' :: rest => takeDecimal maxScope rest
  | rest => some (0, rest)

def takeHost : List Char → Option (Host × List Char)
  | '[' :: rest => do
      let (groups, rest) ← takeV6 rest
      let (scope, rest) ← takeScope rest
      let rest ← takeChar ']' rest
      some (.v6 groups scope, rest)
  | input => (takeV4 input).map fun (octets, rest) => (.v4 octets, rest)

def SocketAddress.parse? (text : String) : Option SocketAddress := do
  let (host, rest) ← takeHost text.toList
  let (port, rest) ← takePort rest
  if rest = [] then some ⟨host, port⟩ else none

/-! ## Writing -/

def Host.write : Host → String
  | .v4 octets => dottedText octets
  | .v6 groups scope =>
      "[" ++ v6Text groups ++ (if scope = 0 then "" else "%" ++ scope.repr) ++ "]"

def SocketAddress.write (address : SocketAddress) : String :=
  address.host.write ++ ":" ++ address.port.repr

end LogQuery.Config
