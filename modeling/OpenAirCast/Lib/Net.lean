/-
Lib.Net — addresses, sockets and datagrams.

A socket is known by a number, so that a cloned handle and its original are
the same socket.
-/
import OpenAirCast.Lib.Bytes

namespace OpenAirCast

inductive IpAddr where
  | v4 (octets : BitVec 32)
  | v6 (octets : BitVec 128)
  deriving DecidableEq

structure SocketAddr where
  ip : IpAddr
  port : BitVec 16
  deriving DecidableEq

structure UdpSocket where
  id : Nat
  deriving DecidableEq

/-- Bytes handed to a socket for a destination. -/
structure Datagram where
  socket : UdpSocket
  dest : SocketAddr
  bytes : Bytes
  deriving DecidableEq

end OpenAirCast
