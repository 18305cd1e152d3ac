import J2534Oip.CborLink
import J2534Oip.Defs
import Mathlib.Data.List.AList

/-!
# `J2534CannelloniClient`: its state

A device is a UDP port, a channel is its device, and `channelMap` has one `ChannelContext`
for each that is open.
-/

namespace J2534Oip

/-- `sockaddr_in` of an `AF_INET` address -/
structure SockaddrIn where
  sinPort : UInt16
  sinAddr : UInt32
deriving DecidableEq

structure ChannelContext where
  sockfd : Nat
  targetAddr : SockaddrIn
  /-- the thread a `std::thread` stands for, while it is joinable -/
  recvThread : Option Nat
  stopRequested : Bool
  seqNo : UInt8
  msgQueue : List PassthruMsg

structure J2534CannelloniClient where
  defaultHost : List UInt8
  defaultPort : UInt32
  cannelloniVersion : UInt8
  channelMap : AList fun _ : UInt32 => ChannelContext
  lastError : List UInt8
  lastErrorLong : J2534Err

namespace J2534CannelloniClient

/-- `lastError` and `lastErrorLong` set. -/
def fail (client : J2534CannelloniClient) (text : List UInt8) (err : J2534Err) :
    J2534CannelloniClient :=
  { client with lastError := text, lastErrorLong := err }

/-- `it->second` after a change of the context. -/
def setChannel (client : J2534CannelloniClient) (id : UInt32) (ctx : ChannelContext) :
    J2534CannelloniClient :=
  { client with channelMap := client.channelMap.insert id ctx }

/-- A client with the one device 20000 open. -/
def oneOpen : J2534CannelloniClient where
  defaultHost := utf8 "127.0.0.1"
  defaultPort := 20000
  cannelloniVersion := 1
  channelMap := AList.singleton 20000
    { sockfd := 3, targetAddr := ⟨20000, 0x7F000001⟩, recvThread := some 1, stopRequested := false,
      seqNo := 255, msgQueue := [] }
  lastError := utf8 "No error"
  lastErrorLong := .statusNoError

end J2534CannelloniClient

end J2534Oip
