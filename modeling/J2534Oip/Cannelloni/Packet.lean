import J2534Oip.Defs
import J2534Oip.Lib.Bytes

/-!
# Cannelloni packets

A packet is a 5-byte header and `count` frames.  Both structures are packed and the
machine is little endian.  The receive thread overlays them on its buffer, so they are read
from memory here (`CannelloniDataPacket.read`, `frameId`, `frameLength`, `dataOffset`),
wherever the bytes there came from; `recv` says which of them a datagram replaces.
-/

namespace J2534Oip

open Bytes

/-! ## Layout -/

inductive OpCodes
  | data | ack | nack
deriving DecidableEq

def OpCodes.code : OpCodes → UInt8
  | .data => 0
  | .ack => 1
  | .nack => 2

structure CannelloniDataPacket where
  version : UInt8
  opCode : UInt8
  seqNo : UInt8
  count : UInt16
deriving DecidableEq

/-- `MAX_CAN_FRAME_DATA_LEN` -/
def maxCanFrameDataLen : Nat := 8

structure CannelloniCanFrame where
  canId : UInt32
  length : UInt8
  data : Fin maxCanFrameDataLen → UInt8

/-- `sizeof(CannelloniDataPacket)` -/
def sizeofDataPacket : Nat := 5

/-- `sizeof(CannelloniCanFrame)` -/
def sizeofCanFrame : Nat := 13

def CannelloniDataPacket.toBytes (pkt : CannelloniDataPacket) : List UInt8 :=
  pkt.version :: pkt.opCode :: pkt.seqNo :: leBytes 2 pkt.count.toNat

/-- The bytes of a frame that `PassThruWriteMsgs` sends: no more data than `length` says. -/
def CannelloniCanFrame.toBytes (frame : CannelloniCanFrame) : List UInt8 :=
  leBytes 4 frame.canId.toNat ++ frame.length :: (List.ofFn frame.data).take frame.length.toNat

theorem CannelloniDataPacket.length_toBytes (pkt : CannelloniDataPacket) :
    pkt.toBytes.length = sizeofDataPacket := rfl

theorem CannelloniCanFrame.length_toBytes (frame : CannelloniCanFrame) :
    frame.toBytes.length = 5 + min frame.length.toNat 8 := by
  have hdata : (List.ofFn frame.data).length = 8 := List.length_ofFn
  simp only [CannelloniCanFrame.toBytes, List.length_append, length_leBytes, List.length_cons,
    List.length_take, hdata]
  omega

/-! ## Memory -/

/-- Memory from the start of the receive thread's `buffer`: 1500 bytes that keep what
earlier datagrams left in them, and whatever lies behind. -/
abbrev Mem := Nat → UInt8

/-- `maxPacketSize` -/
def maxPacketSize : Nat := 1500

/-- A datagram that `recv` delivers whole. -/
structure Datagram where
  bytes : List UInt8
  pos : 0 < bytes.length
  le : bytes.length ≤ maxPacketSize

/-- `recv`: the datagram over what the buffer held. -/
def recv (mem : Mem) (d : Datagram) : Mem := fun i => d.bytes.getD i (mem i)

theorem recv_eq_getElem (mem : Mem) (d : Datagram) (i : Nat) (h : i < d.bytes.length) :
    recv mem d i = d.bytes[i] := by
  simp [recv, h]

/-- Reading inside what was received reads the datagram. -/
theorem recv_range (mem : Mem) (d : Datagram) (o n : Nat) (h : o + n ≤ d.bytes.length) :
    (List.range n).map (fun k => recv mem d (o + k)) = (d.bytes.drop o).take n := by
  apply List.ext_getElem
  · simp only [List.length_map, List.length_range, List.length_take, List.length_drop]
    omega
  · intro k hk _
    have hkn : k < n := by simpa using hk
    simp only [List.getElem_map, List.getElem_range, List.getElem_take, List.getElem_drop]
    exact recv_eq_getElem mem d (o + k) (by omega)

/-! ## Reading -/

def CannelloniDataPacket.read (mem : Mem) : CannelloniDataPacket :=
  { version := mem 0, opCode := mem 1, seqNo := mem 2, count := UInt16.ofNat (ofLE [mem 3, mem 4]) }

/-- Offset of `frames[i]`. -/
def frameOffset (i : Nat) : Nat := sizeofDataPacket + i * sizeofCanFrame

/-- `frames[i].can_id` -/
def frameId (mem : Mem) (i : Nat) : UInt32 :=
  UInt32.ofNat (ofLE [mem (frameOffset i), mem (frameOffset i + 1), mem (frameOffset i + 2),
    mem (frameOffset i + 3)])

/-- `frames[i].length` -/
def frameLength (mem : Mem) (i : Nat) : UInt8 := mem (frameOffset i + 4)

/-- Offset of `frames[i].data`. -/
def dataOffset (i : Nat) : Nat := frameOffset i + 5

/-- The bytes of `can_id` in memory are the ID bytes on the wire. -/
theorem leBytes_frameId (mem : Mem) (i : Nat) :
    leBytes 4 (frameId mem i).toNat =
      [mem (frameOffset i), mem (frameOffset i + 1), mem (frameOffset i + 2),
        mem (frameOffset i + 3)] := by
  have hlt := ofLE_lt_of_length (k := 4) [mem (frameOffset i), mem (frameOffset i + 1),
    mem (frameOffset i + 2), mem (frameOffset i + 3)] rfl
  rw [frameId, UInt32.toNat_ofNat', Nat.mod_eq_of_lt (by omega)]
  exact leBytes_ofLE_of_length _ rfl

end J2534Oip
