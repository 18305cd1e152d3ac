import J2534Oip.Defs
import Mathlib.Algebra.Group.Nat.Defs
import Mathlib.Data.List.Basic
import Mathlib.Logic.Function.Basic

/-!
# The TCP receive buffer

`ExJ2534OIPSocks::recv_thread` receives a length and then that many bytes into one buffer of
8192, skips ping frames, and appends the rest to `m_recv_buffer` as messages of 4128 bytes
at most.  Nothing compares the length with either size, and the four bytes of the ping test
are those of the frame and, where it is shorter, of frames before it:

    Received refuses buffer frames ↔
      Fits refuses buffer frames ∧ NoFalsePing refuses buffer frames           (received_iff)
-/

namespace J2534Oip

namespace ExJ2534OIPSocks

/-! ## One iteration -/

def ntohl (x : UInt32) : UInt32 :=
  ((x &&& 0xFF) <<< 24) ||| ((x &&& 0xFF00) <<< 8) ||| ((x >>> 8) &&& 0xFF00) ||| (x >>> (24 : UInt32))

/-- A frame as it arrives, and what `GetTime` returns if it is stored. -/
structure Frame where
  networkMsgDataSize : UInt32
  payload : List UInt8
  payload_length : payload.length = (ntohl networkMsgDataSize).toNat
  getTime : UInt32

/-- The thread's buffer, and `m_recv_buffer` up to `m_recv_buffer_size`. -/
structure Receiver where
  buffer : Nat → UInt8
  mRecvBuffer : List PassthruMsg

/-- `buffer` with a payload received into it. -/
def overwrite (buffer : Nat → UInt8) (payload : List UInt8) (j : Nat) : UInt8 :=
  if j < payload.length then payload.getD j 0 else buffer j

/-- `recv` of a payload with `MSG_WAITALL`: its result and the buffer; `none` where it writes
beyond `buffer[8192]`.  A length from `2 ^ 31` on is negative as an `int`; `refuses` tells
whether `recv` fails on it. -/
def recvPayload (refuses : Bool) (buffer : Nat → UInt8) (payload : List UInt8) :
    Option (Int × (Nat → UInt8)) :=
  if refuses = true ∧ 2 ^ 31 ≤ payload.length then some (-1, buffer)
  else if 8192 < payload.length then none
  else some (payload.length, overwrite buffer payload)

/-- The ping test. -/
def zeros (buffer : Nat → UInt8) : Bool :=
  buffer 0 == 0 && buffer 1 == 0 && buffer 2 == 0 && buffer 3 == 0

/-- The message pushed. -/
def message (buffer : Nat → UInt8) (f : Frame) : PassthruMsg :=
  { PassthruMsg.ofBytes ((List.range f.payload.length).map buffer) with timestamp := f.getTime }

/-- One iteration of `recv_thread`, on a frame; `none` where it writes beyond `buffer`,
`m_recv_buffer` or `Data`. -/
def recvIteration (refuses : Bool) (s : Receiver) (f : Frame) : Option Receiver :=
  let hostMsgDataSize := ntohl f.networkMsgDataSize
  match recvPayload refuses s.buffer f.payload with
  | none => none
  | some (received, buffer) =>
    -- an `int` compared with a `uint32_t`
    if UInt32.ofInt received ≠ hostMsgDataSize then some { s with buffer := buffer }
    else if zeros buffer then some { s with buffer := buffer }
    else if 100000 ≤ s.mRecvBuffer.length then none
    else if 4128 < hostMsgDataSize.toNat then none
    else some { buffer := buffer, mRecvBuffer := s.mRecvBuffer ++ [message buffer f] }

/-- `recv_thread`, one iteration a frame. -/
def recvThread (refuses : Bool) (s : Receiver) (frames : List Frame) : Option Receiver :=
  frames.foldlM (recvIteration refuses) s

/-! ## The property -/

/-- A ping frame. -/
def isPing (f : Frame) : Bool := decide (4 ≤ f.payload.length) && f.payload.take 4 == [0, 0, 0, 0]

/-- All lengths are between 1 and 4128, and there is room for all frames. -/
def InRange (frames : List Frame) : Prop :=
  (∀ f ∈ frames, 1 ≤ f.payload.length ∧ f.payload.length ≤ 4128) ∧ frames.length ≤ 100000

/-- `DataSize` and the bytes it counts. -/
def content (msg : PassthruMsg) : Nat × List UInt8 :=
  (msg.dataSize.toNat, msg.bytes 0 msg.dataSize.toNat)

/-- Nothing is written out of bounds, and frames in range are all there, pings apart. -/
structure Received (refuses : Bool) (buffer : Nat → UInt8) (frames : List Frame) : Prop where
  inBounds : (recvThread refuses { buffer := buffer, mRecvBuffer := [] } frames).isSome
  exact : InRange frames → ∀ s,
    recvThread refuses { buffer := buffer, mRecvBuffer := [] } frames = some s →
      s.mRecvBuffer.map content =
        (frames.filter fun f => !isPing f).map fun f => (f.payload.length, f.payload)

/-! ## What decides it -/

/-- `recv` fails on the payload. -/
def refused (refuses : Bool) (f : Frame) : Bool := refuses && decide (2 ^ 31 ≤ f.payload.length)

/-- The buffer as it is at the ping test. -/
def refill (refuses : Bool) (buffer : Nat → UInt8) (f : Frame) : Nat → UInt8 :=
  if refused refuses f then buffer else overwrite buffer f.payload

/-- Each frame with the buffer at its ping test. -/
def tests (refuses : Bool) : (Nat → UInt8) → List Frame → List ((Nat → UInt8) × Frame)
  | _, [] => []
  | buffer, f :: frames =>
    (refill refuses buffer f, f) :: tests refuses (refill refuses buffer f) frames

/-- The frame gets past the comparison of the lengths, where -1 is `2 ^ 32 - 1`, and the
ping test. -/
def pushes (refuses : Bool) (p : (Nat → UInt8) × Frame) : Bool :=
  !zeros p.1 && (!refused refuses p.2 || p.2.payload.length == 2 ^ 32 - 1)

def pushed (refuses : Bool) (buffer : Nat → UInt8) (frames : List Frame) :
    List ((Nat → UInt8) × Frame) :=
  (tests refuses buffer frames).filter (pushes refuses)

/-- The frames fit where they are written, with `count` messages there already. -/
structure Fits (refuses : Bool) (init : Nat → UInt8) (count : Nat) (frames : List Frame) :
    Prop where
  buffer : ∀ f ∈ frames, refused refuses f = false → f.payload.length ≤ 8192
  data : ∀ p ∈ pushed refuses init frames, p.2.payload.length ≤ 4128
  room : count + (pushed refuses init frames).length ≤ 100000

/-- No frame of one to three zero bytes meets zeros left behind it by earlier frames. -/
def NoFalsePing (refuses : Bool) (buffer : Nat → UInt8) (frames : List Frame) : Prop :=
  InRange frames → ∀ p ∈ tests refuses buffer frames, p.2.payload.length < 4 → zeros p.1 = false

/-! ## One iteration -/

theorem Frame.length_lt (f : Frame) : f.payload.length < 2 ^ 32 := by
  rw [f.payload_length]
  exact UInt32.toNat_lt _

theorem refused_iff (refuses : Bool) (f : Frame) :
    refused refuses f = true ↔ refuses = true ∧ 2 ^ 31 ≤ f.payload.length := by
  rw [refused, Bool.and_eq_true, decide_eq_true_iff]

/-- A refused frame is pushed only where its length is -1 to `recv`. -/
theorem pushes_eq (refuses : Bool) (p : (Nat → UInt8) × Frame) :
    pushes refuses p = true ↔
      zeros p.1 = false ∧ (refused refuses p.2 = false ∨ p.2.payload.length = 2 ^ 32 - 1) := by
  rw [pushes, Bool.and_eq_true, Bool.or_eq_true, Bool.not_eq_true', Bool.not_eq_true', beq_iff_eq]

/-- What `recv` returns, as the `uint32_t` it is compared with. -/
theorem received_eq_iff (f : Frame) :
    UInt32.ofInt (f.payload.length : Int) = ntohl f.networkMsgDataSize ∧
      (UInt32.ofInt (-1) = ntohl f.networkMsgDataSize ↔ f.payload.length = 2 ^ 32 - 1) := by
  constructor
  · have hlt := f.length_lt
    have hmod : ((f.payload.length : Int) % 2 ^ 32).toNat = f.payload.length := by omega
    rw [UInt32.ofInt, hmod, f.payload_length, UInt32.ofNat_toNat]
  · rw [f.payload_length, ← UInt32.toNat_inj]
    exact eq_comm

/-- Unless it writes beyond the buffer, `recv` leaves it as it is at the ping test, and the
comparison of the lengths lets through what it accepted, and the length that -1 is. -/
theorem recvPayload_cases (refuses : Bool) (buffer : Nat → UInt8) (f : Frame) :
    (refused refuses f = false ∧ 8192 < f.payload.length) ∧
        recvPayload refuses buffer f.payload = none ∨
      ¬(refused refuses f = false ∧ 8192 < f.payload.length) ∧ ∃ received,
        recvPayload refuses buffer f.payload = some (received, refill refuses buffer f) ∧
        (UInt32.ofInt received = ntohl f.networkMsgDataSize ↔
          refused refuses f = false ∨ f.payload.length = 2 ^ 32 - 1) := by
  obtain ⟨hwhole, hminus⟩ := received_eq_iff f
  unfold recvPayload refill
  cases hrefused : refused refuses f with
  | true =>
    have hr := (refused_iff refuses f).1 hrefused
    refine Or.inr ⟨fun h => Bool.noConfusion h.1, -1, by rw [if_pos hr]; rfl, ?_⟩
    rw [hminus]
    simp
  | false =>
    have hr : ¬(refuses = true ∧ 2 ^ 31 ≤ f.payload.length) := by
      rw [← refused_iff, hrefused]
      exact Bool.false_ne_true
    rw [if_neg hr]
    by_cases hlong : 8192 < f.payload.length
    · exact Or.inl ⟨⟨rfl, hlong⟩, if_pos hlong⟩
    · refine Or.inr ⟨fun h => hlong h.2, f.payload.length, if_neg hlong, ?_⟩
      exact iff_of_true hwhole (Or.inl rfl)

theorem recvIteration_eq (refuses : Bool) (s : Receiver) (f : Frame) :
    recvIteration refuses s f =
      if refused refuses f = false ∧ 8192 < f.payload.length then none
      else if pushes refuses (refill refuses s.buffer f, f) then
        if f.payload.length ≤ 4128 ∧ s.mRecvBuffer.length < 100000 then
          some { buffer := refill refuses s.buffer f,
                 mRecvBuffer := s.mRecvBuffer ++ [message (refill refuses s.buffer f) f] }
        else none
      else some { s with buffer := refill refuses s.buffer f } := by
  have hpushes := pushes_eq refuses (refill refuses s.buffer f, f)
  unfold recvIteration
  rcases recvPayload_cases refuses s.buffer f with
    ⟨hlong, hnone⟩ | ⟨hlong, received, hsome, hreceived⟩
  · rw [if_pos hlong, hnone]
  · rw [if_neg hlong, hsome]
    simp only [← f.payload_length]
    by_cases hpush : pushes refuses (refill refuses s.buffer f, f) = true
    · obtain ⟨hzeros, hlen⟩ := hpushes.1 hpush
      rw [if_pos hpush, if_neg (not_not.2 (hreceived.2 hlen)), if_neg (by rw [hzeros]; decide)]
      by_cases hroom : s.mRecvBuffer.length < 100000
      · rw [if_neg (Nat.not_le.2 hroom)]
        by_cases hdata : f.payload.length ≤ 4128
        · rw [if_neg (Nat.not_lt.2 hdata), if_pos ⟨hdata, hroom⟩]
        · rw [if_pos (Nat.lt_of_not_le hdata), if_neg (fun h => hdata h.1)]
      · rw [if_pos (Nat.le_of_not_lt hroom), if_neg (fun h => hroom h.2)]
    · rw [if_neg hpush]
      by_cases hlen : UInt32.ofInt received = ntohl f.networkMsgDataSize
      · have hzeros : zeros (refill refuses s.buffer f) = true := by
          by_contra hnot
          exact hpush (hpushes.2 ⟨Bool.eq_false_iff.2 hnot, hreceived.1 hlen⟩)
        rw [if_neg (not_not.2 hlen), if_pos hzeros]
      · rw [if_pos hlen]

/-! ## The run -/

theorem pushed_cons (refuses : Bool) (buffer : Nat → UInt8) (f : Frame) (frames : List Frame) :
    pushed refuses buffer (f :: frames) =
      if pushes refuses (refill refuses buffer f, f) then
        (refill refuses buffer f, f) :: pushed refuses (refill refuses buffer f) frames
      else pushed refuses (refill refuses buffer f) frames := List.filter_cons

theorem recvThread_cons (refuses : Bool) (s : Receiver) (f : Frame) (frames : List Frame) :
    recvThread refuses s (f :: frames) =
      (recvIteration refuses s f).bind fun s => recvThread refuses s frames := List.foldlM_cons

theorem fits_cons_iff (refuses : Bool) (buffer : Nat → UInt8) (count : Nat) (f : Frame)
    (frames : List Frame) :
    Fits refuses buffer count (f :: frames) ↔
      (refused refuses f = false → f.payload.length ≤ 8192) ∧
        if pushes refuses (refill refuses buffer f, f) then
          f.payload.length ≤ 4128 ∧ Fits refuses (refill refuses buffer f) (count + 1) frames
        else Fits refuses (refill refuses buffer f) count frames := by
  constructor
  · rintro ⟨hbuffer, hdata, hroom⟩
    obtain ⟨hfirst, hrest⟩ := List.forall_mem_cons.1 hbuffer
    refine ⟨hfirst, ?_⟩
    rw [pushed_cons] at hdata hroom
    split
    · next hpush =>
      rw [if_pos hpush] at hdata hroom
      obtain ⟨hf, hdata⟩ := List.forall_mem_cons.1 hdata
      rw [List.length_cons] at hroom
      exact ⟨hf, hrest, hdata, by omega⟩
    · next hpush =>
      rw [if_neg hpush] at hdata hroom
      exact ⟨hrest, hdata, hroom⟩
  · rintro ⟨hfirst, h⟩
    split at h
    · next hpush =>
      obtain ⟨hf, hrest, hdata, hroom⟩ := h
      refine ⟨List.forall_mem_cons.2 ⟨hfirst, hrest⟩, ?_, ?_⟩
      · rw [pushed_cons, if_pos hpush]
        exact List.forall_mem_cons.2 ⟨hf, hdata⟩
      · rw [pushed_cons, if_pos hpush, List.length_cons]
        omega
    · next hpush =>
      obtain ⟨hrest, hdata, hroom⟩ := h
      refine ⟨List.forall_mem_cons.2 ⟨hfirst, hrest⟩, ?_, ?_⟩
      · rw [pushed_cons, if_neg hpush]
        exact hdata
      · rw [pushed_cons, if_neg hpush]
        exact hroom

/-- Everything written is in bounds just when the frames fit. -/
theorem recvThread_isSome_iff (refuses : Bool) (frames : List Frame) (s : Receiver)
    (hcount : s.mRecvBuffer.length ≤ 100000) :
    (recvThread refuses s frames).isSome ↔ Fits refuses s.buffer s.mRecvBuffer.length frames := by
  induction frames generalizing s with
  | nil => exact iff_of_true rfl ⟨nofun, nofun, hcount⟩
  | cons f frames ih =>
    rw [recvThread_cons, recvIteration_eq, fits_cons_iff]
    by_cases hlong : refused refuses f = false ∧ 8192 < f.payload.length
    · have hnot : ¬(refused refuses f = false → f.payload.length ≤ 8192) := by
        intro h
        exact absurd (h hlong.1) (Nat.not_le.2 hlong.2)
      rw [if_pos hlong]
      simp [hnot]
    · have hfits : refused refuses f = false → f.payload.length ≤ 8192 := by
        intro h
        exact Nat.le_of_not_lt fun hlt => hlong ⟨h, hlt⟩
      rw [if_neg hlong, and_iff_right hfits]
      split
      · next hpush =>
        by_cases hok : f.payload.length ≤ 4128 ∧ s.mRecvBuffer.length < 100000
        · have hlen : (s.mRecvBuffer ++ [message (refill refuses s.buffer f) f]).length ≤ 100000 := by
            rw [List.length_append, List.length_singleton]
            omega
          have hrest := ih ⟨refill refuses s.buffer f, _⟩ hlen
          rw [if_pos hok, Option.bind_some, hrest, List.length_append, List.length_singleton]
          exact (and_iff_right hok.1).symm
        · rw [if_neg hok]
          refine iff_of_false (by simp) ?_
          rintro ⟨hdata, -, -, hroom⟩
          exact hok ⟨hdata, by omega⟩
      · exact ih { s with buffer := refill refuses s.buffer f } hcount

/-- What a run appends. -/
theorem mRecvBuffer_recvThread (refuses : Bool) (frames : List Frame) (s s' : Receiver)
    (h : recvThread refuses s frames = some s') :
    s'.mRecvBuffer =
      s.mRecvBuffer ++ (pushed refuses s.buffer frames).map fun p => message p.1 p.2 := by
  induction frames generalizing s with
  | nil =>
    obtain rfl : s = s' := Option.some.inj h
    exact (List.append_nil _).symm
  | cons f frames ih =>
    rw [recvThread_cons, recvIteration_eq] at h
    rw [pushed_cons]
    split at h
    · cases h
    · split at h
      · next hpush =>
        rw [if_pos hpush]
        split at h
        · rw [ih _ h, List.append_assoc]
          rfl
        · cases h
      · next hpush =>
        rw [if_neg hpush]
        exact ih _ h

/-! ## What is stored -/

theorem map_snd_tests (refuses : Bool) (frames : List Frame) (buffer : Nat → UInt8) :
    (tests refuses buffer frames).map Prod.snd = frames := by
  induction frames generalizing buffer with
  | nil => rfl
  | cons f frames ih => rw [tests, List.map_cons, ih]

/-- At its ping test the buffer starts with the frame's bytes. -/
theorem tests_bytes (refuses : Bool) (frames : List Frame) (buffer : Nat → UInt8)
    (p : (Nat → UInt8) × Frame) (hp : p ∈ tests refuses buffer frames)
    (hrefused : refused refuses p.2 = false) :
    (List.range p.2.payload.length).map p.1 = p.2.payload := by
  induction frames generalizing buffer with
  | nil => cases hp
  | cons f frames ih =>
    rcases List.mem_cons.1 hp with rfl | hp
    · have hbuffer : refill refuses buffer f = overwrite buffer f.payload := by
        simp only [refill, hrefused, Bool.false_eq_true, if_false]
      show (List.range f.payload.length).map (refill refuses buffer f) = f.payload
      rw [hbuffer]
      apply List.ext_getElem
      · rw [List.length_map, List.length_range]
      · intro k hk hk'
        simp [overwrite, hk']
    · exact ih _ hp

theorem content_message (buffer : Nat → UInt8) (f : Frame) (hdata : f.payload.length ≤ 4128)
    (hbytes : (List.range f.payload.length).map buffer = f.payload) :
    content (message buffer f) = (f.payload.length, f.payload) := by
  have hmessage : message buffer f = { PassthruMsg.ofBytes f.payload with timestamp := f.getTime } := by
    unfold message
    rw [hbytes]
  have hsize : (message buffer f).dataSize.toNat = f.payload.length := by
    rw [hmessage]
    exact UInt32.toNat_ofNat_of_lt' f.length_lt
  have hfront : (message buffer f).bytes 0 f.payload.length = f.payload := by
    apply PassthruMsg.bytes_dataOf _ _ hdata
    rw [hmessage]
    rfl
  rw [content, hsize, hfront]

/-- A frame of four bytes is tested on its own bytes. -/
theorem zeros_eq_isPing (p : (Nat → UInt8) × Frame) (hlong : 4 ≤ p.2.payload.length)
    (hbytes : (List.range p.2.payload.length).map p.1 = p.2.payload) : zeros p.1 = isPing p.2 := by
  have htake : p.2.payload.take 4 = [p.1 0, p.1 1, p.1 2, p.1 3] := by
    rw [← hbytes, ← List.map_take, List.take_range, Nat.min_eq_left hlong]
    rfl
  simp [isPing, hlong, htake, zeros, Bool.and_assoc]

/-- Frames in range are not refused. -/
theorem InRange.not_refused {frames : List Frame} (h : InRange frames) (refuses : Bool) (f : Frame)
    (hf : f ∈ frames) : refused refuses f = false := by
  have hlen := (h.1 f hf).2
  rw [← Bool.not_eq_true, refused_iff]
  omega

theorem mem_of_mem_tests {refuses : Bool} {buffer : Nat → UInt8} {frames : List Frame}
    {p : (Nat → UInt8) × Frame} (hp : p ∈ tests refuses buffer frames) : p.2 ∈ frames := by
  rw [← map_snd_tests refuses frames buffer]
  exact List.mem_map_of_mem hp

section
variable {refuses : Bool} {buffer : Nat → UInt8} {frames : List Frame} (hrange : InRange frames)
include hrange

theorem fits_of_inRange : Fits refuses buffer 0 frames := by
  refine ⟨fun f hf _ => ?_, fun p hp => ?_, ?_⟩
  · have hlen := (hrange.1 f hf).2
    omega
  · exact (hrange.1 p.2 (mem_of_mem_tests (List.mem_filter.1 hp).1)).2
  · have hfilter := List.length_filter_le (pushes refuses) (tests refuses buffer frames)
    have hlen : (tests refuses buffer frames).length = frames.length := by
      rw [← List.length_map Prod.snd, map_snd_tests]
    have hcount := hrange.2
    unfold pushed
    omega

/-- A frame that is pushed is no ping; a ping has four bytes and they are tested. -/
theorem pushes_not_isPing (p : (Nat → UInt8) × Frame) (hp : p ∈ tests refuses buffer frames)
    (hpush : pushes refuses p = true) : (!isPing p.2) = true := by
  have hrefused := hrange.not_refused refuses p.2 (mem_of_mem_tests hp)
  by_cases hlong : 4 ≤ p.2.payload.length
  · rw [← zeros_eq_isPing p hlong (tests_bytes refuses frames buffer p hp hrefused)]
    rw [((pushes_eq refuses p).1 hpush).1]
    rfl
  · simp [isPing, hlong]

theorem pushed_sublist : (pushed refuses buffer frames).Sublist
    ((tests refuses buffer frames).filter fun p => !isPing p.2) := by
  have hpushed : pushed refuses buffer frames =
      ((tests refuses buffer frames).filter fun p => !isPing p.2).filter (pushes refuses) := by
    rw [List.filter_filter]
    apply List.filter_congr
    intro p hp
    cases hpush : pushes refuses p with
    | false => rfl
    | true =>
      rw [pushes_not_isPing hrange p hp hpush]
      rfl
  rw [hpushed]
  exact List.filter_sublist

/-- What is pushed is all that is no ping just when no short frame is taken for one. -/
theorem pushed_eq_iff :
    pushed refuses buffer frames = (tests refuses buffer frames).filter (fun p => !isPing p.2) ↔
      ∀ p ∈ tests refuses buffer frames, p.2.payload.length < 4 → zeros p.1 = false := by
  constructor
  · intro heq p hp hshort
    have hmem : p ∈ pushed refuses buffer frames := by
      rw [heq]
      refine List.mem_filter.2 ⟨hp, ?_⟩
      simp [isPing, Nat.not_le.2 hshort]
    exact ((pushes_eq refuses p).1 (List.mem_filter.1 hmem).2).1
  · intro hzeros
    apply List.filter_congr
    intro p hp
    have hrefused := hrange.not_refused refuses p.2 (mem_of_mem_tests hp)
    have hpush : pushes refuses p = !zeros p.1 := by simp [pushes, hrefused]
    rw [hpush]
    by_cases hlong : 4 ≤ p.2.payload.length
    · rw [zeros_eq_isPing p hlong (tests_bytes refuses frames buffer p hp hrefused)]
    · rw [hzeros p hp (Nat.lt_of_not_le hlong)]
      simp [isPing, hlong]

theorem map_content (s : Receiver)
    (h : recvThread refuses { buffer := buffer, mRecvBuffer := [] } frames = some s) :
    s.mRecvBuffer.map content =
      (pushed refuses buffer frames).map fun p => (p.2.payload.length, p.2.payload) := by
  rw [mRecvBuffer_recvThread refuses frames _ s h, List.nil_append, List.map_map]
  apply List.map_congr_left
  intro p hp
  have htest := (List.mem_filter.1 hp).1
  have hmem := mem_of_mem_tests htest
  exact content_message p.1 p.2 (hrange.1 p.2 hmem).2
    (tests_bytes refuses frames buffer p htest (hrange.not_refused refuses p.2 hmem))

end

/-- The frames that are no ping, with the buffer at their tests. -/
theorem filter_isPing (refuses : Bool) (buffer : Nat → UInt8) (frames : List Frame) :
    (frames.filter fun f => !isPing f).map (fun f => (f.payload.length, f.payload)) =
      ((tests refuses buffer frames).filter fun p => !isPing p.2).map
        fun p => (p.2.payload.length, p.2.payload) := by
  conv_lhs => rw [← map_snd_tests refuses frames buffer, List.filter_map, List.map_map]
  rfl

/-! ## Main result -/

/-- **The receive buffer.** -/
theorem received_iff (refuses : Bool) (buffer : Nat → UInt8) (frames : List Frame) :
    Received refuses buffer frames ↔
      Fits refuses buffer 0 frames ∧ NoFalsePing refuses buffer frames := by
  have hbounds := recvThread_isSome_iff refuses frames { buffer := buffer, mRecvBuffer := [] }
    (Nat.zero_le _)
  constructor
  · rintro ⟨hin, hexact⟩
    refine ⟨hbounds.1 hin, fun hrange => (pushed_eq_iff hrange).1 ?_⟩
    obtain ⟨s, hs⟩ := Option.isSome_iff_exists.1 hin
    have hsame := hexact hrange s hs
    rw [map_content hrange s hs, filter_isPing refuses buffer] at hsame
    -- nothing is pushed that is a ping, so it is enough that as much is pushed as is no ping
    have hlen := congrArg List.length hsame
    rw [List.length_map, List.length_map] at hlen
    exact (pushed_sublist hrange).eq_of_length hlen
  · rintro ⟨hfits, hping⟩
    refine ⟨hbounds.2 hfits, fun hrange s hs => ?_⟩
    rw [map_content hrange s hs, filter_isPing refuses buffer]
    rw [(pushed_eq_iff hrange).2 (hping hrange)]

/-- Frames in range are written in bounds. -/
theorem recvThread_isSome_of_inRange (refuses : Bool) (buffer : Nat → UInt8) (frames : List Frame)
    (hrange : InRange frames) :
    (recvThread refuses { buffer := buffer, mRecvBuffer := [] } frames).isSome :=
  (recvThread_isSome_iff refuses frames _ (Nat.zero_le _)).2 (fits_of_inRange hrange)

def oneFrame : Frame :=
  { networkMsgDataSize := 0x04000000, payload := [1, 0, 0, 0], payload_length := by decide,
    getTime := 0 }

def zeroFrame : Frame :=
  { networkMsgDataSize := 0x01000000, payload := [0], payload_length := by decide, getTime := 0 }

/-- One byte more than `Data` has. -/
def longFrame : Frame :=
  { networkMsgDataSize := 0x21100000, payload := List.replicate 4129 1,
    payload_length := by rw [List.length_replicate]; decide, getTime := 0 }

/-- The frame 0 after the frame 1 0 0 0 is taken for a ping; a frame of 4129 bytes is written
beyond `Data`. -/
theorem not_received :
    ¬Received true (fun _ => 0) [oneFrame, zeroFrame] ∧ ¬Received true (fun _ => 0) [longFrame] := by
  constructor
  · intro h
    have hrange : InRange [oneFrame, zeroFrame] := by
      refine ⟨?_, by decide⟩
      intro f hf
      rcases List.mem_pair.1 hf with rfl | rfl <;> decide
    obtain ⟨s, hs⟩ := Option.isSome_iff_exists.1 h.inBounds
    have hstored : s.mRecvBuffer.length = 1 := by
      have hrun : (recvThread true { buffer := fun _ => 0, mRecvBuffer := [] }
          [oneFrame, zeroFrame]).map (fun s => s.mRecvBuffer.length) = some 1 := by decide
      rw [hs] at hrun
      exact Option.some.inj hrun
    have hlen := congrArg List.length (h.exact hrange s hs)
    rw [List.length_map, hstored] at hlen
    exact absurd hlen (by decide)
  · intro h
    have hfits := (recvThread_isSome_iff true [longFrame] _ (Nat.zero_le _)).1 h.inBounds
    have hlen : longFrame.payload.length = 4129 := List.length_replicate
    have hnot : refused true longFrame = false := by simp [refused, hlen]
    have hfirst : refill true (fun _ => 0) longFrame 0 = 1 := by
      simp only [refill, hnot, Bool.false_eq_true, if_false, overwrite]
      rw [if_pos (by rw [hlen]; decide)]
      rfl
    have hpush : pushes true (refill true (fun _ => 0) longFrame, longFrame) = true := by
      simp [pushes, hnot, zeros, hfirst]
    have hmem : (refill true (fun _ => 0) longFrame, longFrame) ∈
        pushed true (fun _ => 0) [longFrame] := by
      rw [pushed_cons, if_pos hpush]
      exact List.mem_cons_self
    have hdata := hfits.data _ hmem
    rw [hlen] at hdata
    omega

end ExJ2534OIPSocks

end J2534Oip
