import J2534Oip.Pipe.Protocol

/-!
# Any stream, cut anyhow

The server reads from whoever opens the pipe, so a stream need not be one that a client
sent.  However it is cut, and whatever is in it, the payloads handed on and the state left
behind are those of the whole stream:

    (clientReads c evs).flatten = (clientReads c evs').flatten →
      dispatchedPayloads L c init evs = dispatchedPayloads L c init evs'
                                                                       (processData_chunking)

What is left behind can be completed by further bytes exactly when no length in the stream
was negative (`recoverable_iff`): the loop goes on for a size that is zero or positive and
stays behind a negative one for good (`drain_negative`).
-/

namespace J2534Oip.ExPipeServer

open Bytes

variable {κ : Type*} [DecidableEq κ]

/-! ## Two cuttings of one stream -/

/-- **Chunking does not change the outcome.**  For any bytes: the same payloads, a message
for each of them, the same buffer and the same size. -/
theorem processData_chunking (L : CborLink) (c : κ) (evs evs' : List (Event κ))
    (hc : Event.disconnected c ∉ evs) (hc' : Event.disconnected c ∉ evs')
    (hbytes : (clientReads c evs).flatten = (clientReads c evs').flatten) :
    dispatchedPayloads L c init evs = dispatchedPayloads L c init evs' ∧
      List.Forall₂ (MessageOf L) (dispatchedPayloads L c init evs)
        (dispatchedTo c (run L init evs).2) ∧
      List.Forall₂ (MessageOf L) (dispatchedPayloads L c init evs)
        (dispatchedTo c (run L init evs').2) ∧
      (run L init evs).1.buffers c = (run L init evs').1.buffers c ∧
      (run L init evs).1.sizes c = (run L init evs').1.sizes c := by
  obtain ⟨hstate, hpayloads⟩ := run_client L init c evs hc
  obtain ⟨hstate', hpayloads'⟩ := run_client L init c evs' hc'
  have hfeed := frameReader.feed_congr ((init : ExPipeServer κ).client c) _ _ idle_init hbytes
  have hclient : (run L init evs).1.client c = (run L init evs').1.client c := by
    rw [hstate, hstate', hfeed]
  have hsame : dispatchedPayloads L c init evs = dispatchedPayloads L c init evs' := by
    rw [hpayloads, hpayloads', hfeed]
  refine ⟨hsame, run_messages L c init evs, ?_, congrArg Prod.snd hclient,
    congrArg Prod.fst hclient⟩
  rw [hsame]
  exact run_messages L c init evs'

/-- A zero length, a body that is not a map, a map, then a negative length with a byte
behind it: whole, and cut in the middle of both lengths while another client comes. -/
theorem processData_chunking_garbage :
    let stream : List UInt8 := [0, 0, 0, 0, 1, 0, 0, 0, 7, 1, 0, 0, 0, 0xA0, 0, 0, 0, 0x80, 9]
    let evs : List (Event Bool) := [.readyRead true [stream] fun _ => ⟨0, 0, 0, 0⟩]
    let evs' : List (Event Bool) := [.readyRead true [stream.take 3] fun _ => ⟨1, 1, 1, 1⟩,
      .readyRead false [[5]] fun _ => ⟨0, 0, 0, 0⟩,
      .readyRead true [(stream.drop 3).take 13, stream.drop 16] fun _ => ⟨2, 2, 2, 2⟩]
    dispatchedPayloads .rfc8949 true init evs = dispatchedPayloads .rfc8949 true init evs' ∧
      List.Forall₂ (MessageOf .rfc8949) (dispatchedPayloads .rfc8949 true init evs)
        (dispatchedTo true (run .rfc8949 init evs).2) ∧
      List.Forall₂ (MessageOf .rfc8949) (dispatchedPayloads .rfc8949 true init evs)
        (dispatchedTo true (run .rfc8949 init evs').2) ∧
      (run .rfc8949 init evs).1.buffers true = (run .rfc8949 init evs').1.buffers true ∧
      (run .rfc8949 init evs).1.sizes true = (run .rfc8949 init evs').1.sizes true := by
  intro stream evs evs'
  exact processData_chunking .rfc8949 true evs evs' (by simp [evs]) (by simp [evs']) (by decide)

/-! ## States that can be left -/

/-- A length or a frame is pending, and not all of it is there. -/
def Recoverable (st : Int × List UInt8) : Prop :=
  (st.1 = 0 ∧ st.2.length < 4) ∨ (0 < st.1 ∧ st.2.length < st.1)

/-- Some further bytes end with nothing pending. -/
def Completes (st : Int × List UInt8) : Prop :=
  ∃ more, (readLoop st [more]).1 = (0, [])

/-- The number at the front of a stream. -/
def frontLength (stream : List UInt8) : Int := signed 32 (ofLE (stream.take 4))

/-- No length of the stream is negative; each stands where the frame before it ends. -/
inductive NonnegLengths : List UInt8 → Prop
  | short {stream : List UInt8} : stream.length < 4 → NonnegLengths stream
  | frame {stream : List UInt8} : 4 ≤ stream.length → 0 ≤ frontLength stream →
      NonnegLengths (stream.drop (4 + (frontLength stream).toNat)) → NonnegLengths stream

/-- What client `c` has written since it connected, read by read. -/
def sessionReads (c : κ) : List (List UInt8) → List (Event κ) → List (List UInt8)
  | sofar, [] => sofar
  | sofar, .readyRead c' reads _ :: evs =>
    sessionReads c (if c' = c then sofar ++ reads else sofar) evs
  | sofar, .disconnected c' :: evs => sessionReads c (if c' = c then [] else sofar) evs

theorem drain_short (stream : List UInt8) (h : stream.length < 4) :
    frameReader.drain 0 stream = ((0, stream), []) := by
  apply frameReader.drain_idle
  rw [frameReader, frameTurn_eq_none]
  simp [loopGuard, h]

theorem drain_length (stream : List UInt8) (h : 4 ≤ stream.length) :
    frameReader.drain 0 stream = frameReader.drain (frontLength stream) (stream.drop 4) := by
  have hsize : takeSize 0 stream = (frontLength stream, stream.drop 4) := if_pos ⟨rfl, h⟩
  rw [drain_takeSize, hsize]

/-- Behind a negative size nothing is ever taken. -/
theorem drain_negative (size : Int) (buffer : List UInt8) (h : size < 0) :
    frameReader.drain size buffer = ((size, buffer), []) := by
  apply frameReader.drain_idle
  rw [frameReader, frameTurn_eq_none]
  simp [loopGuard]
  omega

theorem drain_pending (size : Int) (buffer : List UInt8) (h : 0 < size) (hlt : buffer.length < size) :
    frameReader.drain size buffer = ((size, buffer), []) := by
  apply frameReader.drain_idle
  rw [frameReader, frameTurn_eq_none]
  simp [loopGuard]
  omega

theorem drain_complete (size : Int) (buffer : List UInt8) (h : 0 < size) (hle : size ≤ buffer.length) :
    (frameReader.drain size buffer).1 = (frameReader.drain 0 (buffer.drop size.toNat)).1 := by
  have hdata : takeData size buffer = ((0, buffer.drop size.toNat), [buffer.take size.toNat]) :=
    if_pos ⟨h, hle⟩
  rw [drain_takeData, hdata]

/-- **One stream leaves a state that can be left iff none of its lengths is negative.** -/
theorem recoverable_drain_iff (stream : List UInt8) :
    Recoverable (frameReader.drain 0 stream).1 ↔ NonnegLengths stream := by
  have key : ∀ (l : Nat) (stream : List UInt8), stream.length = l →
      (Recoverable (frameReader.drain 0 stream).1 ↔ NonnegLengths stream) := by
    intro l
    induction l using Nat.strongRecOn with
    | ind l ih =>
      intro stream hl
      by_cases h4 : stream.length < 4
      · rw [drain_short stream h4]
        exact iff_of_true (.inl ⟨rfl, h4⟩) (.short h4)
      · have h4 : 4 ≤ stream.length := by omega
        have hframe : 0 ≤ frontLength stream → (NonnegLengths stream ↔
            NonnegLengths (stream.drop (4 + (frontLength stream).toNat))) := by
          intro hnonneg
          constructor
          · intro h
            cases h with
            | short hlt => omega
            | frame _ _ hrest => exact hrest
          · exact .frame h4 hnonneg
        have hrest : (stream.drop 4).length = stream.length - 4 := List.length_drop
        rw [drain_length stream h4]
        rcases Int.lt_trichotomy (frontLength stream) 0 with hneg | hzero | hpos
        · rw [drain_negative _ _ hneg]
          refine iff_of_false ?_ ?_
          · rintro (⟨hsize, -⟩ | ⟨hsize, -⟩) <;> simp only at hsize <;> omega
          · rintro (hlt | ⟨-, hnonneg, -⟩) <;> omega
        · rw [hframe (by omega), hzero]
          exact ih _ (by omega) _ hrest
        · rw [hframe (by omega)]
          by_cases hle : frontLength stream ≤ (stream.drop 4).length
          · rw [drain_complete _ _ hpos hle, List.drop_drop]
            exact ih _ (by rw [List.length_drop]; omega) _ rfl
          · rw [drain_pending _ _ hpos (by omega)]
            refine iff_of_true (.inr ⟨hpos, by simp only; omega⟩) (.short ?_)
            rw [List.length_drop]
            omega
  exact key stream.length stream rfl

/-- As many bytes as a pending frame lacks complete it. -/
theorem completes_pending (size : Int) (buffer more : List UInt8) (h : 0 < size) (hmore : buffer.length + more.length = size) :
    (frameReader.drain size (buffer ++ more)).1 = (0, []) := by
  have hlen : (buffer ++ more).length = size.toNat := by
    rw [List.length_append]
    omega
  rw [drain_complete _ _ h (by omega), ← hlen, List.drop_length]
  rfl

/-- Zero bytes complete a pending length, to a number of at most three bytes, and then
the frame it announces. -/
theorem completes_of_recoverable (st : Int × List UInt8) (h : Recoverable st) : Completes st := by
  obtain ⟨size, buffer⟩ := st
  have hread : ∀ more, (readLoop (size, buffer) [more]).1 =
      (frameReader.drain size (buffer ++ more)).1 := by
    intro more
    rw [readLoop_eq_feed]
    rfl
  rcases h with ⟨hsize, hlt⟩ | ⟨hsize, hlt⟩ <;> simp only at hsize hlt
  · subst hsize
    obtain ⟨full, hfull⟩ : ∃ full, full = buffer ++ List.replicate (4 - buffer.length) 0 := ⟨_, rfl⟩
    have hlen : full.length = 4 := by
      rw [hfull, List.length_append, List.length_replicate]
      omega
    have hfront : ∀ rest, frontLength (full ++ rest) = ofLE buffer := by
      intro rest
      have hpow : 256 ^ buffer.length ≤ 256 ^ 3 := Nat.pow_le_pow_right (by omega) (by omega)
      have hbuffer := ofLE_lt buffer
      rw [frontLength, List.take_left' hlen, hfull, ofLE_append_zeros]
      exact signed_of_lt 32 _ (by omega)
    refine ⟨List.replicate (4 - buffer.length) 0 ++ List.replicate (ofLE buffer) 0, ?_⟩
    rw [hread, ← List.append_assoc, ← hfull, drain_length _ (by rw [List.length_append]; omega),
      hfront, List.drop_left' hlen]
    rcases Nat.eq_zero_or_pos (ofLE buffer) with hzero | hpos
    · rw [hzero]
      rfl
    · exact completes_pending _ [] _ (by omega) (by simp)
  · refine ⟨List.replicate (size.toNat - buffer.length) 0, ?_⟩
    rw [hread]
    apply completes_pending size buffer _ hsize
    rw [List.length_replicate]
    omega

theorem run_sessionReads (L : CborLink) (c : κ) (s : ExPipeServer κ) (sofar : List (List UInt8))
    (evs : List (Event κ)) (hs : s.client c = (frameReader.feed (0, []) sofar).1) :
    (run L s evs).1.client c = (frameReader.feed (0, []) (sessionReads c sofar evs)).1 := by
  induction evs generalizing s sofar with
  | nil => exact hs
  | cons ev evs ih =>
    cases ev with
    | disconnected c' =>
      apply ih (handleSocketDisconnected s c')
      split
      · next hcc =>
        subst hcc
        simp [handleSocketDisconnected, client, Reader.feed]
      · next hcc =>
        rw [(step_client_other L s c c' hcc [] fun _ => ⟨0, 0, 0, 0⟩).2, hs]
    | readyRead c' reads prior =>
      apply ih (step L s (.readyRead c' reads prior)).1
      split
      · next hcc =>
        subst hcc
        rw [step_client_self, hs, frameReader.feed_append]
      · next hcc => rw [(step_client_other L s c c' hcc reads prior).1, hs]

/-- **The state can be left exactly when no length was negative.**  After any run, for any
client: a length or a frame is pending and can be completed, iff none of the lengths the
client has written since it connected is negative. -/
theorem recoverable_iff (L : CborLink) (c : κ) (evs : List (Event κ)) :
    (Recoverable ((run L init evs).1.client c) ∧ Completes ((run L init evs).1.client c)) ↔
      NonnegLengths (sessionReads c [] evs).flatten := by
  have hstate := run_sessionReads L c init [] evs rfl
  rw [frameReader.feed_eq_drain _ _ idle_init, List.nil_append] at hstate
  rw [hstate, ← recoverable_drain_iff]
  exact ⟨And.left, fun h => ⟨h, completes_of_recoverable _ h⟩⟩

/-- Four bytes `FF` are the length -1. -/
theorem recoverable_negative :
    ¬ ∀ evs : List (Event Unit), Recoverable ((run .rfc8949 init evs).1.client ()) := by
  intro h
  rcases h [.readyRead () [[0xFF, 0xFF, 0xFF, 0xFF]] fun _ => ⟨0, 0, 0, 0⟩] with h | h
  · revert h
    decide
  · revert h
    decide

end J2534Oip.ExPipeServer
