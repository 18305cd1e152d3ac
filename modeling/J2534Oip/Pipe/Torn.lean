import J2534Oip.Pipe.Chunking

/-!
# Sends that fail half way

A send writes its length and its body with two calls of `WriteFile`.  When the second fails
the length stays on the pipe, and the server takes what the next sends write for the body.
So a torn send does no harm exactly as long as little enough follows it:

    Clean (writes L attempts) → Extracts L attempts
    Extracts L attempts → Clean (writes L attempts) ∨ Mimics (writes L attempts)
                                                                     (send_extracts)

where `Mimics` is the accident that what follows the torn length begins with the very body
that is expected next.
-/

namespace J2534Oip.ExPipeServer

open Bytes ExPipeClient

/-! ## What sends write -/

/-- A call of `send`, with the outcomes of its two writes. -/
structure Attempt where
  msg : Message
  sizeOk : Bool
  bodyOk : Bool

/-- A send whose length was written: its body, and whether that was written too. -/
structure Write where
  body : List UInt8
  whole : Bool

def Write.bytes (w : Write) : List UInt8 :=
  leBytes 4 w.body.length ++ if w.whole then w.body else []

/-- The sends that write anything; one that is not encoded or fails at once does not. -/
def writes (L : CborLink) (attempts : List Attempt) : List Write :=
  attempts.filterMap fun a =>
    (L.encoderWrite (messageMap a.msg)).bind fun cbor =>
      if a.sizeOk then some { body := cbor, whole := a.bodyOk } else none

/-- What the sends put on the pipe. -/
def stream (L : CborLink) (attempts : List Attempt) : List UInt8 :=
  attempts.flatMap fun a => send L a.sizeOk a.bodyOk a.msg

/-- The bodies of the messages whose sends had both writes succeed. -/
def sentBodies (ws : List Write) : List (List UInt8) :=
  ws.filterMap fun w => if w.whole then some w.body else none

theorem stream_eq (L : CborLink) (attempts : List Attempt) :
    stream L attempts = (writes L attempts).flatMap Write.bytes := by
  induction attempts with
  | nil => rfl
  | cons a attempts ih =>
    have hsend : send L a.sizeOk a.bodyOk a.msg = (writes L [a]).flatMap Write.bytes := by
      simp only [send, writes, List.filterMap_cons, List.filterMap_nil]
      cases L.encoderWrite (messageMap a.msg) with
      | none => rfl
      | some cbor => cases a.sizeOk <;> simp [Write.bytes]
    have hwrites : writes L (a :: attempts) = writes L [a] ++ writes L attempts := by
      rw [writes, writes, writes, ← List.filterMap_append]
      rfl
    rw [stream, List.flatMap_cons, hsend, hwrites, List.flatMap_append, ← ih]
    rfl

/-- However the stream is cut, the server extracts the bodies of the whole sends. -/
def Extracts (L : CborLink) (attempts : List Attempt) : Prop :=
  ∀ reads : List (List UInt8), reads.flatten = stream L attempts →
    (readLoop (0, []) reads).2 = sentBodies (writes L attempts)

/-! ## The condition -/

/-- The length as the server reads it. -/
def announced (body : List UInt8) : Int := signed 32 (ofLE (leBytes 4 body.length))

/-- Whole sends have bodies below 2^31 bytes; after a torn one whose length is not 0 no send
is whole, and the lengths that follow are fewer bytes than it announces. -/
def Clean : List Write → Prop
  | [] => True
  | w :: ws =>
    if w.whole then w.body.length < 2 ^ 31 ∧ Clean ws
    else if announced w.body = 0 then Clean ws
    else sentBodies ws = [] ∧ (announced w.body < 0 ∨ (4 * ws.length : Nat) < announced w.body)

/-- What follows the first torn length begins with the body of the first whole send after
it, at the length announced. -/
def Mimics : List Write → Prop
  | [] => False
  | w :: ws =>
    if w.whole ∨ announced w.body = 0 then Mimics ws
    else 0 < announced w.body ∧ (sentBodies ws).head? =
      some ((ws.flatMap Write.bytes).take (announced w.body).toNat)

/-! ## Lengths on the pipe -/

/-- A length is one turn. -/
theorem drain_announced (body rest : List UInt8) :
    frameReader.drain 0 (leBytes 4 body.length ++ rest) =
      frameReader.drain (announced body) rest := by
  have hlen : (leBytes 4 body.length).length = 4 := length_leBytes 4 _
  rw [drain_length _ (by rw [List.length_append]; omega), frontLength, List.take_left' hlen,
    List.drop_left' hlen]
  rfl

/-- A pending frame that is there is extracted. -/
theorem drain_take (size : Int) (buffer : List UInt8) (h : 0 < size) (hle : size ≤ buffer.length) :
    (frameReader.drain size buffer).2 =
      buffer.take size.toNat :: (frameReader.drain 0 (buffer.drop size.toNat)).2 := by
  have hdata : takeData size buffer = ((0, buffer.drop size.toNat), [buffer.take size.toNat]) :=
    if_pos ⟨h, hle⟩
  rw [drain_takeData, hdata]
  rfl

/-- Whatever is extracted has a length that an `int` holds. -/
theorem length_drain_lt (size : Int) (buffer : List UInt8) (h : size < 2 ^ 31) :
    ∀ body ∈ (frameReader.drain size buffer).2, body.length < 2 ^ 31 := by
  induction size, buffer using frameReader.drain_induction with
  | idle size buffer hidle =>
    rw [frameReader.drain_idle size buffer hidle]
    exact fun body hbody => absurd hbody List.not_mem_nil
  | turn size buffer size' buffer' out hturn ih =>
    rw [frameReader.drain_turn hturn]
    have hcases : frameTurn size buffer = some (size', buffer', out) := hturn
    unfold frameTurn at hcases
    split at hcases
    · obtain ⟨rfl, rfl, rfl⟩ := by simpa using hcases
      refine ih ?_
      have hlt := ofLE_lt (buffer.take 4)
      have hpow : 256 ^ (buffer.take 4).length ≤ 256 ^ 4 :=
        Nat.pow_le_pow_right (by decide) (by rw [List.length_take]; omega)
      rw [signed]
      split <;> omega
    · split at hcases
      · next hs =>
        obtain ⟨rfl, rfl, rfl⟩ := by simpa using hcases
        intro body hbody
        rcases List.mem_cons.1 hbody with rfl | hbody
        · rw [List.length_take]
          omega
        · exact ih (by decide) body hbody
      · cases hcases

/-! ## The stream of some sends -/

/-- The whole stream gives the bodies of the whole sends. -/
def Reassembled (ws : List Write) : Prop :=
  (frameReader.drain 0 (ws.flatMap Write.bytes)).2 = sentBodies ws

/-- Without whole sends the stream is lengths. -/
theorem length_torn (ws : List Write) (h : sentBodies ws = []) :
    (ws.flatMap Write.bytes).length = 4 * ws.length := by
  induction ws with
  | nil => rfl
  | cons w ws ih =>
    obtain ⟨body, whole⟩ := w
    cases whole with
    | true => cases h
    | false =>
      rw [List.flatMap_cons, List.length_append, ih h, List.length_cons]
      simp only [Write.bytes, Bool.false_eq_true, if_false, List.append_nil, length_leBytes]
      omega

section
variable (body : List UInt8) (ws : List Write)

theorem reassembled_whole (h1 : 1 ≤ body.length) (hlt : body.length < 2 ^ 31) :
    Reassembled ({ body := body, whole := true } :: ws) ↔ Reassembled ws := by
  have hbytes : Write.bytes { body := body, whole := true } = frame body := rfl
  have hsent : sentBodies ({ body := body, whole := true } :: ws) = body :: sentBodies ws := rfl
  rw [Reassembled, List.flatMap_cons, hbytes, drain_frame body _ h1 hlt, hsent, List.cons.injEq]
  exact and_iff_right rfl

/-- No frame has a body of 2^31 bytes. -/
theorem not_reassembled_long (hlong : ¬body.length < 2 ^ 31) :
    ¬Reassembled ({ body := body, whole := true } :: ws) := by
  intro h
  have hmem : body ∈ sentBodies ({ body := body, whole := true } :: ws) := List.mem_cons_self
  rw [← h] at hmem
  exact hlong (length_drain_lt 0 _ (by decide) body hmem)

/-- A torn send: what follows is read with its length pending. -/
theorem reassembled_torn :
    Reassembled ({ body := body, whole := false } :: ws) ↔
      (frameReader.drain (announced body) (ws.flatMap Write.bytes)).2 = sentBodies ws := by
  have hbytes : Write.bytes { body := body, whole := false } = leBytes 4 body.length :=
    List.append_nil _
  rw [Reassembled, List.flatMap_cons, hbytes, drain_announced]
  rfl

/-- A positive length that more bytes follow than it announces: they are taken for a body. -/
theorem mimics_of_reassembled (hpos : 0 < announced body)
    (hle : announced body ≤ (ws.flatMap Write.bytes).length)
    (h : Reassembled ({ body := body, whole := false } :: ws)) :
    Mimics ({ body := body, whole := false } :: ws) := by
  rw [reassembled_torn, drain_take _ _ hpos hle] at h
  have hne : ¬(false = true ∨ announced body = 0) := by
    rintro (hf | h0)
    · cases hf
    · omega
  rw [Mimics, if_neg hne]
  refine ⟨hpos, ?_⟩
  rw [← h]
  rfl

/-- A length with too little behind it: nothing more is extracted. -/
theorem reassembled_pending
    (h : announced body < 0 ∨ (ws.flatMap Write.bytes).length < announced body) :
    Reassembled ({ body := body, whole := false } :: ws) ↔ sentBodies ws = [] := by
  have hnone : (frameReader.drain (announced body) (ws.flatMap Write.bytes)).2 = [] := by
    rcases h with hneg | hlt
    · rw [drain_negative _ _ hneg]
    · rw [drain_pending _ _ (by omega) hlt]
  rw [reassembled_torn, hnone]
  exact eq_comm

end

/-- **What a pattern of failures does to the stream.** -/
theorem reassembled_of_clean (ws : List Write) (h1 : ∀ w ∈ ws, 1 ≤ w.body.length) :
    (Clean ws → Reassembled ws) ∧ (Reassembled ws → Clean ws ∨ Mimics ws) := by
  induction ws with
  | nil => exact ⟨fun _ => rfl, fun _ => Or.inl trivial⟩
  | cons w ws ih =>
    obtain ⟨hbody, hrest⟩ := List.forall_mem_cons.1 h1
    have ih := ih hrest
    obtain ⟨body, whole⟩ := w
    cases whole with
    | true =>
      by_cases hlt : body.length < 2 ^ 31
      · rw [reassembled_whole body ws hbody hlt]
        simpa only [Clean, Mimics, if_true, true_or, hlt, true_and] using ih
      · refine ⟨fun hclean => absurd hclean.1 hlt, fun h => ?_⟩
        exact absurd h (not_reassembled_long body ws hlt)
    | false =>
      by_cases hzero : announced body = 0
      · have hsame : Reassembled ({ body := body, whole := false } :: ws) ↔ Reassembled ws := by
          rw [reassembled_torn, hzero, Reassembled]
        rw [hsame]
        simpa only [Clean, Mimics, Bool.false_eq_true, if_false, hzero, if_true, or_true] using ih
      · have hclean : Clean ({ body := body, whole := false } :: ws) ↔ sentBodies ws = [] ∧
            (announced body < 0 ∨ (4 * ws.length : Nat) < announced body) := by
          simp only [Clean, Bool.false_eq_true, if_false, hzero]
        rw [hclean]
        by_cases hpending : announced body < 0 ∨ (ws.flatMap Write.bytes).length < announced body
        · rw [reassembled_pending body ws hpending]
          refine ⟨And.left, fun hnone => Or.inl ⟨hnone, ?_⟩⟩
          rwa [length_torn ws hnone] at hpending
        · -- enough bytes follow to be taken for the body
          obtain ⟨hnonneg, hle⟩ := not_or.1 hpending
          refine ⟨fun ⟨hnone, hfew⟩ => ?_, fun h => Or.inr ?_⟩
          · rw [length_torn ws hnone] at hpending
            exact absurd hfew hpending
          · exact mimics_of_reassembled body ws (by omega) (by omega) h

/-! ## Any sends -/

/-- No encoding is shorter than the key "id". -/
theorem one_le_length_writes (L : CborLink) (attempts : List Attempt) :
    ∀ w ∈ writes L attempts, 1 ≤ w.body.length := by
  intro w hw
  obtain ⟨a, -, ha⟩ := List.mem_filterMap.1 hw
  obtain ⟨cbor, hcbor, hsome⟩ := Option.bind_eq_some_iff.1 ha
  have hstrings := L.verbatim _ _ hcbor
  simp only [messageMap, Cbor.All, Cbor.AllPairs] at hstrings
  have hkey : 2 ≤ cbor.length := hstrings.2.1
  split at hsome
  · obtain rfl := Option.some.inj hsome
    show 1 ≤ cbor.length
    omega
  · cases hsome

theorem extracts_iff (L : CborLink) (attempts : List Attempt) :
    Extracts L attempts ↔ Reassembled (writes L attempts) := by
  have hread : ∀ reads : List (List UInt8), reads.flatten = stream L attempts →
      (readLoop (0, []) reads).2 =
        (frameReader.drain 0 ((writes L attempts).flatMap Write.bytes)).2 := by
    intro reads hreads
    rw [readLoop_eq_feed, frameReader.feed_eq_drain _ _ idle_init, List.nil_append, hreads, stream_eq]
  constructor
  · intro h
    have hone := h [stream L attempts] (by simp)
    rwa [hread _ (by simp)] at hone
  · intro h reads hreads
    rw [hread reads hreads]
    exact h

/-- **When failing sends do not poison the stream**: when it is clean, and else only by the
accident that a body follows which looks like what it is taken for. -/
theorem send_extracts (L : CborLink) (attempts : List Attempt) :
    (Clean (writes L attempts) → Extracts L attempts) ∧
      (Extracts L attempts → Clean (writes L attempts) ∨ Mimics (writes L attempts)) := by
  rw [extracts_iff]
  exact reassembled_of_clean _ (one_le_length_writes L attempts)

/-- A torn send, then a whole one: its body is not what the server extracts. -/
theorem send_torn :
    let msg : Message := { id := 1, type := 0, dataType := 0, timestamp := 0, path := utf8 "a",
                           message := utf8 "b", data := [0] }
    ¬Extracts .rfc8949 [⟨msg, true, false⟩, ⟨msg, true, true⟩] := by
  intro msg h
  have hread := h [stream .rfc8949 [⟨msg, true, false⟩, ⟨msg, true, true⟩]] (by simp)
  exact absurd hread (by decide)

end J2534Oip.ExPipeServer
