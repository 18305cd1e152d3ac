import J2534Oip.Cannelloni.LastError
import Mathlib.Data.Finset.Card

/-!
# What `PassThruSelect` reports

Its loop looks at the clock before it looks at the channels, and clears its count first; so a
call that gives up reports none ready, whatever it saw at its last look.  It reports right

    SelectsRight ids threshold timeout client passes (…)
      ↔ ∀ m, GivesUp ids threshold timeout client passes m → readyNum (after client passes m) ids = 0
                                                                          (selectsRight_iff)

and never changes a queue.
-/

namespace J2534Oip

namespace J2534CannelloniClient

/-! ## Looks -/

/-- The client with what arrived in the first `m` passes. -/
def after (client : J2534CannelloniClient) (passes : List SelectPass) (m : Nat) :
    J2534CannelloniClient :=
  (passes.take m).foldl (fun client pass => client.enqueueAll pass.arrivals) client

@[simp] theorem after_zero (client : J2534CannelloniClient) (passes : List SelectPass) :
    client.after passes 0 = client := rfl

theorem after_succ (client : J2534CannelloniClient) (pass : SelectPass) (passes : List SelectPass)
    (m : Nat) : client.after (pass :: passes) (m + 1) =
      (client.enqueueAll pass.arrivals).after passes m := rfl

/-- How many of the listed channels are ready. -/
def readyNum (client : J2534CannelloniClient) (ids : List UInt32) : Nat :=
  (ids.toFinset.filter fun id => client.ready id = true).card

/-- Without repeated ids the loop counts channels. -/
theorem countP_ready (client : J2534CannelloniClient) (ids : List UInt32) (h : ids.Nodup) :
    ids.countP client.ready = client.readyNum ids := by
  rw [readyNum, ← List.toFinset_filter, List.toFinset_card_of_nodup (h.filter _),
    List.countP_eq_length_filter]

/-! ## Arrivals only add -/

theorem ready_enqueue (client : J2534CannelloniClient) (port : UInt32) (msgs : List PassthruMsg)
    (id : UInt32) (h : client.ready id = true) : (client.enqueue port msgs).ready id = true := by
  unfold enqueue
  split
  · exact h
  · next ctx hctx =>
    by_cases hid : id = port
    · subst hid
      simp only [ready, hctx, setChannel, AList.lookup_insert] at h ⊢
      cases hqueue : ctx.msgQueue with
      | nil =>
        rw [hqueue] at h
        cases h
      | cons msg queue => rfl
    · simp only [ready, setChannel, AList.lookup_insert_ne hid]
      exact h

theorem ready_enqueueAll (client : J2534CannelloniClient) (arrivals : List (UInt32 × List PassthruMsg))
    (id : UInt32) (h : client.ready id = true) : (client.enqueueAll arrivals).ready id = true := by
  induction arrivals generalizing client with
  | nil => exact h
  | cons a arrivals ih => exact ih (client.enqueue a.1 a.2) (client.ready_enqueue a.1 a.2 id h)

theorem countP_enqueueAll (client : J2534CannelloniClient)
    (arrivals : List (UInt32 × List PassthruMsg)) (ids : List UInt32) :
    ids.countP client.ready ≤ ids.countP (client.enqueueAll arrivals).ready :=
  List.countP_mono_left fun id _ h => client.ready_enqueueAll arrivals id h

/-! ## Giving up -/

/-- The call gives up at pass `m`: the clock has reached the timeout there, and each pass
before looked and found too few channels ready.  A call with an empty list does not wait. -/
structure GivesUp (ids : List UInt32) (threshold timeout : UInt32) (client : J2534CannelloniClient)
    (passes : List SelectPass) (m : Nat) : Prop where
  listed : ids ≠ []
  reached : ∃ pass, passes[m]? = some pass ∧ timeout.toNat ≤ pass.elapsed
  looked : ∀ k < m, ∃ pass, passes[k]? = some pass ∧ pass.elapsed < timeout.toNat ∧
    ids.countP (client.after passes (k + 1)).ready < threshold.toNat

section
variable {ids : List UInt32} {threshold timeout : UInt32}

theorem GivesUp.tail {client : J2534CannelloniClient} {pass : SelectPass}
    {passes : List SelectPass} {m : Nat}
    (h : GivesUp ids threshold timeout client (pass :: passes) (m + 1)) :
    GivesUp ids threshold timeout (client.enqueueAll pass.arrivals) passes m where
  listed := h.listed
  reached := h.reached
  looked k hk := h.looked (k + 1) (Nat.succ_lt_succ hk)

/-- Then the loop ends with the count 0. -/
theorem GivesUp.timesOut {client : J2534CannelloniClient} {passes : List SelectPass} {m : Nat}
    (h : GivesUp ids threshold timeout client passes m) :
    TimesOut ids threshold timeout client passes := by
  induction m generalizing client passes with
  | zero =>
    obtain ⟨pass, hpass, hclock⟩ := h.reached
    cases passes with
    | nil => cases hpass
    | cons first passes =>
      obtain rfl : first = pass := Option.some.inj hpass
      exact Or.inl hclock
  | succ m ih =>
    cases passes with
    | nil =>
      obtain ⟨pass, hpass, -⟩ := h.reached
      cases hpass
    | cons first passes =>
      obtain ⟨pass, hpass, -, hfew⟩ := h.looked 0 (Nat.succ_pos m)
      obtain rfl : first = pass := Option.some.inj hpass
      exact Or.inr (Or.inr ⟨hfew, ih h.tail⟩)

end

/-! ## The loop -/

section
variable (ids : List UInt32) (threshold timeout : UInt32)

/-- The loop changes the client by what arrives in its passes. -/
theorem selectLoop_after (client : J2534CannelloniClient) (passes : List SelectPass) :
    ∃ m, (selectLoop ids threshold timeout client passes).1 = client.after passes m := by
  fun_induction selectLoop ids threshold timeout client passes with
  | case1 client => exact ⟨0, rfl⟩
  | case2 client pass passes client' htime => exact ⟨1, rfl⟩
  | case3 client pass passes client' htime readyCount hready => exact ⟨1, rfl⟩
  | case4 client pass passes client' htime readyCount hready ih =>
    obtain ⟨m, hm⟩ := ih
    exact ⟨m + 1, hm⟩

/-- Enough channels ready at the call: the first look ends the loop. -/
theorem selectLoop_prompt (client : J2534CannelloniClient) (pass : SelectPass)
    (passes : List SelectPass) (hready : threshold.toNat ≤ ids.countP client.ready)
    (hclock : pass.elapsed < timeout.toNat) :
    (selectLoop ids threshold timeout client (pass :: passes)).2 =
      some (ids.countP (client.enqueueAll pass.arrivals).ready) := by
  have hmore := client.countP_enqueueAll pass.arrivals ids
  have hstill : threshold.toNat ≤ ids.countP (client.enqueueAll pass.arrivals).ready := by omega
  simp only [selectLoop, if_neg (Nat.not_le.2 hclock), if_pos hstill]

end

/-! ## The report -/

/-- What a call for the channels `ids` should report. -/
structure SelectsRight (ids : List UInt32) (threshold timeout : UInt32)
    (client : J2534CannelloniClient) (passes : List SelectPass)
    (r : J2534CannelloniClient × Option Retval) : Prop where
  /-- enough channels were ready at the call: the number ready when it looks first -/
  prompt : threshold.toNat ≤ client.readyNum ids → ∀ retval, r.2 = some retval →
    retval = .ready ((client.after passes 1).readyNum ids)
  /-- the same, when nothing arrives meanwhile -/
  still : threshold.toNat ≤ client.readyNum ids →
    (∀ pass, passes[0]? = some pass → pass.arrivals = []) → ∀ retval, r.2 = some retval →
      retval = .ready (client.readyNum ids)
  /-- it gave up at pass `m`: the number ready at the look before; at the call if there was
  none -/
  gaveUp : ∀ m, GivesUp ids threshold timeout client passes m →
    r.2 = some (if (client.after passes m).readyNum ids = 0 then .code .errTimeout
      else .ready ((client.after passes m).readyNum ids))
  /-- only arrivals change the channels -/
  channels : ∃ m, r.1.channelMap = (client.after passes m).channelMap

/-- A call with a list, in terms of its loop. -/
theorem passThruSelect_list (client : J2534CannelloniClient) (ids : List UInt32) (hids : ids ≠ [])
    (threshold timeout : UInt32) (passes : List SelectPass) :
    client.passThruSelect (some ⟨threshold, some ids⟩) timeout passes =
      ((selectLoop ids threshold timeout client passes).1,
        (selectLoop ids threshold timeout client passes).2.map fun readyCount =>
          if 0 < readyCount then .ready readyCount else .code .errTimeout) := by
  cases ids with
  | nil => exact absurd rfl hids
  | cons id ids => rfl

theorem readyNum_nil (client : J2534CannelloniClient) : client.readyNum [] = 0 := rfl

section
variable (client : J2534CannelloniClient) (ids : List UInt32) (threshold timeout : UInt32)
  (passes : List SelectPass)

/-- With enough channels ready at the call, a call that does not give up at once reports what
it sees at its first look. -/
theorem passThruSelect_prompt (hnodup : ids.Nodup) (hids : ids ≠ [])
    (hthreshold : 1 ≤ threshold.toNat) (hready : threshold.toNat ≤ client.readyNum ids)
    (hgoesOn : ¬GivesUp ids threshold timeout client passes 0) (retval : Retval)
    (hret : (client.passThruSelect (some ⟨threshold, some ids⟩) timeout passes).2 = some retval) :
    retval = .ready ((client.after passes 1).readyNum ids) := by
  rw [client.passThruSelect_list ids hids] at hret
  cases passes with
  | nil => cases hret
  | cons pass passes =>
    have hclock : pass.elapsed < timeout.toNat := by
      by_contra hlate
      exact hgoesOn ⟨hids, ⟨pass, rfl, Nat.le_of_not_lt hlate⟩,
        fun k hk => absurd hk (Nat.not_lt_zero k)⟩
    rw [← countP_ready client ids hnodup] at hready
    have hmore := client.countP_enqueueAll pass.arrivals ids
    rw [selectLoop_prompt ids threshold timeout client pass passes hready hclock, Option.map_some,
      if_pos (by omega), countP_ready _ ids hnodup] at hret
    exact (Option.some.inj hret).symm

/-- A call that gives up reports a timeout. -/
theorem passThruSelect_gaveUp (m : Nat) (h : GivesUp ids threshold timeout client passes m) :
    (client.passThruSelect (some ⟨threshold, some ids⟩) timeout passes).2 =
      some (.code .errTimeout) := by
  have hzero := (selectLoop_eq_zero_iff ids threshold timeout client passes).2 h.timesOut
  simp only [client.passThruSelect_list ids h.listed, hzero, Option.map_some]
  rfl

theorem passThruSelect_channels :
    ∃ m, (client.passThruSelect (some ⟨threshold, some ids⟩) timeout passes).1.channelMap =
      (client.after passes m).channelMap := by
  by_cases hids : ids = []
  · subst hids
    exact ⟨0, rfl⟩
  · obtain ⟨m, hm⟩ := selectLoop_after ids threshold timeout client passes
    rw [client.passThruSelect_list ids hids, hm]
    exact ⟨m, rfl⟩

end

/-- **When the report is right**: when no listed channel was ready at the last look of a call
that gives up. -/
theorem selectsRight_iff (client : J2534CannelloniClient) (ids : List UInt32) (hnodup : ids.Nodup)
    (threshold timeout : UInt32) (hthreshold : 1 ≤ threshold.toNat) (passes : List SelectPass) :
    SelectsRight ids threshold timeout client passes
        (client.passThruSelect (some ⟨threshold, some ids⟩) timeout passes) ↔
      ∀ m, GivesUp ids threshold timeout client passes m →
        (client.after passes m).readyNum ids = 0 := by
  constructor
  · intro hright m h
    have hreport := hright.gaveUp m h
    rw [client.passThruSelect_gaveUp ids threshold timeout passes m h] at hreport
    by_contra hsome
    rw [if_neg hsome] at hreport
    cases hreport
  · intro hnone
    have hprompt : threshold.toNat ≤ client.readyNum ids → ∀ retval,
        (client.passThruSelect (some ⟨threshold, some ids⟩) timeout passes).2 = some retval →
        retval = .ready ((client.after passes 1).readyNum ids) := by
      intro hready
      have hids : ids ≠ [] := by
        rintro rfl
        rw [readyNum_nil] at hready
        omega
      refine client.passThruSelect_prompt ids threshold timeout passes hnodup hids hthreshold
        hready fun hgivesUp => ?_
      have hzero := hnone 0 hgivesUp
      rw [after_zero] at hzero
      omega
    refine ⟨hprompt, fun hready hquiet retval hret => ?_, fun m h => ?_,
      client.passThruSelect_channels ids threshold timeout passes⟩
    · rw [hprompt hready retval hret]
      cases passes with
      | nil => rfl
      | cons pass passes =>
        rw [after_succ, after_zero, hquiet pass rfl]
        rfl
    · rw [client.passThruSelect_gaveUp ids threshold timeout passes m h, if_pos (hnone m h)]

theorem selectsRight_iff_oneOpen :
    let passes : List SelectPass := [⟨0, []⟩, ⟨12, [(20000, [.zero])]⟩]
    SelectsRight [20000, 20001] 1 1000 oneOpen passes
        (oneOpen.passThruSelect (some ⟨1, some [20000, 20001]⟩) 1000 passes) ↔
      ∀ m, GivesUp [20000, 20001] 1 1000 oneOpen passes m →
        (oneOpen.after passes m).readyNum [20000, 20001] = 0 :=
  selectsRight_iff oneOpen [20000, 20001] (by decide) 1 1000 (by decide) _

/-- One of two channels is ready at the call, with no time to wait: the call says that none
is. -/
theorem selectsRight_noTime :
    let client := oneOpen.enqueue 20000 [.zero]
    let passes : List SelectPass := [⟨0, []⟩]
    ¬SelectsRight [20000, 20001] 1 0 client passes
      (client.passThruSelect (some ⟨1, some [20000, 20001]⟩) 0 passes) := by
  intro client passes h
  have hret := h.prompt (by decide) (.code .errTimeout) (by decide)
  cases hret

end J2534CannelloniClient

end J2534Oip
