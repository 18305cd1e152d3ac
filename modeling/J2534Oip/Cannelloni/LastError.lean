import J2534Oip.Cannelloni.Api

/-!
# `PassThruGetLastError`

A failing call should leave its code for `PassThruGetLastError`.  `PassThruOpen`,
`PassThruConnect`, `PassThruReadMsgs` and `PassThruWriteMsgs` do; every other failing branch
sets `lastError` at most and leaves `lastErrorLong` as it was.  `Silent` lists those
branches by what leads to them; over any run

    Run CallStep (CallState.start …) acts s → some act ∈ acts →
      (Reported act ↔ ∀ c, Silent act.before act.call c → act.before.lastErrorLong = c)
                                                                        (lastError_iff)
-/

namespace J2534Oip

open J2534CannelloniClient (Retval ChannelSet SelectPass enqueueAll selectLoop)

/-- `lastErrorLong` -/
def CallState.lastErrorLong (s : CallState) : J2534Err := s.world.client.lastErrorLong

/-- A failing call is reported: its code is what `PassThruGetLastError` returns next,
whatever receive threads do in between. -/
def Reported (act : CallAct) : Prop :=
  ∀ c, act.retval = .code c → c ≠ .statusNoError →
    ∀ n s, Run CallStep act.after (List.replicate n none) s →
      (s.world.client.passThruGetLastError true).2.1 = c

/-! ## The branches that store no code -/

/-- The polling loop ends with no listed channel ready. -/
def TimesOut (ids : List UInt32) (threshold timeout : UInt32) :
    J2534CannelloniClient → List SelectPass → Prop
  | _, [] => False
  | client, pass :: passes =>
    timeout.toNat ≤ pass.elapsed ∨
      let client := client.enqueueAll pass.arrivals
      threshold = 0 ∧ (∀ id ∈ ids, client.ready id = false) ∨
        ids.countP client.ready < threshold.toNat ∧ TimesOut ids threshold timeout client passes

/-- A branch that returns the code without storing it. -/
inductive Silent (s : CallState) : ApiCall → J2534Err → Prop
  | closeUnknown (deviceID : UInt32) (h : deviceID ∉ s.world.client.channelMap) :
      Silent s (.passThruClose deviceID) .errInvalidDeviceId
  | getLastErrorNull : Silent s (.passThruGetLastError false) .errNullParameter
  | scanNull : Silent s (.passThruScanForDevices false) .errNullParameter
  | nextNull : Silent s (.passThruGetNextDevice false) .errNullParameter
  | nextEnd (h : CallState.virtualDeviceCount ≤ s.scanIndex) :
      Silent s (.passThruGetNextDevice true) .errNoMoreDevices
  | carDaqNull (allocName allocAddr : Bool) :
      Silent s (.passThruGetNextCarDAQ false allocName allocAddr) .errNullParameter
  | carDaqEnd (allocName allocAddr : Bool) (h : CallState.virtualDeviceCount ≤ s.scanIndex) :
      Silent s (.passThruGetNextCarDAQ true allocName allocAddr) .errNoMoreDevices
  | carDaqAlloc (allocName allocAddr : Bool) (h : s.scanIndex < CallState.virtualDeviceCount)
      (halloc : (allocName && allocAddr) = false) :
      Silent s (.passThruGetNextCarDAQ true allocName allocAddr) .errNullParameter
  | selectNull (timeout : UInt32) (passes : List SelectPass) :
      Silent s (.passThruSelect none timeout passes) .errNullParameter
  | selectEmpty (set : ChannelSet) (timeout : UInt32) (passes : List SelectPass)
      (h : set.channelList.getD [] = []) :
      Silent s (.passThruSelect (some set) timeout passes) .errInvalidChannelId
  | selectTimeout (set : ChannelSet) (timeout : UInt32) (passes : List SelectPass)
      (ids : List UInt32) (hids : set.channelList = some ids) (hne : ids ≠ [])
      (h : TimesOut ids set.channelThreshold timeout s.world.client passes) :
      Silent s (.passThruSelect (some set) timeout passes) .errTimeout
  | notImplemented (f : FuncName) (h : fixedRetval f = some .errNotSupported) :
      Silent s (.fixed f) .errNotSupported

/-! ## Arrivals keep the error -/

namespace J2534CannelloniClient

@[simp] theorem lastErrorLong_enqueue (client : J2534CannelloniClient) (port : UInt32)
    (msgs : List PassthruMsg) : (client.enqueue port msgs).lastErrorLong = client.lastErrorLong := by
  unfold enqueue
  cases client.channelMap.lookup port <;> rfl

@[simp] theorem lastErrorLong_enqueueAll (client : J2534CannelloniClient)
    (arrivals : List (UInt32 × List PassthruMsg)) :
    (client.enqueueAll arrivals).lastErrorLong = client.lastErrorLong := by
  induction arrivals generalizing client with
  | nil => rfl
  | cons a arrivals ih =>
    show ((client.enqueue a.1 a.2).enqueueAll arrivals).lastErrorLong = _
    rw [ih, lastErrorLong_enqueue]

theorem lastErrorLong_selectLoop (ids : List UInt32) (threshold timeout : UInt32)
    (client : J2534CannelloniClient) (passes : List SelectPass) :
    (selectLoop ids threshold timeout client passes).1.lastErrorLong = client.lastErrorLong := by
  fun_induction selectLoop ids threshold timeout client passes with
  | case1 client => rfl
  | case2 client pass passes client' htime => exact lastErrorLong_enqueueAll _ _
  | case3 client pass passes client' htime readyCount hready => exact lastErrorLong_enqueueAll _ _
  | case4 client pass passes client' htime readyCount hready ih =>
    rw [ih]
    exact lastErrorLong_enqueueAll _ _

/-- The loop ends with the count 0 just when it times out. -/
theorem selectLoop_eq_zero_iff (ids : List UInt32) (threshold timeout : UInt32)
    (client : J2534CannelloniClient) (passes : List SelectPass) :
    (selectLoop ids threshold timeout client passes).2 = some 0 ↔
      TimesOut ids threshold timeout client passes := by
  fun_induction selectLoop ids threshold timeout client passes with
  | case1 client => simp [TimesOut]
  | case2 client pass passes client' htime => simp [TimesOut, htime]
  | case3 client pass passes client' htime readyCount hready =>
    have hzero : readyCount = 0 ↔ ∀ id ∈ ids, client'.ready id = false := by
      simp [readyCount, List.countP_eq_zero]
    simp only [TimesOut, htime, false_or, Option.some.injEq]
    constructor
    · intro h0
      refine Or.inl ⟨UInt32.toNat_inj.1 ?_, hzero.1 h0⟩
      exact Nat.le_zero.1 (h0 ▸ hready)
    · rintro (⟨-, h0⟩ | ⟨hlt, -⟩)
      · exact hzero.2 h0
      · exact absurd hready (Nat.not_le.2 hlt)
  | case4 client pass passes client' htime readyCount hready ih =>
    have hlt : readyCount < threshold.toNat := Nat.not_le.1 hready
    have hne : threshold ≠ 0 := by
      rintro rfl
      exact Nat.not_lt_zero _ hlt
    simp only [TimesOut, htime, false_or, hne, false_and, ih]
    exact (and_iff_right hlt).symm

end J2534CannelloniClient

/-! ## What a call does to the error -/

/-- A call takes a silent branch, with its code and the error as it was, or none; then the
code it fails with is stored. -/
structure Effect (s : CallState) (call : ApiCall) (retval : Retval) (s' : CallState) : Prop where
  silent : ∀ c, Silent s call c →
    retval = .code c ∧ c ≠ .statusNoError ∧ s'.lastErrorLong = s.lastErrorLong
  stored : (∀ c, ¬Silent s call c) → ∀ c, retval = .code c → c ≠ .statusNoError →
    s'.lastErrorLong = c

section
variable (s : CallState)

/-- A call without silent branches. -/
theorem effect_stored {call : ApiCall} {retval : Retval} {s' : CallState}
    (hnone : ∀ c, ¬Silent s call c)
    (h : ∀ c, retval = .code c → c ≠ .statusNoError → s'.lastErrorLong = c) :
    Effect s call retval s' where
  silent c hc := absurd hc (hnone c)
  stored _ := h

/-- A call that ends in a silent branch. -/
theorem effect_silent {call : ApiCall} {s' : CallState} {c : J2534Err} (hc : Silent s call c)
    (hcode : c ≠ .statusNoError) (honly : ∀ c', Silent s call c' → c' = c)
    (h : s'.lastErrorLong = s.lastErrorLong) : Effect s call (.code c) s' where
  silent := by
    intro c' hc'
    obtain rfl := honly c' hc'
    exact ⟨rfl, hcode, h⟩
  stored hnone := absurd hc (hnone c)

/-- A call that succeeds. -/
theorem effect_success {call : ApiCall} {s' : CallState} (hnone : ∀ c, ¬Silent s call c) :
    Effect s call (.code .statusNoError) s' := by
  refine effect_stored s hnone fun c hc hne => ?_
  exact absurd (Retval.code.inj hc).symm hne

theorem effect_open (pName : Option (List UInt8)) (pDeviceID : Option UInt32)
    (env : OpenEnv s.world.os) :
    Effect s (.passThruOpen pName pDeviceID)
      (.code (s.world.passThruOpen pName pDeviceID env).2.retval)
      { s with world := (s.world.passThruOpen pName pDeviceID env).1 } := by
  have hnone : ∀ c, ¬Silent s (.passThruOpen pName pDeviceID) c := nofun
  rcases s.world.passThruOpen_cases pName pDeviceID env with
    ⟨text, err, hr, -, -⟩ | ⟨sockfd, ctx, -, -, -, -, -, -, -, hr⟩
  · rw [hr]
    refine effect_stored s hnone fun c hc _ => ?_
    exact Retval.code.inj hc
  · rw [hr]
    exact effect_success s hnone

theorem effect_close (deviceID : UInt32) :
    Effect s (.passThruClose deviceID) (.code (s.world.passThruClose deviceID).2)
      { s with world := (s.world.passThruClose deviceID).1 } := by
  cases hctx : s.world.client.channelMap.lookup deviceID with
  | none =>
    have hunknown : deviceID ∉ s.world.client.channelMap := AList.lookup_eq_none.1 hctx
    simp only [World.passThruClose, hctx]
    exact effect_silent s (.closeUnknown deviceID hunknown) (by decide)
      (by rintro c ⟨⟩; rfl) rfl
  | some ctx =>
    have hknown : deviceID ∈ s.world.client.channelMap :=
      AList.lookup_isSome.1 (by rw [hctx]; rfl)
    simp only [World.passThruClose, hctx]
    refine effect_success s fun c hc => ?_
    cases hc with
    | closeUnknown _ hunknown => exact hunknown hknown

theorem effect_connect (deviceID : UInt32) :
    Effect s (.passThruConnect deviceID) (.code (s.world.client.passThruConnect deviceID).2.1)
      (s.setClient (s.world.client.passThruConnect deviceID).1) := by
  refine effect_stored s nofun fun c hc hne => ?_
  simp only [J2534CannelloniClient.passThruConnect] at hc ⊢
  split at hc <;> exact Retval.code.inj hc

theorem effect_read (channelID : UInt32) (requested : Nat) (timeout : UInt32)
    (elapsed : Nat → Nat) (arrivals : Nat → List PassthruMsg) :
    Effect s (.passThruReadMsgs channelID requested timeout)
      (.code (s.world.client.passThruReadMsgs channelID requested timeout elapsed
        arrivals).2.retval)
      (s.setClient (s.world.client.passThruReadMsgs channelID requested timeout elapsed
        arrivals).1) := by
  refine effect_stored s nofun fun c hc hne => ?_
  simp only [J2534CannelloniClient.passThruReadMsgs] at hc ⊢
  split at hc <;> exact Retval.code.inj hc

theorem effect_write (channelID : UInt32) (pMsg : List PassthruMsg) (sendto : Nat → Int)
    (wsaGetLastError : Int) :
    Effect s (.passThruWriteMsgs channelID pMsg)
      (.code (s.world.client.passThruWriteMsgs channelID pMsg sendto wsaGetLastError).2.retval)
      (s.setClient (s.world.client.passThruWriteMsgs channelID pMsg sendto wsaGetLastError).1) := by
  refine effect_stored s nofun fun c hc hne => ?_
  simp only [J2534CannelloniClient.passThruWriteMsgs] at hc ⊢
  split at hc
  · exact Retval.code.inj hc
  · split at hc <;> exact Retval.code.inj hc

theorem effect_getLastError (pErrorDescription : Bool) :
    Effect s (.passThruGetLastError pErrorDescription)
      (.code (s.world.client.passThruGetLastError pErrorDescription).2.1)
      (s.setClient (s.world.client.passThruGetLastError pErrorDescription).1) := by
  cases pErrorDescription with
  | false =>
    show Effect s _ (.code .errNullParameter) _
    exact effect_silent s .getLastErrorNull (by decide) (by rintro c ⟨⟩; rfl) rfl
  | true =>
    refine effect_stored s nofun fun c hc hne => ?_
    have hc := Retval.code.inj hc
    simp only [J2534CannelloniClient.passThruGetLastError, if_true] at hc
    split at hc
    · exact absurd hc.symm hne
    · exact hc

theorem effect_select (set : Option ChannelSet) (timeout : UInt32) (passes : List SelectPass)
    (retval : Retval) (hret : (s.world.client.passThruSelect set timeout passes).2 = some retval) :
    Effect s (.passThruSelect set timeout passes) retval
      (s.setClient (s.world.client.passThruSelect set timeout passes).1) := by
  cases set with
  | none =>
    obtain rfl := Option.some.inj hret
    exact effect_silent s (.selectNull timeout passes) (by decide) (by rintro c ⟨⟩; rfl) rfl
  | some set =>
    obtain ⟨threshold, list⟩ := set
    -- both kinds of an empty set
    have hempty : list.getD [] = [] →
        Effect s (.passThruSelect (some ⟨threshold, list⟩) timeout passes)
          (.code .errInvalidChannelId)
          (s.setLastError "Invalid ChannelSet (empty list)") := by
      intro hlist
      refine effect_silent s (.selectEmpty _ timeout passes hlist) (by decide) ?_ rfl
      intro c hc
      cases hc with
      | selectEmpty => rfl
      | selectTimeout _ _ _ ids hids hne =>
        obtain rfl : list = some ids := hids
        exact absurd hlist hne
    rcases list with _ | _ | ⟨id, ids⟩
    · obtain rfl := Option.some.inj hret
      exact hempty rfl
    · obtain rfl := Option.some.inj hret
      exact hempty rfl
    · obtain ⟨readyCount, hcount, rfl⟩ := Option.map_eq_some_iff.1 hret
      have hzero := J2534CannelloniClient.selectLoop_eq_zero_iff (id :: ids) threshold timeout
        s.world.client passes
      rw [hcount, Option.some.injEq] at hzero
      by_cases h0 : readyCount = 0
      · subst h0
        refine effect_silent s (.selectTimeout _ timeout passes (id :: ids) rfl (by simp)
          (hzero.1 rfl)) (by decide) ?_ ?_
        · intro c hc
          cases hc with
          | selectEmpty _ _ _ hlist => cases hlist
          | selectTimeout => rfl
        · exact J2534CannelloniClient.lastErrorLong_selectLoop _ _ _ _ _
      · rw [if_pos (Nat.pos_of_ne_zero h0)]
        refine effect_stored s ?_ nofun
        intro c hc
        cases hc with
        | selectEmpty _ _ _ hlist => cases hlist
        | selectTimeout _ _ _ ids' hids hne h =>
          obtain rfl := Option.some.inj hids
          exact h0 (hzero.2 h)

theorem effect_scan (pDeviceCount : Bool) :
    Effect s (.passThruScanForDevices pDeviceCount)
      (.code (s.passThruScanForDevices pDeviceCount).2.1)
      (s.passThruScanForDevices pDeviceCount).1 := by
  cases pDeviceCount with
  | false =>
    show Effect s _ (.code .errNullParameter) _
    exact effect_silent s .scanNull (by decide) (by rintro c ⟨⟩; rfl) rfl
  | true => exact effect_success s nofun

theorem effect_next (psDevice : Bool) :
    Effect s (.passThruGetNextDevice psDevice) (.code (s.passThruGetNextDevice psDevice).2.1)
      (s.passThruGetNextDevice psDevice).1 := by
  cases psDevice with
  | false =>
    show Effect s _ (.code .errNullParameter) _
    exact effect_silent s .nextNull (by decide) (by rintro c ⟨⟩; rfl) rfl
  | true =>
    by_cases hend : CallState.virtualDeviceCount ≤ s.scanIndex
    · have hnext : s.passThruGetNextDevice true = (s, .errNoMoreDevices, none) := if_pos hend
      rw [hnext]
      show Effect s _ (.code .errNoMoreDevices) _
      exact effect_silent s (.nextEnd hend) (by decide) (by rintro c ⟨⟩; rfl) rfl
    · have hnext : (s.passThruGetNextDevice true).2.1 = .statusNoError := by
        simp [CallState.passThruGetNextDevice, hend]
      rw [hnext]
      refine effect_success s fun c hc => ?_
      cases hc with
      | nextEnd h => exact hend h

theorem effect_carDaq (pointers allocName allocAddr : Bool) :
    Effect s (.passThruGetNextCarDAQ pointers allocName allocAddr)
      (.code (s.passThruGetNextCarDAQ pointers allocName allocAddr).2.1)
      (s.passThruGetNextCarDAQ pointers allocName allocAddr).1 := by
  cases pointers with
  | false =>
    show Effect s _ (.code .errNullParameter) _
    exact effect_silent s (.carDaqNull _ _) (by decide) (by rintro c ⟨⟩; rfl) rfl
  | true =>
    by_cases hend : CallState.virtualDeviceCount ≤ s.scanIndex
    · have hnext : s.passThruGetNextCarDAQ true allocName allocAddr = (s, .errNoMoreDevices, none) :=
        if_pos hend
      rw [hnext]
      show Effect s _ (.code .errNoMoreDevices) _
      refine effect_silent s (.carDaqEnd _ _ hend) (by decide) ?_ rfl
      intro c hc
      cases hc with
      | carDaqEnd => rfl
      | carDaqAlloc _ _ h => exact absurd hend (Nat.not_le.2 h)
    · by_cases halloc : (allocName && allocAddr) = false
      · have hfail : ∃ text, s.passThruGetNextCarDAQ true allocName allocAddr =
            (s.setLastError text, .errNullParameter, none) := by
          cases allocName with
          | false => exact ⟨_, if_neg hend⟩
          | true =>
            obtain rfl : allocAddr = false := halloc
            exact ⟨_, if_neg hend⟩
        obtain ⟨text, hfail⟩ := hfail
        rw [hfail]
        show Effect s _ (.code .errNullParameter) _
        refine effect_silent s (.carDaqAlloc _ _ (Nat.not_le.1 hend) halloc) (by decide) ?_ rfl
        intro c hc
        cases hc with
        | carDaqEnd _ _ h => exact absurd h hend
        | carDaqAlloc => rfl
      · obtain ⟨rfl, rfl⟩ : allocName = true ∧ allocAddr = true := by simpa using halloc
        have hnext : (s.passThruGetNextCarDAQ true true true).2.1 = .statusNoError := by
          simp [CallState.passThruGetNextCarDAQ, hend]
        rw [hnext]
        refine effect_success s fun c hc => ?_
        cases hc with
        | carDaqEnd _ _ h => exact hend h
        | carDaqAlloc _ _ _ h => exact halloc h

theorem fixedRetval_cases {f : FuncName} {retval : J2534Err} (h : fixedRetval f = some retval) :
    retval = .statusNoError ∨ retval = .errNotSupported := by
  cases f <;> cases h <;> first | exact Or.inl rfl | exact Or.inr rfl

theorem effect_fixed (f : FuncName) (retval : J2534Err) (hf : fixedRetval f = some retval) :
    Effect s (.fixed f) (.code retval) s := by
  rcases fixedRetval_cases hf with rfl | rfl
  · refine effect_success s fun c hc => ?_
    cases hc with
    | notImplemented _ h => cases hf.symm.trans h
  · exact effect_silent s (.notImplemented f hf) (by decide) (by rintro c ⟨⟩; rfl) rfl

/-- **Every call takes a silent branch or stores its code.** -/
theorem effect_returns {call : ApiCall} {retval : Retval} {s' : CallState}
    (h : s.Returns call retval s') : Effect s call retval s' := by
  cases h with
  | passThruOpen pName pDeviceID env => exact effect_open s pName pDeviceID env
  | passThruClose deviceID => exact effect_close s deviceID
  | passThruConnect deviceID => exact effect_connect s deviceID
  | passThruReadMsgs channelID requested timeout elapsed arrivals =>
    exact effect_read s channelID requested timeout elapsed arrivals
  | passThruWriteMsgs channelID pMsg sendto wsaGetLastError =>
    exact effect_write s channelID pMsg sendto wsaGetLastError
  | passThruGetLastError pErrorDescription => exact effect_getLastError s pErrorDescription
  | passThruSelect set timeout passes _ hret => exact effect_select s set timeout passes retval hret
  | passThruScanForDevices pDeviceCount => exact effect_scan s pDeviceCount
  | passThruGetNextDevice psDevice => exact effect_next s psDevice
  | passThruGetNextCarDAQ pointers allocName allocAddr =>
    exact effect_carDaq s pointers allocName allocAddr
  | fixed f retval hf => exact effect_fixed s f retval hf

end

/-! ## Over runs -/

/-- Receive threads leave the error alone. -/
theorem lastErrorLong_quiet {s s' : CallState} {n : Nat}
    (h : Run CallStep s (List.replicate n none) s') : s'.lastErrorLong = s.lastErrorLong := by
  have hall := h.invariant (I := fun es s' => (∀ e ∈ es, e = none) →
    s'.lastErrorLong = s.lastErrorLong) (fun _ => rfl) ?_
  · exact hall fun e he => List.eq_of_mem_replicate he
  · intro es s₁ e s₂ _ ih hstep hes
    have h₁ := ih fun e he => hes e (List.mem_append_left _ he)
    obtain rfl := hes e (List.mem_append_right _ (List.mem_singleton_self e))
    cases hstep with
    | received port msgs =>
      exact (J2534CannelloniClient.lastErrorLong_enqueue _ port msgs).trans h₁
    | threadEnded id => exact h₁

/-- With a buffer, `PassThruGetLastError` returns what is stored. -/
theorem passThruGetLastError_eq (client : J2534CannelloniClient) :
    (client.passThruGetLastError true).2.1 = client.lastErrorLong := by
  simp only [J2534CannelloniClient.passThruGetLastError, if_true]
  split
  · next h => exact h.symm
  · rfl

/-- A call that failed is reported when its code is stored behind it. -/
theorem reported_iff (act : CallAct) : Reported act ↔
    ∀ c, act.retval = .code c → c ≠ .statusNoError → act.after.lastErrorLong = c := by
  constructor
  · intro h c hc hne
    have hnext := h c hc hne 0 act.after Run.start
    rwa [passThruGetLastError_eq] at hnext
  · intro h c hc hne n s hrun
    rw [passThruGetLastError_eq, ← h c hc hne]
    exact lastErrorLong_quiet hrun

/-- **Which failures are reported.**  In any run, each call whose silent branch, if it takes
one, returns the code that was stored before. -/
theorem lastError_iff (defaultHost : List UInt8) (defaultPort : UInt32) (version : UInt8)
    (wsaStartup : Int) (scanIndex : Nat) (acts : List (Option CallAct)) (s : CallState)
    (h : Run CallStep (.start defaultHost defaultPort version wsaStartup scanIndex) acts s)
    (act : CallAct) (hact : some act ∈ acts) :
    Reported act ↔ ∀ c, Silent act.before act.call c → act.before.lastErrorLong = c := by
  obtain ⟨pre, post, hes⟩ := List.append_of_mem hact
  have hreturns := h.acts (P := fun _ e => ∀ act, e = some act →
    act.before.Returns act.call act.retval act.after) ?_ pre (some act) post hes act rfl
  · have heffect := effect_returns act.before hreturns
    rw [reported_iff]
    constructor
    · intro hstored c hc
      obtain ⟨hret, hne, hkept⟩ := heffect.silent c hc
      rw [← hkept]
      exact hstored c hret hne
    · intro hsame c hret hne
      by_cases hsilent : ∃ c', Silent act.before act.call c'
      · obtain ⟨c', hc'⟩ := hsilent
        obtain ⟨hret', -, hkept⟩ := heffect.silent c' hc'
        obtain rfl : c = c' := Retval.code.inj (hret.symm.trans hret')
        rw [hkept]
        exact hsame c hc'
      · exact heffect.stored (not_exists.1 hsilent) c hret hne
  · intro es s e s' _ hstep act he
    cases hstep with
    | call s' call retval hreturns =>
      obtain rfl := Option.some.inj he
      exact hreturns
    | _ => cases he

/-- A write to an unknown channel, right after the constructor. -/
theorem lastError_write :
    let s := CallState.start [] 20000 1 0 0
    let act : CallAct :=
      { before := s, call := .passThruWriteMsgs 5 [], retval := .code .errInvalidChannelId,
        after := s.setClient (s.world.client.passThruWriteMsgs 5 [] (fun _ => 0) 0).1 }
    Reported act ↔ ∀ c, Silent act.before act.call c → act.before.lastErrorLong = c := by
  intro s act
  have hstep : CallStep s (some act) act.after :=
    .call s _ _ _ (.passThruWriteMsgs 5 [] (fun _ => 0) 0)
  exact lastError_iff [] 20000 1 0 0 [some act] act.after (Run.start.next hstep) act
    (List.mem_singleton_self _)

/-- `PassThruClose(5)` right after the constructor fails, and the last error is still 0. -/
theorem lastError_close :
    let s := CallState.start [] 20000 1 0 0
    let act : CallAct :=
      { before := s, call := .passThruClose 5, retval := .code .errInvalidDeviceId,
        after := { s with world := (s.world.passThruClose 5).1 } }
    Run CallStep s [some act] act.after ∧ ¬Reported act := by
  intro s act
  refine ⟨Run.start.next (.call s _ _ _ (.passThruClose 5)), fun h => ?_⟩
  have hcode := h .errInvalidDeviceId rfl (by decide) 0 act.after Run.start
  cases hcode

end J2534Oip
