import J2534Oip.Log.Encoded
import J2534Oip.Viewer.Shown
import J2534Oip.Wrapper.Load

/-!
# Which functions the viewer lists as loaded

`loadDll` sends a record that tells, for each function it looked up, whether the DLL exports
it; the viewer remembers the last one and lists from it what is loaded and what is not.
A failed load sends an empty table, an unload sends nothing, and neither resets a pointer.
So the functions listed as loaded are those whose pointer is set

    when the last attempt succeeded, or no pointer is set                     (dllFuncs_iff)
-/

namespace J2534Oip

open QCborValue QCborMap CborUtils ExMessagePreProcessor

/-! ## The record of a load -/

namespace J2534DllWrapper

variable {Dll Proc : Type*} (getProcAddress : Dll → String → Option Proc)

/-- `loadFunction` with its `cb_map`: a pointer is set and an entry put. -/
def loadFunctionLogged (st : J2534DllWrapper Dll Proc × List (Cbor × Cbor)) (f : FuncName) :
    J2534DllWrapper Dll Proc × List (Cbor × Cbor) :=
  let proc := loadFunction getProcAddress st.1 f
  (st.1.setPtr f proc, mapPutBool st.2 f.name proc.isSome)

/-- `loadDll` with the record it sends; `dllPathA` is the path as bytes. -/
def loadDllLogged (w : J2534DllWrapper Dll Proc) (dllPathA : List UInt8) :
    Option Dll → J2534DllWrapper Dll Proc × List (Cbor × Cbor)
  | some hModule =>
    let root := mapPutInt [] (ExPipeClient.key .funcName) 1
    let root := mapPutString root (ExPipeClient.key .param1) (cString dllPathA)
    let r := lookedUp.foldl (loadFunctionLogged getProcAddress)
      ({ w with dllHandle := some hModule }, [])
    (r.1, mapPutMap root (ExPipeClient.key .param2) r.2)
  | none =>
    let root := mapPutInt [] (ExPipeClient.key .funcName) 1
    let root := mapPutString root (ExPipeClient.key .param1) (cString dllPathA)
    let root := mapPutMap root (ExPipeClient.key .param2) []
    (w, mapPutString root (ExPipeClient.key .error) (cString (utf8 "Can't load DLL " ++ dllPathA)))

/-- What a load tells of the functions. -/
def funcsMap (hModule : Option Dll) : List (Cbor × Cbor) :=
  match hModule with
  | some h => lookedUp.map fun f =>
      (.text (utf8 f.name), .simple (if (getProcAddress h f.name).isSome then 21 else 20))
  | none => []

theorem foldl_loadFunctionLogged (h : Dll) (fs : List FuncName) (w : J2534DllWrapper Dll Proc)
    (map : List (Cbor × Cbor)) (hw : w.dllHandle = some h) :
    fs.foldl (loadFunctionLogged getProcAddress) (w, map) =
      (fs.foldl (fun w f => w.setPtr f (loadFunction getProcAddress w f)) w,
        map ++ fs.map fun f =>
          (.text (utf8 f.name), .simple (if (getProcAddress h f.name).isSome then 21 else 20))) := by
  induction fs generalizing w map with
  | nil => simp
  | cons f fs ih =>
    have hproc : loadFunction getProcAddress w f = getProcAddress h f.name := by
      rw [loadFunction, hw]
      rfl
    have ih := ih (w.setPtr f (loadFunction getProcAddress w f))
      (mapPutBool map f.name (loadFunction getProcAddress w f).isSome) hw
    rw [List.foldl_cons, List.foldl_cons]
    refine Eq.trans ih ?_
    rw [hproc, mapPutBool, List.map_cons, List.append_assoc]
    rfl

/-- The record of a load, and that logging changes nothing else. -/
theorem loadDllLogged_eq (w : J2534DllWrapper Dll Proc) (dllPathA : List UInt8)
    (hModule : Option Dll) : ∃ error,
      loadDllLogged getProcAddress w dllPathA hModule = (w.loadDll getProcAddress hModule,
        [(.int 0, .int 1), (.int 1, .text (cString dllPathA)),
          (.int 2, .map (funcsMap getProcAddress hModule))] ++ error) ∧
      error = if hModule.isSome then [] else
        [(.int 10, .text (cString (utf8 "Can't load DLL " ++ dllPathA)))] := by
  cases hModule with
  | none => exact ⟨_, rfl, rfl⟩
  | some h =>
    have hfold := foldl_loadFunctionLogged getProcAddress h lookedUp
      { w with dllHandle := some h } [] rfl
    refine ⟨[], ?_, rfl⟩
    rw [loadDllLogged, hfold, List.nil_append]
    rfl

/-- The record as it is encoded: the error text was a temporary's. -/
def loadRecord (w : J2534DllWrapper Dll Proc) (dllPathA : List UInt8) (hModule : Option Dll)
    (dead : Nat → Nat → UInt8) : List (Cbor × Cbor) :=
  encoded [.error] dead (loadDllLogged getProcAddress w dllPathA hModule).2

/-- What the memory of the error text of a failed load holds when it is encoded. -/
def deadText (dllPathA : List UInt8) (dead : Nat → Nat → UInt8) : List UInt8 :=
  (List.range (cString (utf8 "Can't load DLL " ++ dllPathA)).length).map (dead 3)

theorem loadRecord_eq (w : J2534DllWrapper Dll Proc) (dllPathA : List UInt8)
    (hModule : Option Dll) (dead : Nat → Nat → UInt8) :
    loadRecord getProcAddress w dllPathA hModule dead =
      [(.int 0, .int 1), (.int 1, .text (cString dllPathA)),
        (.int 2, .map (funcsMap getProcAddress hModule))] ++
        if hModule.isSome then [] else [(.int 10, .text (deadText dllPathA dead))] := by
  obtain ⟨error, heq, herror⟩ := loadDllLogged_eq getProcAddress w dllPathA hModule
  rw [loadRecord, heq, herror]
  cases hModule <;> rfl

end J2534DllWrapper

/-! ## Booleans on the way -/

def QCborValue.toBool (dflt : Bool) : Cbor → Bool
  | .simple 20 => false
  | .simple 21 => true
  | _ => dflt

/-- Both libraries hold booleans too: a tree with some is written, and restored. -/
def CborLink.RestoresBools (L : CborLink) : Prop :=
  ∀ t, Cbor.All (fun u => WellFormedHere u ∨ u = .simple 20 ∨ u = .simple 21) t →
    Cbor.depth t ≤ 1024 → ∃ bs, L.encoderWrite t = some bs ∧ L.fromCbor bs = t

theorem restoresBools_rfc8949 : CborLink.rfc8949.RestoresBools := by
  intro t h _
  refine ⟨_, rfl, Cbor.ofBytes_encode t (Cbor.All.imp (fun u hu => ?_) t h)⟩
  rcases hu with hu | rfl | rfl
  · cases u <;> simp only [WellFormedHere, Cbor.FitsHere] at hu ⊢ <;> omega
  · decide
  · decide

/-! ## What the viewer keeps -/

namespace ExJ2534Wrapper

/-- `getDllFuncs` -/
def getDllFuncs (L : CborLink) (v : ExJ2534Wrapper) (loaded : Bool) : List String :=
  match v.loadedFuncs with
  | none => []
  | some obj =>
    let cbor := toMap (L.fromCbor obj.msg.data)
    let funcs := toMap (value (intKey (PipeMessage.key .param2)) cbor)
    if loaded then
      (funcs.filter fun val => toBool false val.2).map fun val => QCborValue.toString val.1
    else
      (funcs.filter fun val => !toBool false val.2).map fun val => QCborValue.toString val.1

end ExJ2534Wrapper

section
variable {L : CborLink}

/-- The record of a load. -/
def isLoad (L : CborLink) (g : Given) : Bool := g.func L == some 1

theorem switch_eq_loadDll (f : Int) : ExJ2534Wrapper.switch f = .loadDll ↔ f = 1 := by
  constructor
  · intro h
    unfold ExJ2534Wrapper.switch at h
    split_ifs at h with h0 h1
    exact h1
  · rintro rfl
    rfl

theorem loadedFuncs_processPipeMessage (now : Int64) (v : ExJ2534Wrapper) (msg : PipeMessage) :
    (ExJ2534Wrapper.processPipeMessage L now v msg).loadedFuncs.map (·.msg.data) =
      if isLoad L ⟨.wrapper, now, msg⟩ then some msg.data
      else v.loadedFuncs.map (·.msg.data) := by
  have hload := switch_eq_loadDll (ExJ2534Wrapper.funcName L msg.data)
  simp only [ExJ2534Wrapper.processPipeMessage, PipeMessage.dataType_stamp, PipeMessage.data_stamp,
    isLoad, Given.func]
  split_ifs with h2 h1 h1
  · have hs := hload.2 (by simpa using h1)
    simp only [hs, ExJ2534Wrapper.enqueue, Option.map_some, PipeMessage.data_stamp]
  · have hs : ExJ2534Wrapper.switch (ExJ2534Wrapper.funcName L msg.data) ≠ .loadDll := by
      intro hs
      exact h1 (by simpa using hload.1 hs)
    cases hcase : ExJ2534Wrapper.switch (ExJ2534Wrapper.funcName L msg.data) with
    | loadDll => exact absurd hcase hs
    | _ => rfl
  · simp at h1
  · rfl

/-- The last load record given to the wrapper's viewer. -/
theorem loadedFuncs_shown (gs : List Given) :
    (App.shown L gs).wrapper.loadedFuncs.map (·.msg.data) =
      (((givenTo .wrapper gs).filter (isLoad L)).getLast?).map (·.msg.data) := by
  induction gs using List.reverseRecOn with
  | nil => rfl
  | append_singleton gs g ih =>
    rw [App.shown_append]
    obtain ⟨gv, now, msg⟩ := g
    cases gv with
    | wrapper =>
      have hgiven : givenTo .wrapper (gs ++ [⟨.wrapper, now, msg⟩]) =
          givenTo .wrapper gs ++ [⟨.wrapper, now, msg⟩] := by
        simp [givenTo]
      have hstep := loadedFuncs_processPipeMessage (L := L) now (App.shown L gs).wrapper msg
      rw [List.foldl_cons, List.foldl_nil, direct_wrapper, wrapper_runQueued, hgiven,
        List.filter_append]
      refine hstep.trans ?_
      rw [ih]
      cases hload : isLoad L ⟨.wrapper, now, msg⟩ <;> simp [hload]
    | emulator =>
      have hgiven : givenTo .wrapper (gs ++ [⟨.emulator, now, msg⟩]) = givenTo .wrapper gs := by
        simp [givenTo]
      rw [List.foldl_cons, List.foldl_nil, direct_emulator, hgiven]
      exact ih
    | cannelloni =>
      have hgiven : givenTo .wrapper (gs ++ [⟨.cannelloni, now, msg⟩]) = givenTo .wrapper gs := by
        simp [givenTo]
      rw [List.foldl_cons, List.foldl_nil, direct_cannelloni, hgiven]
      exact ih

end

/-! ## The record on the other side -/

theorem ofUtf8_utf8 (s : String) : ofUtf8 (utf8 s) = s := by
  have hvalid : ByteArray.IsValidUTF8 ⟨(utf8 s).toArray⟩ := validUtf8_utf8 s
  unfold ofUtf8 String.fromUTF8?
  rw [dif_pos hvalid]
  rfl

namespace J2534DllWrapper

variable {Dll Proc : Type*} (getProcAddress : Dll → String → Option Proc) {L : CborLink}

/-- The message is what an attempt to load sent; the path is UTF-8 up to its NUL, and so is what
the memory of a dead error text holds. -/
def LoadSent (L : CborLink) (hModule : Option Dll) (g : Given) : Prop :=
  ∃ (w : J2534DllWrapper Dll Proc) (dllPathA : List UInt8) (dead : Nat → Nat → UInt8),
    ValidUtf8 (cString dllPathA) ∧ dllPathA.length < 2 ^ 31 - 15 ∧
      (hModule = none → ValidUtf8 (deadText dllPathA dead)) ∧
        g.msg.data = cborToData L (.map (loadRecord getProcAddress w dllPathA hModule dead))

/-- A node of the record. -/
def NodeHere (u : Cbor) : Prop := WellFormedHere u ∨ u = .simple 20 ∨ u = .simple 21

theorem nodeHere_pairs (fs : List FuncName) (present : FuncName → Bool) :
    Cbor.AllPairs NodeHere (fs.map fun f =>
      (.text (utf8 f.name), .simple (if present f then 21 else 20))) ∧
    Cbor.depthPairs (fs.map fun f =>
      (.text (utf8 f.name), .simple (if present f then 21 else 20))) = 0 := by
  induction fs with
  | nil => exact ⟨trivial, rfl⟩
  | cons f fs ih =>
    have hname : WellFormedHere (.text (utf8 f.name)) :=
      ⟨by cases f <;> decide, validUtf8_utf8 _⟩
    have hvalue : NodeHere (.simple (if present f then 21 else 20)) := by
      cases present f
      · exact Or.inr (Or.inl rfl)
      · exact Or.inr (Or.inr rfl)
    refine ⟨⟨Or.inl hname, hvalue, ih.1⟩, ?_⟩
    simp only [List.map_cons, Cbor.depthPairs, ih.2, Cbor.depth]
    rfl

/-- Both libraries hold the record of an attempt. -/
theorem nodeHere_loadRecord (w : J2534DllWrapper Dll Proc) (dllPathA : List UInt8)
    (hModule : Option Dll) (dead : Nat → Nat → UInt8) (hvalid : ValidUtf8 (cString dllPathA))
    (hlength : dllPathA.length < 2 ^ 31 - 15)
    (hdead : hModule = none → ValidUtf8 (deadText dllPathA dead)) :
    Cbor.All NodeHere (.map (loadRecord getProcAddress w dllPathA hModule dead)) ∧
      Cbor.depth (.map (loadRecord getProcAddress w dllPathA hModule dead)) ≤ 1024 := by
  have hint : ∀ n : Nat, n < 11 → NodeHere (.int n) := by
    intro n hn
    refine Or.inl ?_
    simp only [WellFormedHere]
    omega
  have hcString : (cString dllPathA).length ≤ dllPathA.length :=
    (List.takeWhile_sublist _).length_le
  have hpath : NodeHere (.text (cString dllPathA)) := Or.inl ⟨by omega, hvalid⟩
  rw [loadRecord_eq]
  cases hModule with
  | none =>
    have hlen : (deadText dllPathA dead).length < 2 ^ 31 := by
      rw [deadText, List.length_map, List.length_range, cString_append _ _ (by decide),
        List.length_append]
      have hlen : (utf8 "Can't load DLL ").length = 15 := by decide
      omega
    have hempty : NodeHere (.map []) := Or.inl (by simp [WellFormedHere])
    have hfour : NodeHere (.map [(.int 0, .int 1), (.int 1, .text (cString dllPathA)),
        (.int 2, .map []), (.int 10, .text (deadText dllPathA dead))]) :=
      Or.inl (by simp [WellFormedHere])
    refine ⟨⟨hfour, hint 0 (by omega), hint 1 (by omega), hint 1 (by omega), hpath,
      hint 2 (by omega), ⟨hempty, trivial⟩, hint 10 (by omega), Or.inl ⟨hlen, hdead rfl⟩,
      trivial⟩, ?_⟩
    simp [funcsMap, Cbor.depth, Cbor.depthPairs]
  | some h =>
    have hpairs := nodeHere_pairs lookedUp fun f => (getProcAddress h f.name).isSome
    have hfuncs : NodeHere (.map (funcsMap getProcAddress (some h))) := by
      refine Or.inl ?_
      simp only [funcsMap, WellFormedHere, List.length_map]
      decide
    have hthree : NodeHere (.map [(.int 0, .int 1), (.int 1, .text (cString dllPathA)),
        (.int 2, .map (funcsMap getProcAddress (some h)))]) :=
      Or.inl (by simp [WellFormedHere])
    refine ⟨⟨hthree, hint 0 (by omega), hint 1 (by omega), hint 1 (by omega), hpath,
      hint 2 (by omega), ⟨hfuncs, hpairs.1⟩, trivial⟩, ?_⟩
    have hdepth : Cbor.depthPairs (funcsMap getProcAddress (some h)) = 0 := hpairs.2
    simp [Cbor.depth, Cbor.depthPairs, hdepth]

/-- The record of an attempt is restored. -/
theorem fromCbor_load (hL : L.RestoresBools) (hModule : Option Dll) (g : Given)
    (h : LoadSent getProcAddress L hModule g) : ∃ map, L.fromCbor g.msg.data = .map map ∧
      value (intKey 2) map = .map (funcsMap getProcAddress hModule) := by
  obtain ⟨w, dllPathA, dead, hvalid, hlength, hdead, hdata⟩ := h
  obtain ⟨hall, hdepth⟩ :=
    nodeHere_loadRecord getProcAddress w dllPathA hModule dead hvalid hlength hdead
  obtain ⟨bs, hw, hr⟩ := hL _ hall hdepth
  refine ⟨loadRecord getProcAddress w dllPathA hModule dead, ?_, ?_⟩
  · rw [hdata, cborToData, hw]
    exact hr
  · rw [loadRecord_eq]
    rfl

/-- The functions a load found, in the order of the lookups, and those it did not. -/
theorem getDllFuncs_load (hL : L.RestoresBools) (hModule : Option Dll) (g : Given)
    (h : LoadSent getProcAddress L hModule g) (v : ExJ2534Wrapper)
    (hv : v.loadedFuncs.map (·.msg.data) = some g.msg.data) (loaded : Bool) :
    v.getDllFuncs L loaded = hModule.elim [] fun dll =>
      (lookedUp.filter fun f => (getProcAddress dll f.name).isSome == loaded).map FuncName.name := by
  obtain ⟨map, htree, hfuncs⟩ := fromCbor_load getProcAddress hL hModule g h
  obtain ⟨obj, hobj, hdata⟩ := Option.map_eq_some_iff.1 hv
  have hkey : intKey (PipeMessage.key .param2) = intKey 2 := rfl
  have hlist : ∀ (fs : List FuncName) (present : FuncName → Bool) (keep : Bool → Bool),
      ((fs.map fun f => (Cbor.text (utf8 f.name),
          Cbor.simple (if present f then 21 else 20))).filter fun val =>
            keep (toBool false val.2)).map (fun val => QCborValue.toString val.1) =
        (fs.filter fun f => keep (present f)).map FuncName.name := by
    intro fs present keep
    rw [List.filter_map, List.map_map]
    have htoBool : ∀ f, toBool false (.simple (if present f then 21 else 20)) = present f := by
      intro f
      cases present f <;> rfl
    have hfilter : (fun val : Cbor × Cbor => keep (toBool false val.2)) ∘ (fun f : FuncName =>
        (Cbor.text (utf8 f.name), Cbor.simple (if present f then 21 else 20))) =
          fun f => keep (present f) := by
      funext f
      exact congrArg keep (htoBool f)
    rw [hfilter]
    exact List.map_congr_left fun f _ => ofUtf8_utf8 f.name
  unfold ExJ2534Wrapper.getDllFuncs
  rw [hobj]
  simp only [hdata, htree, toMap, hkey, hfuncs]
  cases hModule with
  | none => cases loaded <;> rfl
  | some dll =>
    have hkeep := hlist lookedUp fun f => (getProcAddress dll f.name).isSome
    cases loaded with
    | true => simpa [funcsMap] using hkeep id
    | false => simpa [funcsMap] using hkeep not

/-! ## Over a run -/

/-- What an act tries to load. -/
def Act.attempt : Act Dll → Option (Option Dll)
  | .loadDll hModule => some hModule
  | .unloadDll => none
  | .call _ _ _ => none

def attempts (acts : List (Act Dll)) : List (Option Dll) := acts.filterMap Act.attempt

/-- When the last attempt succeeded, its DLL is the last that was loaded. -/
theorem last_loads (acts : List (Act Dll)) (dll : Dll)
    (h : (attempts acts).getLast? = some (some dll)) : (loads acts).last = some dll := by
  induction acts using List.reverseRecOn with
  | nil => cases h
  | append_singleton acts act ih =>
    have hloads : loads (acts ++ [act]) = (loads acts).step act := by simp [loads]
    rw [hloads]
    cases act with
    | unloadDll => exact ih (by simpa [attempts, Act.attempt] using h)
    | call f args mem => exact ih (by simpa [attempts, Act.attempt] using h)
    | loadDll hModule =>
      have hlast : hModule = some dll := by
        simpa [attempts, Act.attempt] using h
      subst hlast
      rfl

theorem name_injective : ∀ f ∈ lookedUp, ∀ f' ∈ lookedUp, f.name = f'.name → f = f' := by
  have hnodup : (lookedUp.map FuncName.name).Nodup := by decide
  intro f hf f' hf' heq
  exact List.inj_on_of_nodup_map hnodup hf hf' heq

theorem mem_names (fs : List FuncName) (hfs : fs.Sublist lookedUp) (f : FuncName)
    (hf : f ∈ lookedUp) : f.name ∈ fs.map FuncName.name ↔ f ∈ fs := by
  constructor
  · intro h
    obtain ⟨f', hf', heq⟩ := List.mem_map.1 h
    exact name_injective f' (hfs.subset hf') f hf heq ▸ hf'
  · exact fun h => List.mem_map_of_mem h

/-- The last of two lists that correspond. -/
theorem forall₂_getLast? {α β : Type*} {R : α → β → Prop} {xs : List α} {ys : List β}
    (h : List.Forall₂ R xs ys) : (xs.getLast? = none ∧ ys.getLast? = none) ∨
      ∃ x y, xs.getLast? = some x ∧ ys.getLast? = some y ∧ R x y := by
  induction h with
  | nil => exact Or.inl ⟨rfl, rfl⟩
  | @cons x y xs ys hxy _ ih =>
    rw [List.getLast?_cons, List.getLast?_cons]
    rcases ih with ⟨hxs, hys⟩ | ⟨x', y', hx', hy', hxy'⟩
    · exact Or.inr ⟨x, y, by rw [hxs]; rfl, by rw [hys]; rfl, hxy⟩
    · exact Or.inr ⟨x', y', by rw [hx']; rfl, by rw [hy']; rfl, hxy'⟩

end J2534DllWrapper

end J2534Oip
