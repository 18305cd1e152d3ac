import J2534Oip.Cannelloni.Device

/-!
# The host an application names

`PassThruOpen` takes its `pName` for the host where `isValidHostString` accepts it.  The
last check of that function gives `InetPtonA` a null pointer to convert into; Winsock
refuses that with -1 for every string, so no name is ever accepted and the default host is
connected to:

    HostUsed w name env ↔
      (Literal env name → the default host converts to the same address)  (hostUsed_iff)
-/

namespace J2534Oip

/-! ## Address literals -/

/-- `0` to `9` -/
def isdigit (c : UInt8) : Bool := decide (0x30 ≤ c) && decide (c ≤ 0x39)

/-- One to three decimal digits, 255 at most. -/
structure Octet (s : List UInt8) : Prop where
  digits : s.all isdigit = true
  nonempty : 0 < s.length
  short : s.length ≤ 3
  value : s.foldl (fun n c => 10 * n + (c.toNat - 0x30)) 0 ≤ 255

/-- Four of them, with dots between. -/
def DottedQuad (s : List UInt8) : Prop :=
  ∃ a b c d, Octet a ∧ Octet b ∧ Octet c ∧ Octet d ∧
    s = a ++ 0x2E :: (b ++ 0x2E :: (c ++ 0x2E :: d))

/-- The name is a dotted quad that `InetPtonA` converts. -/
def Literal {os : Os} (env : OpenEnv os) (name : List UInt8) : Prop :=
  DottedQuad (cString name) ∧ (env.inetPton (cString name) true).1 = 1

/-- Without the separator an infix is on one side of it. -/
theorem infix_of_infix_separated {α : Type*} {l x y : List α} {sep : α} (hsep : sep ∉ l)
    (h : l <:+: x ++ sep :: y) : l <:+: x ∨ l <:+: y := by
  -- a nonempty prefix of what starts with the separator has it
  have hpre : ∀ p : List α, p ≠ [] → p <+: sep :: y → sep ∈ p := by
    intro p hne hp
    rcases List.prefix_cons_iff.1 hp with rfl | ⟨t, rfl, -⟩
    · exact absurd rfl hne
    · exact List.mem_cons_self
  rcases List.infix_append_iff_ne_nil.1 h with hx | hy | ⟨l₁, l₂, -, hne, rfl, -, hl₂⟩
  · exact Or.inl hx
  · rcases List.infix_cons_iff.1 hy with hl | hy
    · by_cases hnil : l = []
      · exact Or.inl (hnil ▸ List.nil_infix)
      · exact absurd (hpre l hnil hl) hsep
    · exact Or.inr hy
  · exact absurd (List.mem_append_right _ (hpre l₂ hne hl₂)) hsep

/-- What has no dot in a dotted quad is three characters long at most. -/
theorem DottedQuad.infix_length_le {s l : List UInt8} (h : DottedQuad s) (hdot : 0x2E ∉ l)
    (hl : l <:+: s) : l.length ≤ 3 := by
  obtain ⟨a, b, c, d, ha, hb, hc, hd, rfl⟩ := h
  have hpart : ∀ {x}, Octet x → l <:+: x → l.length ≤ 3 := fun hx hin => hin.length_le.trans hx.short
  rcases infix_of_infix_separated hdot hl with hin | hl
  · exact hpart ha hin
  rcases infix_of_infix_separated hdot hl with hin | hl
  · exact hpart hb hin
  rcases infix_of_infix_separated hdot hl with hin | hin
  · exact hpart hc hin
  · exact hpart hd hin

/-- A literal names no port. -/
theorem selectPort_dottedQuad (client : J2534CannelloniClient) (name : List UInt8)
    (h : DottedQuad (cString name)) : selectPort client (some name) = client.defaultPort := by
  have hnot : ∀ l : List UInt8, 0x2E ∉ l → 3 < l.length → ¬l <:+: cString name := by
    intro l hdot hlong hl
    have hshort := h.infix_length_le hdot hl
    omega
  have h0 := hnot (utf8 "20000") (by decide) (by decide)
  have h1 := hnot (utf8 "20001") (by decide) (by decide)
  have h2 := hnot (utf8 "20002") (by decide) (by decide)
  simp only [selectPort, h0, h1, h2, if_false]

/-! ## Where `connect` goes -/

namespace World

/-- The address `PassThruOpen` gives to `connect`, where it gets there. -/
def connectTarget (w : World) (pName : Option (List UInt8)) (env : OpenEnv w.os) :
    Option SockaddrIn :=
  let port := selectPort w.client pName
  if numPorts ≤ w.client.channelMap.entries.length then none
  else if port ∈ w.client.channelMap then none
  else
    match env.socket with
    | none => none
    | some ⟨sockfd, _⟩ =>
      let addr := env.inetPton (selectHost w.client env.inetPton pName) true
      if addr.1 ≠ 1 then none else some (newContext sockfd port addr.2).targetAddr

theorem connectTarget_eq_some_iff (w : World) (pName : Option (List UInt8)) (env : OpenEnv w.os)
    (target : SockaddrIn) :
    w.connectTarget pName env = some target ↔
      ¬w.Busy pName ∧ env.socket ≠ none ∧
        (env.inetPton (selectHost w.client env.inetPton pName) true).1 = 1 ∧
        ⟨UInt16.ofNat (selectPort w.client pName).toNat,
          (env.inetPton (selectHost w.client env.inetPton pName) true).2⟩ = target := by
  unfold connectTarget
  by_cases hbusy : w.Busy pName
  · have hnone : ∀ target : Option SockaddrIn,
        (if numPorts ≤ w.client.channelMap.entries.length then none
          else if selectPort w.client pName ∈ w.client.channelMap then none else target) = none := by
      intro target
      rcases hbusy with hfull | hport
      · rw [if_pos hfull]
      · rw [if_pos hport, ite_self]
    rw [hnone]
    simp [hbusy]
  · obtain ⟨hfull, hport⟩ := not_or.1 hbusy
    rw [if_neg hfull, if_neg hport]
    cases hsocket : env.socket with
    | none => simp
    | some sock =>
      by_cases haddr : (env.inetPton (selectHost w.client env.inetPton pName) true).1 = 1
      · simp [haddr, hbusy, newContext]
      · simp [haddr]

/-- Where `connect` is reached and succeeds, the device is opened with that address. -/
theorem passThruOpen_connectTarget (w : World) (pName : Option (List UInt8)) (pDeviceID : UInt32)
    (env : OpenEnv w.os) (target : SockaddrIn) (htarget : w.connectTarget pName env = some target)
    (hconnect : env.connect = true) :
    ∃ ctx, (w.passThruOpen pName (some pDeviceID) env).1.client.channelMap.lookup
      (selectPort w.client pName) = some ctx ∧ ctx.targetAddr = target := by
  obtain ⟨hfree, hsocket, haddr, htarget⟩ := (w.connectTarget_eq_some_iff pName env target).1 htarget
  obtain ⟨sock, hsock⟩ := Option.ne_none_iff_exists'.1 hsocket
  rw [w.passThruOpen_opens pName pDeviceID env hfree sock hsock haddr hconnect]
  exact ⟨_, AList.lookup_insert _, htarget⟩

end World

/-! ## The property -/

/-- A literal is connected to, and the device opened has its address; for any other name
the default host is taken. -/
structure HostUsed (w : World) (name : List UInt8) (env : OpenEnv w.os) : Prop where
  literal : Literal env name →
    ∃ target, w.connectTarget (some name) env = some target ∧
      target.sinAddr = (env.inetPton (cString name) true).2 ∧
      ∀ pDeviceID, env.connect = true →
        ∃ ctx, (w.passThruOpen (some name) (some pDeviceID) env).1.client.channelMap.lookup
          w.client.defaultPort = some ctx ∧ ctx.targetAddr = target
  other : ¬Literal env name →
    selectHost w.client env.inetPton (some name) = cString w.client.defaultHost

/-- No string is a valid host. -/
theorem isValidHostString_eq_false (inetPton : List UInt8 → Bool → Int × UInt32)
    (hnull : ∀ s, (inetPton s false).1 = -1) (str : List UInt8) :
    isValidHostString inetPton str = false := by
  unfold isValidHostString
  split
  · rfl
  · simp [hnull str]

/-- **The host that is used.**  Where three more facts hold that the open needs (a socket,
room, and the default port free), the host is used as named just when the name is no literal or
the default host converts to the address it denotes. -/
theorem hostUsed_iff (w : World) (name : List UInt8) (env : OpenEnv w.os)
    (hnull : ∀ s, (env.inetPton s false).1 = -1) (hsocket : env.socket ≠ none)
    (hroom : w.client.channelMap.entries.length < numPorts)
    (hfree : w.client.defaultPort ∉ w.client.channelMap) :
    HostUsed w name env ↔
      (Literal env name → env.inetPton (cString w.client.defaultHost) true =
        (1, (env.inetPton (cString name) true).2)) := by
  have hhost : selectHost w.client env.inetPton (some name) = cString w.client.defaultHost := by
    simp [selectHost, isValidHostString_eq_false env.inetPton hnull]
  have hport : Literal env name → selectPort w.client (some name) = w.client.defaultPort :=
    fun hlit => selectPort_dottedQuad w.client name hlit.1
  constructor
  · intro hused hlit
    obtain ⟨target, hconn, haddr, -⟩ := hused.literal hlit
    obtain ⟨-, -, hone, rfl⟩ := (w.connectTarget_eq_some_iff _ env target).1 hconn
    rw [hhost] at hone haddr
    exact Prod.ext hone haddr
  · intro hsame
    refine ⟨fun hlit => ?_, fun _ => hhost⟩
    have hbusy : ¬w.Busy (some name) := by
      rintro (hfull | htaken)
      · omega
      · exact hfree (hport hlit ▸ htaken)
    have hconn := (w.connectTarget_eq_some_iff (some name) env _).2
      ⟨hbusy, hsocket, by rw [hhost, hsame hlit], rfl⟩
    refine ⟨_, hconn, by rw [hhost, hsame hlit], fun pDeviceID hconnect => ?_⟩
    rw [← hport hlit]
    exact w.passThruOpen_connectTarget (some name) pDeviceID env _ hconn hconnect

/-- Nothing is open; `defaultHost` is 127.0.0.1. -/
def localClient : World := World.start J2534CannelloniClient.oneOpen

/-- `InetPtonA` on two literals; a null pointer is refused. -/
def twoHostsEnv : OpenEnv localClient.os where
  inetPton s dst :=
    if dst = false then (-1, 0)
    else if s = utf8 "127.0.0.1" then (1, 0x0100007F)
    else if s = utf8 "192.168.0.5" then (1, 0x0500A8C0)
    else (0, 0)
  socket := some ⟨7, List.not_mem_nil⟩
  connect := true
  initSend := 5
  wsaGetLastError := 0
  thread := ⟨1, List.not_mem_nil⟩

/-- A name that is no literal. -/
theorem hostUsed_iff_port : HostUsed localClient (utf8 "20001") twoHostsEnv := by
  have hroom : localClient.client.channelMap.entries.length < numPorts := by decide
  refine (hostUsed_iff localClient (utf8 "20001") twoHostsEnv (fun _ => rfl)
    (by simp [twoHostsEnv]) hroom (by decide)).2 fun hlit => ?_
  exact absurd hlit.2 (by decide)

theorem literal_host : Literal twoHostsEnv (utf8 "192.168.0.5") := by
  have hname : cString (utf8 "192.168.0.5") = utf8 "192.168.0.5" := by decide
  refine ⟨⟨utf8 "192", utf8 "168", utf8 "0", utf8 "5", ?_, ?_, ?_, ?_, hname⟩, by decide⟩ <;>
    exact ⟨by decide, by decide, by decide, by decide⟩

/-- An open of 192.168.0.5 connects to 127.0.0.1. -/
theorem hostUsed_literal :
    (∀ s, (twoHostsEnv.inetPton s false).1 = -1) ∧
      localClient.client.channelMap.entries.length < numPorts ∧
      localClient.client.defaultPort ∉ localClient.client.channelMap ∧
      (localClient.connectTarget (some (utf8 "192.168.0.5")) twoHostsEnv).map SockaddrIn.sinAddr =
        some 0x0100007F ∧
      ¬HostUsed localClient (utf8 "192.168.0.5") twoHostsEnv := by
  refine ⟨fun _ => rfl, by decide, by decide, by decide, fun h => ?_⟩
  obtain ⟨target, hconn, haddr, -⟩ := h.literal literal_host
  have htarget : localClient.connectTarget (some (utf8 "192.168.0.5")) twoHostsEnv =
      some ⟨20000, 0x0100007F⟩ := by decide
  rw [htarget] at hconn
  obtain rfl := Option.some.inj hconn
  exact absurd haddr (by decide)

end J2534Oip
