import ZejfMeteo.Lib.Heap
import ZejfMeteo.Lib.Trace
import ZejfMeteo.TcpHandler

/-!
# The connection of the wireless sensors

`tcp_handler.c` next to lwIP: the connection to the server, which the main loop opens, checks and
sends over, and which the callbacks of lwIP change in between.

What lwIP returns is up to it. A control block that has been closed or aborted is gone, and the
one about whose error a callback is told is gone already when the callback comes.
-/

namespace ZejfMeteo.Tcp
open Runs

/-- lwIP's control block, as far as it has been set up: the argument of its callbacks, and whether
there are any. -/
structure Pcb where
  arg : Option ℕ
  callbacks : Bool

variable (S : Settings)

/-- `TCP_CLIENT_T`: what the reader knows of the connection, and its block. -/
structure Client extends TcpClient where
  tcpPcb : Option ℕ
  connected : Bool

/-- As `calloc` leaves it. -/
def zeroed : Client where
  toTcpClient := ZejfMeteo.tcpClientInit
  tcpPcb := none
  connected := false

@[simp] lemma zeroed_complete : zeroed.complete = false := rfl

@[simp] lemma zeroed_connected : zeroed.connected = false := rfl

/-- The global variables of `tcp_handler.c`, with `tcp_stats`, and what has been allocated. -/
structure Device where
  states : Heap Client
  pcbs : Heap Pcb
  currentState : Option ℕ
  nextAttemptWifi : ℕ
  nextAttemptLast : ℕ
  tcpReconnects : ℕ
  wifiReconnects : ℕ

namespace Device

def statesLens : Lens Device (Heap Client) where
  get := states
  set h d := { d with states := h }
  get_set _ _ := rfl
  set_get _ := rfl
  set_set _ _ _ := rfl

def pcbsLens : Lens Device (Heap Pcb) where
  get := pcbs
  set h d := { d with pcbs := h }
  get_set _ _ := rfl
  set_get _ := rfl
  set_set _ _ _ := rfl

end Device

/-! ### The code of `tcp_handler.c` -/

def readState (state : ℕ) : Run Device Client := zoom Device.statesLens (Heap.read state)

def updateState (state : ℕ) (f : Client → Client) : Run Device Unit :=
  zoom Device.statesLens (Heap.update state f)

def updatePcb (pcb : ℕ) (f : Pcb → Pcb) : Run Device Unit :=
  zoom Device.pcbsLens (Heap.update pcb f)

/-- A block that cannot be closed is aborted, so `closes` tells only what is returned: `ERR_OK` or
`ERR_ABRT`. -/
def tcpClientClose (state : ℕ) (closes : Bool) : Run Device Bool := do
  match (← readState state).tcpPcb with
  | none => return true
  | some pcb =>
    updatePcb pcb (fun c => { c with arg := none })
    updatePcb pcb (fun c => { c with callbacks := false })
    zoom Device.pcbsLens (Heap.free pcb)
    updateState state (fun s => { s with tcpPcb := none })
    return closes

/-- The argument of a callback. -/
def asserted (arg : Option ℕ) : Run Device ℕ :=
  match arg with
  | none => throw .nullPointer
  | some state => return state

def tcpResult (arg : Option ℕ) (closes : Bool) : Run Device Bool := do
  let state ← asserted arg
  updateState state (fun s => { s with complete := true })
  tcpClientClose state closes

def tcpClientInit (memory : Bool) : Run Device (Option ℕ) :=
  if memory then
    some <$> zoom Device.statesLens (Heap.alloc zeroed)
  else
    return none

/-- The reader of a connection at work. -/
def readInto (state : ℕ) (x : Run TcpClient Unit) : Run Device Unit := do
  match x.run (← readState state).toTcpClient with
  | .ok _ r => updateState state (fun s => { s with toTcpClient := r })
  | .error e _ => throw e

def tcpClientErr (arg : Option ℕ) (closes : Bool) : Run Device Unit := do
  let _ ← tcpResult arg closes

def tcpClientConnected (arg : Option ℕ) (ok closes : Bool) : Run Device Unit := do
  let state ← asserted arg
  if !ok then
    let _ ← tcpResult arg closes
    return
  updateState state (fun s => { s with connected := true })

def tcpClientPoll (arg : Option ℕ) (closes : Bool) : Run Device Unit := do
  let state ← asserted arg
  updateState state (fun s => { s with idleTime := s.idleTime + 1 })
  if 3 < (← readState state).idleTime then
    let _ ← tcpResult arg closes

/-- `connects` is what `tcp_connect` returns. -/
def tcpClientOpen (state : ℕ) (memory connects : Bool) : Run Device Bool := do
  modify (fun d => { d with tcpReconnects := d.tcpReconnects + 1 })
  if memory then
    let pcb ← zoom Device.pcbsLens (Heap.alloc { arg := none, callbacks := false })
    updateState state (fun s => { s with tcpPcb := some pcb })
    updatePcb pcb (fun c => { c with arg := some state })
    updatePcb pcb (fun c => { c with callbacks := true })
    return connects
  else
    updateState state (fun s => { s with tcpPcb := none })
    return false

/-- What lwIP has to say about a text: whether it fits into `tcp_sndbuf`, and the results of
`tcp_write`, `tcp_output` and, if one of them fails, of `tcp_close`. -/
structure Sending where
  fits : Bool
  writes : Bool
  outputs : Bool
  closes : Bool

/-- `tcp_sndbuf`, `tcp_write` or `tcp_output` on the block of a connection. -/
def usePcb (state : ℕ) : Run Device Unit := do
  match (← readState state).tcpPcb with
  | none => throw .nullPointer
  | some pcb => updatePcb pcb id

def zejfTcpSend (w : Sending) : Run Device ZejfErr := do
  match (← get).currentState with
  | none => return .sendUnable
  | some state =>
    let s ← readState state
    if s.complete ∨ ¬s.connected then
      return .sendUnable
    usePcb state
    if !w.fits then
      return .sendUnable
    usePcb state
    if !w.writes then
      let _ ← tcpResult (some state) w.closes
      return .sendUnable
    usePcb state
    if !w.outputs then
      let _ ← tcpResult (some state) w.closes
      return .sendUnable
    return .ok

/-- Texts that are sent one after the other, whatever comes of them. -/
def sendAll : List Sending → Run Device Unit
  | [] => return
  | w :: ws => do
    let _ ← zejfTcpSend w
    sendAll ws

/-- Without a chain the stream has ended. `sends` are the answers to what is read:
`network_accept` sends some of them at once, over the same connection. -/
def tcpClientRecv (arg : Option ℕ) (tpcb : ℕ) (buff : List Pbuf) (sends : List Sending)
    (closes : Bool) : Run Device Unit := do
  if buff = [] then
    let _ ← tcpResult arg closes
  else if 0 < buff.flatten.length then
    let state ← asserted arg
    readInto state (ZejfMeteo.tcpClientRecv S buff)
    sendAll sends
    -- `tcp_recved`
    updatePcb tpcb id

/-- A callback of lwIP for a control block. `closes` is what `tcp_close` returns in it. -/
inductive Callback
  | connected (pcb : ℕ) (ok closes : Bool)
  | recv (pcb : ℕ) (buff : List Pbuf) (sends : List Sending) (closes : Bool)
  | poll (pcb : ℕ) (closes : Bool)
  | err (pcb : ℕ) (closes : Bool)

def Callback.pcb : Callback → ℕ
  | .connected pcb _ _ => pcb
  | .recv pcb _ _ _ => pcb
  | .poll pcb _ => pcb
  | .err pcb _ => pcb

def findPcb (pcb : ℕ) : Run Device (Option Pcb) := do
  return (← get).pcbs.cells pcb

/-- lwIP calls back for blocks that it has, where callbacks are set. -/
def callback (c : Callback) : Run Device Unit := do
  match c with
  | .connected pcb ok closes =>
    if let some ⟨arg, true⟩ ← findPcb pcb then
      tcpClientConnected arg ok closes
  | .recv pcb buff sends closes =>
    if let some ⟨arg, true⟩ ← findPcb pcb then
      tcpClientRecv S arg pcb buff sends closes
  | .poll pcb closes =>
    if let some ⟨arg, true⟩ ← findPcb pcb then
      tcpClientPoll arg closes
  | .err pcb closes =>
    if let some ⟨arg, callbacks⟩ ← findPcb pcb then
      zoom Device.pcbsLens (Heap.free pcb)
      if callbacks then
        tcpClientErr arg closes

/-- Callbacks that come one after the other. -/
def callbackAll : List Callback → Run Device Unit
  | [] => return
  | c :: cs => do
    callback S c
    callbackAll cs

/-- What happens while a connection is checked: the Wi-Fi link, whether it can be joined and what
comes while that is tried, and the results of `calloc`, `tcp_new_ip_type`, `tcp_connect` and
`tcp_close`. -/
structure Checking where
  joined : Bool
  joins : Bool
  during : List Callback
  memory : Bool
  blocks : Bool
  connects : Bool
  closes : Bool

def wifiConnect (w : Checking) : Run Device Bool := do
  modify (fun d => { d with wifiReconnects := d.wifiReconnects + 1 })
  callbackAll S w.during
  return w.joins

/-- What is done about the Wi-Fi; it returns whether to go on with the connection. -/
def checkWifi (w : Checking) : Run Device Bool := do
  if !w.joined then
    let d ← get
    if d.nextAttemptWifi < d.nextAttemptLast then
      set { d with nextAttemptWifi := d.nextAttemptWifi + 1 }
      return false
    set { d with
      nextAttemptWifi := 0
      nextAttemptLast := if d.nextAttemptLast < 20 then d.nextAttemptLast * 2
        else d.nextAttemptLast }
    if !(← wifiConnect S w) then
      return false
    modify (fun d => { d with nextAttemptLast := 1 })
  return true

/-- A connection that is over, or has not come about, is dropped. -/
def dropState (w : Checking) : Run Device Unit := do
  if let some state := (← get).currentState then
    let s ← readState state
    if s.complete ∨ ¬s.connected then
      let _ ← tcpClientClose state w.closes
      modify (fun d => { d with currentState := none })

def openState (w : Checking) : Run Device Unit := do
  if (← get).currentState = none then
    let state ← tcpClientInit w.memory
    modify (fun d => { d with currentState := state })
    if let some state := state then
      let _ ← tcpClientOpen state w.blocks w.connects

def zejfTcpCheckConnect (w : Checking) : Run Device Unit := do
  if ← checkWifi S w then
    dropState w
    openState w

def zejfTcpInit : Device where
  states := Heap.empty
  pcbs := Heap.empty
  currentState := none
  nextAttemptWifi := 0
  nextAttemptLast := 1
  tcpReconnects := 0
  wifiReconnects := 0

/-! ### The events -/

inductive Event
  | callback (c : Callback)
  | send (w : Sending)
  | check (w : Checking)

/-- What is seen of an event: what came of a text, and whether the Wi-Fi was tried. -/
inductive Seen
  | sent (rv : ZejfErr)
  | tried (wifi : Bool)
  | nothing
deriving DecidableEq

def step : Event → Run Device Seen
  | .callback c => do
    callback S c
    return .nothing
  | .send w => return .sent (← zejfTcpSend w)
  | .check w => do
    let before := (← get).wifiReconnects
    zejfTcpCheckConnect S w
    return .tried ((← get).wifiReconnects ≠ before)

/-! ### The one connection -/

/-- No client that was ever allocated has been freed, and there are as many as connections have
been opened. -/
structure Device.Counted (d : Device) : Prop where
  count : d.tcpReconnects = d.states.next
  kept : ∀ a, a < d.states.next → (d.states.cells a).isSome

/-- The connection with this client is the only one that may have a control block, and the block,
if there is one, is the only one. An open connection has one. -/
structure Device.At (d : Device) (a : ℕ) (s : Client) : Prop where
  counted : d.Counted
  current : d.currentState = some a
  cell : d.states.cells a = some s
  others : ∀ b t, b ≠ a → d.states.cells b = some t → t.tcpPcb = none
  pcbs : ∀ p, d.pcbs.cells p = if s.tcpPcb = some p then some ⟨some a, true⟩ else none
  ended : s.complete = true → s.tcpPcb = none
  established : s.connected = true → s.complete = false → s.tcpPcb ≠ none

/-- There is neither a connection nor a control block. -/
structure Device.Off (d : Device) : Prop where
  counted : d.Counted
  current : d.currentState = none
  others : ∀ b t, d.states.cells b = some t → t.tcpPcb = none
  pcbs : ∀ p, d.pcbs.cells p = none

def Device.Sound (d : Device) : Prop := d.Off ∨ ∃ a s, d.At a s

section Sound

variable {S} {d u : Device} {a p : ℕ} {s : Client}

lemma readState_run (h : d.states.cells a = some s) : (readState a).run d = .ok s d :=
  run_zoom_ok (l := Device.statesLens) (Heap.read_run h)

lemma updateState_run (h : d.states.cells a = some s) (f : Client → Client) :
    (updateState a f).run d = .ok () { d with states := d.states.modify a f } :=
  run_zoom_ok (l := Device.statesLens)
    (Heap.update_run f (Option.isSome_iff_exists.mpr ⟨s, h⟩))

lemma updatePcb_run (h : (d.pcbs.cells p).isSome) (f : Pcb → Pcb) :
    (updatePcb p f).run d = .ok () { d with pcbs := d.pcbs.modify p f } :=
  run_zoom_ok (l := Device.pcbsLens) (Heap.update_run f h)

lemma updatePcb_twice (h : (d.pcbs.cells p).isSome) (f g : Pcb → Pcb) (rv : Bool) : (do
      updatePcb p f
      updatePcb p g
      return rv : Run Device Bool).run d =
    .ok rv { d with pcbs := (d.pcbs.modify p f).modify p g } := by
  rw [run_bind_ok (updatePcb_run h f),
    run_bind_ok (updatePcb_run (by rw [Heap.modify_isSome]; exact h) g)]
  rfl

lemma freePcb_run (h : (d.pcbs.cells p).isSome) :
    (zoom Device.pcbsLens (Heap.free p)).run d = .ok () { d with pcbs := d.pcbs.erase p } :=
  run_zoom_ok (l := Device.pcbsLens) (Heap.free_run h)

lemma Device.Counted.modify (h : d.Counted) {f : Client → Client}
    (hstates : u.states = d.states.modify a f) (hcount : u.tcpReconnects = d.tcpReconnects) :
    u.Counted where
  count := by
    rw [hcount, hstates]
    exact h.count
  kept b hb := by
    rw [hstates] at hb ⊢
    rw [Heap.modify_isSome]
    exact h.kept b hb

/-- A text that does not end the connection: it is not tried, or goes out. -/
def Sending.Spares (w : Sending) : Prop := w.fits = true → w.writes = true ∧ w.outputs = true

/-- Not about an error, and without data that the walk runs past or that is answered in vain. -/
def Callback.Quiet : Callback → Prop
  | .recv _ buff sends _ => buff = [] ∨ Stops buff ∧ ∀ w ∈ sends, w.Spares
  | .err _ _ => False
  | _ => True

/-- Texts can be sent. -/
def Device.isOpen (d : Device) : Bool :=
  ((d.currentState.bind d.states.cells).map (fun s => s.connected && !s.complete)).getD false

/-- The block is gone or the callback does no harm. A device that is not connected answers nothing,
so that nothing can be answered in vain. -/
def Device.Survives (d : Device) (c : Callback) : Prop :=
  d.pcbs.cells c.pcb = none ∨
    match c with
    | .recv _ buff sends _ => buff = [] ∨ Stops buff ∧
        (0 < buff.flatten.length → d.isOpen = true → ∀ w ∈ sends, w.Spares)
    | .err _ _ => False
    | _ => True

/-- What closing a connection does to its client and to its block. -/
lemma tcpClientClose_run (hcell : d.states.cells a = some s)
    (hlive : ∀ p, s.tcpPcb = some p → (d.pcbs.cells p).isSome) (closes : Bool) :
    ∃ rv h, (tcpClientClose a closes).run d = .ok rv { d with
        states := d.states.modify a (fun s => { s with tcpPcb := none }), pcbs := h } ∧
      ∀ q, h.cells q = if s.tcpPcb = some q then none else d.pcbs.cells q := by
  rw [tcpClientClose, run_bind_ok (readState_run hcell)]
  cases hpcb : s.tcpPcb with
  | none =>
    have hsame : d.states.modify a (fun s => { s with tcpPcb := none }) = d.states := by
      refine Heap.ext (fun b => ?_) rfl
      rw [Heap.modify_cells]
      split
      next hb =>
        rw [hb, hcell, Option.map_some, ← hpcb]
      · rfl
    exact ⟨true, d.pcbs, by rw [hsame]; rfl, fun q => by simp⟩
  | some p =>
    have hp := hlive p hpcb
    have hlast : ∀ d' : Device, d'.states = d.states → (do
        updateState a (fun s => { s with tcpPcb := none })
        return closes : Run Device Bool).run d' = .ok closes { d' with
          states := d.states.modify a (fun s => { s with tcpPcb := none }) } := by
      intro d' hd
      rw [run_bind_ok (updateState_run (by rw [hd]; exact hcell) _), hd]
      rfl
    dsimp only
    rw [run_bind_ok (updatePcb_run hp _), run_bind_ok (updatePcb_run (by simpa using hp) _),
      run_bind_ok (freePcb_run (by simpa using hp))]
    refine ⟨closes, _, hlast _ rfl, fun q => ?_⟩
    simp only [Heap.erase_cells, Heap.modify_cells, Option.some_inj]
    by_cases hq : q = p
    · rw [if_pos hq, if_pos hq.symm]
    · rw [if_neg hq, if_neg (Ne.symm hq), if_neg hq, if_neg hq]

/-- A block of the only connection. -/
lemma Device.At.block (h : d.At a s) {c : Pcb} (hc : d.pcbs.cells p = some c) :
    s.tcpPcb = some p ∧ c = ⟨some a, true⟩ := by
  rw [h.pcbs p] at hc
  split at hc
  next hp => exact ⟨hp, (Option.some.inj hc).symm⟩
  · cases hc

lemma Device.At.live (h : d.At a s) (hp : s.tcpPcb = some p) : (d.pcbs.cells p).isSome := by
  rw [h.pcbs p, if_pos hp]
  rfl

/-- A change of the client that leaves its block alone. -/
lemma updateState_at (h : d.At a s) (f : Client → Client)
    (hpcb : (f s).tcpPcb = s.tcpPcb) (hover : (f s).complete = true → s.tcpPcb = none)
    (hestablished : (f s).connected = true → (f s).complete = false → s.tcpPcb ≠ none) :
    ∃ u, (updateState a f).run d = .ok () u ∧ u.At a (f s) := by
  refine ⟨_, updateState_run h.cell f, h.counted.modify rfl rfl, h.current, ?_, ?_, ?_, ?_, ?_⟩
  · rw [Heap.modify_cells, if_pos rfl, h.cell]
    rfl
  · intro b t hb ht
    rw [Heap.modify_cells, if_neg hb] at ht
    exact h.others b t hb ht
  · rw [hpcb]
    exact h.pcbs
  · rw [hpcb]
    exact hover
  · rw [hpcb]
    exact hestablished

/-- Using the block of the connection. -/
lemma updatePcb_at (h : d.At a s) (hp : s.tcpPcb = some p) :
    ∃ u, (updatePcb p id).run d = .ok () u ∧ u.At a s := by
  refine ⟨_, updatePcb_run (h.live hp) id, ⟨h.counted.count, h.counted.kept⟩, h.current, h.cell,
    h.others, ?_, h.ended, h.established⟩
  intro q
  rw [← h.pcbs q, Heap.modify_cells]
  split
  · exact Option.map_id_apply
  · rfl

/-- The result of a connection: it is over, and its block is gone. -/
lemma tcpResult_at (h : d.At a s) (closes : Bool) : ∃ rv u,
    (tcpResult (some a) closes).run d = .ok rv u ∧
      u.At a { s with complete := true, tcpPcb := none } := by
  set d₁ : Device := { d with
    states := d.states.modify a (fun s => { s with complete := true }) } with hd₁
  have hcell : d₁.states.cells a = some { s with complete := true } := by
    rw [hd₁, Heap.modify_cells, if_pos rfl, h.cell]
    rfl
  have hcounted : d₁.Counted := h.counted.modify rfl rfl
  obtain ⟨rv, pcbs, hclose, hcells⟩ := tcpClientClose_run hcell (fun p hp => h.live hp) closes
  refine ⟨rv, _, (run_bind_ok (updateState_run h.cell _)).trans hclose,
    hcounted.modify rfl rfl, h.current, ?_, ?_, ?_, ?_, ?_⟩
  · rw [Heap.modify_cells, if_pos rfl, hcell]
    rfl
  · intro b t hb ht
    rw [Heap.modify_cells, if_neg hb, Heap.modify_cells, if_neg hb] at ht
    exact h.others b t hb ht
  · intro q
    rw [if_neg (by simp), hcells q]
    split
    · rfl
    next hq => rw [h.pcbs q, if_neg hq]
  · exact fun _ => rfl
  · exact fun _ hcomplete => by cases hcomplete

lemma tcpClientConnected_at (h : d.At a s) (hp : s.tcpPcb = some p) (ok closes : Bool) :
    ∃ u, (tcpClientConnected (some a) ok closes).run d = .ok () u ∧ u.Sound := by
  cases ok with
  | false =>
    obtain ⟨rv, u, hrun, hu⟩ := tcpResult_at h closes
    exact ⟨u, run_bind_ok hrun, .inr ⟨a, _, hu⟩⟩
  | true =>
    obtain ⟨u, hrun, hu⟩ := updateState_at h (fun s => { s with connected := true }) rfl h.ended
      (fun _ _ => by rw [hp]; exact Option.some_ne_none p)
    exact ⟨u, hrun, .inr ⟨a, _, hu⟩⟩

/-- A reader that does not end the connection. -/
lemma readInto_at (h : d.At a s) {x : Run TcpClient Unit} {r : TcpClient}
    (hread : x.run s.toTcpClient = .ok () r) (hcomplete : r.complete = s.complete) :
    ∃ u, (readInto a x).run d = .ok () u ∧ u.At a { s with toTcpClient := r } := by
  obtain ⟨u, hrun, hu⟩ := updateState_at h (fun s => { s with toTcpClient := r }) rfl
    (fun hover => h.ended (hcomplete ▸ hover))
    (fun hconnected hgoing => h.established hconnected (hcomplete ▸ hgoing))
  refine ⟨u, ?_, hu⟩
  rw [readInto, run_bind_ok (readState_run h.cell), hread]
  exact hrun

lemma usePcb_at (h : d.At a s) (hp : s.tcpPcb = some p) :
    ∃ u, (usePcb a).run d = .ok () u ∧ u.At a s := by
  obtain ⟨u, hrun, hu⟩ := updatePcb_at h hp
  refine ⟨u, ?_, hu⟩
  rw [usePcb, run_bind_ok (readState_run h.cell), hp]
  exact hrun

/-- A connection that is over or not established is not written to. -/
lemma zejfTcpSend_refused (h : d.At a s) (hover : s.complete = true ∨ ¬s.connected = true)
    (w : Sending) : (zejfTcpSend w).run d = .ok .sendUnable d := by
  rw [zejfTcpSend, run_bind_ok (EStateM.run_get d), h.current]
  dsimp only
  rw [run_bind_ok (readState_run h.cell), if_pos hover]
  rfl

/-- An open connection has a block, and is over if it is written to in vain. -/
lemma zejfTcpSend_open (h : d.At a s) (hopen : ¬(s.complete = true ∨ ¬s.connected = true))
    (w : Sending) : ∃ rv u, (zejfTcpSend w).run d = .ok rv u ∧
      (w.Spares → u.At a s) ∧
      (¬w.Spares → u.At a { s with complete := true, tcpPcb := none }) := by
  have hgoing := hopen
  rw [not_or, not_not, Bool.not_eq_true] at hgoing
  obtain ⟨p, hp⟩ := Option.ne_none_iff_exists'.mp (h.established hgoing.2 hgoing.1)
  obtain ⟨d₁, hrun₁, h₁⟩ := usePcb_at h hp
  obtain ⟨d₂, hrun₂, h₂⟩ := usePcb_at h₁ hp
  obtain ⟨d₃, hrun₃, h₃⟩ := usePcb_at h₂ hp
  obtain ⟨_, u₂, hresult₂, hu₂⟩ := tcpResult_at h₂ w.closes
  obtain ⟨_, u₃, hresult₃, hu₃⟩ := tcpResult_at h₃ w.closes
  rw [zejfTcpSend, run_bind_ok (EStateM.run_get d), h.current]
  dsimp only
  rw [run_bind_ok (readState_run h.cell), if_neg hopen, run_bind_ok hrun₁]
  unfold Sending.Spares
  cases w.fits
  · exact ⟨_, d₁, rfl, fun _ => h₁, fun hnot => absurd (fun hfits => by cases hfits) hnot⟩
  rw [if_neg (by simp), run_bind_ok hrun₂]
  cases w.writes
  · refine ⟨_, u₂, run_bind_ok hresult₂, fun hspares => ?_, fun _ => hu₂⟩
    cases (hspares rfl).1
  rw [if_neg (by simp), run_bind_ok hrun₃]
  cases w.outputs
  · refine ⟨_, u₃, run_bind_ok hresult₃, fun hspares => ?_, fun _ => hu₃⟩
    cases (hspares rfl).2
  exact ⟨_, d₃, rfl, fun _ => h₃, fun hnot => absurd (fun _ => ⟨rfl, rfl⟩) hnot⟩

/-- Only an open connection is written to, and it has a block. -/
lemma zejfTcpSend_sound (h : d.Sound) (w : Sending) :
    ∃ rv u, (zejfTcpSend w).run d = .ok rv u ∧ u.Sound := by
  rcases h with h | ⟨a, s, h⟩
  · rw [zejfTcpSend, run_bind_ok (EStateM.run_get d), h.current]
    exact ⟨_, d, rfl, .inl h⟩
  · by_cases hover : s.complete = true ∨ ¬s.connected = true
    · exact ⟨_, d, zejfTcpSend_refused h hover w, .inr ⟨a, s, h⟩⟩
    · obtain ⟨rv, u, hrun, hspares, hends⟩ := zejfTcpSend_open h hover w
      by_cases hw : w.Spares
      · exact ⟨rv, u, hrun, .inr ⟨a, _, hspares hw⟩⟩
      · exact ⟨rv, u, hrun, .inr ⟨a, _, hends hw⟩⟩

/-- Texts leave an open connection open if each of them does. -/
lemma sendAll_spares (h : d.At a s) (ws : List Sending)
    (hspares : s.complete = false → s.connected = true → ∀ w ∈ ws, w.Spares) :
    ∃ u, (sendAll ws).run d = .ok () u ∧ u.At a s := by
  induction ws generalizing d with
  | nil => exact ⟨d, rfl, h⟩
  | cons w ws ih =>
    have hrest : s.complete = false → s.connected = true → ∀ w ∈ ws, w.Spares :=
      fun hgoing hconnected w' hw' => hspares hgoing hconnected w' (List.mem_cons_of_mem w hw')
    by_cases hover : s.complete = true ∨ ¬s.connected = true
    · obtain ⟨u, hrun, hu⟩ := ih h hrest
      exact ⟨u, (run_bind_ok (zejfTcpSend_refused h hover w)).trans hrun, hu⟩
    · obtain ⟨rv, v, hsend, hv, -⟩ := zejfTcpSend_open h hover w
      rw [not_or, not_not, Bool.not_eq_true] at hover
      obtain ⟨u, hrun, hu⟩ := ih (hv (hspares hover.1 hover.2 w List.mem_cons_self)) hrest
      exact ⟨u, (run_bind_ok hsend).trans hrun, hu⟩

/-- The first text that is written in vain ends an open connection. -/
lemma sendAll_ends (h : d.At a s) (hgoing : s.complete = false) (hconnected : s.connected = true)
    {ws : List Sending} (hends : ¬∀ w ∈ ws, w.Spares) :
    ∃ u, (sendAll ws).run d = .ok () u ∧ u.At a { s with complete := true, tcpPcb := none } := by
  induction ws generalizing d with
  | nil => exact absurd (fun w hw => by cases hw) hends
  | cons w ws ih =>
    have hopen : ¬(s.complete = true ∨ ¬s.connected = true) := by simp [hgoing, hconnected]
    obtain ⟨rv, v, hsend, hspares, hover⟩ := zejfTcpSend_open h hopen w
    by_cases hw : w.Spares
    · rw [List.forall_mem_cons, not_and] at hends
      obtain ⟨u, hrun, hu⟩ := ih (hspares hw) (hends hw)
      exact ⟨u, (run_bind_ok hsend).trans hrun, hu⟩
    · obtain ⟨u, hrun, hu⟩ := sendAll_spares (hover hw) ws (fun hfalse => by cases hfalse)
      exact ⟨u, (run_bind_ok hsend).trans hrun, hu⟩

/-- The block of a connection that has one. -/
lemma Device.At.going (h : d.At a s) (hp : s.tcpPcb = some p) : s.complete = false := by
  by_contra hover
  rw [Bool.not_eq_false] at hover
  rw [h.ended hover] at hp
  cases hp

/-- A callback that reads, up to its answers. -/
lemma tcpClientRecv_read (h : d.At a s) {buff : List Pbuf} (hbuff : buff ≠ [])
    (hstops : Stops buff) (hlen : 0 < buff.flatten.length) (sends : List Sending) (closes : Bool) :
    ∃ r u, r.complete = s.complete ∧ u.At a { s with toTcpClient := r } ∧
      (tcpClientRecv S (some a) p buff sends closes).run d = (do
        sendAll sends
        updatePcb p id : Run Device Unit).run u := by
  obtain ⟨idleTime, recved, accepted, hread⟩ := tcpClientRecv_ends (S := S) hbuff s.toTcpClient
  rw [walked, if_pos hstops] at hread
  obtain ⟨u, hrun, hu⟩ := readInto_at h hread rfl
  have hasserted : (asserted (some a)).run d = .ok a d := rfl
  refine ⟨{ s.toTcpClient with idleTime, recved, accepted }, u, rfl, hu, ?_⟩
  rw [tcpClientRecv, if_neg hbuff, if_pos hlen]
  exact (run_bind_ok hasserted).trans (run_bind_ok hrun)

lemma tcpClientRecv_at (h : d.At a s) (hp : s.tcpPcb = some p) {buff : List Pbuf}
    {sends : List Sending} (hquiet : buff = [] ∨ Stops buff ∧
      (0 < buff.flatten.length → s.connected = true → ∀ w ∈ sends, w.Spares)) (closes : Bool) :
    ∃ u, (tcpClientRecv S (some a) p buff sends closes).run d = .ok () u ∧ u.Sound := by
  by_cases hbuff : buff = []
  · obtain ⟨rv, u, hrun, hu⟩ := tcpResult_at h closes
    rw [tcpClientRecv, if_pos hbuff]
    exact ⟨u, run_bind_ok hrun, .inr ⟨a, _, hu⟩⟩
  obtain ⟨hstops, hspares⟩ := hquiet.resolve_left hbuff
  by_cases hlen : 0 < buff.flatten.length
  · obtain ⟨r, v, -, hv, hrun⟩ :=
      tcpClientRecv_read (S := S) h (p := p) hbuff hstops hlen sends closes
    obtain ⟨v', hsends, hv'⟩ := sendAll_spares hv sends (fun _ => hspares hlen)
    obtain ⟨u, hrecved, hu⟩ := updatePcb_at hv' hp
    rw [hrun]
    exact ⟨u, (run_bind_ok hsends).trans hrecved, .inr ⟨a, _, hu⟩⟩
  · rw [tcpClientRecv, if_neg hbuff, if_neg hlen]
    exact ⟨d, rfl, .inr ⟨a, s, h⟩⟩

/-- Nothing but an empty link keeps the walk from reading past the chain. -/
lemma tcpClientRecv_past (h : d.At a s) {buff : List Pbuf} (hbuff : buff ≠ [])
    (hpast : ¬Stops buff) (sends : List Sending) (closes : Bool) :
    ∃ u, (tcpClientRecv S (some a) p buff sends closes).run d = .error .nullPointer u := by
  have hlen : 0 < buff.flatten.length := by
    by_contra hzero
    exact hpast (stops_of_flatten hbuff (List.eq_nil_of_length_eq_zero (by omega)))
  obtain ⟨idleTime, recved, accepted, hread⟩ := tcpClientRecv_ends (S := S) hbuff s.toTcpClient
  rw [walked, if_neg hpast] at hread
  have hinto : (readInto a (ZejfMeteo.tcpClientRecv S buff)).run d = .error .nullPointer d := by
    rw [readInto, run_bind_ok (readState_run h.cell), hread]
    rfl
  rw [tcpClientRecv, if_neg hbuff, if_pos hlen]
  have hasserted : (asserted (some a)).run d = .ok a d := rfl
  exact ⟨d, (run_bind_ok hasserted).trans (run_bind_error hinto)⟩

/-- If an answer ends the connection, its block is gone when it is used again. -/
lemma tcpClientRecv_gone (h : d.At a s) (hp : s.tcpPcb = some p) {buff : List Pbuf}
    (hbuff : buff ≠ []) (hstops : Stops buff) (hlen : 0 < buff.flatten.length)
    (hconnected : s.connected = true) {sends : List Sending} (hends : ¬∀ w ∈ sends, w.Spares)
    (closes : Bool) :
    ∃ u, (tcpClientRecv S (some a) p buff sends closes).run d = .error .useAfterFree u := by
  obtain ⟨r, v, hcomplete, hv, hrun⟩ :=
    tcpClientRecv_read (S := S) h (p := p) hbuff hstops hlen sends closes
  obtain ⟨u, hsends, hu⟩ := sendAll_ends hv (hcomplete.trans (h.going hp)) hconnected hends
  have hgone : u.pcbs.cells p = none := by
    rw [hu.pcbs p, if_neg (by simp)]
  rw [hrun]
  exact ⟨_, (run_bind_ok hsends).trans
    (run_zoom_error (l := Device.pcbsLens) (Heap.update_dead _ hgone))⟩

lemma tcpClientPoll_at (h : d.At a s) (closes : Bool) :
    ∃ u, (tcpClientPoll (some a) closes).run d = .ok () u ∧ u.Sound := by
  obtain ⟨u, hrun, hu⟩ := updateState_at h (fun s => { s with idleTime := s.idleTime + 1 }) rfl
    h.ended h.established
  obtain ⟨rv, v, hresult, hv⟩ := tcpResult_at hu closes
  have hpoll : (tcpClientPoll (some a) closes).run d = (do
      if 3 < s.idleTime + 1 then
        let _ ← tcpResult (some a) closes : Run Device Unit).run u :=
    (run_bind_ok hrun).trans (run_bind_ok (readState_run hu.cell))
  rw [hpoll]
  by_cases hidle : 3 < s.idleTime + 1
  · rw [if_pos hidle]
    exact ⟨v, run_bind_ok hresult, .inr ⟨a, _, hv⟩⟩
  · rw [if_neg hidle]
    exact ⟨u, rfl, .inr ⟨a, _, hu⟩⟩

lemma Device.Sound.block (h : d.Sound) {c : Pcb} (hc : d.pcbs.cells p = some c) :
    ∃ a s, d.At a s ∧ s.tcpPcb = some p ∧ c = ⟨some a, true⟩ := by
  rcases h with h | ⟨a, s, h⟩
  · rw [h.pcbs p] at hc
    cases hc
  · obtain ⟨hp, hc⟩ := h.block hc
    exact ⟨a, s, h, hp, hc⟩

lemma findPcb_run (d : Device) (p : ℕ) : (findPcb p).run d = .ok (d.pcbs.cells p) d := rfl

lemma callback_dead {c : Callback} (hdead : d.pcbs.cells c.pcb = none) :
    (callback S c).run d = .ok () d := by
  have hfind : (findPcb c.pcb).run d = .ok none d := by rw [findPcb_run, hdead]
  cases c with
  | connected pcb ok closes => exact run_bind_ok hfind
  | recv pcb buff sends closes => exact run_bind_ok hfind
  | poll pcb closes => exact run_bind_ok hfind
  | err pcb closes => exact run_bind_ok hfind

lemma Device.At.isOpen (h : d.At a s) : d.isOpen = (s.connected && !s.complete) := by
  rw [Device.isOpen, h.current, Option.bind_some, h.cell]
  rfl

/-- A callback for a block that lwIP has finds the client of the connection. -/
lemma callback_live (h : d.Sound) {c : Callback} (hlive : (d.pcbs.cells c.pcb).isSome)
    (hquiet : d.Survives c) : ∃ u, (callback S c).run d = .ok () u ∧ u.Sound := by
  have hharmless := hquiet.resolve_left (Option.ne_none_iff_isSome.mpr hlive)
  obtain ⟨b, hb⟩ := Option.isSome_iff_exists.mp hlive
  obtain ⟨a, s, hat, hp, rfl⟩ := h.block hb
  cases c with
  | connected pcb ok closes =>
    rw [callback, run_bind_ok (findPcb_run d pcb), show d.pcbs.cells pcb = _ from hb]
    exact tcpClientConnected_at hat hp ok closes
  | recv pcb buff sends closes =>
    have hopen : s.connected = true → d.isOpen = true := by
      intro hconnected
      rw [hat.isOpen, hconnected, hat.going hp]
      rfl
    rw [callback, run_bind_ok (findPcb_run d pcb), show d.pcbs.cells pcb = _ from hb]
    refine tcpClientRecv_at hat hp (hharmless.imp_right ?_) closes
    exact And.imp_right (fun hspares hlen hconnected => hspares hlen (hopen hconnected))
  | poll pcb closes =>
    rw [callback, run_bind_ok (findPcb_run d pcb), show d.pcbs.cells pcb = _ from hb]
    exact tcpClientPoll_at hat closes
  | err pcb closes => exact hharmless.elim

/-- An error on the connection is about a block that is gone, and the code uses it. -/
lemma err_used (h : d.Sound) (hlive : (d.pcbs.cells p).isSome) (closes : Bool) :
    ∃ u, (callback S (.err p closes)).run d = .error .useAfterFree u := by
  obtain ⟨c, hc⟩ := Option.isSome_iff_exists.mp hlive
  obtain ⟨a, s, hat, hp, rfl⟩ := h.block hc
  rw [callback, run_bind_ok (findPcb_run d p), hc]
  dsimp only
  rw [run_bind_ok (freePcb_run hlive), if_pos rfl]
  have hclose : ∀ d' : Device, d'.states.cells a = some { s with complete := true } →
      d'.pcbs.cells p = none →
      ∃ u, (tcpClientClose a closes).run d' = .error .useAfterFree u := by
    intro d' hcell hgone
    rw [tcpClientClose, run_bind_ok (readState_run hcell), hp]
    exact ⟨_, run_bind_error (run_zoom_error (l := Device.pcbsLens) (Heap.update_dead _ hgone))⟩
  obtain ⟨u, hu⟩ := hclose { d with
      states := d.states.modify a (fun s => { s with complete := true })
      pcbs := d.pcbs.erase p }
    (by rw [Heap.modify_cells, if_pos rfl, hat.cell]; rfl) (by rw [Heap.erase_cells, if_pos rfl])
  have hset := updateState_run (d := { d with pcbs := d.pcbs.erase p }) hat.cell
    (fun s => { s with complete := true })
  have hresult : (tcpResult (some a) closes).run { d with pcbs := d.pcbs.erase p } =
      .error .useAfterFree u := (run_bind_ok hset).trans hu
  exact ⟨u, run_bind_error hresult⟩

lemma callback_loud (h : d.Sound) {c : Callback} (hloud : ¬d.Survives c) :
    ∃ e u, (callback S c).run d = .error e u := by
  obtain ⟨hlive, hharm⟩ := not_or.mp hloud
  obtain ⟨b, hb⟩ := Option.ne_none_iff_exists'.mp hlive
  obtain ⟨a, s, hat, hp, rfl⟩ := h.block hb
  cases c with
  | connected pcb ok closes => exact absurd trivial hharm
  | recv pcb buff sends closes =>
    obtain ⟨hbuff, hnot⟩ := not_or.mp hharm
    rw [callback, run_bind_ok (findPcb_run d pcb), show d.pcbs.cells pcb = _ from hb]
    by_cases hstops : Stops buff
    · rw [not_and, Classical.not_imp, Classical.not_imp] at hnot
      obtain ⟨hlen, hopen, hends⟩ := hnot hstops
      rw [hat.isOpen, Bool.and_eq_true] at hopen
      exact ⟨_, tcpClientRecv_gone hat hp hbuff hstops hlen hopen.1 hends closes⟩
    · exact ⟨_, tcpClientRecv_past hat hbuff hstops sends closes⟩
  | poll pcb closes => exact absurd trivial hharm
  | err pcb closes => exact ⟨_, err_used h (Option.ne_none_iff_isSome.mp hlive) closes⟩

/-- Only what survives a callback goes on. -/
lemma callback_sound (h : d.Sound) (c : Callback) :
    (d.Survives c ∧ ∃ u, (callback S c).run d = .ok () u ∧ u.Sound) ∨
      (¬d.Survives c ∧ ∃ e u, (callback S c).run d = .error e u) := by
  by_cases hsurvives : d.Survives c
  · refine .inl ⟨hsurvives, ?_⟩
    by_cases hdead : d.pcbs.cells c.pcb = none
    · exact ⟨d, callback_dead hdead, h⟩
    · exact callback_live h (Option.ne_none_iff_isSome.mp hdead) hsurvives
  · exact .inr ⟨hsurvives, callback_loud h hsurvives⟩

lemma Callback.Quiet.survives {c : Callback} (h : c.Quiet) (d : Device) : d.Survives c := by
  cases c with
  | connected pcb ok closes => exact .inr trivial
  | recv pcb buff sends closes =>
    exact .inr (Or.imp_right (And.imp_right (fun hspares _ _ => hspares)) h)
  | poll pcb closes => exact .inr trivial
  | err pcb closes => exact h.elim

lemma callbackAll_sound (h : d.Sound) (cs : List Callback) :
    (∃ u, (callbackAll S cs).run d = .ok () u ∧ u.Sound) ∨
      ((∃ c ∈ cs, ¬c.Quiet) ∧ ∃ e u, (callbackAll S cs).run d = .error e u) := by
  induction cs generalizing d with
  | nil => exact .inl ⟨d, rfl, h⟩
  | cons c cs ih =>
    rcases callback_sound h c with ⟨-, u, hrun, hu⟩ | ⟨hloud, e, u, hrun⟩
    · rcases ih hu with ⟨v, hrest, hv⟩ | ⟨⟨c', hc', hloud⟩, e, v, hrest⟩
      · exact .inl ⟨v, (run_bind_ok hrun).trans hrest, hv⟩
      · exact .inr ⟨⟨c', List.mem_cons_of_mem c hc', hloud⟩, e, v,
          (run_bind_ok hrun).trans hrest⟩
    · exact .inr ⟨⟨c, List.mem_cons_self, fun hquiet => hloud (hquiet.survives d)⟩, e, u,
        run_bind_error hrun⟩

/-- Soundness does not depend on the counters of the Wi-Fi. -/
lemma Device.Sound.congr (h : d.Sound) (hstates : u.states = d.states) (hpcbs : u.pcbs = d.pcbs)
    (hcurrent : u.currentState = d.currentState) (hcount : u.tcpReconnects = d.tcpReconnects) :
    u.Sound := by
  cases u
  cases hstates
  cases hpcbs
  cases hcurrent
  cases hcount
  rcases h with h | ⟨a, s, h⟩
  · exact .inl ⟨⟨h.counted.count, h.counted.kept⟩, h.current, h.others, h.pcbs⟩
  · exact .inr ⟨a, s, ⟨⟨h.counted.count, h.counted.kept⟩, h.current, h.cell, h.others, h.pcbs,
      h.ended, h.established⟩⟩

lemma wifiConnect_sound (h : d.Sound) (w : Checking) :
    (∃ u, (wifiConnect S w).run d = .ok w.joins u ∧ u.Sound) ∨
      ((∃ c ∈ w.during, ¬c.Quiet) ∧ ∃ e u, (wifiConnect S w).run d = .error e u) := by
  rw [wifiConnect, run_bind_ok (EStateM.run_modify _ _)]
  have hcount : Device.Sound { d with wifiReconnects := d.wifiReconnects + 1 } :=
    h.congr rfl rfl rfl rfl
  rcases callbackAll_sound hcount w.during with ⟨u, hrun, hu⟩ | ⟨hloud, e, u, hrun⟩
  · exact .inl ⟨u, run_bind_ok hrun, hu⟩
  · exact .inr ⟨hloud, e, u, run_bind_error hrun⟩

lemma checkWifi_sound (h : d.Sound) (w : Checking) :
    (∃ go u, (checkWifi S w).run d = .ok go u ∧ u.Sound) ∨
      ((∃ c ∈ w.during, ¬c.Quiet) ∧ ∃ e u, (checkWifi S w).run d = .error e u) := by
  rw [checkWifi]
  cases w.joined with
  | true => exact .inl ⟨true, d, rfl, h⟩
  | false =>
    rw [if_pos (by simp), run_bind_ok (EStateM.run_get d)]
    by_cases hwait : d.nextAttemptWifi < d.nextAttemptLast
    · rw [if_pos hwait]
      exact .inl ⟨_, _, rfl, h.congr rfl rfl rfl rfl⟩
    · rw [if_neg hwait, run_bind_ok (EStateM.run_set _ _)]
      have hcount : Device.Sound { d with
          nextAttemptWifi := 0
          nextAttemptLast := if d.nextAttemptLast < 20 then d.nextAttemptLast * 2
            else d.nextAttemptLast } := h.congr rfl rfl rfl rfl
      rcases wifiConnect_sound (S := S) hcount w with ⟨u, hrun, hu⟩ | ⟨hloud, e, u, hrun⟩
      · rw [run_bind_ok hrun]
        cases w.joins
        · exact .inl ⟨_, u, rfl, hu⟩
        · exact .inl ⟨_, _, rfl, hu.congr rfl rfl rfl rfl⟩
      · exact .inr ⟨hloud, e, u, run_bind_error hrun⟩

/-- What is left of a connection that is over, or of one that has not come about, is dropped. -/
lemma dropState_sound (h : d.Sound) (w : Checking) :
    ∃ u, (dropState w).run d = .ok () u ∧ (u.Off ∨ ∃ a s, u.At a s ∧ s.tcpPcb ≠ none) := by
  rw [dropState, run_bind_ok (EStateM.run_get d)]
  rcases h with h | ⟨a, s, h⟩
  · rw [h.current]
    exact ⟨d, rfl, .inl h⟩
  · rw [h.current]
    dsimp only
    rw [run_bind_ok (readState_run h.cell)]
    by_cases hover : s.complete = true ∨ ¬s.connected = true
    · obtain ⟨rv, pcbs, hclose, hcells⟩ :=
        tcpClientClose_run h.cell (fun p hp => h.live hp) w.closes
      rw [if_pos hover, run_bind_ok hclose]
      refine ⟨_, rfl, .inl ⟨h.counted.modify rfl rfl, rfl, ?_, ?_⟩⟩
      · intro b t ht
        change (Heap.modify _ _ _).cells b = some t at ht
        rw [Heap.modify_cells] at ht
        split at ht
        next hb =>
          rw [hb, h.cell] at ht
          rw [← Option.some.inj ht]
        next hb => exact h.others b t hb ht
      · intro q
        show pcbs.cells q = none
        rw [hcells q]
        split
        · rfl
        next hq => rw [h.pcbs q, if_neg hq]
    · rw [if_neg hover]
      rw [not_or, not_not, Bool.not_eq_true] at hover
      exact ⟨d, rfl, .inr ⟨a, s, h, h.established hover.2 hover.1⟩⟩

/-- A client that is allocated for a connection that is counted. -/
lemma Device.Counted.push (h : d.Counted) (s : Client) {f : Client → Client}
    (hstates : u.states = (d.states.push s).modify d.states.next f)
    (hcount : u.tcpReconnects = d.tcpReconnects + 1) : u.Counted where
  count := by
    rw [hcount, hstates, h.count]
    rfl
  kept b hb := by
    rw [hstates] at hb ⊢
    rw [Heap.modify_isSome, Heap.push_cells]
    split
    · rfl
    next hne => exact h.kept b (Nat.lt_of_le_of_ne (Nat.le_of_lt_succ hb) hne)

/-- The connection that has just been opened is the only one. -/
lemma tcpClientOpen_at (h : d.Off) (blocks connects : Bool) : ∃ rv u,
    (tcpClientOpen d.states.next blocks connects).run { d with
        states := d.states.push zeroed
        currentState := some d.states.next } = .ok rv u ∧
      u.At d.states.next { zeroed with tcpPcb := if blocks then some d.pcbs.next else none } := by
  have hnew : (d.states.push zeroed).cells d.states.next =
      some zeroed := by
    rw [Heap.push_cells, if_pos rfl]
  have hothers : ∀ f b t, b ≠ d.states.next →
      ((d.states.push zeroed).modify d.states.next f).cells b = some t →
        t.tcpPcb = none := by
    intro f b t hb ht
    rw [Heap.modify_cells, if_neg hb, Heap.push_cells, if_neg hb] at ht
    exact h.others b t ht
  rw [tcpClientOpen, run_bind_ok (EStateM.run_modify _ _)]
  cases blocks with
  | false =>
    rw [if_neg (by simp)]
    refine ⟨_, _, run_bind_ok (updateState_run hnew _), h.counted.push _ rfl rfl, rfl, ?_,
      hothers _, ?_, by simp, by simp⟩
    · rw [Heap.modify_cells, if_pos rfl, hnew]
      rfl
    · intro q
      rw [if_neg (by simp)]
      exact h.pcbs q
  | true =>
    have hlive : ((d.pcbs.push ⟨none, false⟩).cells d.pcbs.next).isSome :=
      Heap.push_isSome_next _ _
    have hpcbs : ∀ q, (((d.pcbs.push ⟨none, false⟩).modify d.pcbs.next
        (fun c => { c with arg := some d.states.next })).modify d.pcbs.next
        (fun c => { c with callbacks := true })).cells q =
          if some d.pcbs.next = some q then some ⟨some d.states.next, true⟩ else none := by
      intro q
      simp only [Heap.modify_cells, Heap.push_cells, h.pcbs q, Option.some_inj]
      by_cases hq : q = d.pcbs.next
      · rw [if_pos hq, if_pos hq, if_pos hq, if_pos hq.symm]
        rfl
      · rw [if_neg hq, if_neg hq, if_neg hq, if_neg (Ne.symm hq)]
    have hset := updateState_run (d := { d with
        states := d.states.push zeroed
        pcbs := d.pcbs.push ⟨none, false⟩
        currentState := some d.states.next
        tcpReconnects := d.tcpReconnects + 1 }) hnew
      (fun s => { s with tcpPcb := some d.pcbs.next })
    refine ⟨connects, _, (run_bind_ok hset).trans (updatePcb_twice hlive _ _ connects),
      h.counted.push _ rfl rfl, rfl, ?_, hothers _, ?_, by simp, by simp⟩
    · rw [Heap.modify_cells, if_pos rfl, hnew]
      rfl
    · exact hpcbs

/-- A new connection takes a new client. -/
lemma openState_sound (h : d.Off ∨ ∃ a s, d.At a s ∧ s.tcpPcb ≠ none) (w : Checking) :
    ∃ u, (openState w).run d = .ok () u ∧ u.Sound ∧
      (w.memory = true → w.blocks = true → ∃ a s, u.At a s ∧ s.tcpPcb ≠ none) := by
  rw [openState, run_bind_ok (EStateM.run_get d)]
  rcases h with h | ⟨a, s, h, hblock⟩
  · rw [if_pos h.current]
    cases hmemory : w.memory with
    | false =>
      exact ⟨_, rfl, .inl ⟨⟨h.counted.count, h.counted.kept⟩, rfl, h.others, h.pcbs⟩, by simp⟩
    | true =>
      obtain ⟨rv, u, hrun, hu⟩ := tcpClientOpen_at h w.blocks w.connects
      have halloc : (tcpClientInit true).run d = .ok (some d.states.next)
        { d with states := d.states.push zeroed } := rfl
      refine ⟨u, ?_, .inr ⟨_, _, hu⟩, fun _ hblocks => ⟨_, _, hu, ?_⟩⟩
      · rw [run_bind_ok halloc, run_bind_ok (EStateM.run_modify _ _)]
        exact run_bind_ok hrun
      · rw [if_pos hblocks]
        exact Option.some_ne_none _
  · rw [if_neg (by rw [h.current]; exact Option.some_ne_none a)]
    exact ⟨d, rfl, .inr ⟨a, s, h⟩, fun _ _ => ⟨a, s, h, hblock⟩⟩

/-- The check once the Wi-Fi is there. -/
lemma reopen_sound (h : d.Sound) (w : Checking) :
    ∃ u, (do
        dropState w
        openState w : Run Device Unit).run d = .ok () u ∧ u.Sound ∧
      (w.memory = true → w.blocks = true → ∃ a s, u.At a s ∧ s.tcpPcb ≠ none) := by
  obtain ⟨u, hdrop, hu⟩ := dropState_sound h w
  obtain ⟨v, hopen, hv⟩ := openState_sound hu w
  exact ⟨v, (run_bind_ok hdrop).trans hopen, hv⟩

lemma zejfTcpCheckConnect_sound (h : d.Sound) (w : Checking) :
    (∃ u, (zejfTcpCheckConnect S w).run d = .ok () u ∧ u.Sound) ∨
      ((∃ c ∈ w.during, ¬c.Quiet) ∧ ∃ e u, (zejfTcpCheckConnect S w).run d = .error e u) := by
  rw [zejfTcpCheckConnect]
  rcases checkWifi_sound (S := S) h w with ⟨go, u, hrun, hu⟩ | ⟨hloud, e, u, hrun⟩
  · rw [run_bind_ok hrun]
    cases go
    · exact .inl ⟨u, rfl, hu⟩
    · obtain ⟨v, hreopen, hv, -⟩ := reopen_sound hu w
      exact .inl ⟨v, hreopen, hv⟩
  · exact .inr ⟨hloud, e, u, run_bind_error hrun⟩

/-- An event that is survived leaves a sound state. -/
lemma step_sound {e : Event} {o : Seen} (h : d.Sound) (hrun : (step S e).run d = .ok o u) :
    u.Sound := by
  cases e with
  | callback c =>
    obtain ⟨_, v, hcall, hlast⟩ := run_bind_inv hrun
    cases hlast
    rcases callback_sound (S := S) h c with ⟨-, v, hrun', hv⟩ | ⟨-, e, v, hrun'⟩
    · rw [hrun'] at hcall
      cases hcall
      exact hv
    · rw [hrun'] at hcall
      cases hcall
  | send w =>
    obtain ⟨rv, v, hsend, hv⟩ := zejfTcpSend_sound h w
    rw [step, run_bind_ok hsend] at hrun
    cases hrun
    exact hv
  | check w =>
    rw [step, run_bind_ok (EStateM.run_get d)] at hrun
    obtain ⟨_, v, hcheck, hlast⟩ := run_bind_inv hrun
    cases hlast
    rcases zejfTcpCheckConnect_sound (S := S) h w with ⟨v, hrun', hv⟩ | ⟨-, e, v, hrun'⟩
    · rw [hrun'] at hcheck
      cases hcheck
      exact hv
    · rw [hrun'] at hcheck
      cases hcheck

lemma zejfTcpInit_sound : zejfTcpInit.Sound :=
  .inl ⟨⟨rfl, fun _ ha => absurd ha (Nat.not_lt_zero _)⟩, rfl, by simp [zejfTcpInit],
    by simp [zejfTcpInit]⟩

lemma trace_sound {tr : List (Event × Seen)} (h : Trace (step S) zejfTcpInit tr d) : d.Sound :=
  h.invariant (I := fun _ d => d.Sound) (A := fun _ => True) (fun _ _ => trivial)
    zejfTcpInit_sound (fun _ _ _ _ _ _ hd hrun => step_sound hd hrun)

end Sound

/-! ### What holds of every run -/

/-- The block of the connection that the global variable points to. -/
def Device.currentBlock (d : Device) : Option ℕ :=
  (d.currentState.bind d.states.cells).bind Client.tcpPcb

/-- There is no other block. -/
def Device.OneBlock (d : Device) : Prop := ∀ p, (d.pcbs.cells p).isSome → d.currentBlock = some p

/-- The clients of all connections that were ever opened are still there. -/
def Device.Leaks (d : Device) : Prop := ∀ a, (d.states.cells a).isSome ↔ a < d.tcpReconnects

section Sound

variable {S} {d u : Device} {a p : ℕ} {s : Client}

lemma Device.Counted.leaks (h : d.Counted) : d.Leaks := by
  intro a
  rw [h.count]
  exact ⟨d.states.lt_next, h.kept a⟩

lemma Device.At.currentBlock (h : d.At a s) : d.currentBlock = s.tcpPcb := by
  rw [Device.currentBlock, h.current, Option.bind_some, h.cell, Option.bind_some]

lemma Device.Sound.oneBlock (h : d.Sound) : d.OneBlock := by
  intro p hlive
  obtain ⟨c, hc⟩ := Option.isSome_iff_exists.mp hlive
  obtain ⟨a, s, hat, hp, -⟩ := h.block hc
  rw [hat.currentBlock, hp]

lemma Device.Sound.leaks (h : d.Sound) : d.Leaks := by
  rcases h with h | ⟨a, s, h⟩
  · exact h.counted.leaks
  · exact h.counted.leaks

/-- A check that finds the Wi-Fi and gets its memory leaves a connection behind. -/
lemma zejfTcpCheckConnect_block (h : d.Sound) {w : Checking} (hjoined : w.joined = true)
    (hmemory : w.memory = true) (hblocks : w.blocks = true) :
    ∃ u p, (zejfTcpCheckConnect S w).run d = .ok () u ∧ u.currentBlock = some p ∧
      (u.pcbs.cells p).isSome := by
  have hwifi : (checkWifi S w).run d = .ok true d := by
    rw [checkWifi, hjoined]
    rfl
  obtain ⟨u, hrun, -, hu⟩ := reopen_sound h w
  obtain ⟨a, s, hat, hblock⟩ := hu hmemory hblocks
  obtain ⟨p, hp⟩ := Option.ne_none_iff_exists'.mp hblock
  exact ⟨u, p, (run_bind_ok hwifi).trans hrun, by rw [hat.currentBlock, hp], hat.live hp⟩

end Sound

/-- In every run there is at most one block, that of the current connection, and the clients of
all connections leak. Sending never goes wrong, a check only through what comes while the Wi-Fi is
joined, and a callback exactly if it is about an error of the connection or brings data that the
walk runs past or that is answered in vain. -/
theorem connection_followed {S : Settings} {tr : List (Event × Seen)} {t : Device}
    (h : Trace (step S) zejfTcpInit tr t) :
    t.OneBlock ∧ t.Leaks ∧
      (∀ c, (∃ u, (callback S c).run t = .ok () u) ↔ t.Survives c) ∧
      (∀ w, ∃ rv u, (zejfTcpSend w).run t = .ok rv u) ∧
      (∀ w, (∀ c ∈ w.during, c.Quiet) → ∃ u, (zejfTcpCheckConnect S w).run t = .ok () u) ∧
      ∀ w, w.joined = true → w.memory = true → w.blocks = true →
        ∃ u p, (zejfTcpCheckConnect S w).run t = .ok () u ∧ u.currentBlock = some p ∧
          (u.pcbs.cells p).isSome := by
  have ht := trace_sound h
  refine ⟨ht.oneBlock, ht.leaks, fun c => ?_, fun w => ?_, fun w hquiet => ?_,
    fun w hjoined hmemory hblocks => zejfTcpCheckConnect_block ht hjoined hmemory hblocks⟩
  · rcases callback_sound (S := S) ht c with ⟨hquiet, u, hrun, -⟩ | ⟨hloud, e, u, hrun⟩
    · exact iff_of_true ⟨u, hrun⟩ hquiet
    · refine iff_of_false ?_ hloud
      rintro ⟨v, hrun'⟩
      rw [hrun] at hrun'
      cases hrun'
  · obtain ⟨rv, u, hrun, -⟩ := zejfTcpSend_sound ht w
    exact ⟨rv, u, hrun⟩
  · rcases zejfTcpCheckConnect_sound (S := S) ht w with ⟨u, hrun, -⟩ | ⟨⟨c, hc, hloud⟩, -⟩
    · exact ⟨u, hrun⟩
    · exact absurd (hquiet c hc) hloud

/-- A check with the Wi-Fi up. -/
def freeCheck : Checking := ⟨true, true, [], true, true, true, true⟩

/-- A connection is opened and drops, and the next one is established. -/
def secondTry : List (Event × Seen) :=
  [(.check freeCheck, .tried false), (.callback (.connected 0 false true), .nothing),
    (.check freeCheck, .tried false), (.callback (.connected 1 true true), .nothing),
    (.send ⟨true, true, true, true⟩, .sent .ok),
    (.callback (.recv 1 [[97, 10], []] [⟨true, true, true, true⟩] true), .nothing)]

def secondOpen : Device :=
  leaves ((serve (step .zejfOutside) (secondTry.map Prod.fst)).run zejfTcpInit)

lemma secondOpen_reached : Trace (step .zejfOutside) zejfTcpInit secondTry secondOpen := by
  have hserved : outcome ((serve (step .zejfOutside) (secondTry.map Prod.fst)).run zejfTcpInit) =
      some (secondTry.map Prod.snd) := by decide +kernel
  have htrace := (Trace.of_serve (run_eq_of_outcome hserved)).1
  rwa [← List.unzip_fst, ← List.unzip_snd, List.zip_unzip] at htrace

/-- The client of the first connection is still there, and an error ends the second one badly. -/
theorem secondOpen_followed :
    secondOpen.OneBlock ∧ (∀ a, (secondOpen.states.cells a).isSome ↔ a < 2) ∧
      ¬∃ u, (callback .zejfOutside (.err 1 true)).run secondOpen = .ok () u := by
  obtain ⟨hblock, hleaks, hcalls, -⟩ := connection_followed secondOpen_reached
  have hcount : secondOpen.tcpReconnects = 2 := by decide +kernel
  have hlive : (secondOpen.pcbs.cells 1).isSome := by decide +kernel
  refine ⟨hblock, fun a => hcount ▸ hleaks a, fun hok => ?_⟩
  rcases (hcalls (.err 1 true)).mp hok with hdead | hquiet
  · rw [Callback.pcb] at hdead
    rw [hdead] at hlive
    cases hlive
  · exact hquiet

/-! ### When the Wi-Fi is tried -/

/-- What only the check of the Wi-Fi changes. -/
def Device.tries (d : Device) : ℕ × ℕ × ℕ :=
  (d.nextAttemptWifi, d.nextAttemptLast, d.wifiReconnects)

section Tries

variable {S} {d u : Device}

lemma keeps_updatePcb (pcb : ℕ) (f : Pcb → Pcb) : Keeps Device.tries (updatePcb pcb f) :=
  keeps_zoom (fun _ _ => rfl) _

lemma keeps_readState (state : ℕ) : Keeps Device.tries (readState state) :=
  keeps_zoom (fun _ _ => rfl) _

lemma keeps_updateState (state : ℕ) (f : Client → Client) :
    Keeps Device.tries (updateState state f) := keeps_zoom (fun _ _ => rfl) _

lemma keeps_tcpClientClose (state : ℕ) (closes : Bool) :
    Keeps Device.tries (tcpClientClose state closes) := by
  refine keeps_bind (keeps_readState state) (fun s => ?_)
  split
  · exact keeps_pure _
  · refine keeps_bind (keeps_updatePcb _ _)
      (fun _ => keeps_bind (keeps_updatePcb _ _) (fun _ => ?_))
    refine keeps_bind (keeps_zoom (fun _ _ => rfl) _) (fun _ => ?_)
    exact keeps_bind (keeps_updateState _ _) (fun _ => keeps_pure _)

lemma keeps_asserted (arg : Option ℕ) : Keeps Device.tries (asserted arg) := by
  cases arg with
  | none => exact keeps_fault _
  | some state => exact keeps_pure _

lemma keeps_tcpResult (arg : Option ℕ) (closes : Bool) :
    Keeps Device.tries (tcpResult arg closes) := by
  refine keeps_bind (keeps_asserted arg) (fun state => ?_)
  exact keeps_bind (keeps_updateState _ _) (fun _ => keeps_tcpClientClose _ _)

lemma keeps_readInto (state : ℕ) (x : Run TcpClient Unit) :
    Keeps Device.tries (readInto state x) := by
  refine keeps_bind (keeps_readState state) (fun s => ?_)
  split
  · exact keeps_updateState _ _
  · exact keeps_fault _


lemma keeps_zejfTcpSend (w : Sending) : Keeps Device.tries (zejfTcpSend w) := by
  have huse : ∀ state, Keeps Device.tries (usePcb state) := by
    intro state
    refine keeps_bind (keeps_readState state) (fun s => ?_)
    split
    · exact keeps_fault _
    · exact keeps_updatePcb _ _
  refine keeps_bind keeps_get (fun d => ?_)
  split
  · exact keeps_pure _
  · have hfail : ∀ state, Keeps Device.tries (do
        let _ ← tcpResult (some state) w.closes
        return ZejfErr.sendUnable) :=
      fun _ => keeps_bind (keeps_tcpResult _ _) (fun _ => keeps_pure _)
    refine keeps_bind (keeps_readState _) (fun s => keeps_ite (keeps_pure _) ?_)
    refine keeps_bind (huse _) (fun _ => keeps_ite (keeps_pure _) ?_)
    refine keeps_bind (huse _) (fun _ => keeps_ite (hfail _) ?_)
    exact keeps_bind (huse _) (fun _ => keeps_ite (hfail _) (keeps_pure _))

lemma keeps_sendAll (ws : List Sending) : Keeps Device.tries (sendAll ws) := by
  induction ws with
  | nil => exact keeps_pure _
  | cons w ws ih => exact keeps_bind (keeps_zejfTcpSend w) (fun _ => ih)

lemma keeps_tcpClientRecv (arg : Option ℕ) (tpcb : ℕ) (buff : List Pbuf) (sends : List Sending)
    (closes : Bool) : Keeps Device.tries (tcpClientRecv S arg tpcb buff sends closes) := by
  refine keeps_ite (keeps_bind (keeps_tcpResult arg closes) (fun _ => keeps_pure _))
    (keeps_ite ?_ (keeps_pure _))
  refine keeps_bind (keeps_asserted arg)
    (fun state => keeps_bind (keeps_readInto _ _) (fun _ => ?_))
  exact keeps_bind (keeps_sendAll sends) (fun _ => keeps_updatePcb _ _)

lemma keeps_tcpClientConnected (arg : Option ℕ) (ok closes : Bool) :
    Keeps Device.tries (tcpClientConnected arg ok closes) := by
  refine keeps_bind (keeps_asserted arg) (fun state => keeps_ite ?_ (keeps_updateState _ _))
  exact keeps_bind (keeps_tcpResult arg closes) (fun _ => keeps_pure _)

lemma keeps_tcpClientPoll (arg : Option ℕ) (closes : Bool) :
    Keeps Device.tries (tcpClientPoll arg closes) := by
  refine keeps_bind (keeps_asserted arg) (fun state => keeps_bind (keeps_updateState _ _)
    (fun _ => keeps_bind (keeps_readState _) (fun s => keeps_ite ?_ (keeps_pure _))))
  exact keeps_bind (keeps_tcpResult arg closes) (fun _ => keeps_pure _)

lemma keeps_callback (c : Callback) : Keeps Device.tries (callback S c) := by
  have hfind : ∀ pcb, Keeps Device.tries (findPcb pcb) := fun _ _ => rfl
  cases c with
  | connected pcb ok closes =>
    refine keeps_bind (hfind pcb) (fun b => ?_)
    split
    · exact keeps_tcpClientConnected _ _ _
    · exact keeps_pure _
  | recv pcb buff sends closes =>
    refine keeps_bind (hfind pcb) (fun b => ?_)
    split
    · exact keeps_tcpClientRecv _ _ _ _ _
    · exact keeps_pure _
  | poll pcb closes =>
    refine keeps_bind (hfind pcb) (fun b => ?_)
    split
    · exact keeps_tcpClientPoll _ _
    · exact keeps_pure _
  | err pcb closes =>
    refine keeps_bind (hfind pcb) (fun b => ?_)
    split
    · refine keeps_bind (keeps_zoom (fun _ _ => rfl) _) (fun _ => keeps_ite ?_ (keeps_pure _))
      exact keeps_bind (keeps_tcpResult _ _) (fun _ => keeps_pure _)
    · exact keeps_pure _

lemma keeps_callbackAll (cs : List Callback) : Keeps Device.tries (callbackAll S cs) := by
  induction cs with
  | nil => exact keeps_pure _
  | cons c cs ih => exact keeps_bind (keeps_callback c) (fun _ => ih)

lemma keeps_dropState (w : Checking) : Keeps Device.tries (dropState w) := by
  refine keeps_bind keeps_get (fun d => ?_)
  split
  · refine keeps_bind (keeps_readState _) (fun s => keeps_ite ?_ (keeps_pure _))
    exact keeps_bind (keeps_tcpClientClose _ _) (fun _ => keeps_set (fun _ => rfl))
  · exact keeps_pure _

lemma keeps_tcpClientOpen (state : ℕ) (memory connects : Bool) :
    Keeps Device.tries (tcpClientOpen state memory connects) := by
  refine keeps_bind (keeps_set (fun _ => rfl)) (fun _ => keeps_ite ?_
    (keeps_bind (keeps_updateState _ _) (fun _ => keeps_pure _)))
  refine keeps_bind (keeps_zoom (fun _ _ => rfl) _) (fun pcb => ?_)
  refine keeps_bind (keeps_updateState _ _) (fun _ => ?_)
  exact keeps_bind (keeps_updatePcb _ _)
    (fun _ => keeps_bind (keeps_updatePcb _ _) (fun _ => keeps_pure _))

lemma keeps_openState (w : Checking) : Keeps Device.tries (openState w) := by
  have hinit : Keeps Device.tries (tcpClientInit w.memory) := by
    refine keeps_ite (fun d => ?_) (keeps_pure _)
    rfl
  refine keeps_bind keeps_get (fun d => keeps_ite ?_ (keeps_pure _))
  refine keeps_bind hinit (fun state => keeps_bind (keeps_set (fun _ => rfl)) (fun _ => ?_))
  split
  · exact keeps_bind (keeps_tcpClientOpen _ _ _) (fun _ => keeps_pure _)
  · exact keeps_pure _

end Tries

/-- How often the Wi-Fi was tried in vain since the last success, and how many checks have passed
over it since it was last tried. -/
structure Tally where
  failed : ℕ
  skipped : ℕ

def tally (r : Tally) : Event × Seen → Tally
  | (.check w, .tried true) => if w.joins then ⟨0, 0⟩ else ⟨r.failed + 1, 0⟩
  | (.check w, .tried false) => if w.joined then r else { r with skipped := r.skipped + 1 }
  | _ => r

def tallied (tr : List (Event × Seen)) : Tally := tr.foldl tally ⟨0, 0⟩

/-- A check finds the Wi-Fi down, and as many have passed over it as the failures ask for. -/
def Tally.Due (r : Tally) (w : Checking) : Prop :=
  w.joined = false ∧ r.skipped = 2 ^ min r.failed 5

instance (r : Tally) (w : Checking) : Decidable (r.Due w) := inferInstanceAs (Decidable (_ ∧ _))

/-- The Wi-Fi is tried exactly when it is due. -/
def BacksOff (tr : List (Event × Seen)) (e : Event) (o : Seen) : Prop :=
  match e with
  | .check w => o = .tried ((tallied tr).Due w)
  | _ => True

/-- What the variables say of the past. -/
structure Device.Tallies (d : Device) (r : Tally) : Prop where
  wifi : d.nextAttemptWifi = r.skipped
  last : d.nextAttemptLast = 2 ^ min r.failed 5
  within : r.skipped ≤ 2 ^ min r.failed 5

section Tries

variable {S} {d u : Device} {r : Tally}

lemma tallied_snoc (tr : List (Event × Seen)) (e : Event) (o : Seen) :
    tallied (tr ++ [(e, o)]) = tally (tallied tr) (e, o) := List.foldl_concat ..

lemma Device.Tallies.congr (h : d.Tallies r) (htries : u.tries = d.tries) : u.Tallies r where
  wifi := (congrArg Prod.fst htries).trans h.wifi
  last := (congrArg (fun t => t.2.1) htries).trans h.last
  within := h.within

/-- The waiting time is doubled until it is 32. -/
lemma doubled_pow (failed : ℕ) :
    (if 2 ^ min failed 5 < 20 then 2 ^ min failed 5 * 2 else 2 ^ min failed 5) =
      2 ^ min (failed + 1) 5 := by
  by_cases hfew : failed < 5
  · have hlt : 2 ^ failed < 20 := Nat.lt_of_le_of_lt
      (Nat.pow_le_pow_right (by decide) (Nat.le_of_lt_succ hfew)) (by decide : 2 ^ 4 < 20)
    rw [Nat.min_eq_left (by omega), Nat.min_eq_left (by omega), if_pos hlt, Nat.pow_succ]
  · rw [Nat.min_eq_right (by omega), Nat.min_eq_right (by omega), if_neg (by decide)]

/-- What a check of the Wi-Fi does that comes to an end. -/
lemma checkWifi_tallies (h : d.Tallies r) {w : Checking} {go : Bool}
    (hrun : (checkWifi S w).run d = .ok go u) :
    (u.wifiReconnects ≠ d.wifiReconnects ↔ r.Due w) ∧
      u.Tallies (tally r (.check w, .tried (r.Due w))) := by
  rw [checkWifi] at hrun
  cases hjoined : w.joined with
  | true =>
    have hnot : ¬r.Due w := fun hdue => by
      rw [Tally.Due, hjoined] at hdue
      cases hdue.1
    rw [hjoined] at hrun
    cases hrun
    rw [decide_eq_false hnot, tally, if_pos hjoined]
    exact ⟨iff_of_false (fun hne => hne rfl) hnot, h⟩
  | false =>
    rw [hjoined, if_pos (by simp), run_bind_ok (EStateM.run_get d)] at hrun
    by_cases hwait : d.nextAttemptWifi < d.nextAttemptLast
    · rw [if_pos hwait] at hrun
      cases hrun
      rw [h.wifi, h.last] at hwait
      have hnot : ¬r.Due w := fun hdue => Nat.ne_of_lt hwait hdue.2
      rw [decide_eq_false hnot, tally, hjoined]
      exact ⟨iff_of_false (fun hne => hne rfl) hnot,
        ⟨congrArg (· + 1) h.wifi, h.last, hwait⟩⟩
    · have hdue : r.Due w := by
        rw [h.wifi, h.last] at hwait
        exact ⟨hjoined, Nat.le_antisymm h.within (Nat.le_of_not_lt hwait)⟩
      rw [if_neg hwait, run_bind_ok (EStateM.run_set _ _)] at hrun
      obtain ⟨joined, v, hconnect, hlast⟩ := run_bind_inv hrun
      rw [wifiConnect, run_bind_ok (EStateM.run_modify _ _)] at hconnect
      obtain ⟨_, v', hcalls, hreturn⟩ := run_bind_inv hconnect
      cases hreturn
      have htries := (keeps_callbackAll w.during).run_ok hcalls
      have hcount : v.wifiReconnects = d.wifiReconnects + 1 :=
        congrArg (fun t => t.2.2) htries
      have hzero : v.nextAttemptWifi = 0 := congrArg Prod.fst htries
      have hdouble : v.nextAttemptLast = 2 ^ min (r.failed + 1) 5 := by
        rw [← doubled_pow, ← h.last]
        exact congrArg (fun t => t.2.1) htries
      rw [decide_eq_true hdue, tally]
      cases hjoins : w.joins with
      | true =>
        rw [hjoins] at hlast
        cases hlast
        exact ⟨iff_of_true (by rw [hcount]; exact Nat.succ_ne_self _) hdue,
          ⟨hzero, rfl, Nat.zero_le _⟩⟩
      | false =>
        rw [hjoins] at hlast
        cases hlast
        exact ⟨iff_of_true (by rw [hcount]; exact Nat.succ_ne_self _) hdue,
          ⟨hzero, hdouble, Nat.zero_le _⟩⟩

lemma zejfTcpCheckConnect_tallies (h : d.Tallies r) {w : Checking}
    (hrun : (zejfTcpCheckConnect S w).run d = .ok () u) :
    (u.wifiReconnects ≠ d.wifiReconnects ↔ r.Due w) ∧
      u.Tallies (tally r (.check w, .tried (r.Due w))) := by
  obtain ⟨go, v, hwifi, hrest⟩ := run_bind_inv hrun
  obtain ⟨hiff, hv⟩ := checkWifi_tallies h hwifi
  have htries : u.tries = v.tries := by
    cases go
    · cases hrest
      rfl
    · exact (keeps_bind (keeps_dropState w) (fun _ => keeps_openState w)).run_ok hrest
  rw [show u.wifiReconnects = v.wifiReconnects from congrArg (fun t => t.2.2) htries]
  exact ⟨hiff, hv.congr htries⟩

lemma step_tallies {tr : List (Event × Seen)} {e : Event} {o : Seen} (h : d.Tallies (tallied tr))
    (hrun : (step S e).run d = .ok o u) :
    u.Tallies (tallied (tr ++ [(e, o)])) ∧ BacksOff tr e o := by
  rw [tallied_snoc]
  cases e with
  | callback c =>
    obtain ⟨_, v, hcall, hlast⟩ := run_bind_inv hrun
    cases hlast
    exact ⟨h.congr ((keeps_callback c).run_ok hcall), trivial⟩
  | send w =>
    obtain ⟨rv, v, hsend, hlast⟩ := run_bind_inv hrun
    cases hlast
    exact ⟨h.congr ((keeps_zejfTcpSend w).run_ok hsend), trivial⟩
  | check w =>
    rw [step, run_bind_ok (EStateM.run_get d)] at hrun
    obtain ⟨_, v, hcheck, hlast⟩ := run_bind_inv hrun
    obtain ⟨hiff, hv⟩ := zejfTcpCheckConnect_tallies h hcheck
    rw [run_bind_ok (EStateM.run_get v)] at hlast
    cases hlast
    simp only [hiff, BacksOff]
    exact ⟨hv, trivial⟩

end Tries

/-- In every run the Wi-Fi is tried again after two, four, eight, sixteen and from then on
thirty-two more checks that find it down, starting over with one after each success. -/
theorem wifi_backsOff {S : Settings} {tr : List (Event × Seen)} {t : Device}
    (h : Trace (step S) zejfTcpInit tr t) :
    Throughout (step S) zejfTcpInit (fun pre _ e o => BacksOff pre e o) tr := by
  refine Throughout.mono (P := fun _ _ _ _ => True) (I := fun pre d => d.Tallies (tallied pre)) h
    (fun _ _ _ _ _ _ _ => trivial) ⟨rfl, rfl, Nat.zero_le _⟩ ?_
  intro pre d e o u hd _ hrun
  exact step_tallies hd hrun

/-- A check with the Wi-Fi down. -/
def downCheck : Checking := ⟨false, false, [], true, true, true, true⟩

def fiveDown : List (Event × Seen) :=
  [false, true, false, false, true].map (fun tried => (.check downCheck, .tried tried))

lemma fiveDown_reached : ∃ t, Trace (step .zejfOutside) zejfTcpInit fiveDown t := by
  have hserved : outcome ((serve (step .zejfOutside) (fiveDown.map Prod.fst)).run zejfTcpInit) =
      some (fiveDown.map Prod.snd) := by decide +kernel
  have htrace := (Trace.of_serve (run_eq_of_outcome hserved)).1
  rw [← List.unzip_fst, ← List.unzip_snd, List.zip_unzip] at htrace
  exact ⟨_, htrace⟩

theorem fiveDown_backsOff :
    Throughout (step .zejfOutside) zejfTcpInit (fun pre _ e o => BacksOff pre e o) fiveDown := by
  obtain ⟨t, h⟩ := fiveDown_reached
  exact wifi_backsOff h

end ZejfMeteo.Tcp
