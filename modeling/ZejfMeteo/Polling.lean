import ZejfMeteo.Server
import ZejfMeteo.Watchdog

/-!
# The clients of the server, polled

`poll_run` of `server.c` next to the threads that let clients in and throw silent ones out.
It takes the descriptors of all clients, waits for some of them, and then reads from one client
after the other by looking it up by its descriptor again. The lock of the clients is held for a
step of each thread; a reader that has filled the rest of its buffer goes back to `read` with the
lock in its hand.

A stream of bytes belongs to a client, so what is handed over on its behalf has to come from
there, however the threads take turns.
-/

namespace ZejfMeteo.Polling
open Runs Clients

/-- What the kernel has for a descriptor: the bytes that wait, cut as `read` is going to give
them, whether the peer has sent its last one, and whether `read` has found more so far. -/
structure Socket where
  incoming : List (List UInt8)
  closed : Bool
  connected : Bool

/-- What `poll` says of a descriptor: `POLLIN`, and whether one of the others is set. -/
structure Revents where
  pollin : Bool
  failed : Bool
deriving DecidableEq

/-- A call of `read_client` that is in `read`. -/
structure Reading where
  node : ℕ
  client : ℕ
  fd : ℤ
  millis : Int64

/-- The server, its sockets, and the thread that polls. The fields of a client are by its address:
its buffer, `last_seen`, and the texts that have been passed to `network_accept` for it. Then there
is what its peer has sent so far. -/
structure Hub (δ : Type) where
  server : Server δ
  sockets : ℤ → Socket
  buffers : ℕ → ZejfMeteo.Client
  lastSeen : ℕ → Int64
  accepted : ℕ → List (List UInt8)
  sent : ℕ → List UInt8
  todo : List (ℤ × Revents)
  reading : Option Reading

variable {δ : Type}

def Hub.serverLens : Lens (Hub δ) (Server δ) where
  get := Hub.server
  set n s := { s with server := n }
  get_set _ _ := rfl
  set_get _ := rfl
  set_set _ _ _ := rfl

/-- A client and a socket, as the reader sees them. -/
def Hub.connectionLens (client : ℕ) (fd : ℤ) : Lens (Hub δ) Connection where
  get s := ⟨s.buffers client, (s.sockets fd).connected, (s.sockets fd).incoming, s.accepted client⟩
  set c s := { s with
    sockets := Function.update s.sockets fd ⟨c.incoming, (s.sockets fd).closed, c.connected⟩
    buffers := Function.update s.buffers client c.client
    accepted := Function.update s.accepted client c.accepted }
  get_set _ _ := by simp
  set_get _ := by simp
  set_set _ _ _ := by simp

/-! ### The code of `server.c` -/

/-- The loop of `client_get`, over the clients that are left. -/
def clientGetFrom (fd : ℤ) : ℕ → Option ℕ → Run (Server δ) (Option ℕ)
  | 0, _ => return none
  | _ + 1, none => throw .nullPointer
  | n + 1, some node => do
    let c ← zoom Server.clientsLens (LinkedList.node node)
    if (← Clients.readClient c.item).fd = fd then
      return some node
    clientGetFrom fd n (some c.next)

def clientGet (fd : ℤ) : Run (Server δ) (Option ℕ) := do
  let clients := (← get).clients
  clientGetFrom fd clients.itemCount clients.head

/-- The loop of `prepare_fds`, over the clients that are left. -/
def prepareFdsFrom : ℕ → Option ℕ → Run (Server δ) (List ℤ)
  | 0, _ => return []
  | _ + 1, none => throw .nullPointer
  | n + 1, some node => do
    let c ← zoom Server.clientsLens (LinkedList.node node)
    let client ← Clients.readClient c.item
    return client.fd :: (← prepareFdsFrom n (some c.next))

def prepareFds : Run (Server δ) (List ℤ) := do
  let clients := (← get).clients
  prepareFdsFrom clients.itemCount clients.head

/-- The loop of `read_client`. It returns a call that has nothing to read and so does not
return. -/
def readFrom (r : Reading) : ℕ → Run (Hub δ) (Option Reading)
  | 0 => throw .outOfFuel
  | fuel + 1 => do
    let _ ← zoom Hub.serverLens (Clients.readClient r.client)
    let socket := (← get).sockets r.fd
    if socket.incoming = [] ∧ !socket.closed then
      return some r
    let go ← zoom (Hub.connectionLens r.client r.fd) readStep
    if !((← get).sockets r.fd).connected then
      zoom Hub.serverLens (clientRemove (some r.node))
      return none
    modify (fun s => { s with lastSeen := Function.update s.lastSeen r.client r.millis })
    if go then
      readFrom r fuel
    else
      return none

/-- Every read takes a byte, and one more may find the end. -/
def readOn (r : Reading) : Run (Hub δ) Unit := do
  let reading ← readFrom r (((← get).sockets r.fd).incoming.flatten.length + 2)
  modify (fun s => { s with reading })

/-- The item of the node is read before anything else is asked. -/
def readClient (fd : ℤ) (millis : Int64) : Run (Hub δ) Unit := do
  match ← zoom Hub.serverLens (clientGet fd) with
  | none => throw .nullPointer
  | some node =>
    let c ← zoom Hub.serverLens (zoom Server.clientsLens (LinkedList.node node))
    readOn ⟨node, c.item, fd, millis⟩

/-- The start of a round of `poll_run`, up to what `poll` returns. -/
def pollFds (revents : ℤ → Revents) : Run (Hub δ) Unit := do
  let fds ← zoom Hub.serverLens prepareFds
  modify (fun s => { s with todo := fds.map (fun fd => (fd, revents fd)) })

/-- What a round of `poll_run` does about the next descriptor. -/
def pollNext (millis : Int64) : Run (Hub δ) Unit := do
  match (← get).todo with
  | [] => return
  | (fd, revents) :: todo =>
    modify (fun s => { s with todo })
    if revents.pollin then
      readClient fd millis
    else if revents.failed then
      zoom Hub.serverLens (do clientRemove (← clientGet fd))

/-- `client_connect` with the fields of the client that the reader and the watchdog use. -/
def acceptClient (fd : ℤ) (millis : Int64) : Run (Hub δ) Unit := do
  let client := (← get).server.clientObjects.next
  modify (fun s => { s with
    sockets := Function.update s.sockets fd ⟨[], false, true⟩
    buffers := Function.update s.buffers client ZejfMeteo.clientCreate
    lastSeen := Function.update s.lastSeen client millis })
  zoom Hub.serverLens (Clients.clientConnect fd)

def watchdogRun (millis : Int64) : Run (Hub δ) Unit := do
  let lastSeen := (← get).lastSeen
  zoom Hub.serverLens (watchdogPass lastSeen millis)

def serverInit (T : Target δ) (platform : δ) : Hub δ where
  server := meteoStart T platform
  sockets _ := ⟨[], true, false⟩
  buffers _ := ZejfMeteo.clientCreate
  lastSeen _ := 0
  accepted _ := []
  sent _ := []
  todo := []
  reading := none

/-! ### The threads -/

/-- A client in the list, with its address. -/
def Hub.Has (y : Hub δ) (a : ℕ) (client : Clients.Client) : Prop :=
  a ∈ y.server.clients.items.map Prod.snd ∧ y.server.clientObjects.cells a = some client

/-- Its peer sends these bytes to the client at `a`. -/
def Hub.send (y : Hub δ) (a : ℕ) (fd : ℤ) (bytes : List UInt8) : Hub δ :=
  { y with
    sockets := Function.update y.sockets fd { y.sockets fd with
      incoming := (y.sockets fd).incoming ++ [bytes] }
    sent := Function.update y.sent a (y.sent a ++ bytes) }

/-- A peer has sent its last byte. -/
def Hub.close (y : Hub δ) (fd : ℤ) : Hub δ :=
  { y with sockets := Function.update y.sockets fd { y.sockets fd with closed := true } }

/-- A step of a peer, of the network, or of a thread that needs the lock. The descriptor of a new
client belongs to nobody else. -/
inductive Hub.Step : Hub δ → Hub δ → Prop
  | sends {y : Hub δ} {a : ℕ} {client : Clients.Client} (bytes : List UInt8) (has : y.Has a client)
    (nonempty : bytes ≠ []) (more : (y.sockets client.fd).closed = false) :
    Step y (y.send a client.fd bytes)
  | closes {y : Hub δ} {a : ℕ} {client : Clients.Client} (has : y.Has a client) :
    Step y (y.close client.fd)
  | network {y : Hub δ} {n : Globals δ} {x : Run (Globals δ) Unit} (keeps : Keeps uids x)
    (run : x.run y.server.network = .ok () n) :
    Step y { y with server := { y.server with network := n } }
  | accept {y u : Hub δ} {fd : ℤ} (millis : Int64) (unlocked : y.reading = none)
    (free : ∀ a client, y.Has a client → client.fd ≠ fd) (place : y.server.HasPlace)
    (run : (acceptClient fd millis).run y = .ok () u) : Step y u
  | watchdog {y u : Hub δ} (millis : Int64) (unlocked : y.reading = none)
    (run : (watchdogRun millis).run y = .ok () u) : Step y u
  | poll {y u : Hub δ} (revents : ℤ → Revents) (unlocked : y.reading = none) (done : y.todo = [])
    (run : (pollFds revents).run y = .ok () u) : Step y u
  | next {y u : Hub δ} (millis : Int64) (unlocked : y.reading = none)
    (run : (pollNext millis).run y = .ok () u) : Step y u
  | wake {y u : Hub δ} {r : Reading} (reading : y.reading = some r)
    (run : (readOn r).run y = .ok () u) : Step y u

section Walk

variable {s : Server δ} {cs seen rest : List Joined} {c : Joined} {fd : ℤ}

/-- The cell of a client leads to the next one that a walk from the head comes to. -/
lemma visited_run (hl : s.clients.Holds (cs.map Joined.ref)) (h : visited cs = seen ++ c :: rest) :
    ∃ prev next, (zoom Server.clientsLens (LinkedList.node c.node)).run s =
        .ok ⟨next, prev, c.addr⟩ s ∧ ∀ d more, rest = d :: more → next = d.node := by
  rcases List.eq_nil_or_concat cs with rfl | ⟨front, z, rfl⟩
  · simp [visited] at h
  · have hvisited : visited (front.concat z) = z :: front := by simp [visited]
    rw [hvisited] at h
    rw [List.concat_eq_append] at hl
    cases seen with
    | nil =>
      obtain ⟨rfl, rfl⟩ := List.cons.inj h
      refine ⟨_, _, clientNode_run hl, ?_⟩
      rintro d more rfl
      rfl
    | cons _ seen =>
      have hfront : front = seen ++ c :: rest := (List.cons.inj h).2
      rw [hfront, List.append_assoc, List.cons_append] at hl
      refine ⟨_, _, clientNode_run hl, ?_⟩
      rintro d more rfl
      rfl

lemma visited_head (hl : s.clients.Holds (cs.map Joined.ref)) :
    s.clients.head = (visited cs).head?.map Joined.node ∧
      s.clients.itemCount = (visited cs).length := by
  rw [hl.head, hl.count, (visited_perm cs).length_eq]
  rcases List.eq_nil_or_concat cs with rfl | ⟨front, z, rfl⟩ <;> simp [visited, Joined.ref]

lemma clientGetFrom_run (hl : s.clients.Holds (cs.map Joined.ref))
    (hlive : ∀ c ∈ cs, s.clientObjects.cells c.addr = some c.client)
    (h : visited cs = seen ++ rest) (fd : ℤ) {node : Option ℕ}
    (hnode : ∀ d more, rest = d :: more → node = some d.node) :
    (clientGetFrom fd rest.length node).run s =
      .ok ((rest.find? (·.client.fd = fd)).map Joined.node) s := by
  induction rest generalizing seen node with
  | nil => rfl
  | cons c rest ih =>
    obtain ⟨prev, next, hcell, hnext⟩ := visited_run hl h
    have hc : c ∈ cs := (visited_perm cs).mem_iff.mp (by rw [h]; simp)
    rw [hnode c rest rfl, List.length_cons, clientGetFrom, run_bind_ok hcell,
      run_bind_ok (readClient_run (hlive c hc))]
    by_cases hfd : c.client.fd = fd
    · rw [if_pos hfd, List.find?_cons_of_pos (by simpa using hfd)]
      rfl
    · rw [if_neg hfd, List.find?_cons_of_neg (by simpa using hfd)]
      refine ih (h.trans (List.append_cons seen c rest)) ?_
      intro d more he
      rw [hnext d more he]

/-- The client with the descriptor is found. -/
lemma clientGet_run (hl : s.clients.Holds (cs.map Joined.ref))
    (hlive : ∀ c ∈ cs, s.clientObjects.cells c.addr = some c.client) (fd : ℤ) :
    (clientGet fd).run s = .ok (((visited cs).find? (·.client.fd = fd)).map Joined.node) s := by
  obtain ⟨hhead, hcount⟩ := visited_head hl
  rw [clientGet, run_bind_ok (EStateM.run_get s)]
  dsimp only
  rw [hhead, hcount]
  refine clientGetFrom_run hl hlive (List.nil_append _).symm fd ?_
  intro d more he
  rw [he]
  rfl

lemma prepareFdsFrom_run (hl : s.clients.Holds (cs.map Joined.ref))
    (hlive : ∀ c ∈ cs, s.clientObjects.cells c.addr = some c.client)
    (h : visited cs = seen ++ rest) {node : Option ℕ}
    (hnode : ∀ d more, rest = d :: more → node = some d.node) :
    (prepareFdsFrom rest.length node).run s = .ok (rest.map (·.client.fd)) s := by
  induction rest generalizing seen node with
  | nil => rfl
  | cons c rest ih =>
    obtain ⟨prev, next, hcell, hnext⟩ := visited_run hl h
    have hc : c ∈ cs := (visited_perm cs).mem_iff.mp (by rw [h]; simp)
    have hrest := ih (h.trans (List.append_cons seen c rest))
      (fun d more he => congrArg some (hnext d more he))
    rw [hnode c rest rfl, List.length_cons, prepareFdsFrom, run_bind_ok hcell,
      run_bind_ok (readClient_run (hlive c hc)), run_bind_ok hrest]
    rfl

/-- The descriptors of all clients. -/
lemma prepareFds_run (hl : s.clients.Holds (cs.map Joined.ref))
    (hlive : ∀ c ∈ cs, s.clientObjects.cells c.addr = some c.client) :
    (prepareFds.run s : EStateM.Result _ _ _) = .ok ((visited cs).map (·.client.fd)) s := by
  obtain ⟨hhead, hcount⟩ := visited_head hl
  rw [prepareFds, run_bind_ok (EStateM.run_get s)]
  dsimp only
  rw [hhead, hcount]
  refine prepareFdsFrom_run hl hlive (List.nil_append _).symm ?_
  intro d more he
  rw [he]
  rfl

/-- No two clients have the same descriptor, so the one that is found is the one that has it. -/
lemma visited_find (hfds : (cs.map (·.client.fd)).Nodup) (hc : c ∈ cs) :
    (visited cs).find? (·.client.fd = c.client.fd) = some c := by
  cases hfind : (visited cs).find? (·.client.fd = c.client.fd) with
  | none =>
    have hnone := List.find?_eq_none.mp hfind c ((visited_perm cs).mem_iff.mpr hc)
    simp at hnone
  | some d =>
    have hd : d ∈ cs := (visited_perm cs).mem_iff.mp (List.mem_of_find?_eq_some hfind)
    have hsame : d.client.fd = c.client.fd := by simpa using List.find?_some hfind
    rw [List.inj_on_of_nodup_map hfds hd hc hsame]

lemma visited_find_none (h : ∀ c ∈ cs, c.client.fd ≠ fd) :
    (visited cs).find? (·.client.fd = fd) = none := by
  rw [List.find?_eq_none]
  intro c hc
  simpa using h c ((visited_perm cs).mem_iff.mp hc)

end Walk

/-! ### Reading from a client -/

/-- More bytes only add texts. -/
lemma frames_mono (m : Framer) (bytes more : List UInt8) :
    m.frames bytes <+: m.frames (bytes ++ more) := by
  induction bytes generalizing m with
  | nil => exact List.nil_prefix
  | cons c bytes ih =>
    rw [List.cons_append, Framer.frames, Framer.frames]
    split
    · exact (List.prefix_cons_inj m.pending).mpr (ih Framer.skip)
    · exact ih (m.keep c).settle

/-- What has been read of a client was cut into texts, whatever comes after. -/
structure Hub.Framed (y : Hub δ) (c : Joined) (m : Framer) : Prop where
  waiting : ((Hub.connectionLens c.addr c.client.fd).get y).Waiting m
  texts : ∀ more, y.accepted c.addr ++
      m.frames ((y.sockets c.client.fd).incoming.flatten ++ more) =
    Framer.fresh.frames (y.sent c.addr ++ more)

/-- The call is about this client. -/
def Reading.Of (r : Reading) (c : Joined) : Prop :=
  r.node = c.node ∧ r.client = c.addr ∧ r.fd = c.client.fd

/-- Only the client has been read. -/
structure Hub.OnlyReads (y v : Hub δ) (c : Joined) : Prop where
  server : v.server = y.server
  sent : v.sent = y.sent
  todo : v.todo = y.todo
  sockets : ∀ fd, fd ≠ c.client.fd → v.sockets fd = y.sockets fd
  buffers : ∀ a, a ≠ c.addr → v.buffers a = y.buffers a
  accepted : ∀ a, a ≠ c.addr → v.accepted a = y.accepted a
  closed : (v.sockets c.client.fd).closed = (y.sockets c.client.fd).closed

section Reading

variable {y v w : Hub δ} {c : Joined} {m : Framer} {fuel : ℕ} {r : Reading} {millis : Int64}

lemma Hub.Framed.said (h : y.Framed c m) :
    y.accepted c.addr <+: Framer.fresh.frames (y.sent c.addr) := by
  have htexts := h.texts []
  rw [List.append_nil, List.append_nil] at htexts
  exact ⟨_, htexts⟩

lemma Hub.Framed.bufferPtr (h : y.Framed c m) :
    m.pending.length = (y.buffers c.addr).bufferPtr := by
  have hlength := h.waiting.scanning.length
  rwa [List.length_nil, Nat.add_zero] at hlength

/-- With nothing left to read all texts have been handed over. -/
lemma Hub.Framed.all (h : y.Framed c m) (hnil : (y.sockets c.client.fd).incoming = []) :
    y.accepted c.addr = Framer.fresh.frames (y.sent c.addr) := by
  have htexts := h.texts []
  rw [hnil, List.flatten_nil, List.append_nil, List.append_nil, Framer.frames,
    List.append_nil] at htexts
  exact htexts

lemma Hub.OnlyReads.refl (y : Hub δ) (c : Joined) : y.OnlyReads y c :=
  ⟨rfl, rfl, rfl, fun _ _ => rfl, fun _ _ => rfl, fun _ _ => rfl, rfl⟩

lemma Hub.OnlyReads.trans (h : y.OnlyReads v c) (h' : v.OnlyReads w c) : y.OnlyReads w c where
  server := h'.server.trans h.server
  sent := h'.sent.trans h.sent
  todo := h'.todo.trans h.todo
  sockets fd hfd := (h'.sockets fd hfd).trans (h.sockets fd hfd)
  buffers a ha := (h'.buffers a ha).trans (h.buffers a ha)
  accepted a ha := (h'.accepted a ha).trans (h.accepted a ha)
  closed := h'.closed.trans h.closed

/-- After the last byte of the peer `read` returns nothing, and that is the end. -/
lemma readStep_end {s : Connection} (h : s.incoming = []) :
    readStep.run s = .ok false { s with connected := false } := by
  have hread : ∀ i n, (ZejfMeteo.read i n).run s = .ok 0 s := by
    intro i n
    unfold ZejfMeteo.read
    rw [run_bind_ok (EStateM.run_get s)]
    simp only [h]
    rfl
  unfold readStep
  rw [run_bind_ok (EStateM.run_get s)]
  dsimp only
  rw [run_bind_ok (hread _ _), if_pos rfl]
  rfl

/-- Putting back what one step of the reader has made of the client. -/
lemma onlyReads_set (y : Hub δ) (c : Joined) (t : Connection) (lastSeen : ℕ → Int64) :
    y.OnlyReads { (Hub.connectionLens c.addr c.client.fd).set t y with lastSeen } c where
  server := rfl
  sent := rfl
  todo := rfl
  sockets _ hfd := Function.update_of_ne hfd _ _
  buffers _ ha := Function.update_of_ne ha _ _
  accepted _ ha := Function.update_of_ne ha _ _
  closed := by simp [Hub.connectionLens]

/-- With nothing to read a call waits. -/
lemma readFrom_waits (hlive : y.server.clientObjects.cells c.addr = some c.client) (hr : r.Of c)
    (hnil : (y.sockets c.client.fd).incoming = [])
    (hopen : (y.sockets c.client.fd).closed = false) :
    (readFrom r (fuel + 1)).run y = .ok (some r) y := by
  obtain ⟨-, hclient, hfd⟩ := hr
  have hread : (zoom Hub.serverLens (Clients.readClient c.addr)).run y = .ok c.client y :=
    run_zoom_ok (l := Hub.serverLens) (readClient_run hlive)
  rw [readFrom, hclient, hfd, run_bind_ok hread, run_bind_ok (EStateM.run_get y)]
  dsimp only
  rw [if_pos (by simp [hnil, hopen])]
  rfl

/-- At the end of the stream it removes the client. -/
lemma readFrom_ends (hf : y.Framed c m)
    (hlive : y.server.clientObjects.cells c.addr = some c.client) (hr : r.Of c)
    (hnil : (y.sockets c.client.fd).incoming = [])
    (hclosed : (y.sockets c.client.fd).closed = true) :
    ∃ v, y.OnlyReads v c ∧ v.accepted c.addr <+: Framer.fresh.frames (v.sent c.addr) ∧
      (readFrom r (fuel + 1)).run y = (do
        zoom Hub.serverLens (clientRemove (some c.node))
        return none : Run (Hub δ) _).run v := by
  obtain ⟨hnode, hclient, hfd⟩ := hr
  have hread : (zoom Hub.serverLens (Clients.readClient c.addr)).run y = .ok c.client y :=
    run_zoom_ok (l := Hub.serverLens) (readClient_run hlive)
  have hstep := readStep_end (s := (Hub.connectionLens c.addr c.client.fd).get y) hnil
  have honly := onlyReads_set y c
    { (Hub.connectionLens c.addr c.client.fd).get y with connected := false } y.lastSeen
  refine ⟨_, honly, ?_, ?_⟩
  · have hsaid := hf.said
    simpa [Hub.connectionLens] using hsaid
  · rw [readFrom, hclient, hfd, run_bind_ok hread, run_bind_ok (EStateM.run_get y)]
    dsimp only
    rw [if_neg (by simp [hclosed]), run_bind_ok (run_zoom_ok hstep),
      run_bind_ok (EStateM.run_get _), if_pos (by simp [Hub.connectionLens]), hnode]
    rfl

/-- A read that finds something goes on if it has filled the buffer. -/
lemma readFrom_reads (hf : y.Framed c m)
    (hlive : y.server.clientObjects.cells c.addr = some c.client) (hr : r.Of c)
    (hsome : (y.sockets c.client.fd).incoming ≠ []) :
    ∃ go u, y.OnlyReads u c ∧ (∃ m, u.Framed c m) ∧
      (u.sockets c.client.fd).incoming.flatten.length <
        (y.sockets c.client.fd).incoming.flatten.length ∧
      (∀ chunk, (y.sockets c.client.fd).incoming = [chunk] →
        m.pending.length + chunk.length = clientBufferSize →
          go = true ∧ (u.sockets c.client.fd).incoming = []) ∧
      (readFrom r (fuel + 1)).run y = (if go then readFrom r fuel else return none).run u := by
  obtain ⟨-, hclient, hfd⟩ := hr
  have hread : (zoom Hub.serverLens (Clients.readClient c.addr)).run y = .ok c.client y :=
    run_zoom_ok (l := Hub.serverLens) (readClient_run hlive)
  obtain ⟨go, t, m', hstep, ht, htexts, hlt, hfills⟩ := readStep_reads hf.waiting hsome
  set u : Hub δ := { (Hub.connectionLens c.addr c.client.fd).set t y with
    lastSeen := Function.update y.lastSeen c.addr r.millis } with hu
  have hget : (Hub.connectionLens c.addr c.client.fd).get u = t :=
    (Hub.connectionLens c.addr c.client.fd).get_set t y
  have hincoming : (u.sockets c.client.fd).incoming = t.incoming :=
    congrArg Connection.incoming hget
  have haccepted : u.accepted c.addr = t.accepted := congrArg Connection.accepted hget
  refine ⟨go, u, onlyReads_set y c t _, ⟨m', hget ▸ ht, fun more => ?_⟩, ?_, ?_, ?_⟩
  · rw [hincoming, haccepted, htexts more]
    exact hf.texts more
  · rw [hincoming]
    exact hlt
  · rw [hincoming]
    exact hfills
  · rw [readFrom, hclient, hfd, run_bind_ok hread, run_bind_ok (EStateM.run_get y)]
    dsimp only
    rw [if_neg (fun h => hsome h.1), run_bind_ok (run_zoom_ok hstep),
      run_bind_ok (EStateM.run_get _), if_neg (by simp [Hub.connectionLens, ht.connected]),
      run_bind_ok (EStateM.run_modify _ _)]
    rfl

/-- A client that is read waits for more, or is left with all that it has sent cut into texts, or
is removed as its peer has closed. -/
lemma readFrom_run (hf : y.Framed c m)
    (hlive : y.server.clientObjects.cells c.addr = some c.client) (hr : r.Of c)
    (hfuel : (y.sockets c.client.fd).incoming.flatten.length < fuel) :
    ∃ v, y.OnlyReads v c ∧
      (((readFrom r fuel).run y = .ok (some r) v ∧ ∃ m, v.Framed c m) ∨
        ((readFrom r fuel).run y = .ok none v ∧ ∃ m, v.Framed c m) ∨
        ((y.sockets c.client.fd).closed = true ∧
          v.accepted c.addr <+: Framer.fresh.frames (v.sent c.addr) ∧
          (readFrom r fuel).run y = (do
            zoom Hub.serverLens (clientRemove (some c.node))
            return none : Run (Hub δ) _).run v)) := by
  induction fuel generalizing y m with
  | zero => exact absurd hfuel (Nat.not_lt_zero _)
  | succ fuel ih =>
    by_cases hnil : (y.sockets c.client.fd).incoming = []
    · cases hclosed : (y.sockets c.client.fd).closed with
      | false => exact ⟨y, .refl y c, .inl ⟨readFrom_waits hlive hr hnil hclosed, m, hf⟩⟩
      | true =>
        obtain ⟨v, hv, hsaid, hrun⟩ := readFrom_ends hf hlive hr hnil hclosed
        exact ⟨v, hv, .inr (.inr ⟨rfl, hsaid, hrun⟩)⟩
    · obtain ⟨go, u, hu, ⟨m', hm'⟩, hlt, -, hrun⟩ := readFrom_reads hf hlive hr hnil
      rw [hrun]
      cases go with
      | false => exact ⟨u, hu, .inr (.inl ⟨rfl, m', hm'⟩)⟩
      | true =>
        obtain ⟨v, hv, hcases⟩ := ih hm' (hu.server ▸ hlive) (by omega)
        rw [hu.closed] at hcases
        exact ⟨v, hu.trans hv, hcases⟩

/-- A read that fills the buffer exactly waits for more. -/
lemma readFrom_fills (hf : y.Framed c m)
    (hlive : y.server.clientObjects.cells c.addr = some c.client) (hr : r.Of c)
    {chunk : List UInt8} (hone : (y.sockets c.client.fd).incoming = [chunk])
    (hfills : m.pending.length + chunk.length = clientBufferSize)
    (hopen : (y.sockets c.client.fd).closed = false) :
    ∃ u, y.OnlyReads u c ∧ (∃ m, u.Framed c m) ∧ (u.sockets c.client.fd).incoming = [] ∧
      (readFrom r (fuel + 2)).run y = .ok (some r) u := by
  obtain ⟨go, u, hu, hframed, -, hgo, hrun⟩ := readFrom_reads hf hlive hr (by rw [hone]; simp)
  obtain ⟨rfl, hnil⟩ := hgo chunk hone hfills
  refine ⟨u, hu, hframed, hnil, hrun.trans ?_⟩
  exact readFrom_waits (hu.server ▸ hlive) hr hnil (hu.closed.trans hopen)

end Reading

/-! ### What every step keeps -/

/-- The server has these clients, each with a descriptor of its own and cut into texts as far as
it is read, and nothing has been handed over for a client that its peer has not sent. -/
structure Hub.Tends (y : Hub δ) (cs : List Joined) : Prop where
  serves : y.server.Serves cs
  distinct : y.server.Distinct cs
  fds : (cs.map (·.client.fd)).Nodup
  framed : ∀ c ∈ cs, ∃ m, y.Framed c m
  said : ∀ a, y.accepted a <+: Framer.fresh.frames (y.sent a)
  unborn : ∀ a, y.server.clientObjects.next ≤ a → y.accepted a = [] ∧ y.sent a = []

/-- A call that is in `read` is about a client in the list. -/
def Hub.InRead (y : Hub δ) (cs : List Joined) : Prop :=
  ∀ r, y.reading = some r → ∃ c ∈ cs, r.Of c

section Tends

variable {y v : Hub δ} {u : Server δ} {cs pre post : List Joined} {c : Joined} {m : Framer}
  {r : Reading} {a : ℕ} {client : Clients.Client}

lemma Hub.Framed.congr (h : y.Framed c m)
    (hget : (Hub.connectionLens c.addr c.client.fd).get v =
      (Hub.connectionLens c.addr c.client.fd).get y)
    (hsent : v.sent c.addr = y.sent c.addr) : v.Framed c m := by
  have hincoming : (v.sockets c.client.fd).incoming = (y.sockets c.client.fd).incoming :=
    congrArg Connection.incoming hget
  have haccepted : v.accepted c.addr = y.accepted c.addr := congrArg Connection.accepted hget
  refine ⟨hget ▸ h.waiting, fun more => ?_⟩
  rw [hincoming, haccepted, hsent]
  exact h.texts more

lemma Hub.Tends.has_iff (h : y.Tends cs) :
    y.Has a client ↔ ∃ c ∈ cs, c.addr = a ∧ c.client = client := by
  rw [Hub.Has, h.serves.holds.items_eq, List.map_map]
  constructor
  · rintro ⟨ha, hclient⟩
    obtain ⟨c, hc, rfl⟩ := List.mem_map.mp ha
    exact ⟨c, hc, rfl, Option.some.inj ((h.serves.live c hc).symm.trans hclient)⟩
  · rintro ⟨c, hc, rfl, rfl⟩
    exact ⟨List.mem_map_of_mem hc, h.serves.live c hc⟩

lemma Hub.Tends.addr_lt (h : y.Tends cs) (hc : c ∈ cs) :
    c.addr < y.server.clientObjects.next :=
  y.server.clientObjects.lt_next (by rw [h.serves.live c hc]; rfl)

/-- What is done to one client and its socket does not touch another one. -/
lemma Hub.OnlyReads.others (hv : y.OnlyReads v c) {d : Joined} (hfd : d.client.fd ≠ c.client.fd)
    (haddr : d.addr ≠ c.addr) (hd : y.Framed d m) : v.Framed d m := by
  refine hd.congr ?_ (congrFun hv.sent d.addr)
  show Connection.mk _ _ _ _ = Connection.mk _ _ _ _
  rw [hv.buffers d.addr haddr, hv.sockets d.client.fd hfd, hv.accepted d.addr haddr]

lemma Hub.Tends.apart (h : y.Tends (pre ++ c :: post)) {d : Joined} (hd : d ∈ pre ++ post) :
    d.client.fd ≠ c.client.fd ∧ d.addr ≠ c.addr :=
  ⟨ne_of_nodup_map (f := fun d : Joined => d.client.fd) h.fds hd,
    ne_of_nodup_map h.serves.addrs hd⟩

/-- What has been handed over after a client was read. -/
lemma Hub.Tends.said_of (h : y.Tends cs) (hv : y.OnlyReads v c)
    (hsaid : v.accepted c.addr <+: Framer.fresh.frames (v.sent c.addr)) (a : ℕ) :
    v.accepted a <+: Framer.fresh.frames (v.sent a) := by
  by_cases ha : a = c.addr
  · exact ha ▸ hsaid
  · rw [hv.accepted a ha, hv.sent]
    exact h.said a

lemma Hub.Tends.unborn_of (h : y.Tends cs) (hc : c ∈ cs) (hv : y.OnlyReads v c)
    (ha : y.server.clientObjects.next ≤ a) : v.accepted a = [] ∧ v.sent a = [] := by
  have hlt := h.addr_lt hc
  rw [hv.accepted a (by omega), hv.sent]
  exact h.unborn a ha

lemma Hub.Tends.reads (h : y.Tends cs) (hc : c ∈ cs) (hv : y.OnlyReads v c) (hm : v.Framed c m) :
    v.Tends cs := by
  obtain ⟨pre, post, rfl⟩ := List.append_of_mem hc
  refine ⟨hv.server ▸ h.serves, hv.server ▸ h.distinct, h.fds, ?_, h.said_of hv hm.said, ?_⟩
  · intro d hd
    rcases List.mem_cons.mp (List.perm_middle.mem_iff.mp hd) with rfl | hd'
    · exact ⟨m, hm⟩
    · obtain ⟨hfd, haddr⟩ := h.apart hd'
      obtain ⟨m', hm'⟩ := h.framed d hd
      exact ⟨m', hv.others hfd haddr hm'⟩
  · intro a ha
    rw [hv.server] at ha
    exact h.unborn_of hc hv ha

lemma keeps_interfaceRemove (uid : ℤ) :
    Keeps (fun s : Server δ => s.clientObjects.next) (interfaceRemove uid) := by
  have hslot : ∀ i, Keeps (fun s : Server δ => s.clientObjects.next) (interfaceSlot i) := by
    intro i
    apply keeps_bind keeps_get
    intro s
    split
    · exact keeps_pure _
    · exact keeps_fault _
  have hremoved : ∀ slot, Keeps (fun s : Server δ => s.clientObjects.next)
      (interfaceRemovedIf uid slot) := by
    rintro (_ | a)
    · exact keeps_fault _
    · refine keeps_bind (keeps_zoom (fun _ _ => rfl) _) (fun i => keeps_ite ?_ (keeps_pure _))
      exact keeps_bind (keeps_zoom (fun _ _ => rfl) _) (fun _ => keeps_pure _)
  have hloop : ∀ left i found, Keeps (fun s : Server δ => s.clientObjects.next)
      (interfaceRemoveLoop uid left i found) := by
    intro left
    induction left with
    | zero => exact fun i found => keeps_pure _
    | succ left ih =>
      intro i found
      refine keeps_bind (hslot i) (fun slot => keeps_bind (hremoved slot) (fun removed => ?_))
      refine keeps_ite (keeps_bind (hslot _) (fun slot => ?_)) (ih _ _)
      exact keeps_bind (keeps_setInterfaceSlot (fun _ _ => rfl) _ _) (fun _ => ih _ _)
  refine keeps_bind keeps_get (fun s => keeps_bind (hloop _ _ _) (fun found => ?_))
  refine keeps_ite (keeps_bind (keeps_set (fun _ => rfl)) (fun _ => ?_)) (keeps_pure _)
  exact keeps_setInterfaceSlot (fun _ _ => rfl) _ _

/-- No client is allocated while one of them is removed. -/
lemma keeps_clientRemove (node : Option ℕ) :
    Keeps (fun s : Server δ => s.clientObjects.next) (clientRemove node) := by
  have hread : ∀ a, Keeps (fun s : Server δ => s.clientObjects.next) (Clients.readClient a) :=
    fun a => keeps_inside (l := Server.clientObjectsLens) (Heap.keeps_next_read a)
  have hfree : ∀ a, Keeps (fun s : Server δ => s.clientObjects.next)
      (zoom Server.clientObjectsLens (Heap.free a)) :=
    fun a => keeps_inside (l := Server.clientObjectsLens) (Heap.keeps_next_free a)
  cases node with
  | none => exact keeps_pure ()
  | some node =>
    refine keeps_bind (keeps_zoom (fun _ _ => rfl) _) (fun c => keeps_bind (hread _) ?_)
    intro client
    refine keeps_bind (keeps_zoom (fun _ _ => rfl) _) (fun _ => ?_)
    refine keeps_bind (keeps_zoom (fun _ _ => rfl) _) (fun interface => ?_)
    refine keeps_bind (keeps_interfaceRemove _) (fun _ => keeps_bind (hread _) (fun c' => ?_))
    exact keeps_bind (keeps_zoom (fun _ _ => rfl) _) (fun _ => hfree _)

/-- A client leaves, and the others stay as they are. -/
lemma Hub.Tends.removes (h : y.Tends (pre ++ c :: post)) (hv : y.OnlyReads v c)
    (hsaid : v.accepted c.addr <+: Framer.fresh.frames (v.sent c.addr))
    (hrun : (clientRemove (some c.node)).run y.server = .ok () u) :
    ({ v with server := u } : Hub δ).Tends (pre ++ post) := by
  obtain ⟨hserves, hdistinct⟩ := clientRemove_split h.serves h.distinct hrun
  have hdrop : (pre ++ post).Sublist (pre ++ c :: post) :=
    (List.Sublist.refl pre).append (List.sublist_cons_self c post)
  have hnext : u.clientObjects.next = y.server.clientObjects.next :=
    (keeps_clientRemove (some c.node)).run_ok hrun
  have hsaid := h.said_of hv hsaid
  refine ⟨hserves, hdistinct, (hdrop.map _).nodup h.fds, ?_, hsaid, ?_⟩
  · intro d hd
    obtain ⟨hfd, haddr⟩ := h.apart hd
    obtain ⟨m, hm⟩ := h.framed d (hdrop.subset hd)
    exact ⟨m, (hv.others hfd haddr hm).congr rfl rfl⟩
  · intro a ha
    change u.clientObjects.next ≤ a at ha
    rw [hnext] at ha
    have hunborn := h.unborn_of (List.mem_append_right _ List.mem_cons_self) hv ha
    exact hunborn

end Tends

section Steps

variable {T : Target δ} {platform : δ} {y u : Hub δ} {cs : List Joined} {c : Joined} {r : Reading}
  {fd : ℤ} {millis : Int64}

/-- Between these states the clients are the same and so is all that concerns them. -/
lemma Hub.Tends.congr {v : Hub δ} (h : y.Tends cs) (hserver : v.server = y.server)
    (hget : ∀ c ∈ cs, (Hub.connectionLens c.addr c.client.fd).get v =
      (Hub.connectionLens c.addr c.client.fd).get y)
    (haccepted : v.accepted = y.accepted) (hsent : v.sent = y.sent) : v.Tends cs where
  serves := hserver ▸ h.serves
  distinct := hserver ▸ h.distinct
  fds := h.fds
  framed c hc := by
    obtain ⟨m, hm⟩ := h.framed c hc
    exact ⟨m, hm.congr (hget c hc) (congrFun hsent _)⟩
  said a := by
    rw [haccepted, hsent]
    exact h.said a
  unborn a ha := by
    rw [hserver] at ha
    rw [haccepted, hsent]
    exact h.unborn a ha

/-- A call of `read_client` for a client in the list ends well unless the client is removed, and
what it ends with is in order. -/
lemma readOn_run (h : y.Tends cs) (hc : c ∈ cs) (hr : r.Of c) :
    (∀ u, (readOn r).run y = .ok () u → ∃ cs, u.Tends cs ∧ u.InRead cs) ∧
      ((y.sockets c.client.fd).closed = false → ∃ u, (readOn r).run y = .ok () u) := by
  obtain ⟨m, hm⟩ := h.framed c hc
  obtain ⟨v, hv, hcases⟩ := readFrom_run hm (h.serves.live c hc) hr
    (Nat.lt_succ_of_lt (Nat.lt_succ_self _))
  rw [← hr.2.2] at hcases
  have hrun : (readOn r).run y = _ := run_bind_ok (EStateM.run_get y)
  rw [hrun]
  rcases hcases with ⟨hread, m', hm'⟩ | ⟨hread, m', hm'⟩ | ⟨hclosed, hsaid, hread⟩
  · rw [run_bind_ok hread]
    refine ⟨fun u hu => ?_, fun _ => ⟨_, rfl⟩⟩
    obtain ⟨-, rfl⟩ := EStateM.Result.ok.inj hu
    refine ⟨cs, (h.reads hc hv hm').congr rfl (fun _ _ => rfl) rfl rfl, ?_⟩
    rintro _ ⟨⟩
    exact ⟨c, hc, hr⟩
  · rw [run_bind_ok hread]
    refine ⟨fun u hu => ?_, fun _ => ⟨_, rfl⟩⟩
    obtain ⟨-, rfl⟩ := EStateM.Result.ok.inj hu
    refine ⟨cs, (h.reads hc hv hm').congr rfl (fun _ _ => rfl) rfl rfl, ?_⟩
    rintro _ ⟨⟩
  · rw [EStateM.run_bind, hread, ← EStateM.run_bind]
    refine ⟨fun u hu => ?_, fun hopen => ?_⟩
    · obtain ⟨reading, w, hends, hu⟩ := run_bind_inv hu
      obtain ⟨o, w', hremoved, hw⟩ := run_bind_inv hends
      obtain ⟨rfl, rfl⟩ := EStateM.Result.ok.inj hw
      obtain ⟨s, hs, rfl⟩ := run_zoom_inv hremoved
      obtain ⟨-, rfl⟩ := EStateM.Result.ok.inj hu
      obtain ⟨pre, post, rfl⟩ := List.append_of_mem hc
      have hs : (clientRemove (some c.node)).run y.server = .ok () s := hv.server ▸ hs
      refine ⟨pre ++ post, (h.removes hv hsaid hs).congr rfl (fun _ _ => rfl) rfl rfl, ?_⟩
      rintro _ ⟨⟩
    · rw [← hr.2.2, hclosed] at hopen
      cases hopen

lemma serverLens_run {α : Type} {x : Run (Server δ) α} {a : α}
    (hrun : x.run y.server = .ok a y.server) : (zoom Hub.serverLens x).run y = .ok a y :=
  run_zoom_ok (l := Hub.serverLens) hrun

/-- The client with a descriptor is read, and nobody if there is none. -/
lemma readClient_listed (h : y.Tends cs) (hc : c ∈ cs) (hfd : c.client.fd = fd) (millis : Int64) :
    (readClient fd millis).run y = (readOn ⟨c.node, c.addr, fd, millis⟩).run y := by
  have hget := clientGet_run h.serves.holds h.serves.live fd
  rw [← hfd, visited_find h.fds hc] at hget
  obtain ⟨pre, post, rfl⟩ := List.append_of_mem hc
  rw [← hfd, readClient, run_bind_ok (serverLens_run hget)]
  exact run_bind_ok (serverLens_run (clientNode_run h.serves.holds))

lemma readClient_unlisted (h : y.Tends cs) (hno : ∀ c ∈ cs, c.client.fd ≠ fd) (millis : Int64) :
    (readClient fd millis).run y = .error .nullPointer y := by
  have hget := clientGet_run h.serves.holds h.serves.live fd
  rw [visited_find_none hno] at hget
  rw [readClient, run_bind_ok (serverLens_run hget)]
  rfl

/-- Removing the client that is found for a descriptor, if there is one. -/
lemma remove_tends (h : y.Tends cs) {node : Option ℕ} {s : Server δ}
    (hnode : ∀ a, node = some a → ∃ c ∈ cs, c.node = a)
    (hrun : (clientRemove node).run y.server = .ok () s) :
    ∃ cs', ({ y with server := s } : Hub δ).Tends cs' := by
  cases node with
  | none =>
    obtain ⟨-, rfl⟩ := EStateM.Result.ok.inj hrun
    exact ⟨cs, h⟩
  | some a =>
    obtain ⟨c, hc, rfl⟩ := hnode a rfl
    obtain ⟨pre, post, rfl⟩ := List.append_of_mem hc
    exact ⟨pre ++ post, h.removes (.refl y c) (h.said c.addr) hrun⟩

lemma Hub.InRead.of_none (h : u.reading = none) : u.InRead cs := by
  intro r hr
  rw [h] at hr
  cases hr

lemma pollNext_tends (h : y.Tends cs) (hunlocked : y.reading = none)
    (hrun : (pollNext millis).run y = .ok () u) : ∃ cs, u.Tends cs ∧ u.InRead cs := by
  rw [pollNext, run_bind_ok (EStateM.run_get y)] at hrun
  cases htodo : y.todo with
  | nil =>
    rw [htodo] at hrun
    obtain ⟨-, rfl⟩ := EStateM.Result.ok.inj hrun
    exact ⟨cs, h, .of_none hunlocked⟩
  | cons next todo =>
    obtain ⟨fd, revents⟩ := next
    rw [htodo] at hrun
    dsimp only at hrun
    rw [run_bind_ok (EStateM.run_modify _ _)] at hrun
    have h' : ({ y with todo } : Hub δ).Tends cs := h.congr rfl (fun _ _ => rfl) rfl rfl
    split at hrun
    · by_cases hlisted : ∃ c ∈ cs, c.client.fd = fd
      · obtain ⟨c, hc, hfd⟩ := hlisted
        rw [readClient_listed h' hc hfd] at hrun
        exact (readOn_run h' hc ⟨rfl, rfl, hfd.symm⟩).1 u hrun
      · rw [readClient_unlisted h' (fun c hc hfd => hlisted ⟨c, hc, hfd⟩)] at hrun
        cases hrun
    · split at hrun
      · obtain ⟨s, hs, rfl⟩ := run_zoom_inv hrun
        have hget : (clientGet fd).run (Hub.serverLens.get { y with todo }) = _ :=
          clientGet_run h'.serves.holds h'.serves.live fd
        rw [run_bind_ok hget] at hs
        have hnode : ∀ a, ((visited cs).find? (·.client.fd = fd)).map Joined.node = some a →
            ∃ c ∈ cs, c.node = a := by
          intro a ha
          obtain ⟨c, hfind, rfl⟩ := Option.map_eq_some_iff.mp ha
          exact ⟨c, (visited_perm cs).mem_iff.mp (List.mem_of_find?_eq_some hfind), rfl⟩
        obtain ⟨cs', hcs'⟩ := remove_tends h' hnode hs
        exact ⟨cs', hcs', .of_none hunlocked⟩
      · obtain ⟨-, rfl⟩ := EStateM.Result.ok.inj hrun
        exact ⟨cs, h', .of_none hunlocked⟩

lemma watchdogRun_tends (h : y.Tends cs) (hunlocked : y.reading = none)
    (hrun : (watchdogRun millis).run y = .ok () u) : ∃ cs, u.Tends cs ∧ u.InRead cs := by
  rw [watchdogRun, run_bind_ok (EStateM.run_get y)] at hrun
  obtain ⟨s, hs, rfl⟩ := run_zoom_inv hrun
  have hpass : (watchdogPass y.lastSeen millis).run y.server = _ :=
    watchdogPass_run h.serves.holds h.serves.live
  obtain ⟨node, hnode, hremove⟩ : ∃ node, (∀ a, node = some a → ∃ c ∈ cs, c.node = a) ∧
      (clientRemove node).run y.server = .ok () s := by
    cases hfind : (visited cs).find? (·.silent y.lastSeen millis) with
    | none =>
      rw [hfind] at hpass
      exact ⟨none, fun a ha => (by cases ha), hpass.symm.trans hs⟩
    | some c =>
      rw [hfind] at hpass
      have hc := (visited_perm cs).mem_iff.mp (List.mem_of_find?_eq_some hfind)
      exact ⟨some c.node, fun a ha => ⟨c, hc, Option.some.inj ha⟩, hpass.symm.trans hs⟩
  obtain ⟨cs', hcs'⟩ := remove_tends h hnode hremove
  exact ⟨cs', hcs', .of_none hunlocked⟩

/-- A new client has said nothing yet. -/
lemma acceptClient_tends (h : y.Tends cs) (hunlocked : y.reading = none)
    (hfree : ∀ a client, y.Has a client → client.fd ≠ fd) (hplace : y.server.HasPlace)
    (hrun : (acceptClient fd millis).run y = .ok () u) : ∃ cs, u.Tends cs ∧ u.InRead cs := by
  rw [acceptClient, run_bind_ok (EStateM.run_get y)] at hrun
  dsimp only at hrun
  rw [run_bind_ok (EStateM.run_modify _ _)] at hrun
  obtain ⟨s, hs, rfl⟩ := run_zoom_inv hrun
  obtain ⟨hroom, hnew⟩ := h.serves.hasPlace_iff.mp hplace
  obtain ⟨t, c, ht, ⟨haddr, hfd, hnext⟩, hserves, hdistinct⟩ :=
    clientConnect_joins h.serves hroom fd
  obtain ⟨-, rfl⟩ := EStateM.Result.ok.inj (hs.symm.trans ht)
  have hothers : ∀ d ∈ cs, d.client.fd ≠ fd ∧ d.addr ≠ c.addr := by
    intro d hd
    refine ⟨hfree d.addr d.client (h.has_iff.mpr ⟨d, hd, rfl, rfl⟩), ?_⟩
    rw [haddr]
    exact Nat.ne_of_lt (h.addr_lt hd)
  obtain ⟨haccepted, hsent⟩ := h.unborn c.addr (Nat.le_of_eq haddr.symm)
  refine ⟨cs ++ [c], ⟨hserves, hdistinct.mpr ⟨h.distinct, hnew⟩, ?_, ?_, h.said, ?_⟩,
    .of_none hunlocked⟩
  · rw [List.map_append]
    refine List.nodup_append.mpr ⟨h.fds, List.nodup_singleton _, ?_⟩
    intro a ha b hb hab
    obtain ⟨d, hd, rfl⟩ := List.mem_map.mp ha
    rw [List.mem_singleton.mp hb] at hab
    exact (hothers d hd).1 (hab.trans hfd)
  · intro d hd
    rcases List.mem_append.mp hd with hd | hd
    · obtain ⟨hne, hne'⟩ := hothers d hd
      obtain ⟨m, hm⟩ := h.framed d hd
      refine ⟨m, hm.congr ?_ rfl⟩
      rw [haddr] at hne'
      show Connection.mk _ _ _ _ = Connection.mk _ _ _ _
      simp only [Function.update_of_ne hne, Function.update_of_ne hne', Hub.serverLens]
    · obtain rfl := List.mem_singleton.mp hd
      refine ⟨Framer.fresh, ?_, fun more => ?_⟩
      · show (Connection.mk _ _ _ _).Waiting Framer.fresh
        simp only [hfd, haddr, Function.update_self, Hub.serverLens]
        exact ⟨rfl, fun chunk hchunk => absurd hchunk List.not_mem_nil, clientCreate_scanning,
          by decide⟩
      · show y.accepted d.addr ++ Framer.fresh.frames
          ((Function.update y.sockets fd _ d.client.fd).incoming.flatten ++ more) = _
        rw [hfd, Function.update_self, haccepted]
        exact congrArg (fun bytes => Framer.fresh.frames (bytes ++ more)) hsent.symm
  · intro a ha
    change s.clientObjects.next ≤ a at ha
    exact h.unborn a (by omega)

lemma Hub.InRead.congr (h : y.InRead cs) (hsame : u.reading = y.reading) : u.InRead cs := by
  intro r hr
  rw [hsame] at hr
  exact h r hr

/-- What its peer sends waits for the reader. -/
lemma Hub.Tends.sends (h : y.Tends cs) {a : ℕ} {client : Clients.Client} {bytes : List UInt8}
    (has : y.Has a client) (hne : bytes ≠ []) : (y.send a client.fd bytes).Tends cs := by
  obtain ⟨c, hc, rfl, rfl⟩ := h.has_iff.mp has
  obtain ⟨pre, post, rfl⟩ := List.append_of_mem hc
  refine ⟨h.serves, h.distinct, h.fds, ?_, ?_, ?_⟩
  · intro d hd
    obtain ⟨m, hm⟩ := h.framed d hd
    refine ⟨m, ?_⟩
    rcases List.mem_cons.mp (List.perm_middle.mem_iff.mp hd) with rfl | hd'
    · refine ⟨?_, fun more => ?_⟩
      · show (Connection.mk _ _ _ _).Waiting m
        simp only [Hub.send, Function.update_self]
        refine ⟨hm.waiting.connected, ?_, hm.waiting.scanning, hm.waiting.room⟩
        intro chunk hchunk
        rcases List.mem_append.mp hchunk with hchunk | hchunk
        · exact hm.waiting.nonempty chunk hchunk
        · exact List.mem_singleton.mp hchunk ▸ hne
      · simp only [Hub.send, Function.update_self, List.flatten_append, List.flatten_singleton,
          List.append_assoc]
        exact hm.texts (bytes ++ more)
    · obtain ⟨hfd, haddr⟩ := h.apart hd'
      refine hm.congr ?_ (Function.update_of_ne haddr _ _)
      show Connection.mk _ _ _ _ = Connection.mk _ _ _ _
      simp only [Hub.send, Function.update_of_ne hfd]
  · intro a
    by_cases ha : a = c.addr
    · subst ha
      simp only [Hub.send, Function.update_self]
      exact (h.said c.addr).trans (frames_mono _ _ _)
    · simp only [Hub.send, Function.update_of_ne ha]
      exact h.said a
  · intro a ha
    have hlt := h.addr_lt hc
    have hne : a ≠ c.addr := by
      rintro rfl
      exact absurd ha (Nat.not_le.mpr hlt)
    simp only [Hub.send, Function.update_of_ne hne]
    exact h.unborn a ha

lemma Hub.Tends.closes (h : y.Tends cs) (fd : ℤ) : (y.close fd).Tends cs := by
  refine h.congr rfl (fun c _ => ?_) rfl rfl
  show Connection.mk _ _ _ _ = Connection.mk _ _ _ _
  by_cases hfd : c.client.fd = fd
  · simp only [Hub.close, hfd, Function.update_self]
  · simp only [Hub.close, Function.update_of_ne hfd]

/-- The network leaves the interfaces of the clients where they are. -/
lemma Hub.Tends.network (h : y.Tends cs) {n : Globals δ} {x : Run (Globals δ) Unit}
    (hkeeps : Keeps uids x) (hrun : x.run y.server.network = .ok () n) :
    ({ y with server := { y.server with network := n } } : Hub δ).Tends cs := by
  have hn : uids n = uids y.server.network := hkeeps.run_ok hrun
  obtain ⟨hserves, hdistinct⟩ := h.serves.congr (t := { y.server with network := n }) rfl
    (fun _ _ => rfl) ⟨h.serves.table.slots, h.serves.table.count, h.serves.table.room⟩ rfl
    (fun a _ => uidOf_eq_of_uids hn a)
  refine ⟨hserves, hdistinct.mpr h.distinct, h.fds, ?_, h.said, h.unborn⟩
  intro c hc
  obtain ⟨m, hm⟩ := h.framed c hc
  exact ⟨m, hm.congr rfl rfl⟩

/-- **Every step keeps the clients apart.** -/
lemma Hub.Step.tends (hstep : Hub.Step y u) (h : y.Tends cs) (hread : y.InRead cs) :
    ∃ cs, u.Tends cs ∧ u.InRead cs := by
  cases hstep with
  | sends bytes has nonempty more => exact ⟨cs, h.sends has nonempty, hread.congr rfl⟩
  | closes has => exact ⟨cs, h.closes _, hread.congr rfl⟩
  | network keeps run => exact ⟨cs, h.network keeps run, hread.congr rfl⟩
  | accept millis unlocked free place run => exact acceptClient_tends h unlocked free place run
  | watchdog millis unlocked run => exact watchdogRun_tends h unlocked run
  | poll revents unlocked done run =>
    rw [pollFds, run_bind_ok (serverLens_run (prepareFds_run h.serves.holds h.serves.live))] at run
    obtain ⟨-, rfl⟩ := EStateM.Result.ok.inj run
    exact ⟨cs, h.congr rfl (fun _ _ => rfl) rfl rfl, hread.congr rfl⟩
  | next millis unlocked run => exact pollNext_tends h unlocked run
  | wake reading run =>
    obtain ⟨c, hc, hr⟩ := hread _ reading
    exact (readOn_run h hc hr).1 u run

lemma serverInit_tends (T : Target δ) (platform : δ) : (serverInit T platform).Tends [] where
  serves := (meteoStart_serves T platform).1
  distinct := (meteoStart_serves T platform).2
  fds := List.nodup_nil
  framed := by simp
  said _ := List.nil_prefix
  unborn _ _ := ⟨rfl, rfl⟩

lemma tends_of_reach (hreach : Relation.ReflTransGen Hub.Step (serverInit T platform) y) :
    ∃ cs, y.Tends cs ∧ y.InRead cs := by
  induction hreach with
  | refl => exact ⟨[], serverInit_tends T platform, .of_none rfl⟩
  | tail _ hstep ih =>
    obtain ⟨cs, h, hread⟩ := ih
    exact hstep.tends h hread

lemma pollNext_pollin {revents : Revents} {todo : List (ℤ × Revents)}
    (htodo : y.todo = (fd, revents) :: todo) (hpollin : revents.pollin = true) (millis : Int64) :
    (pollNext millis).run y = (readClient fd millis).run { y with todo } := by
  rw [pollNext, run_bind_ok (EStateM.run_get y), htodo]
  dsimp only
  rw [run_bind_ok (EStateM.run_modify _ _), if_pos hpollin]

/-- What a turn comes to for a descriptor that `poll` has found readable. -/
lemma pollNext_readable (h : y.Tends cs) {revents : Revents} {todo : List (ℤ × Revents)}
    (htodo : y.todo = (fd, revents) :: todo) (hpollin : revents.pollin = true) (millis : Int64) :
    ((∀ c ∈ cs, c.client.fd ≠ fd) →
      (pollNext millis).run y = .error .nullPointer { y with todo }) ∧
    ((∃ c ∈ cs, c.client.fd = fd) → (y.sockets fd).closed = false →
      ∃ u, (pollNext millis).run y = .ok () u) := by
  have h' : ({ y with todo } : Hub δ).Tends cs := h.congr rfl (fun _ _ => rfl) rfl rfl
  rw [pollNext_pollin htodo hpollin]
  constructor
  · exact fun hno => readClient_unlisted h' hno millis
  · rintro ⟨c, hc, hfd⟩ hopen
    rw [readClient_listed h' hc hfd]
    exact (readOn_run h' hc ⟨rfl, rfl, hfd.symm⟩).2 (by rw [hfd]; exact hopen)

/-- **No client gets the texts of another one.** However the threads and the peers take turns, what
has been handed over for a client are the first texts of what its own peer has sent, and all of them
when nothing waits to be read. But a client that is gone when its turn comes takes the server with
it: for an open descriptor `read_client` does not fault exactly if it still belongs to a client, and
otherwise ends at a NULL pointer. -/
theorem clients_apart (hreach : Relation.ReflTransGen Hub.Step (serverInit T platform) y) :
    (∀ a, y.accepted a <+: Framer.fresh.frames (y.sent a)) ∧
    (∀ a client, y.Has a client → (y.sockets client.fd).incoming = [] →
      y.accepted a = Framer.fresh.frames (y.sent a)) ∧
    ∀ fd revents todo millis, y.todo = (fd, revents) :: todo → revents.pollin = true →
      ((∀ a client, y.Has a client → client.fd ≠ fd) →
        (pollNext millis).run y = .error .nullPointer { y with todo }) ∧
      ((y.sockets fd).closed = false → ((∃ u, (pollNext millis).run y = .ok () u) ↔
        ∃ a client, y.Has a client ∧ client.fd = fd)) := by
  obtain ⟨cs, h, -⟩ := tends_of_reach hreach
  refine ⟨h.said, ?_, ?_⟩
  · intro a client has hnil
    obtain ⟨c, hc, rfl, rfl⟩ := h.has_iff.mp has
    obtain ⟨m, hm⟩ := h.framed c hc
    exact hm.all hnil
  · intro fd revents todo millis htodo hpollin
    obtain ⟨hgone, hlisted⟩ := pollNext_readable h htodo hpollin millis
    have hnone : (∀ a client, y.Has a client → client.fd ≠ fd) →
        (pollNext millis).run y = .error .nullPointer { y with todo } :=
      fun hno => hgone (fun c hc => hno c.addr c.client (h.has_iff.mpr ⟨c, hc, rfl, rfl⟩))
    refine ⟨hnone, fun hopen => ⟨?_, ?_⟩⟩
    · rintro ⟨u, hu⟩
      by_contra hno
      rw [hnone (fun a client has hfd => hno ⟨a, client, has, hfd⟩)] at hu
      cases hu
    · rintro ⟨a, client, has, hfd⟩
      obtain ⟨c, hc, -, rfl⟩ := h.has_iff.mp has
      exact hlisted ⟨c, hc, hfd⟩ hopen

/-! ### One client and the lock -/

/-- A step during which nothing comes from the peer at this descriptor. -/
def Hub.Step.Without (fd : ℤ) (y u : Hub δ) : Prop :=
  Hub.Step y u ∧ u.sockets fd = y.sockets fd

/-- Descriptors about which `poll` has said nothing are passed over. -/
lemma pollNext_passes (revents : ℤ → Revents) (seen : List Joined) (more : List (ℤ × Revents))
    (hunlocked : y.reading = none)
    (hquiet : ∀ c ∈ seen, revents c.client.fd = ⟨false, false⟩) :
    Relation.ReflTransGen Hub.Step
      { y with todo := seen.map (fun c => (c.client.fd, revents c.client.fd)) ++ more }
      { y with todo := more } := by
  induction seen with
  | nil => exact .refl
  | cons c seen ih =>
    refine .head (.next 0 hunlocked ?_) (ih (fun d hd => hquiet d (List.mem_cons_of_mem c hd)))
    rw [pollNext, run_bind_ok (EStateM.run_get _), List.map_cons, List.cons_append,
      hquiet c List.mem_cons_self]
    rfl

/-- While a call waits in `read`, nobody who needs the lock gets on. -/
lemma blocked_step {z : Hub δ} (h : y.Tends cs) (hc : c ∈ cs) (hr : r.Of c)
    (hreading : y.reading = some r) (hnil : (y.sockets c.client.fd).incoming = [])
    (hopen : (y.sockets c.client.fd).closed = false) (hstep : Hub.Step.Without c.client.fd y z) :
    z.Tends cs ∧ z.reading = some r ∧ z.accepted = y.accepted ∧
      z.server.clients = y.server.clients ∧ z.todo = y.todo := by
  have hlocked : y.reading ≠ none := by
    rw [hreading]
    exact Option.some_ne_none r
  cases hstep.1 with
  | sends bytes has nonempty more => exact ⟨h.sends has nonempty, hreading, rfl, rfl, rfl⟩
  | closes has => exact ⟨h.closes _, hreading, rfl, rfl, rfl⟩
  | network keeps run => exact ⟨h.network keeps run, hreading, rfl, rfl, rfl⟩
  | accept millis unlocked free place run => exact absurd unlocked hlocked
  | watchdog millis unlocked run => exact absurd unlocked hlocked
  | poll revents unlocked done run => exact absurd unlocked hlocked
  | next millis unlocked run => exact absurd unlocked hlocked
  | wake reading run =>
    obtain rfl := Option.some.inj (hreading.symm.trans reading)
    rw [readOn, run_bind_ok (EStateM.run_get y), run_bind_ok
      (readFrom_waits (h.serves.live c hc) hr hnil hopen)] at run
    obtain ⟨-, rfl⟩ := EStateM.Result.ok.inj run
    exact ⟨h.congr rfl (fun _ _ => rfl) rfl rfl, rfl, rfl, rfl, rfl⟩

lemma blocked_forever {z : Hub δ} (h : y.Tends cs) (hc : c ∈ cs) (hr : r.Of c)
    (hreading : y.reading = some r) (hnil : (y.sockets c.client.fd).incoming = [])
    (hopen : (y.sockets c.client.fd).closed = false)
    (hsteps : Relation.ReflTransGen (Hub.Step.Without c.client.fd) y z) :
    z.Tends cs ∧ z.reading = some r ∧ z.accepted = y.accepted ∧
      z.server.clients = y.server.clients ∧ z.todo = y.todo ∧
        z.sockets c.client.fd = y.sockets c.client.fd := by
  induction hsteps with
  | refl => exact ⟨h, hreading, rfl, rfl, rfl, rfl⟩
  | tail _ hstep ih =>
    obtain ⟨ht, hreads, haccepted, hclients, htodo, hsocket⟩ := ih
    obtain ⟨ht', hreads', haccepted', hclients', htodo'⟩ :=
      blocked_step ht hc hr hreads (hsocket ▸ hnil) (hsocket ▸ hopen) hstep
    exact ⟨ht', hreads', haccepted'.trans haccepted, hclients'.trans hclients, htodo'.trans htodo,
      hstep.2.trans hsocket⟩

/-- **One client can stop the server.** Whenever the thread that polls is about to poll, a client
from which nothing waits to be read can send some bytes, no more than a buffer of them, after which
the thread is in `read` with the lock in its hand. From then on, until something comes from this one
peer, nothing is handed over for any client, nobody joins and nobody is thrown out. -/
theorem one_client_stalls {a : ℕ} {client : Clients.Client}
    (hreach : Relation.ReflTransGen Hub.Step (serverInit T platform) y)
    (hunlocked : y.reading = none) (hdone : y.todo = []) (has : y.Has a client)
    (hnil : (y.sockets client.fd).incoming = []) (hopen : (y.sockets client.fd).closed = false) :
    ∃ bytes u r, bytes.length ≤ clientBufferSize ∧
      Relation.ReflTransGen Hub.Step y u ∧
      u.sent = Function.update y.sent a (y.sent a ++ bytes) ∧
      u.reading = some r ∧ r.client = a ∧
      ∀ z, Relation.ReflTransGen (Hub.Step.Without client.fd) u z →
        z.reading = some r ∧ z.accepted = u.accepted ∧ z.server.clients = u.server.clients ∧
          z.todo = u.todo := by
  obtain ⟨cs, h, -⟩ := tends_of_reach hreach
  obtain ⟨c, hc, rfl, rfl⟩ := h.has_iff.mp has
  obtain ⟨m, hm⟩ := h.framed c hc
  -- Just as many bytes as there is room for.
  obtain ⟨bytes, hlength, hne⟩ : ∃ bytes : List UInt8,
      (y.buffers c.addr).bufferPtr + bytes.length = clientBufferSize ∧ bytes ≠ [] := by
    have hroom := hm.waiting.room
    rw [hm.bufferPtr] at hroom
    refine ⟨List.replicate (clientBufferSize - (y.buffers c.addr).bufferPtr) 0, ?_, ?_⟩
    · rw [List.length_replicate]
      omega
    · rw [Ne, List.replicate_eq_nil_iff]
      omega
  set y₁ : Hub δ := y.send c.addr c.client.fd bytes with hy₁
  have hsends : Hub.Step y y₁ := .sends bytes has hne hopen
  have h₁ : y₁.Tends cs := h.sends has hne
  have hsocket : y₁.sockets c.client.fd = { y.sockets c.client.fd with incoming := [bytes] } := by
    rw [hy₁]
    simp only [Hub.send, Function.update_self, hnil, List.nil_append]
  -- `poll` finds this client and no other one.
  obtain ⟨revents, hrevents⟩ : ∃ revents : ℤ → Revents, revents = fun fd =>
      ⟨decide (fd = c.client.fd), false⟩ := ⟨_, rfl⟩
  obtain ⟨seen, rest, hvisited⟩ :=
    List.append_of_mem ((visited_perm cs).mem_iff.mpr hc)
  set more := rest.map (fun d => (d.client.fd, revents d.client.fd)) with hmore
  have hpolls : Hub.Step y₁ { y₁ with
      todo := seen.map (fun d => (d.client.fd, revents d.client.fd)) ++
        (c.client.fd, revents c.client.fd) :: more } := by
    refine .poll revents hunlocked hdone ?_
    rw [pollFds, run_bind_ok (serverLens_run (prepareFds_run h₁.serves.holds h₁.serves.live)),
      hvisited]
    simp only [List.map_append, List.map_cons, List.map_map]
    rfl
  have hothers : ∀ d ∈ seen, revents d.client.fd = ⟨false, false⟩ := by
    intro d hd
    have hnodup := ((visited_perm cs).map (fun d : Joined => d.client.fd)).nodup_iff.mpr h.fds
    rw [hvisited] at hnodup
    have hne := ne_of_nodup_map hnodup (List.mem_append_left rest hd)
    rw [hrevents]
    exact congrArg (Revents.mk · false) (decide_eq_false hne)
  have hpasses := pollNext_passes revents seen ((c.client.fd, revents c.client.fd) :: more)
    (y := y₁) hunlocked hothers
  -- It reads all that there is, which fills the buffer.
  have h₂ : ({ y₁ with todo := more } : Hub δ).Tends cs := h₁.congr rfl (fun _ _ => rfl) rfl rfl
  obtain ⟨r, hrdef⟩ : ∃ r : Reading, r = ⟨c.node, c.addr, c.client.fd, 0⟩ := ⟨_, rfl⟩
  have hr : r.Of c := hrdef ▸ ⟨rfl, rfl, rfl⟩
  obtain ⟨m₂, hm₂⟩ := h₂.framed c hc
  obtain ⟨v, hv, ⟨m', hm'⟩, hvnil, hread⟩ := readFrom_fills hm₂ (h₂.serves.live c hc) hr
    (congrArg Socket.incoming hsocket) (by rw [hm₂.bufferPtr]; exact hlength)
    ((congrArg Socket.closed hsocket).trans hopen)
  have hnext : Hub.Step { y₁ with todo := (c.client.fd, revents c.client.fd) :: more }
      { v with reading := some r } := by
    refine .next 0 hunlocked ?_
    rw [pollNext_pollin rfl (by rw [hrevents]; exact decide_eq_true rfl)]
    refine (readClient_listed h₂ hc rfl 0).trans ?_
    rw [← hrdef, readOn, run_bind_ok (EStateM.run_get _)]
    exact run_bind_ok hread
  have hv' : ({ v with reading := some r } : Hub δ).Tends cs :=
    (h₂.reads hc hv hm').congr rfl (fun _ _ => rfl) rfl rfl
  refine ⟨bytes, { v with reading := some r }, r, by omega, ?_, hv.sent, rfl, hr.2.1, ?_⟩
  · exact (Relation.ReflTransGen.head hsends (.head hpolls hpasses)).tail hnext
  · intro z hsteps
    obtain ⟨-, hreading, haccepted, hclients, htodo, -⟩ := blocked_forever hv' hc hr rfl hvnil
      (hv.closed.trans ((congrArg Socket.closed hsocket).trans hopen)) hsteps
    exact ⟨hreading, haccepted, hclients, htodo⟩

end Steps

/-- One client has joined. -/
def oneJoined : Hub Unit :=
  leaves ((acceptClient 5 0).run (serverInit (Target.bare Settings.zejfMeteo) ()))

def twoJoined : Hub Unit := leaves ((acceptClient 6 0).run oneJoined)

lemma oneJoined_reached :
    Relation.ReflTransGen Hub.Step (serverInit (Target.bare Settings.zejfMeteo) ()) oneJoined := by
  refine .single (.accept 0 rfl ?_ ?_ (run_eq_of_outcome (by decide +kernel)))
  · rintro a client ⟨ha, -⟩
    have hnone : (serverInit (Target.bare Settings.zejfMeteo) ()).server.clients.items = [] := by
      decide +kernel
    rw [hnone] at ha
    cases ha
  · unfold Server.HasPlace
    decide +kernel

/-- The descriptor of the only client that there is. -/
lemma Hub.Has.only {y : Hub δ} {a b : ℕ} {client : Clients.Client} {fd : ℤ} (h : y.Has b client)
    (hitems : y.server.clients.items.map Prod.snd = [a])
    (hfd : (y.server.clientObjects.cells a).map Client.fd = some fd) : client.fd = fd := by
  obtain ⟨hb, hclient⟩ := h
  rw [hitems, List.mem_singleton] at hb
  rw [← hb, hclient] at hfd
  exact Option.some.inj hfd

lemma Hub.exists_has {y : Hub δ} {a : ℕ} {fd : ℤ} (ha : a ∈ y.server.clients.items.map Prod.snd)
    (hfd : (y.server.clientObjects.cells a).map Client.fd = some fd) :
    ∃ client, y.Has a client ∧ client.fd = fd := by
  obtain ⟨client, hclient, hfd⟩ := Option.map_eq_some_iff.mp hfd
  exact ⟨client, ⟨ha, hclient⟩, hfd⟩

lemma twoJoined_reached :
    Relation.ReflTransGen Hub.Step (serverInit (Target.bare Settings.zejfMeteo) ()) twoJoined := by
  refine oneJoined_reached.tail (.accept 0 rfl ?_ ?_ (run_eq_of_outcome (by decide +kernel)))
  · intro a client has
    have hfd : client.fd = 5 := has.only (a := 0) (by decide +kernel) (by decide +kernel)
    rw [hfd]
    decide
  · unfold Server.HasPlace
    decide +kernel

/-- Both have sent a line, and `poll` has found them. -/
def bothPolled : Hub Unit :=
  leaves ((pollFds (fun _ => ⟨true, false⟩)).run ((twoJoined.send 0 5 [97, 10]).send 1 6 [98, 10]))

/-- The second one has been read. -/
def secondRead : Hub Unit := leaves ((pollNext 20000).run bothPolled)

/-- The first one has been thrown out before its turn. -/
def firstGone : Hub Unit := leaves ((watchdogRun 25000).run secondRead)

lemma firstGone_reached :
    Relation.ReflTransGen Hub.Step (serverInit (Target.bare Settings.zejfMeteo) ()) firstGone := by
  obtain ⟨first, hfirst, hfd⟩ : ∃ client, twoJoined.Has 0 client ∧ client.fd = 5 :=
    Hub.exists_has (by decide +kernel) (by decide +kernel)
  obtain ⟨second, hsecond, hfd'⟩ : ∃ client, (twoJoined.send 0 5 [97, 10]).Has 1 client ∧
      client.fd = 6 := Hub.exists_has (by decide +kernel) (by decide +kernel)
  have hsays : Hub.Step twoJoined (twoJoined.send 0 first.fd [97, 10]) :=
    .sends [97, 10] hfirst (by decide) (by rw [hfd]; decide +kernel)
  have hsays' : Hub.Step (twoJoined.send 0 5 [97, 10])
      ((twoJoined.send 0 5 [97, 10]).send 1 second.fd [98, 10]) :=
    .sends [98, 10] hsecond (by decide) (by rw [hfd']; decide +kernel)
  rw [hfd] at hsays
  rw [hfd'] at hsays'
  have hpolled : Hub.Step ((twoJoined.send 0 5 [97, 10]).send 1 6 [98, 10]) bothPolled :=
    .poll (fun _ => ⟨true, false⟩) (Option.isNone_iff_eq_none.mp (by decide +kernel))
      (by decide +kernel) (run_eq_of_outcome (by decide +kernel))
  have hread : Hub.Step bothPolled secondRead :=
    .next 20000 (Option.isNone_iff_eq_none.mp (by decide +kernel))
      (run_eq_of_outcome (by decide +kernel))
  have hgone : Hub.Step secondRead firstGone :=
    .watchdog 25000 (Option.isNone_iff_eq_none.mp (by decide +kernel))
      (run_eq_of_outcome (by decide +kernel))
  exact ((((twoJoined_reached.tail hsays).tail hsays').tail hpolled).tail hread).tail hgone

/-- The line of the client that was read has been handed over, and nothing of the other one. Then
the server looks for that one. -/
theorem firstGone_apart :
    firstGone.accepted 1 = Framer.fresh.frames [98, 10] ∧
    firstGone.accepted 0 <+: Framer.fresh.frames [97, 10] ∧
    (pollNext 25000).run firstGone = .error .nullPointer { firstGone with todo := [] } := by
  obtain ⟨hsaid, hall, hturn⟩ := clients_apart firstGone_reached
  have hitems : firstGone.server.clients.items.map Prod.snd = [1] := by decide +kernel
  have hfd : (firstGone.server.clientObjects.cells 1).map Client.fd = some 6 := by decide +kernel
  have hsent : firstGone.sent 0 = [97, 10] ∧ firstGone.sent 1 = [98, 10] := by decide +kernel
  have hread : (firstGone.sockets 6).incoming = [] := by decide +kernel
  have htodo : firstGone.todo = [(5, ⟨true, false⟩)] := by decide +kernel
  obtain ⟨second, hsecond, hsix⟩ := Hub.exists_has (by rw [hitems]; simp) hfd
  refine ⟨?_, ?_, ?_⟩
  · rw [← hsent.2]
    exact hall 1 second hsecond (by rw [hsix]; exact hread)
  · rw [← hsent.1]
    exact hsaid 0
  · refine (hturn 5 ⟨true, false⟩ [] 25000 htodo rfl).1 ?_
    intro a client has
    rw [has.only hitems hfd]
    decide

/-- The first client of two stops the server. -/
theorem twoJoined_stalls : ∃ bytes u r, bytes.length ≤ clientBufferSize ∧
    Relation.ReflTransGen Hub.Step twoJoined u ∧
    u.sent = Function.update twoJoined.sent 0 (twoJoined.sent 0 ++ bytes) ∧
    u.reading = some r ∧ r.client = 0 ∧
    ∀ z, Relation.ReflTransGen (Hub.Step.Without 5) u z →
      z.reading = some r ∧ z.accepted = u.accepted ∧ z.server.clients = u.server.clients ∧
        z.todo = u.todo := by
  obtain ⟨first, hfirst, hfd⟩ : ∃ client, twoJoined.Has 0 client ∧ client.fd = 5 :=
    Hub.exists_has (by decide +kernel) (by decide +kernel)
  have hnil : (twoJoined.sockets 5).incoming = [] := by decide +kernel
  have hopen : (twoJoined.sockets 5).closed = false := by decide +kernel
  rw [← hfd]
  exact one_client_stalls twoJoined_reached (Option.isNone_iff_eq_none.mp (by decide +kernel))
    (by decide +kernel) hfirst (by rw [hfd]; exact hnil) (by rw [hfd]; exact hopen)

end ZejfMeteo.Polling
