import ZejfMeteo.ControlMessages
import ZejfMeteo.Streaming
import ZejfMeteo.ViewerPackets
import ZejfMeteo.ViewerHours

/-!
# The variables of an hour

A viewer asks for the variables of an hour and is told about each of them in a packet of its own.
What it is told about a variable that it does not have makes it create one.
-/

namespace ZejfMeteo
open Runs Format

variable {δ : Type}

/-- The firmware has written this line for a packet with the same command and message; the other
fields may have changed on the way. -/
def WrittenAs (T : Target δ) (packet : Packet) (line : List UInt8) : Prop :=
  ∃ p p', packetToString p T.packetMaxLength = (.ok, p', line) ∧
    p.command = packet.command ∧ p.message = packet.message

/-- The packet that tells about a variable. -/
def toldPacket (T : Target δ) (toId : UInt16) (n time : UInt32) (info : VariableInfo) : Packet :=
  { ownPacket T toId variableInfoCommand (some (ControlMessage.variableInfo info n).text) with
    timeReceived := time }

namespace Viewer

def commandVariableInfo : ℤ := 0x0E

/-- What `onReceive` of `SocketManager.java` reads in a message about a variable: its id, its
samples per hour and the hour. An exception is `none`. -/
def variableInfo (msg : List UInt8) : Option (ℤ × ℤ × ℤ) :=
  match split comma msg with
  | variableId :: samplesPerHour :: hourNumber :: _ => do
    let variableId ← parseInt variableId
    let samplesPerHour ← parseInt samplesPerHour
    let hourNumber ← parseLong hourNumber
    return (variableId, samplesPerHour, hourNumber)
  | _ => none

/-- `create` of `DataManager.java`, for the hour that it finds under the number. No variable has a
negative number of samples. -/
def DataHour.create (now : ℤ) (hour : DataHour) (variableId samplesPerHour hourNumber : ℤ) :
    DataHour :=
  if hourNumber = hour.hourNumber ∧ 0 ≤ samplesPerHour then
    (hour.getVariable now variableId samplesPerHour.toNat true).2
  else hour

/-- What an hour of the viewer makes of a line about a variable. -/
def DataHour.told (now : ℤ) (hour : DataHour) (line : List UInt8) : DataHour :=
  match Packet.fromString line with
  | none => hour
  | some packet =>
    if packet.command = commandVariableInfo then
      match variableInfo packet.message with
      | some (variableId, samplesPerHour, hourNumber) =>
        hour.create now variableId samplesPerHour hourNumber
      | none => hour
    else hour

/-- The hour has a variable with this id and rate. -/
def DataHour.Knows (hour : DataHour) (info : VariableInfo) : Prop :=
  (DataHour.findVariable info.id.toNat info.samplesPerHour.toNat hour.variablesRaw).isSome

section Told

variable {hour : DataHour} {info : VariableInfo} {toId : UInt16} {n time : UInt32}

/-- The text about a variable, read by the viewer. -/
lemma variableInfo_text (hrate : info.samplesPerHour.toNat < 2 ^ 31) :
    variableInfo (ControlMessage.variableInfo info n).text =
      some ((info.id.toNat : ℤ), (info.samplesPerHour.toNat : ℤ), (n.toNat : ℤ)) := by
  have hdecimal : ∀ n, comma ∉ decimal n := fun n hn =>
    absurd (isDigit_of_mem_decimal hn) (by decide)
  have htext : (ControlMessage.variableInfo info n).text = decimal info.id.toNat ++
      comma :: (decimal info.samplesPerHour.toNat ++ comma :: decimal n.toNat) := by
    simp only [ControlMessage.text, ControlMessage.pieces, print, List.flatMap_cons,
      List.flatMap_nil, Piece.text, List.cons_append, List.nil_append, List.append_nil]
  have hsplit : split comma (ControlMessage.variableInfo info n).text =
      [decimal info.id.toNat, decimal info.samplesPerHour.toNat, decimal n.toNat] := by
    rw [htext, split, if_pos (by simp), List.splitOn_append_cons_self_of_not_mem (hdecimal _),
      List.splitOn_append_cons_self_of_not_mem (hdecimal _),
      List.splitOn_eq_singleton (hdecimal _), List.rdropWhile_eq_self_iff]
    intro _
    simp [decimal_ne_nil]
  have hid : parseInt (decimal info.id.toNat) = some (info.id.toNat : ℤ) :=
    parseNumber_decimal (Nat.lt_trans info.id.toNat_lt (by decide))
  have hsamples : parseInt (decimal info.samplesPerHour.toNat) =
      some (info.samplesPerHour.toNat : ℤ) := parseNumber_decimal hrate
  have hhour : parseLong (decimal n.toNat) = some (n.toNat : ℤ) :=
    parseNumber_decimal (Nat.lt_trans n.toNat_lt (by decide))
  rw [variableInfo, hsplit]
  simp only [hid, hsamples, hhour, Option.bind_eq_bind, Option.bind_some, Option.pure_def]

/-- A variable that is there already stays as it is. -/
lemma getVariable_keeps (hour : DataHour) (now id : ℤ) (m : ℕ) :
    (hour.getVariable now id m true).2.hourNumber = hour.hourNumber ∧
      ∀ id' m' var, DataHour.findVariable id' m' hour.variablesRaw = some var →
        DataHour.findVariable id' m' (hour.getVariable now id m true).2.variablesRaw =
          some var := by
  rw [DataHour.getVariable_eq]
  cases hfind : DataHour.findVariable id m hour.variablesRaw with
  | some var => exact ⟨rfl, fun _ _ _ hvar => hvar⟩
  | none =>
    refine ⟨rfl, fun id' m' var hvar => ?_⟩
    show DataHour.findVariable id' m' (hour.variablesRaw ++ _) = some var
    by_cases hsame : m = m' ∧ id = id'
    · obtain ⟨rfl, rfl⟩ := hsame
      rw [hfind] at hvar
      cases hvar
    · rw [DataHour.findVariable_append_ne hsame, hvar]

lemma mem_variableText {c : UInt8} (hc : c ∈ (ControlMessage.variableInfo info n).text) :
    isDigit c = true ∨ c = comma := by
  simp only [ControlMessage.text, ControlMessage.pieces, print, List.flatMap_cons,
    List.flatMap_nil, Piece.text, List.mem_append, List.mem_singleton, List.not_mem_nil,
    or_false] at hc
  rcases hc with hc | rfl | hc | rfl | hc
  · exact .inl (isDigit_of_mem_decimal hc)
  · exact .inr rfl
  · exact .inl (isDigit_of_mem_decimal hc)
  · exact .inr rfl
  · exact .inl (isDigit_of_mem_decimal hc)

/-- The viewer reads the line, and gets the variable if it is one of its hour. -/
lemma told_line {T : Target δ} {line : List UInt8} (now : ℤ)
    (h : WrittenAs T (toldPacket T toId n time info) line)
    (hrate : info.samplesPerHour.toNat < 2 ^ 31) (hnumber : hour.hourNumber = n.toNat) :
    hour.told now line = (hour.getVariable now info.id.toNat info.samplesPerHour.toNat true).2 := by
  obtain ⟨p, p', hwrite, hcommand, hmessage⟩ := h
  have htext : p.text = (ControlMessage.variableInfo info n).text := by
    rw [Packet.text, hmessage]
    rfl
  have hroom := length_packetText_control (T := T) (m := .variableInfo info n) hcommand hmessage
  have hfit : (packetText p).length < T.packetMaxLength := by omega
  have hchar : ∀ c : UInt8, isDigit c = true ∨ c = comma →
      (c < 0x80 ∧ c ≠ tab ∧ c ≠ newline) ∧ c ≠ semicolon := by
    rintro c (hc | rfl)
    · rw [isDigit, Bool.and_eq_true, decide_eq_true_iff, decide_eq_true_iff] at hc
      refine ⟨⟨UInt8.lt_of_le_of_lt hc.2 (by decide : (0x39 : UInt8) < 0x80), ?_, ?_⟩, ?_⟩
      all_goals
        rintro rfl
        exact absurd hc (by decide)
    · decide
  have hmsg : Message p.text := fun c hc => (hchar c (mem_variableText (htext ▸ hc))).1
  have hsemi : semicolon ∉ p.text := fun hc => (hchar _ (mem_variableText (htext ▸ hc))).2 rfl
  obtain ⟨q, buff, r, hwrite', hread, hfields, -, hwhole⟩ :=
    (readByViewer_iff hmsg hfit).mpr hsemi
  rw [hwrite'] at hwrite
  obtain ⟨-, hsame⟩ := Prod.mk.inj hwrite
  obtain ⟨-, rfl⟩ := Prod.mk.inj hsame
  rw [packetToString_eq hfit] at hwrite'
  obtain ⟨-, hprepare⟩ := Prod.mk.inj hwrite'
  obtain ⟨rfl, rfl⟩ := Prod.mk.inj hprepare
  have hcommand' : r.command = commandVariableInfo := by
    rw [hfields.command, (prepare_fields p).2.2.1, hcommand]
    rfl
  rw [DataHour.told, hread]
  dsimp only
  rw [if_pos hcommand', hwhole, htext, variableInfo_text hrate]
  dsimp only
  rw [DataHour.create, if_pos ⟨hnumber.symm, Int.natCast_nonneg _⟩, Int.toNat_natCast]

/-- An hour that is told about variables gets to know them all, and keeps what it has. -/
lemma told_lines {T : Target δ} {infos : List VariableInfo} {lines : List (List UInt8)} (now : ℤ)
    (h : List.Forall₂ (fun info => WrittenAs T (toldPacket T toId n time info)) infos lines)
    (hrate : ∀ info ∈ infos, info.samplesPerHour.toNat < 2 ^ 31)
    (hnumber : hour.hourNumber = n.toNat) :
    (∀ info ∈ infos, (lines.foldl (DataHour.told now) hour).Knows info) ∧
      ∀ id m var, DataHour.findVariable id m hour.variablesRaw = some var →
        DataHour.findVariable id m (lines.foldl (DataHour.told now) hour).variablesRaw =
          some var := by
  induction h generalizing hour with
  | nil => exact ⟨fun _ hi => absurd hi List.not_mem_nil, fun _ _ _ hvar => hvar⟩
  | @cons info line infos lines hline hlines ih =>
    have htold := told_line now hline (hrate info List.mem_cons_self) hnumber
    obtain ⟨var, -, hvar⟩ :=
      hour.getVariable_created now info.id.toNat info.samplesPerHour.toNat
    obtain ⟨hsame, hkeeps⟩ :=
      getVariable_keeps hour now info.id.toNat info.samplesPerHour.toNat
    rw [← htold] at hvar hsame hkeeps
    obtain ⟨hall, hrest⟩ := ih
      (fun i hi => hrate i (List.mem_cons_of_mem info hi)) (hsame.trans hnumber)
    refine ⟨?_, fun id m var hvar => hrest id m var (hkeeps id m var hvar)⟩
    intro i hi
    rcases List.mem_cons.mp hi with rfl | hi
    · rw [List.foldl_cons, DataHour.Knows, hrest _ _ _ hvar]
      rfl
    · exact hall i hi

end Told

end Viewer

section Server

variable {T : Target δ} {s : Globals δ} {tx rx : List Queued} {es : List RoutingEntry}
  {xs : List (ℕ × DataHour)} {toId : UInt16} {n time : UInt32} {a : ℕ} {p : Packet}

/-- As long as there is room, there is a packet for each variable. -/
lemma sendVariables_run (n time : UInt32) (hn : NetworkHolds T s tx rx es)
    (hroute : sendResult T es false toId = .ok) {vars : List Variable}
    (hroom : tx.length + vars.length ≤ s.txQueue.capacity) :
    ∃ tq ps sent, (sendVariables T toId n time vars).run s =
        .ok .ok { s with txQueue := tq, packets := ps } ∧
      NetworkHolds T { s with txQueue := tq, packets := ps } (tx ++ sent) rx es ∧
      sent.map Queued.packet = vars.map (fun var => toldPacket T toId n time var.info) := by
  induction vars generalizing s tx with
  | nil => exact ⟨s.txQueue, s.packets, [], rfl, by rw [List.append_nil]; exact hn, rfl⟩
  | cons var rest ih =>
    have hfull : listIsFull s.txQueue = false := by
      rw [hn.queues.txHolds.isFull, List.length_map]
      rw [List.length_cons] at hroom
      exact decide_eq_false (by omega)
    obtain ⟨tq, ps, hsend, hcap, hq, -, -⟩ := send_own (T := T) hn.queues hn.table toId
      (by decide : variableInfoCommand ≠ idRequest) (by decide)
      (some (ControlMessage.variableInfo var.info n).text) time
    rw [hfull, hroute, if_pos rfl] at hq
    have hn' : NetworkHolds T { s with txQueue := tq, packets := ps } _ rx es :=
      ⟨hq, hn.table.congr rfl rfl⟩
    obtain ⟨tq', ps', sent, hrest, hn'', hsent⟩ := ih hn' (by
      rw [List.length_append, List.length_singleton]
      rw [List.length_cons] at hroom
      show _ ≤ tq.capacity
      omega)
    refine ⟨tq', ps', ⟨s.txQueue.nodes.next, s.packets.next,
      toldPacket T toId n time var.info⟩ :: sent, ?_, ?_, ?_⟩
    · rw [(sends_control (T := T) toId time (.variableInfo var.info n)) var rest rfl, sendControl]
      exact (run_bind_ok hsend).trans hrest
    · rw [List.append_cons]
      exact hn''
    · rw [List.map_cons, hsent]
      rfl

/-- What comes of a request, given the local copy of the hour and the free slots of the queue. -/
def Answers (T : Target δ) (free : ℕ) (toId : UInt16) (n time : UInt32) (stored : Option DataHour)
    (rv : ZejfErr) (sent : List Packet) : Prop :=
  match stored with
  | none => rv = .null ∧ sent = []
  | some h =>
    if free / priorityMedium < h.vars.length then rv = .queueFull ∧ sent = []
    else rv = .ok ∧ sent = h.vars.map (fun var => toldPacket T toId n time var.info)

lemma variablesRequestProcess_run (hc : s.CacheHolds T xs) (hn : NetworkHolds T s tx rx es)
    (hroute : sendResult T es false toId = .ok) (n time : UInt32) : ∃ rv q p tq ps sent ys,
    (variablesRequestProcess T toId n time).run s =
        .ok rv { s with dataQueue := q, platform := p, txQueue := tq, packets := ps } ∧
      ({ s with dataQueue := q, platform := p, txQueue := tq, packets := ps } :
        Globals δ).CacheHolds T ys ∧
      NetworkHolds T { s with dataQueue := q, platform := p, txQueue := tq, packets := ps }
        (tx ++ sent) rx es ∧
      Answers T (s.txQueue.capacity - tx.length) toId n time (localHour T xs s.platform n) rv
        (sent.map Queued.packet) := by
  rw [variablesRequestProcess]
  rcases datahourGet_local hc n with ⟨hnone, p, hget, hc'⟩ |
    ⟨pre, b, h, post, q, p, hsome, hget, hc'⟩
  · rw [hnone, run_bind_ok hget]
    refine ⟨_, s.dataQueue, p, s.txQueue, s.packets, [], xs, rfl, hc', ?_, rfl, rfl⟩
    rw [List.append_nil]
    exact hn.data s.dataQueue p
  · have hn' := hn.data q p
    have hcount : h.variableCount.toNat = h.vars.length :=
      (hc'.wellFormed (b, h) (by simp)).variableCount_toNat
    have hfree : (allocatePacketQueue priorityMedium).run
        { s with dataQueue := q, platform := p } =
        .ok ((s.txQueue.capacity - tx.length) / priorityMedium)
          { s with dataQueue := q, platform := p } := by
      have hitems := hn.queues.txHolds.count
      rw [List.length_map] at hitems
      rw [← hitems]
      rfl
    have hbound := hn.queues.txHolds.bounded
    rw [List.length_map] at hbound
    rw [hsome, run_bind_ok hget]
    dsimp only
    rw [run_bind_ok (readHour_run hc'.queue), run_bind_ok hfree, hcount]
    by_cases hroom : (s.txQueue.capacity - tx.length) / priorityMedium < h.vars.length
    · rw [if_pos hroom]
      refine ⟨_, q, p, s.txQueue, s.packets, [], _, rfl, hc', ?_, ?_⟩
      · rw [List.append_nil]
        exact hn'
      · exact (if_pos hroom).mpr ⟨rfl, rfl⟩
    · rw [if_neg hroom, List.take_length]
      have hslots : tx.length + h.vars.length ≤ s.txQueue.capacity := by
        have hle := Nat.div_le_self (s.txQueue.capacity - tx.length) priorityMedium
        omega
      obtain ⟨tq, ps, sent, hrun, hn'', hsent⟩ := sendVariables_run n time hn' hroute hslots
      refine ⟨_, q, p, tq, ps, sent, _, hrun, hc'.congr rfl, hn'', ?_⟩
      exact (if_neg hroom).mpr ⟨rfl, hsent⟩

/-- An answer that is given has a packet for each variable. -/
lemma Answers.sent {free : ℕ} {stored : Option DataHour} {h : DataHour} {sent : List Packet}
    (hanswers : Answers T free toId n time stored .ok sent) (hstored : stored = some h) :
    sent = h.vars.map (fun var => toldPacket T toId n time var.info) := by
  subst hstored
  unfold Answers at hanswers
  dsimp only at hanswers
  split at hanswers
  · cases hanswers.1
  · exact hanswers.2

/-- A request names the hour. -/
lemma variablesRequestReceive_run (hp : s.packets.cells a = some p)
    (hmessage : p.message = some (decimal n.toNat)) (time : UInt32) :
    (variablesRequestReceive T a time).run s =
      (variablesRequestProcess T p.fromId n time).run s := by
  have hscan : sscanf (fun _ => none) [.num 32] (decimal n.toNat ++ []) = [.num n.toNat] :=
    sscanf_uint32 n (by simp)
  rw [List.append_nil] at hscan
  rw [variablesRequestReceive, run_bind_ok (readPacket_run hp), hmessage]
  dsimp only
  rw [hscan]
  dsimp only
  rw [UInt32.ofNat_toNat]

/-- The lines of an answer are about the variables, one after the other. -/
lemma Answers.lines {free : ℕ} {stored : Option DataHour} {h : DataHour} {sent : List Queued}
    {lines : List (List UInt8)}
    (hanswers : Answers T free toId n time stored .ok (sent.map Queued.packet))
    (hstored : stored = some h) (hlines : List.Forall₂ (fun q => WrittenAs T q.packet) sent lines) :
    List.Forall₂ (fun info => WrittenAs T (toldPacket T toId n time info))
      (h.vars.map Variable.info) lines := by
  have hpackets := List.forall₂_map_left_iff.mpr hlines
  rw [hanswers.sent hstored, List.forall₂_map_left_iff] at hpackets
  rw [List.forall₂_map_left_iff]
  exact hpackets

end Server

/-- **Who asks for the variables of an hour gets to know them.** A request of a viewer that the
server has a way to is answered from the local copy of the hour, in full or, if there is none or the
queue has no room, not at all. Whatever else is written into the packets on their way, an hour of
the viewer that is told all of the answer then has each of the variables, and keeps its own. -/
theorem variables_told {T : Target δ} {s : Globals δ} {tx rx : List Queued}
    {es : List RoutingEntry} {xs : List (ℕ × DataHour)} {n : UInt32} {a : ℕ} {p : Packet}
    (hc : s.CacheHolds T xs) (hn : NetworkHolds T s tx rx es) (hrate : T.sampleRateMax < 2 ^ 31)
    (hp : s.packets.cells a = some p) (hmessage : p.message = some (decimal n.toNat))
    (hother : p.fromId ≠ T.deviceId) (hway : ∃ e ∈ es, e.deviceId = p.fromId) (time : UInt32) :
    ∃ rv u ys sent, (variablesRequestReceive T a time).run s = .ok rv u ∧
      u.CacheHolds T ys ∧ NetworkHolds T u (tx ++ sent) rx es ∧
      Answers T (s.txQueue.capacity - tx.length) p.fromId n time
        (localHour T xs s.platform n) rv (sent.map Queued.packet) ∧
      ∀ h, localHour T xs s.platform n = some h → rv = .ok →
        ∀ (hour : Viewer.DataHour) (now : ℤ) (lines : List (List UInt8)),
          hour.hourNumber = n.toNat →
          List.Forall₂ (fun q => WrittenAs T q.packet) sent lines →
          (∀ var ∈ h.vars, (lines.foldl (Viewer.DataHour.told now) hour).Knows var.info) ∧
            ∀ id m var, Viewer.DataHour.findVariable id m hour.variablesRaw = some var →
              Viewer.DataHour.findVariable id m
                (lines.foldl (Viewer.DataHour.told now) hour).variablesRaw = some var := by
  have hroute : sendResult T es false p.fromId = .ok :=
    sendResult_eq_ok_iff.mpr ⟨hother, .inr hway⟩
  obtain ⟨rv, q, pl, tq, ps, sent, ys, hrun, hc', hn', hanswers⟩ :=
    variablesRequestProcess_run hc hn hroute n time
  refine ⟨rv, _, ys, sent, ?_, hc', hn', hanswers, ?_⟩
  · rw [variablesRequestReceive_run hp hmessage]
    exact hrun
  · intro h hlocal hok hour now lines hnumber hlines
    have hwf := localHour_wellFormed hc hlocal
    subst hok
    have hrates : ∀ info ∈ h.vars.map Variable.info, info.samplesPerHour.toNat < 2 ^ 31 := by
      intro info hinfo
      obtain ⟨var, hvar, rfl⟩ := List.mem_map.mp hinfo
      exact Nat.lt_of_le_of_lt (hwf.rate_le var hvar) hrate
    have habout := hanswers.lines hlocal hlines
    obtain ⟨hknows, hkeeps⟩ := Viewer.told_lines now habout hrates hnumber
    exact ⟨fun var hvar => hknows _ (List.mem_map_of_mem hvar), hkeeps⟩

def slowVariable : Variable where
  info := ⟨2, 7⟩
  data := [valueEmpty, valueNotMeasured]
  size_eq := rfl

def fastVariable : Variable where
  info := ⟨4, 9⟩
  data := List.replicate 4 valueEmpty
  size_eq := rfl

def mixedHour : DataHour := { hourCreate 10 with vars := [slowVariable, fastVariable] }

/-- The way to the viewer. -/
def viewerEntry : RoutingEntry := { routingEntryCreate with deviceId := 1000 }

/-- What the viewer asks for hour 10. -/
def mixedRequest : Packet :=
  { packetCreate with
    fromId := 1000
    toId := 1
    command := variablesRequest
    message := some (decimal 10) }

/-- The server has the hour in its cache and the request at address 0. -/
def askedServer : Globals Unit :=
  { zejfInit (Target.bare Settings.zejfMeteo) () with
    dataQueue := LinkedList.ofItems 128 [mixedHour]
    packets := Heap.ofList [mixedRequest]
    routingTable := some viewerEntry :: List.replicate 15 none
    routingTableTop := 1 }

lemma askedServer_cacheHolds :
    askedServer.CacheHolds (Target.bare Settings.zejfMeteo) [(0, mixedHour)] where
  queue := (LinkedList.ofItems_holds (by decide : [mixedHour].length ≤ 128)).1
  capacity := (LinkedList.ofItems_holds (by decide : [mixedHour].length ≤ 128)).2.1
  wellFormed x hx := by
    rw [List.mem_singleton.mp hx]
    constructor <;> decide

lemma askedServer_networkHolds :
    NetworkHolds (Target.bare Settings.zejfMeteo) askedServer [] [] [viewerEntry] where
  queues := ⟨LinkedList.listCreate_holds ℕ _, LinkedList.listCreate_holds ℕ _, by simp,
    List.nodup_nil, fun a ha => by cases ha⟩
  table := ⟨rfl, rfl, by decide⟩

/-- The answer is two packets, and they tell about both variables. -/
theorem mixedHour_told : ∃ u sent,
    (variablesRequestReceive (Target.bare Settings.zejfMeteo) 0 5).run askedServer = .ok .ok u ∧
      u.QueuesHold sent [] ∧ sent.length = 2 ∧
      ∀ (hour : Viewer.DataHour) (now : ℤ) (lines : List (List UInt8)), hour.hourNumber = 10 →
        List.Forall₂ (fun q => WrittenAs (Target.bare Settings.zejfMeteo) q.packet) sent lines →
        (lines.foldl (Viewer.DataHour.told now) hour).Knows ⟨2, 7⟩ ∧
          (lines.foldl (Viewer.DataHour.told now) hour).Knows ⟨4, 9⟩ := by
  have hlocal : localHour (Target.bare Settings.zejfMeteo) [(0, mixedHour)]
      askedServer.platform 10 = some mixedHour := rfl
  obtain ⟨rv, u, ys, sent, hrun, -, hn, hanswers, htold⟩ :=
    variables_told (n := 10) (a := 0) (p := mixedRequest) askedServer_cacheHolds
      askedServer_networkHolds (by decide) rfl rfl (by decide) ⟨viewerEntry, by simp, rfl⟩ 5
  rw [hlocal] at hanswers
  obtain ⟨rfl, hsent⟩ := hanswers
  refine ⟨u, sent, hrun, hn.queues, ?_, fun hour now lines hnumber hlines => ?_⟩
  · rw [← List.length_map, hsent]
    rfl
  · obtain ⟨hknows, -⟩ := htold mixedHour hlocal rfl hour now lines hnumber hlines
    exact ⟨hknows slowVariable (by simp [mixedHour]), hknows fastVariable (by simp [mixedHour])⟩

end ZejfMeteo
