import SdioWlan.Proofs.ClientTable
import SdioWlan.Proofs.Path
import SdioWlan.Proofs.Routine
import SdioWlan.Proofs.ScriptedChip
import SdioWlan.Proofs.Station.Sending
import SdioWlan.Proofs.Station.Sound

namespace SdioWlan

/-- What the driver hears about the clients, from the chip or from the stack. -/
inductive ClientNews
  | came (mac : Mac)
  | left (mac : Mac)
  | leased (mac : Mac) (lease : Lease)
  | ended
  deriving DecidableEq

def Message.clientNews? : Message → Option ClientNews
  | .event .uapStaAssoc body => (Reply.client? body).map .came
  | .event .uapStaDeauth body => (Reply.client? body).map .left
  | .response id result _ =>
    if result = 0 ∧ (id = .bssStop ∨ id = .funcShutdown) then some .ended else none
  | _ => none

def Step.clientNews? {σ : Type} (m : Step σ) : Option ClientNews :=
  match m.trigger with
  | .call (.leased mac lease) => some (.leased mac lease)
  | _ => m.message.clientNews?

def clientsAfter (S : Finset Mac) : Option ClientNews → Finset Mac
  | none | some (.leased _ _) => S
  | some (.came mac) =>
    if mac ∈ S ∨ ClientTable.defaultCapacity ≤ S.card then S else insert mac S
  | some (.left mac) => S.erase mac
  | some .ended => ∅

def clientsOf {σ : Type} (ms : List (Step σ)) : Finset Mac :=
  ms.foldl (fun S m ↦ clientsAfter S m.clientNews?) ∅

def Action.tellsClients : Action → Bool
  | .stack (.eraseLease _ _) => true
  | .report (.clientConnected _ _) | .report (.clientDisconnected _ _) => true
  | _ => false

/-- What is done about the news when there are the clients of `S`, the latest first. -/
inductive Handled (S : Finset Mac) : Option ClientNews → List Action → Prop
  | admitted {mac : Mac} (h : mac ∈ S ∨ S.card < ClientTable.defaultCapacity) :
      Handled S (some (.came mac)) []
  | rejected {mac : Mac} {c : Command} (h : mac ∉ S) (hf : ClientTable.defaultCapacity ≤ S.card)
      (hi : c.id = .staDeauth) (hb : c.body = mac.toBytes ++ le16 Dot11.Reason.deauthLeaving)
      (base : UInt32) (o : Except Errno Unit) :
      Handled S (some (.came mac)) [c.written base o]
  | dismissed {mac : Mac} (h : mac ∈ S) (lease : Option Lease) :
      Handled S (some (.left mac))
        [.report (.clientDisconnected mac lease), .stack (.eraseLease mac lease)]
  | ignored {mac : Mac} (h : mac ∉ S) : Handled S (some (.left mac)) []
  | welcomed {mac : Mac} {lease : Lease} (h : mac ∈ S) :
      Handled S (some (.leased mac lease)) [.report (.clientConnected mac lease)]
  | unknown {mac : Mac} {lease : Lease} (h : mac ∉ S) : Handled S (some (.leased mac lease)) []
  | quiet {news : Option ClientNews} {l : List Action} (h : news = none ∨ news = some .ended)
      (hl : ∀ a ∈ l, a.tellsClients = false) : Handled S news l

/-- What a step makes of the clients of `S`. -/
structure Step.Admits {σ : Type} (S : Finset Mac) (m : Step σ) : Prop where
  moves : ClientTable.Moves m.before.driver.clients m.after.driver.clients S
    (clientsAfter S m.clientNews?)
  unchanged : clientsAfter S m.clientNews? = S → m.after.driver.clients = m.before.driver.clients
  handled : Handled S m.clientNews? m.actions

inductive Message.Brings : Message → ClientNews → Prop
  | came {body : Bytes} {mac : Mac} (h : Reply.client? body = some mac) :
      Brings (.event .uapStaAssoc body) (.came mac)
  | left {body : Bytes} {mac : Mac} (h : Reply.client? body = some mac) :
      Brings (.event .uapStaDeauth body) (.left mac)
  | ended {id : CommandId} {body : Bytes} (h : id = .bssStop ∨ id = .funcShutdown) :
      Brings (.response id 0 body) .ended

theorem Message.brings {m : Message} {news : ClientNews} (h : m.clientNews? = some news) :
    m.Brings news := by
  unfold clientNews? at h
  split at h
  · obtain ⟨mac, hb, rfl⟩ := Option.map_eq_some_iff.mp h
    exact .came hb
  · obtain ⟨mac, hb, rfl⟩ := Option.map_eq_some_iff.mp h
    exact .left hb
  · split at h
    · rename_i hr
      obtain ⟨rfl, hi⟩ := hr
      cases h
      exact .ended hi
    · cases h
  · cases h

theorem Message.scope_le_of_clientNews? {id : CommandId} {result : UInt8} {body : Bytes}
    (h : (response id result body).clientNews? = none) :
    (response id result body).scope ≤ .accessPoint := by
  by_cases ha : id.scope ≤ .accessPoint
  · rw [scope, if_pos (.inr ha)]
    exact ha
  · have hi : id = .bssStop ∨ id = .funcShutdown := by
      cases id with
      | bssStop => exact .inl rfl
      | funcShutdown => exact .inr rfl
      | macAddr | sysConfigure | bssStart => exact absurd le_rfl ha
      | _ => exact absurd (Scope.station_le _) ha
    have hr : result ≠ 0 := by
      intro hr
      rw [clientNews?, if_pos ⟨hr, hi⟩] at h
      cases h
    rw [scope, if_neg (not_or.mpr ⟨hr, ha⟩)]
    exact Scope.station_le _

theorem Command.encode_staDeauth (mac : Mac) (peer : Peer) :
    ∃ c, encode .staDeauth .get mac.toBytes peer = .ok c ∧ c.id = .staDeauth ∧
      c.body = mac.toBytes ++ le16 Dot11.Reason.deauthLeaving := by
  have hl : (mac.toBytes ++ le16 Dot11.Reason.deauthLeaving).length ≤ maxBody := by
    rw [List.length_append, Mac.length_toBytes, length_le16]
    decide
  have he : encode .staDeauth .get mac.toBytes peer =
      ofBody .staDeauth (mac.toBytes ++ le16 Dot11.Reason.deauthLeaving) := rfl
  exact ⟨_, by rw [he, ofBody, dif_pos hl], rfl, rfl⟩

namespace Session

variable {σ : Type}

abbrev Uninvolved : Session σ → Session σ → Prop :=
  Footprint Driver.clients fun a ↦ a.tellsClients = false

theorem Silent.uninvolved {s t : Session σ} (h : Silent s t) : Uninvolved s t :=
  h.footprint (fun _ ↦ rfl) fun _ ↦ rfl

variable [Platform σ]

theorem uninvolved_confined : Confined .accessPoint (Uninvolved (σ := σ)) := by
  have hn : ¬ Scope.clients ≤ .accessPoint := by decide
  refine footprint_confined (fun d ↦ rfl) ?_ ?_ fun c base o ↦ rfl
  · intro r hr
    cases r with
    | clientConnected | clientDisconnected => exact absurd hr hn
    | _ => rfl
  · intro c hc
    cases c with
    | eraseLease => exact absurd hc hn
    | _ => rfl

theorem uninvolved_relays : Relays (Uninvolved (σ := σ)) where
  transmit := transmit_footprint (fun _ _ ↦ rfl) (fun _ _ ↦ rfl) fun _ _ _ ↦ rfl
  count f role := Footprint.update fun d ↦ by cases role <;> rfl
  deliver _ _ := Footprint.record rfl

theorem perform_uninvolved {c : Call} (hl : ∀ mac lease, c ≠ .leased mac lease) (hi : c ≠ .init)
    (hs : c ≠ .serviceInterrupt) : Guarantees Uninvolved (perform c : Act σ Unit) := by
  cases c with
  | leased mac lease => exact absurd rfl (hl mac lease)
  | sendData payload role => exact uninvolved_relays.sendData payload role
  | _ => exact perform_confined uninvolved_confined (Scope.station_le _) hi hs (by simp)

/-- An event about a client that it does not name comes to nothing. -/
theorem receive_uninvolved {f : Bytes} (h : (Message.ofFrame f).clientNews? = none) :
    Guarantees Uninvolved (receive f : Act σ Unit) := by
  cases hm : Message.ofFrame f with
  | response id result body =>
    rw [hm] at h
    rw [receive_response hm]
    exact answer_confined uninvolved_confined (Message.scope_le_of_clientNews? h)
  | event id body =>
    rw [hm] at h
    rw [receive_event hm]
    cases id with
    | uapStaAssoc | uapStaDeauth =>
      have hn : Reply.client? body = none := Option.map_eq_none_iff.mp h
      refine .lift_bind fun mac hb ↦ ?_
      rw [hn] at hb
      cases hb
    | uapBssStart => exact onEventOf_confined uninvolved_confined le_rfl body
    | _ => exact onEventOf_confined uninvolved_confined (Scope.station_le _) body
  | other =>
    refine receive_confined uninvolved_confined (fun hn ↦ absurd hm hn) ?_
    exact fun _ ↦ uninvolved_relays.onData f

section News

variable {s : Session σ} {body : Bytes} {mac : Mac}

theorem onClientJoined_of_some (hb : Reply.client? body = some mac) {i : Nat} {u : ClientTable}
    (ha : s.driver.clients.admit? mac = some (i, u)) :
    onClientJoined body s = (.ok (), { s with driver := { s.driver with clients := u } }) := by
  simp only [onClientJoined, bind_apply, liftM_apply, hb, required, view_apply, ha, update_apply]

theorem onClientJoined_of_none (hh : s.driver.channel.held = false)
    (hb : Reply.client? body = some mac) (ha : s.driver.clients.admit? mac = none) :
    ∃ (c : Command) (o : Except Errno Unit) (device : σ), c.id = .staDeauth ∧
      c.body = mac.toBytes ++ le16 Dot11.Reason.deauthLeaving ∧
      onClientJoined body s = (o.mapError .transfer,
        ⟨s.driver.sent c o, ⟨device, c.written s.driver.base o :: s.link.past⟩⟩) := by
  obtain ⟨c, hc, hi, hbody⟩ := Command.encode_staDeauth mac
    ⟨s.driver.connection.target.bssid, s.driver.connection.target.capability⟩
  obtain ⟨o, device, ho⟩ := sendCommand_of_not_held hh c
  refine ⟨c, o, device, hi, hbody, ?_⟩
  simp only [onClientJoined, bind_apply, liftM_apply, hb, required, view_apply, ha]
  rw [issue_of_encode (by decide) hc, ho]

theorem onClientLeft_of_none (hb : Reply.client? body = some mac)
    (he : s.driver.clients.evict? mac = none) : onClientLeft body s = (.ok (), s) := by
  simp only [onClientLeft, bind_apply, liftM_apply, hb, required, view_apply, he, pure_apply]

theorem onClientLeft_of_some (hb : Reply.client? body = some mac) {i : Nat} {u : ClientTable}
    (he : s.driver.clients.evict? mac = some (i, u)) :
    ∃ lease device, onClientLeft body s = (.ok (), ⟨{ s.driver with clients := u }, ⟨device,
      [.report (.clientDisconnected mac lease), .stack (.eraseLease mac lease)] ++
        s.link.past⟩⟩) := by
  simp only [onClientLeft, bind_apply, liftM_apply, hb, required, view_apply, he, update_apply]
  exact ⟨_, _, rfl⟩

theorem leased_of_isSome (lease : Lease) (h : (s.driver.clients.find? mac).isSome) :
    perform (.leased mac lease) s = (.ok (), ⟨s.driver, ⟨s.link.device,
      [.report (.clientConnected mac lease)] ++ s.link.past⟩⟩) := by
  simp only [perform, leased, bind_apply, view_apply, h, if_true]
  rfl

theorem leased_of_none (lease : Lease) (h : s.driver.clients.find? mac = none) :
    perform (.leased mac lease) s = (.ok (), s) := by
  simp only [perform, leased, bind_apply, view_apply, h, Option.isSome_none, Bool.false_eq_true,
    if_false, pure_apply]

/-- The end of the access point is the end of its clients, which nobody is told. -/
theorem answer_ended {id : CommandId} (h : id = .bssStop ∨ id = .funcShutdown) (body : Bytes)
    (s : Session σ) :
    (answer id 0 body s).2.driver.clients = s.driver.clients.clear ∧
      ∃ l, (answer id 0 body s).2.link.past = l ++ s.link.past ∧
        ∀ a ∈ l, a.tellsClients = false := by
  rcases h with rfl | rfl
  · exact ⟨rfl, [.report .apStopped, .stack (.linkDown .uap)], rfl, by decide⟩
  · exact ⟨rfl, [.report (.initialized (.error .invalidState))], rfl, by decide⟩

end News

end Session

open Session

namespace Step

variable {σ : Type} {m : Step σ} {S T : Finset Mac}

theorem Admits.intro {u : ClientTable} {l : List Action}
    (hm : ClientTable.Moves m.before.driver.clients u S T)
    (hc : m.after.driver.clients = u) (hl : m.after.link.past = l ++ m.before.link.past)
    (hT : clientsAfter S m.clientNews? = T) (hh : Handled S m.clientNews? l) : m.Admits S := by
  subst hc hT
  refine ⟨hm, fun he ↦ ?_, by rwa [actions_eq hl]⟩
  rw [he] at hm
  exact hm.eq

/-- Nothing is done, as is due. -/
theorem Admits.idle (ht : m.before.driver.clients.Tracks S) (ha : m.after = m.before)
    (hT : clientsAfter S m.clientNews? = S) (hh : Handled S m.clientNews? []) : m.Admits S := by
  refine .intro (l := []) (.refl ht) ?_ ?_ hT hh
  · rw [ha]
  · rw [ha, List.nil_append]

variable [Platform σ]

theorem Genuine.uninvolved (hg : m.Genuine) (hn : m.clientNews? = none) :
    m.before.Uninvolved m.after := by
  refine hg.across (fun _ ↦ Silent.uninvolved) ?_ ?_ ?_
  · intro base
    exact afterPowerUp_confined (uninvolved_confined.mono (Scope.station_le _))
      (fun base ↦ Footprint.update fun d ↦ rfl) base
  · intro c ht hi hs
    refine perform_uninvolved ?_ hi hs
    rintro mac lease rfl
    rw [clientNews?, ht] at hn
    cases hn
  · intro f ht
    apply receive_uninvolved
    simpa only [clientNews?, message, ht] using hn

variable (ht : m.before.driver.clients.Tracks S)
include ht

theorem Genuine.admits_none (hg : m.Genuine) (hn : m.clientNews? = none) : m.Admits S := by
  obtain ⟨hc, l, hl, ha⟩ := hg.uninvolved hn
  refine .intro (.refl ht) hc hl (by rw [hn, clientsAfter]) ?_
  rw [hn]
  exact .quiet (.inl rfl) ha

theorem Genuine.admits_came (hg : m.Genuine) (hh : m.before.driver.channel.held = false)
    (hl : m.before.driver.clients.slots.length = ClientTable.defaultCapacity) {body : Bytes}
    {mac : Mac} (hm : m.message = .event .uapStaAssoc body) (hb : Reply.client? body = some mac)
    (hn : m.clientNews? = some (.came mac)) : m.Admits S := by
  have hr : onClientJoined body m.before = (m.outcome, m.after) := hg.onEventOf_of_event hm
  by_cases hS : mac ∈ S
  · obtain ⟨i, ha⟩ := ht.admit?_of_mem hS
    have he : m.after = m.before :=
      congrArg Prod.snd (hr.symm.trans (onClientJoined_of_some hb ha))
    refine .idle ht he ?_ ?_
    · rw [hn, clientsAfter, if_pos (.inl hS)]
    · rw [hn]
      exact .admitted (.inl hS)
  by_cases hf : S.card < ClientTable.defaultCapacity
  · obtain ⟨i, u, ha, hu⟩ := ht.admit?_of_lt hS (by rwa [hl])
    obtain ⟨-, he⟩ := Prod.mk.inj (hr.symm.trans (onClientJoined_of_some hb ha))
    refine .intro (l := []) hu (by rw [he]) (by rw [he]; rfl) ?_ ?_
    · rw [hn, clientsAfter, if_neg (not_or.mpr ⟨hS, Nat.not_le.mpr hf⟩)]
    · rw [hn]
      exact .admitted (.inr hf)
  · have hfull := Nat.not_lt.mp hf
    have ha := ht.admit?_of_full hS (by rwa [hl])
    obtain ⟨c, o, device, hi, hbody, ho⟩ := onClientJoined_of_none hh hb ha
    obtain ⟨-, he⟩ := Prod.mk.inj (hr.symm.trans ho)
    have hc : m.after.driver.clients = m.before.driver.clients := by
      rw [he]
      have hs := congrArg Driver.clients (Driver.beyond_sent m.before.driver c o .accessPoint)
      exact hs
    refine .intro (l := [c.written m.before.driver.base o]) (.refl ht) hc (by rw [he]; rfl) ?_ ?_
    · rw [hn, clientsAfter, if_pos (.inr hfull)]
    · rw [hn]
      exact .rejected hS hfull hi hbody _ _

theorem Genuine.admits_left (hg : m.Genuine) {body : Bytes} {mac : Mac}
    (hm : m.message = .event .uapStaDeauth body) (hb : Reply.client? body = some mac)
    (hn : m.clientNews? = some (.left mac)) : m.Admits S := by
  have hr : onClientLeft body m.before = (m.outcome, m.after) := hg.onEventOf_of_event hm
  by_cases hS : mac ∈ S
  · obtain ⟨i, u, ha, hu⟩ := ht.evict?_of_mem hS
    obtain ⟨lease, device, ho⟩ := onClientLeft_of_some hb ha
    obtain ⟨-, he⟩ := Prod.mk.inj (hr.symm.trans ho)
    refine .intro hu (by rw [he]) (by rw [he]) (by rw [hn, clientsAfter]) ?_
    rw [hn]
    exact .dismissed hS lease
  · obtain ⟨-, he⟩ :=
      Prod.mk.inj (hr.symm.trans (onClientLeft_of_none hb (ht.evict?_of_not_mem hS)))
    refine .idle ht he ?_ ?_
    · rw [hn, clientsAfter, Finset.erase_eq_of_notMem hS]
    · rw [hn]
      exact .ignored hS

theorem Genuine.admits_ended (hg : m.Genuine) {id : CommandId} {body : Bytes}
    (hi : id = .bssStop ∨ id = .funcShutdown) (hm : m.message = .response id 0 body)
    (hn : m.clientNews? = some .ended) : m.Admits S := by
  obtain ⟨hc, l, hl, ha⟩ := answer_ended hi body m.before
  rw [hg.answer_of_response hm] at hc hl
  refine .intro ht.moves_clear hc hl (by rw [hn, clientsAfter]) ?_
  rw [hn]
  exact .quiet (.inr rfl) ha

theorem Genuine.admits_leased (hg : m.Genuine) {mac : Mac} {lease : Lease}
    (hc : m.trigger = .call (.leased mac lease)) : m.Admits S := by
  have hn : m.clientNews? = some (.leased mac lease) := by rw [clientNews?, hc]
  obtain ⟨-, -, hr⟩ := hg.perform_of_call hc
  have hT : clientsAfter S m.clientNews? = S := by rw [hn, clientsAfter]
  by_cases hS : mac ∈ S
  · have ho := leased_of_isSome lease (ht.find?_isSome_iff.mpr hS)
    obtain ⟨-, he⟩ := Prod.mk.inj (hr.symm.trans ho)
    refine .intro (.refl ht) (by rw [he]) (by rw [he]) hT ?_
    rw [hn]
    exact .welcomed hS
  · have ho := leased_of_none lease (ht.find?_eq_none hS)
    obtain ⟨-, he⟩ := Prod.mk.inj (hr.symm.trans ho)
    refine .idle ht he hT ?_
    rw [hn]
    exact .unknown hS

/-- Whatever a step is, it makes of the clients what is due. -/
theorem Genuine.admits (hg : m.Genuine) (hh : m.before.driver.channel.held = false)
    (hl : m.before.driver.clients.slots.length = ClientTable.defaultCapacity) : m.Admits S := by
  by_cases hc : ∃ mac lease, m.trigger = .call (.leased mac lease)
  · obtain ⟨mac, lease, hc⟩ := hc
    exact hg.admits_leased ht hc
  have hm : m.clientNews? = m.message.clientNews? := by
    unfold clientNews?
    split
    · rename_i mac lease hl
      exact absurd ⟨mac, lease, hl⟩ hc
    · rfl
  cases hn : m.clientNews? with
  | none => exact hg.admits_none ht hn
  | some news =>
    have hb := Message.brings (hm.symm.trans hn)
    generalize hw : m.message = w at hb
    cases hb with
    | came hb => exact hg.admits_came ht hh hl hw hb hn
    | left hb => exact hg.admits_left ht hw hb hn
    | ended hi => exact hg.admits_ended ht hi hw hn

end Step

theorem clientsOf_concat {σ : Type} (ms : List (Step σ)) (m : Step σ) :
    clientsOf (ms ++ [m]) = clientsAfter (clientsOf ms) m.clientNews? := by
  rw [clientsOf, List.foldl_concat, clientsOf]

namespace Session

variable {σ : Type} [Platform σ] {config : Config} {firmware : FirmwareSource} {device : σ}

/-- At the end of a run the table holds the clients that are left of those who came. -/
theorem tracks_clientsOf {ms : List (Step σ)} {s : Session σ}
    (h : Path (fresh config firmware device) ms s) :
    s.driver.clients.Tracks (clientsOf ms) ∧
      s.driver.clients.slots.length = ClientTable.defaultCapacity := by
  refine h.rec_snoc (P := fun ms s ↦ s.driver.clients.Tracks (clientsOf ms) ∧
    s.driver.clients.slots.length = ClientTable.defaultCapacity) ?_ ?_
  · exact ⟨ClientTable.tracks_empty _, rfl⟩
  · intro ms m hp hg hi
    obtain ⟨ht, hl⟩ := hi
    have ha := hg.admits ht (hp.sound (fresh_sound config firmware device)).free hl
    rw [clientsOf_concat]
    exact ⟨ha.moves.after, ha.moves.length.trans hl⟩

theorem admits_of_path {pre : List (Step σ)} {m : Step σ}
    (h : Path (fresh config firmware device) pre m.before) (hg : m.Genuine) :
    m.Admits (clientsOf pre) := by
  obtain ⟨ht, hl⟩ := tracks_clientsOf h
  exact hg.admits ht (h.sound (fresh_sound config firmware device)).free hl

/-- Whoever is a client all along stays where it is. -/
theorem find?_clients_of_path {pre ms : List (Step σ)} {s t : Session σ} {mac : Mac}
    (hp : Path (fresh config firmware device) pre s) (h : Path s ms t)
    (hm : ∀ k, k <+: ms → mac ∈ clientsOf (pre ++ k)) :
    t.driver.clients.find? mac = s.driver.clients.find? mac := by
  refine h.rec_snoc (P := fun ms t ↦ (∀ k, k <+: ms → mac ∈ clientsOf (pre ++ k)) →
    t.driver.clients.find? mac = s.driver.clients.find? mac) (fun _ ↦ rfl) ?_ hm
  intro ms m hms hg ih hm
  have hbefore := ih fun k hk ↦ hm k (hk.trans (List.prefix_append ms [m]))
  have hS := hm ms (List.prefix_append ms [m])
  have hT := hm (ms ++ [m]) (List.prefix_refl _)
  rw [← List.append_assoc, clientsOf_concat] at hT
  exact ((admits_of_path (hp.append hms) hg).moves.unmoved mac hS hT).trans hbefore

/-- In every run, the table holds the clients that history says there are, and each step does what
is due: a client for which there is no slot is sent away, one that leaves is struck out and the
stack and the application are told, a lease is passed on if it is a client's, and nobody hears of
anybody else. Whoever is a client all along stays in its slot. An event names a client by the six
bytes after its first two. -/
theorem clients_follow_history (config : Config) (firmware : FirmwareSource) (device : σ)
    (calls : List Call) :
    let ms := steps calls (fresh config firmware device)
    (run calls (fresh config firmware device)).2.driver.clients.Tracks (clientsOf ms) ∧
      (∀ pre m post, ms = pre ++ m :: post → m.Admits (clientsOf pre)) ∧
      (∀ pre m mid n post mac, ms = pre ++ m :: mid ++ n :: post →
        (∀ k, k <+: m :: mid → mac ∈ clientsOf (pre ++ k)) →
        n.before.driver.clients.find? mac = m.before.driver.clients.find? mac) ∧
      ∀ body : Bytes, (Reply.client? body).map Mac.toBytes =
        if 8 ≤ body.length then some ((body.drop 2).take 6) else none := by
  intro ms
  have hpath : Path (fresh config firmware device) ms _ := steps_path calls _
  refine ⟨(tracks_clientsOf hpath).1, ?_, ?_, ?_⟩
  · intro pre m post hs
    rw [hs] at hpath
    obtain ⟨hp, hg, -⟩ := hpath.around
    exact admits_of_path hp hg
  · intro pre m mid n post mac hs hm
    rw [hs] at hpath
    obtain ⟨hp, -, -⟩ := hpath.around
    obtain ⟨t, hpre, hmid⟩ := hp.split
    have ht : t = m.before := by
      cases hmid
      rfl
    rw [ht] at hpre hmid
    exact find?_clients_of_path hpre hmid hm
  · intro body
    exact Mac.map_toBytes_at? body 2

open ScriptedChip in
/-- Of three clients that come the last is sent away, and the first one leaves. -/
example :
    let came (b : UInt8) := event .uapStaAssoc ++ [0, 0, 6, 0, 0, 0, 0, b]
    let left (b : UInt8) := event .uapStaDeauth ++ [0, 0, 6, 0, 0, 0, 0, b]
    clientsOf (stepsOf (List.replicate 4 .serviceInterrupt) [came 1, came 2, came 3, left 1]) =
      {⟨6, 0, 0, 0, 0, 2⟩} := by
  decide +kernel

end Session

end SdioWlan
