import Rios.Wakes

/-!
# Ports that never stall

Whatever is called on a lab, and whatever the protocols of its devices call in
answer: as long as no call fails for more than the drop of a frame, a queue with
frames has a wake in the event queue that comes no later than its next frame can
leave.
-/

namespace Rios
open Rios.Machine Rios.Link Rios.Ports Rios.Programs
open Rios.Device hiding DeviceError
open Rios.Arp (InterfaceRef)
open Rios.Queue (SimTime ScheduledEvent ScheduleError EventQueue)
open Rios.QosWaits (Kept next_ready_twice next_ready_rejected new_kept)
open Rios.Vlan (EthernetFrame)

namespace Lab
open Program

variable {δ τ : Type} {heap : MaxHeap (ScheduledEvent (SimulationEvent τ)) ScheduledEvent.cmp}
  {start self after : Lab heap δ} {spared : Option InterfaceRef} {firm : InterfaceRef → Prop} (net : Behaviour δ)

/-- An error that is more than the drop of a frame. -/
def Hard (error : LabError) (_ : Lab heap δ) : Prop := error.is_drop = false

/-! ### Calls that touch no queue -/

theorem device_wakes (id : UInt64) : (device id : LabM heap δ (Ports.Device δ)).Leads Hard (Woken start spared firm) :=
  fun state woken => by
    rw [device,yields_bind,yields_get,yields_require]
    exact ⟨fun _ _ => woken,fun _ => rfl⟩

theorem update_device_wakes (id : UInt64) (missing : LabError)
    (method : Ports.Device δ → Except DeviceError (Ports.Device δ)) :
    (update_device id missing method : LabM heap δ PUnit).Keeps (Woken start spared firm) := by
  refine Keeps.get fun state woken => ?_
  rw [yields_bind,yields_require]
  refine ⟨fun device _ => ?_,fun _ => woken⟩
  rw [yields_bind,yields_attempt]
  exact ⟨fun next _ => woken.calm (.device ..),fun _ _ => woken⟩

/-- A method of a device that exists fails only for reasons of the device. -/
theorem update_device_hard {id : UInt64} {missing : LabError} (method : Ports.Device δ → Except DeviceError (Ports.Device δ))
    (woken : Woken start spared firm self) (known : missing.is_drop = false ∨ self.devices.contains id = true) :
    (update_device id missing method : LabM heap δ PUnit).Yields self (fun _ after => Woken start spared firm after ∧
      ∀ other, self.devices.contains other = true → after.devices.contains other = true) Hard := by
  unfold update_device
  rw [yields_bind,yields_get,yields_bind,yields_require]
  refine ⟨fun device _ => ?_,fun none => known.elim (fun hard => hard) fun contained => ?_⟩
  · rw [yields_bind,yields_attempt]
    exact ⟨fun next _ => ⟨woken.calm (.device ..),(Calm.device self id next).devices⟩,fun _ _ => rfl⟩
  · obtain ⟨device,found⟩ := (OrderedMap.contains_iff _ _).mp contained
    rw [none] at found
    cases found

theorem schedule_at_wakes (time : SimTime) {event : SimulationEvent τ}
    (quiet : ∀ time sequence, alarm ⟨time,event,sequence⟩ = none) :
    (schedule_at time event : LabM heap δ PUnit).Keeps (Woken start spared firm) := by
  refine Keeps.get fun state woken => ?_
  rw [yields_bind]
  exact Keeps.attempt _ _ _ (woken.schedule_at time (quiet time))

theorem schedule_after_wakes (delay_ms : UInt64) {event : SimulationEvent τ}
    (quiet : ∀ time sequence, alarm ⟨time,event,sequence⟩ = none) :
    (schedule_after delay_ms event : LabM heap δ PUnit).Keeps (Woken start spared firm) := by
  refine Keeps.get fun state woken => ?_
  rw [yields_bind]
  exact Keeps.attempt _ _ _ (woken.schedule_after delay_ms quiet)

theorem advance_to_wakes (time : SimTime) : (advance_to time : LabM heap δ PUnit).Keeps (Woken start spared firm) := by
  refine Keeps.get fun state woken => ?_
  rw [yields_bind]
  exact Keeps.attempt _ _ _ (woken.advance_to time)

/-! ### Admission -/

theorem count_full_wakes (woken : Woken start spared firm self) (source : InterfaceRef) (reason : DropReason) :
    Woken start spared firm (if reason = .QueueFull then self.count_queue_drop source else self) := by
  by_cases full : reason = .QueueFull
  · rw [if_pos full]
    exact woken.calm (.count_queue_drop ..)
  · rw [if_neg full]
    exact woken

theorem qos_drop_wakes (source : InterfaceRef) (reason : DropReason) :
    (qos_drop source reason : LabM heap δ PUnit).Keeps (Woken start spared firm) :=
  (update_device_wakes _ _ _).bind fun _ => Keeps.modify fun _ woken => count_full_wakes woken source reason

variable {source : InterfaceRef}

/-- The drop of a frame at a device that exists is no drop of the caller. -/
theorem qos_drop_hard (woken : Woken start spared firm self) (reason : DropReason)
    (known : self.devices.contains source.device = true) : (qos_drop source reason : LabM heap δ PUnit).Yields self
      (fun _ after => Woken start spared firm after ∧ after.devices.contains source.device = true) Hard := by
  unfold qos_drop record_drop
  rw [yields_bind]
  refine (update_device_hard _ woken (.inr known)).mono (fun _ after kept => ⟨count_full_wakes kept.1 source reason,?_⟩)
    fun _ _ hard => hard
  have here := kept.2 _ known
  dsimp only
  by_cases full : reason = .QueueFull
  · rw [if_pos full]
    exact (Calm.count_queue_drop _ source).devices _ here
  · rw [if_neg full]
    exact here

theorem ship_wakes (link : Link) (arrival : SimTime) {event : SimulationEvent τ} (loss_sample : UInt64)
    (quiet : ∀ time sequence, alarm ⟨time,event,sequence⟩ = none) :
    (ship link arrival event loss_sample : LabM heap δ PUnit).Keeps (Woken start spared firm) := by
  refine Keeps.get fun state woken => ?_
  rw [yields_bind]
  exact Keeps.attempt _ _ _ ((woken.schedule_at arrival (quiet arrival)).same rfl rfl rfl rfl rfl rfl rfl)

theorem admit_on_link_wakes (source : InterfaceRef) (frame : EthernetFrame) :
    (admit_on_link source frame : LabM heap δ PUnit).Keeps (Woken start spared firm) := by
  refine Keeps.get fun state woken => ?_
  rw [yields_bind,yields_modify,yields_bind,yields_require]
  generalize state.rng.sample = jitter
  generalize jitter.2.sample = loss
  -- the random stream is all that the state differs in
  obtain ⟨lab,drawn⟩ : ∃ lab : Lab heap δ, lab = { state with rng := loss.2 } := ⟨_,rfl⟩
  have kept : Woken start spared firm lab := by
    rw [drawn]
    exact woken.draw _
  have same : lab.link_at source = state.link_at source ∧ lab.now = state.now := by
    rw [drawn]
    exact link_at_rng ..
  rw [← drawn,← same.1,← same.2]
  clear drawn same
  refine ⟨fun found at_source => ?_,fun _ => kept⟩
  obtain ⟨id,link⟩ := found
  have admits := DirectionalLinkRuntime.admit_admits (link.direction source) link.config lab.now (frame_len frame) jitter.1 loss.1
  dsimp only
  generalize (link.direction source).admit_frame link.config lab.now (frame_len frame) jitter.1 loss.1 = admission at admits ⊢
  rw [yields_bind,yields_modify]
  have goes_on : ∀ runtime : DirectionalLinkRuntime, (link.direction source).available_at lab.now ≤ runtime.available_at lab.now →
      Woken start spared firm { lab with links := lab.links.insert id (link.with_direction source runtime) } :=
    fun runtime available => kept.calm (.direction (link_at_some at_source).2 source available)
  cases admits with
  | full runtime quiet available => exact ((update_device_wakes _ _ _).bind fun _ => Keeps.throw _) _ (goes_on _ available.ge)
  | overflow error runtime quiet available => exact goes_on _ available.ge
  | reserved finish arrival lost before quiet free due behind =>
    have future := (DirectionalLinkRuntime.le_available_at (link.direction source) lab.now).trans free
    have busy := DirectionalLinkRuntime.available_at_reserve before arrival (frame_len frame) future
    exact ((ship_wakes link arrival loss.1 fun _ _ => rfl).bind fun _ => update_device_wakes _ _ _) _ (goes_on _ (free.trans busy.ge))

theorem transmit_on_link_wakes (source : InterfaceRef) (frame : EthernetFrame) :
    (transmit_on_link net source frame : LabM heap δ PUnit).Keeps (Woken start spared firm) := by
  refine Keeps.bind (fun state woken => Keeps.get (fun lab kept => Keeps.require _ _ lab kept) state woken) fun device =>
    (Keeps.require _ _).bind fun _ => Keeps.get fun state woken => ?_
  cases state.check_transmit net device source frame with
  | error reason => exact ((update_device_wakes _ _ _).bind fun _ => Keeps.throw _) state woken
  | ok done => exact admit_on_link_wakes source frame state woken

/-! ### Output queues -/

/-- A frame that leaves its queue is transmitted or dropped, and neither is a drop of the caller. -/
theorem depart_wakes (source : InterfaceRef) (packet : EthernetFrame) :
    (depart net source packet : LabM heap δ PUnit).Leads Hard (Woken start spared firm) := by
  intro state woken
  unfold depart device
  rw [yields_bind,yields_bind,yields_get,yields_require]
  refine ⟨fun device found => ?_,fun _ => rfl⟩
  cases blocked net device source packet with
  | some reason =>
    exact (qos_drop_hard woken reason ((OrderedMap.contains_iff _ _).mpr ⟨device,found⟩)).mono (fun _ _ kept => kept.1)
      fun _ _ hard => hard
  | none => exact (transmit_on_link_wakes net source packet).spares.forgive state woken

theorem release_wakes (source : InterfaceRef) (available : SimTime) :
    (release net source available : LabM heap δ PUnit).Leads Hard (Woken start (some source) firm) := by
  intro state woken
  unfold release
  rw [yields_bind,yields_get]
  by_cases free : available ≤ state.now
  · rw [if_pos free]
    cases found : state.qos_queues.get? source with
    | none => exact woken
    | some runtime =>
      dsimp only
      rw [yields_bind,yields_modify]
      have kept := (woken.owned source runtime found).queue.after (.dequeue_ready state.now) le_rfl
      have departed : Woken start (some source) firm { state with
          qos_queues := state.qos_queues.insert source { runtime with queue := (runtime.queue.dequeue_ready state.now).2 } } :=
        woken.call found kept (fun _ _ known => known) (fun _ same => .inr same) fun _ _ _ _ _ => .inl rfl
      cases (runtime.queue.dequeue_ready state.now).1 with
      | none => exact departed
      | some departure => exact depart_wakes net source departure.packet _ departed
  · rw [if_neg free]
    exact woken

/-- A spared port is armed: an earlier wake suffices, or one is set. -/
theorem arm_wakes (woken : Woken start (some source) firm self) {runtime : QosPortRuntime}
    (found : self.qos_queues.get? source = some runtime) {first : SimTime}
    (ready : (runtime.queue.next_ready self.now).1 = .ok (some first)) {id : UInt64} {link : Link}
    (there : self.link_at source = some (id,link)) :
    (arm source runtime (max first ((link.direction source).available_at self.now)) : LabM heap δ PUnit).Yields self
      (fun _ after => Woken start none firm after) Hard := by
  unfold arm
  by_cases earlier : (runtime.wakes.entries.head?).any
      (fun wake => wake.1 ≤ max first ((link.direction source).available_at self.now)) = true
  · rw [if_pos earlier]
    refine woken.unspared fun known id' link' present cabled _ _ => ?_
    obtain rfl : runtime = known := Option.some.inj (found.symm.trans present)
    obtain ⟨rfl,rfl⟩ := Prod.mk.inj (Option.some.inj (there.symm.trans cabled))
    cases head : runtime.wakes.entries.head? with
    | none =>
      rw [head] at earlier
      cases earlier
    | some wake =>
      rw [head] at earlier
      exact ⟨first,wake.1,wake.2,ready,(OrderedMap.get?_eq_some _ _ _).mpr (List.mem_of_mem_head? head),of_decide_eq_true earlier⟩
  · rw [if_neg earlier,yields_bind,yields_get,yields_bind,yields_require]
    refine ⟨fun epoch next => ?_,fun _ => rfl⟩
    rw [yields_bind,yields_modify,yields_bind]
    unfold Lab.schedule_at
    rw [yields_bind,yields_get,yields_bind,yields_modify,yields_attempt]
    refine ⟨fun _ accepted => ?_,fun _ _ => rfl⟩
    rw [yields_modify]
    refine woken.arm found next ready (fun id' link' cabled => ?_) accepted
    obtain ⟨rfl,rfl⟩ := Prod.mk.inj (Option.some.inj (there.symm.trans cabled))
    exact le_rfl

theorem schedule_qos_wakes (woken : Woken start (some source) firm self) :
    (schedule_qos source : LabM heap δ PUnit).Yields self (fun _ after => Woken start none firm after) Hard := by
  unfold schedule_qos
  rw [yields_bind,yields_get]
  cases there : self.link_at source with
  | none =>
    refine woken.unspared fun runtime id link _ cabled => ?_
    rw [there] at cabled
    cases cabled
  | some cable =>
    obtain ⟨id,link⟩ := cable
    cases found : self.qos_queues.get? source with
    | none =>
      refine woken.unspared fun runtime id link present => ?_
      rw [found] at present
      cases present
    | some runtime =>
      dsimp only
      rw [yields_bind,yields_modify,yields_bind,yields_attempt]
      have owned := woken.owned source runtime found
      let asked : QosPortRuntime := { runtime with queue := (runtime.queue.next_ready self.now).2 }
      have looked : Woken start (some source) firm { self with qos_queues := self.qos_queues.insert source asked } :=
        woken.call found (owned.queue.after (.next_ready self.now) le_rfl) (fun _ _ known => known) (fun _ same => .inr same)
          fun _ _ _ _ _ => .inl rfl
      have present : (self.qos_queues.insert source asked).get? source = some asked := OrderedMap.get?_insert_self ..
      refine ⟨fun answer ready => ?_,fun _ _ => rfl⟩
      cases answer with
      | none =>
        refine looked.unspared fun known id link here _ _ waiting => ?_
        obtain rfl : asked = known := Option.some.inj (present.symm.trans here)
        have empty : asked.queue.length = 0 := owned.queue.next_ready_none ready
        exact absurd waiting (by rw [empty]; exact lt_irrefl 0)
      | some first =>
        exact arm_wakes looked present ((next_ready_twice runtime.queue self.now).trans ready) there

/-- A spared port is serviced, and waits for its next frame. -/
theorem service_qos_wakes (woken : Woken start (some source) firm self) :
    (service_qos net source : LabM heap δ PUnit).Yields self (fun _ after => Woken start none firm after) Hard := by
  unfold service_qos
  rw [yields_bind,yields_get]
  cases there : self.link_at source with
  | none =>
    refine woken.unspared fun runtime id link _ cabled => ?_
    rw [there] at cabled
    cases cabled
  | some cable =>
    dsimp only
    rw [yields_bind]
    exact (release_wakes net source _ self woken).mono (fun _ after kept => schedule_qos_wakes kept) fun _ _ hard => hard

/-- The queue of a port is the one it has, or a new one without frames. -/
theorem qos_runtime_wakes (woken : Woken start none firm self) {id : UInt64} {link : Link} (profile : QosProfile)
    (there : self.link_at source = some (id,link)) (known : self.devices.contains source.device = true) :
    (qos_runtime source profile link : LabM heap δ QosPortRuntime).Yields self
      (fun runtime after => Woken start none firm after ∧ after.qos_queues.get? source = some runtime ∧ after.now = self.now) Hard := by
  unfold qos_runtime
  rw [yields_bind,yields_get]
  cases found : self.qos_queues.get? source with
  | some runtime => exact ⟨woken,found,rfl⟩
  | none =>
    dsimp only
    rw [yields_bind,yields_attempt]
    refine ⟨fun queue created => ?_,fun _ _ => rfl⟩
    rw [yields_bind,yields_modify]
    obtain ⟨kept,empty⟩ := new_kept created
    let fresh : QosPortRuntime := ⟨profile,link.id,link.generation,link.config.queue_packets,queue,∅⟩
    refine ⟨woken.put ?_ (fun _ => ⟨id,link,there,rfl,rfl⟩) (fun time epoch impossible => (by cases impossible))
      (fun _ same => .inr same) fun _ _ _ _ waiting => ?_,OrderedMap.get?_insert_self ..,rfl⟩
    · refine ⟨known,woken.numbered id link (link_at_some there).2,kept,fun key cable here _ => ?_⟩
      obtain ⟨-,rfl⟩ := Prod.mk.inj (Option.some.inj (there.symm.trans here))
      exact le_rfl
    · exact absurd waiting (by rw [show fresh.queue.length = 0 from empty]; exact lt_irrefl 0)

theorem enqueue_qos_wakes (source : InterfaceRef) (profile : QosProfile) (frame : EthernetFrame) :
    (enqueue_qos net source profile frame : LabM heap δ PUnit).Spares LabError.is_drop (Woken start none firm) := by
  intro state woken
  unfold enqueue_qos device
  rw [yields_bind,yields_get]
  cases there : state.link_at source with
  | none => exact ((qos_drop_wakes source _).bind fun _ => Keeps.throw _).spares state woken
  | some cable =>
    obtain ⟨id,link⟩ := cable
    dsimp only
    rw [yields_bind,yields_bind,yields_get,yields_require]
    refine ⟨fun device known => ?_,fun _ impossible => (by cases impossible)⟩
    rw [yields_bind,yields_require]
    refine ⟨fun index _ => ?_,fun _ impossible => (by cases impossible)⟩
    rw [yields_bind]
    refine (qos_runtime_wakes woken profile there ((OrderedMap.contains_iff _ _).mpr ⟨device,known⟩)).mono
      (fun runtime lab made => ?_) fun error _ hard soft => absurd soft (Bool.eq_false_iff.mp hard)
    obtain ⟨kept,found,now⟩ := made
    rw [yields_bind,yields_modify]
    generalize bytes_u64 (frame_len frame) = bytes
    generalize (link.direction source).queued state.now = in_flight
    have owned := kept.owned source runtime found
    have called := owned.queue.after (.enqueue index state.now frame bytes in_flight) now.le
    have up_to_date : Kept lab.now (runtime.queue.enqueue index state.now frame bytes in_flight).2 := now ▸ called
    cases outcome : (runtime.queue.enqueue index state.now frame bytes in_flight).1 with
    | error rejected =>
      -- a frame that is handed back leaves the wake early enough
      refine ((qos_drop_wakes source _).bind fun _ => Keeps.throw _).spares _ (kept.call found up_to_date
        (fun _ _ same => same) (fun _ same => .inr same) fun key cable here on waiting => ?_)
      obtain ⟨length,answer⟩ := next_ready_rejected outcome
      rw [length] at waiting
      rcases kept.armed source runtime key cable found here on waiting with exempt | ⟨first,time,epoch,ready,recorded,early⟩
      · exact .inl exempt
      · refine .inr ⟨first,time,epoch,?_,recorded,early⟩
        rw [now] at ready ⊢
        exact answer.trans ready
    | ok done =>
      have spared : Woken start (some source) firm { lab with
          qos_queues := lab.qos_queues.insert source { runtime with
            queue := (runtime.queue.enqueue index state.now frame bytes in_flight).2 } } :=
        kept.call found up_to_date (fun _ _ same => same) (fun _ same => absurd same (by simp)) fun _ _ _ _ _ => .inl rfl
      exact (service_qos_wakes net spared).mono (fun _ _ kept => kept) fun error _ hard soft =>
        absurd soft (Bool.eq_false_iff.mp hard)

theorem transmit_wakes (source : InterfaceRef) (frame : EthernetFrame) :
    (transmit net source frame : LabM heap δ PUnit).Spares LabError.is_drop (Woken start none firm) := by
  intro state woken
  unfold transmit
  rw [yields_bind,yields_get]
  refine (Leads.bind (device_wakes source.device).spares fun device => ?_) state woken
  cases net.qos_profile device source.interface (state.link_rate source) with
  | none => exact (transmit_on_link_wakes net source frame).spares
  | some profile =>
    dsimp only
    cases device.check_frame net source.interface frame false with
    | error reason => exact ((qos_drop_wakes source reason).bind fun _ => Keeps.throw _).spares
    | ok done => exact enqueue_qos_wakes net source profile frame

/-! ### Carrier -/

theorem set_port_state_wakes (endpoint : InterfaceRef) (state : LinkState) :
    (set_port_state net endpoint state : LabM heap δ PUnit).Leads Hard (Woken start spared firm) :=
  fun _ woken => (update_device_hard _ woken (.inl rfl)).mono (fun _ _ kept => kept.1) fun _ _ hard => hard

/-- The turn of one cable: queues on it may no longer be attached. -/
theorem refresh_link_wakes (id : UInt64) :
    (refresh_link net id : LabM heap δ PUnit).Leads Hard (Woken start spared fun _ => False) := by
  intro state woken
  unfold refresh_link
  rw [yields_bind,yields_get]
  cases found : state.links.get? id with
  | none => exact woken
  | some link =>
    dsimp only
    rw [yields_bind]
    have ports : ∀ lab : Lab heap δ, Woken start spared (fun _ => False) lab → Yields
        (do
          set_port_state net link.endpoint_a (if state.carrier link then .Up else .Down)
          set_port_state net link.endpoint_b (if state.carrier link then .Up else .Down) : LabM heap δ PUnit) lab
        (fun _ after => Woken start spared (fun _ => False) after) Hard :=
      Leads.bind (set_port_state_wakes net link.endpoint_a _) fun _ => set_port_state_wakes net link.endpoint_b _
    have switched : (switch_carrier id link (state.carrier link) : LabM heap δ PUnit).Yields state
        (fun _ after => Woken start spared (fun _ => False) after) Hard := by
      unfold switch_carrier
      by_cases same : state.carrier link = link.active
      · rw [if_pos same]
        exact woken
      · rw [if_neg same,yields_bind,yields_require]
        exact ⟨fun generation next => woken.onward (.switched found _ next) fun _ _ never => never.elim,fun _ => rfl⟩
    exact switched.mono (fun _ after kept => ports after kept) fun _ _ hard => hard

/-- A queue that is dissolved need not be attached. -/
theorem dissolve_wakes (source : InterfaceRef) (reason : DropReason) (woken : Woken start spared firm self) :
    (dissolve source reason : LabM heap δ PUnit).Yields self
      (fun _ after => Woken start spared (fun other => firm other ∨ other = source) after) Hard := by
  unfold dissolve
  rw [yields_bind,yields_get,yields_bind,yields_modify]
  have erased := woken.erase source
  cases found : self.qos_queues.get? source with
  | none => exact erased
  | some runtime =>
    have known := (woken.owned source runtime found).device
    -- every drop keeps the device, at which the next one is recorded
    have drops : (qos_drop source reason : LabM heap δ PUnit).Leads Hard (fun lab =>
        Woken start spared (fun other => firm other ∨ other = source) lab ∧ lab.devices.contains source.device = true) :=
      fun _ held => qos_drop_hard held.1 reason held.2
    exact (Leads.forM _ (fun _ _ => drops) _ ⟨erased,known⟩).mono (fun _ _ kept => kept.1) fun _ _ hard => hard

theorem dissolve_all_wakes (stale : List (InterfaceRef × DropReason))
    (woken : Woken start spared (fun source => source ∉ stale.map (·.1)) self) :
    (stale.forM (fun entry => dissolve entry.1 entry.2) : LabM heap δ PUnit).Yields self
      (fun _ after => Woken start spared (fun _ => True) after) Hard := by
  induction stale generalizing self with
  | nil => exact woken.loosen fun _ _ => List.not_mem_nil
  | cons entry rest ih =>
    show (dissolve entry.1 entry.2 >>= fun _ => rest.forM fun entry => dissolve entry.1 entry.2 : LabM heap δ PUnit).Yields _ _ _
    rw [yields_bind]
    refine (dissolve_wakes entry.1 entry.2 woken).mono (fun _ lab kept => ih (kept.loosen fun source absent => ?_)) fun _ _ hard => hard
    by_cases same : source = entry.1
    · exact .inr same
    · exact .inl fun member => (List.mem_cons.mp member).elim same absent

/-- A queue that is not stale is attached to its cable. -/
theorem stale_reason_none {runtime : QosPortRuntime} (fresh : self.stale_reason net source runtime = none) :
    ∃ id link, self.link_at source = some (id,link) ∧ runtime.On link := by
  unfold stale_reason at fresh
  split_ifs at fresh with gone changed
  cases there : self.link_at source with
  | none =>
    rw [there] at gone
    exact absurd rfl gone
  | some cable =>
    rw [there,Option.all_some,Bool.or_eq_true,not_or] at gone
    simp only [decide_eq_true_eq,not_not] at gone
    exact ⟨cable.1,cable.2,rfl,gone.1,gone.2⟩

/-- Every queue that stays is attached to its cable. -/
theorem refresh_qos_wakes (woken : Woken start spared (fun _ => False) self) :
    (refresh_qos net : LabM heap δ PUnit).Yields self (fun _ after => Woken start spared (fun _ => True) after) Hard := by
  unfold refresh_qos
  rw [yields_bind,yields_get]
  refine dissolve_all_wakes _ ⟨woken.numbered,woken.owned,fun source runtime kept found => ?_,woken.alarms,woken.epoch,woken.since,
    woken.armed⟩
  refine stale_reason_none net (Option.eq_none_iff_forall_ne_some.mpr fun reason stale => kept ?_)
  refine List.mem_map.mpr ⟨(source,reason),List.mem_filterMap.mpr
    ⟨(source,runtime),(OrderedMap.get?_eq_some _ _ _).mp found,?_⟩,rfl⟩
  rw [stale]
  rfl

theorem refresh_carriers_wakes (woken : Woken start spared (fun _ => False) self) :
    (refresh_carriers net : LabM heap δ PUnit).Yields self (fun _ after => Woken start spared (fun _ => True) after) Hard := by
  unfold refresh_carriers
  rw [yields_bind,yields_get,yields_bind]
  refine (Leads.forM _ (fun id _ => refresh_link_wakes net id) _ woken).mono (fun _ lab kept => ?_) fun _ _ hard => hard
  rw [yields_bind,yields_modify]
  refine refresh_qos_wakes net (kept.calm (.inventory fun id known => ?_))
  obtain ⟨device,found⟩ := (OrderedMap.contains_iff _ _).mp known
  exact (OrderedMap.contains_iff _ _).mpr ⟨device.refresh_svi_states net,by rw [OrderedMap.get?_mapValues,found]; rfl⟩

/-- An interface to be cabled is only looked at. -/
theorem free_port_looks (lab : Lab heap δ) (endpoint : InterfaceRef) :
    (free_port endpoint : LabM heap δ Interface).Yields lab (fun _ after => after = lab) Hard := by
  unfold free_port device
  rw [yields_bind,yields_bind,yields_get,yields_require]
  refine ⟨fun device _ => ?_,fun _ => rfl⟩
  rw [yields_bind,yields_require]
  refine ⟨fun interface _ => ?_,fun _ => rfl⟩
  by_cases ethernet : (!interface.kind.is_ethernet) = true
  · rw [if_pos ethernet]
    exact rfl
  · rw [if_neg ethernet,yields_bind,yields_get]
    by_cases plugged : lab.ports.contains endpoint = true
    · rw [if_pos plugged]
      exact rfl
    · rw [if_neg plugged]
      exact rfl

theorem connect_configured_wakes (a b : InterfaceRef) (config : LinkConfig) :
    (connect_configured net a b config : LabM heap δ UInt64).Leads Hard (Woken start spared fun _ => True) := by
  intro state woken
  unfold connect_configured
  rw [yields_bind,yields_attempt]
  refine ⟨fun _ _ => ?_,fun _ _ => rfl⟩
  by_cases same : a = b
  · rw [if_pos same]
    exact rfl
  · rw [if_neg same,yields_bind]
    refine (free_port_looks state a).mono (fun port_a after found => ?_) fun _ _ hard => hard
    rw [yields_bind,found]
    refine (free_port_looks state b).mono (fun port_b after found => ?_) fun _ _ hard => hard
    rw [found]
    by_cases media : port_a.media ≠ port_b.media
    · rw [if_pos media]
      exact rfl
    · rw [if_neg media,yields_bind,yields_get,yields_bind,yields_require]
      refine ⟨fun id next => ?_,fun _ => rfl⟩
      rw [yields_bind,yields_modify,yields_bind]
      exact (refresh_carriers_wakes net (woken.connect config next)).mono (fun _ _ kept => kept) fun _ _ hard => hard

theorem disconnect_wakes (id : UInt64) :
    (disconnect net id : LabM heap δ PUnit).Leads Hard (Woken start spared fun _ => True) := by
  intro state woken
  unfold disconnect
  rw [yields_bind,yields_get,yields_bind,yields_require]
  refine ⟨fun link _ => ?_,fun _ => rfl⟩
  rw [yields_bind,yields_modify,yields_bind]
  have cut : Woken start spared (fun _ => False) { state with
      links := state.links.erase id, ports := (state.ports.erase link.endpoint_a).erase link.endpoint_b } :=
    woken.onward (.disconnect ..) fun _ _ never => never.elim
  refine (set_port_state_wakes net link.endpoint_a .Down _ cut).mono (fun _ lab kept => ?_) fun _ _ hard => hard
  rw [yields_bind]
  exact (set_port_state_wakes net link.endpoint_b .Down lab kept).mono (fun _ _ kept => refresh_carriers_wakes net kept)
    fun _ _ hard => hard

theorem set_link_state_wakes (id : UInt64) (state : LinkState) :
    (set_link_state net id state : LabM heap δ PUnit).Leads Hard (Woken start spared fun _ => True) := by
  intro lab woken
  unfold set_link_state
  rw [yields_bind,yields_get,yields_bind,yields_require]
  refine ⟨fun link found => ?_,fun _ => rfl⟩
  rw [yields_bind,yields_modify]
  have succeeds : Succeeds lab.now link { link with state } := ⟨rfl,le_rfl,fun _ _ => le_rfl⟩
  exact refresh_carriers_wakes net (woken.calm (.replace found succeeds rfl)).detach

theorem with_device_mut_wakes (id : UInt64) (edit : Ports.Device δ → Ports.Device δ) :
    (with_device_mut net id edit : LabM heap δ PUnit).Leads Hard (Woken start spared fun _ => True) := by
  intro state woken
  unfold with_device_mut device
  rw [yields_bind,yields_bind,yields_get,yields_require]
  refine ⟨fun original _ => ?_,fun _ => rfl⟩
  dsimp only
  by_cases replaced : replaces original (edit original) = true
  · rw [if_pos replaced]
    exact rfl
  · rw [if_neg replaced,yields_bind,yields_get,yields_bind,yields_attempt]
    refine ⟨fun candidate _ => ?_,fun _ _ => rfl⟩
    rw [yields_bind,yields_modify]
    exact refresh_carriers_wakes net (woken.calm (.device ..)).detach

theorem add_device_wakes (id : UInt64) (device : Ports.Device δ) :
    (add_device net id device : LabM heap δ PUnit).Leads Hard (Woken start spared firm) := by
  intro state woken
  unfold add_device
  rw [yields_bind,yields_get]
  by_cases known : state.devices.contains id = true
  · rw [if_pos known]
    exact rfl
  · rw [if_neg known,yields_bind,yields_attempt]
    exact ⟨fun added _ => woken.calm (.device ..),fun _ _ => rfl⟩

theorem schedule_link_state_wakes (id : UInt64) (state : LinkState) (time : SimTime) :
    (schedule_link_state id state time : LabM heap δ PUnit).Keeps (Woken start spared firm) :=
  Keeps.get fun lab woken => ((Keeps.require _ _).bind fun _ => schedule_at_wakes time fun _ _ => rfl) lab woken

/-! ### Reactions -/

theorem perform_wakes (call : Call δ τ) :
    (perform net call : LabM heap δ PUnit).Spares LabError.is_drop (Woken start none firm) := by
  cases call with
  | transmit source frame => exact (transmit_wakes net source frame).forgive.spares
  | schedule_at time timer => exact (schedule_at_wakes time fun _ _ => rfl).spares
  | schedule_after delay_ms timer => exact (schedule_after_wakes delay_ms fun _ _ => rfl).spares
  | edit device edit => exact (update_device_wakes _ _ _).spares

theorem react_wakes (reaction : Reaction δ τ) :
    (react net reaction : LabM heap δ PUnit).Spares LabError.is_drop (Woken start none firm) := by
  refine (Leads.forM _ fun call _ => perform_wakes net call).bind fun _ => ?_
  cases reaction.failure with
  | none => exact (Keeps.pure _).spares
  | some error => exact (Keeps.throw _).spares

/-! ### Arrival -/

theorem check_arrival_wakes (link generation : UInt64) (interface : InterfaceRef) (frame : EthernetFrame) (lost : Bool) :
    (check_arrival net link generation interface frame lost : LabM heap δ (Except DropReason Unit)).Keeps (Woken start spared firm) := by
  refine Keeps.get fun state woken => ?_
  by_cases gone : (!(state.links.get? link).any (fun cable => cable.active && cable.generation = generation)) = true
  · rw [if_pos gone]
    exact woken
  · rw [if_neg gone]
    by_cases loss : lost = true
    · rw [if_pos loss]
      exact woken
    · rw [if_neg loss]
      unfold device
      rw [yields_bind,yields_bind,yields_get,yields_require]
      exact ⟨fun _ _ => woken,fun _ => woken⟩

theorem count_arrival_wakes (woken : Woken start spared firm self) (link : UInt64) (source : InterfaceRef)
    (frame : EthernetFrame) (check : Except DropReason Unit) (arrived : List (Arrival τ)) :
    Woken start spared firm { self.count_arrival link source frame check with arrived } := by
  have counted : Woken start spared firm (self.count_arrival link source frame check) := by
    unfold count_arrival
    cases found : self.links.get? link with
    | none => exact woken
    | some cable => exact woken.calm (.direction found source le_rfl)
  exact counted.same rfl rfl rfl rfl rfl rfl rfl

theorem accept_wakes (reaction : Reaction δ τ) (interface : InterfaceRef) (frame : EthernetFrame) :
    (accept net reaction interface frame : LabM heap δ (Option EventOutcome)).Spares LabError.is_drop (Woken start none firm) := by
  unfold accept
  refine Leads.bind (update_device_wakes _ _ _).spares fun _ => ?_
  by_cases control : is_lacp_frame frame = true
  · rw [if_pos control]
    exact (react_wakes net reaction).bind fun _ => (Keeps.pure _).spares
  · rw [if_neg control]
    refine Leads.bind (device_wakes _).spares fun device => ?_
    cases device.channel_ingress net interface.interface with
    | error reason => exact Leads.bind (update_device_wakes _ _ _).spares fun _ => (Keeps.pure _).spares
    | ok logical =>
      dsimp only
      have answered : (do
          react net reaction
          pure (if is_stp_frame frame then none else some (.FrameReceived interface frame)) :
            LabM heap δ (Option EventOutcome)).Spares LabError.is_drop (Woken start none firm) :=
        (react_wakes net reaction).bind fun _ => (Keeps.pure _).spares
      by_cases same : logical = interface.interface
      · simp only [if_pos same]
        exact answered
      · simp only [if_neg same]
        exact Leads.bind (update_device_wakes _ _ _).spares fun _ => answered

theorem receive_wakes (reaction : Reaction δ τ) (event : ScheduledEvent (SimulationEvent τ)) (link generation : UInt64)
    (interface : InterfaceRef) (frame : EthernetFrame) (source : InterfaceRef) (lost : Bool) :
    (receive net reaction event link generation interface frame source lost : LabM heap δ (Option EventOutcome)).Spares
      LabError.is_drop (Woken start none firm) := by
  unfold receive
  refine Leads.bind (check_arrival_wakes net link generation interface frame lost).spares fun check => ?_
  intro state woken
  rw [yields_bind,yields_modify]
  have counted := count_arrival_wakes woken link source frame check (state.arrived ++ [⟨event,state.links.get? link,check⟩])
  cases check with
  | ok done => exact accept_wakes net reaction interface frame _ counted
  | error reason => exact Leads.bind (update_device_wakes _ _ _).spares (fun _ => (Keeps.pure _).spares) _ counted

/-! ### Steps -/

/-- A wake that its port has not recorded does nothing. -/
theorem stale_wake {time : SimTime} {epoch : UInt64} (now : self.now = time)
    (unrecorded : ¬ self.Recorded source time epoch) :
    (qos_timer net source epoch : LabM heap δ PUnit).exec self = (.ok ⟨⟩,self) := by
  have quiet : (qos_timer net source epoch : LabM heap δ PUnit).Yields self (fun _ after => after = self) (fun _ _ => False) := by
    unfold qos_timer
    rw [yields_bind,yields_get]
    cases found : self.qos_queues.get? source with
    | none => exact rfl
    | some runtime =>
      dsimp only
      have other : runtime.wakes.get? self.now ≠ some epoch := fun known => unrecorded ⟨runtime,found,now ▸ known⟩
      rw [if_pos other]
      exact rfl
  unfold Yields at quiet
  rcases ran : (qos_timer net source epoch : LabM heap δ PUnit).exec self with ⟨error | done,next⟩
  · rw [ran] at quiet
    exact quiet.elim
  · rw [ran] at quiet
    rw [show next = self from quiet]

/-- A wake that finds the transmitter free and a frame due lets the frame out. -/
theorem qos_timer_departs {epoch : UInt64} {runtime : QosPortRuntime} {id : UInt64} {link : Link}
    {departure : Qos.QosDeparture EthernetFrame} {rest : Qos.QosScheduler EthernetFrame}
    (found : self.qos_queues.get? source = some runtime) (known : runtime.wakes.get? self.now = some epoch)
    (there : self.link_at source = some (id,link)) (free : (link.direction source).available_at self.now ≤ self.now)
    (due : runtime.queue.dequeue_ready self.now = (some departure,rest)) :
    (qos_timer net source epoch : LabM heap δ PUnit).exec self =
      (do
        depart net source departure.packet
        schedule_qos source : LabM heap δ PUnit).exec { self with
          qos_queues := self.qos_queues.insert source { runtime with queue := rest, wakes := runtime.wakes.erase self.now } } := by
  let unwoken : QosPortRuntime := { runtime with wakes := runtime.wakes.erase self.now }
  let woken : Lab heap δ := { self with qos_queues := self.qos_queues.insert source unwoken }
  have timer : (qos_timer net source epoch : LabM heap δ PUnit).exec self = (service_qos net source : LabM heap δ PUnit).exec woken := by
    unfold qos_timer
    rw [exec_get_bind,found]
    dsimp only
    rw [if_neg (not_not.mpr known),exec_modify_bind]
  have service : (service_qos net source : LabM heap δ PUnit).exec woken =
      (do
        release net source ((link.direction source).available_at self.now)
        schedule_qos source : LabM heap δ PUnit).exec woken := by
    unfold service_qos
    have here : woken.link_at source = some (id,link) := there
    rw [exec_get_bind,here]
    rfl
  have leave : (release net source ((link.direction source).available_at self.now) : LabM heap δ PUnit).exec woken =
      (depart net source departure.packet : LabM heap δ PUnit).exec { self with
        qos_queues := self.qos_queues.insert source { runtime with queue := rest, wakes := runtime.wakes.erase self.now } } := by
    unfold release
    have queue : woken.qos_queues.get? source = some unwoken := OrderedMap.get?_insert_self ..
    have out : unwoken.queue.dequeue_ready woken.now = (some departure,rest) := due
    have gone : (woken.qos_queues.insert source { unwoken with queue := rest }) =
        self.qos_queues.insert source { runtime with queue := rest, wakes := runtime.wakes.erase self.now } :=
      OrderedMap.insert_insert ..
    have idle : (link.direction source).available_at self.now ≤ woken.now := free
    rw [exec_get_bind,if_pos idle,queue]
    dsimp only
    rw [exec_modify_bind,out,gone]
  rw [timer,service,exec_bind,leave,exec_bind]

/-- The wake of a port arrives. -/
theorem qos_timer_wakes (woken : Woken start none firm self) {time : SimTime} {epoch sequence : UInt64}
    {events : EventQueue heap} (popped : self.events.step = (some ⟨time,.QosTransmit source epoch,sequence⟩,events)) :
    (qos_timer net source epoch : LabM heap δ PUnit).Yields { self with events }
    (fun _ after => Woken start none firm after) Hard := by
  obtain ⟨_,_,refines,-⟩ := woken.alarms
  obtain ⟨_,_,-,-,-,now⟩ := Queue.step_popped refines popped
  obtain rfl : events.now = time := now
  by_cases recorded : self.Recorded source events.now epoch
  · obtain ⟨runtime,found,known⟩ := recorded
    unfold qos_timer
    rw [yields_bind,yields_get]
    have here : ({ self with events } : Lab heap δ).qos_queues.get? source = some runtime := found
    have due : runtime.wakes.get? ({ self with events } : Lab heap δ).now = some epoch := known
    rw [here]
    dsimp only
    rw [if_neg (not_not.mpr due),yields_bind,yields_modify]
    exact service_qos_wakes net (woken.wake popped found)
  · have quiet := woken.pop popped fun at_time port number same => by
      cases same
      exact recorded
    have unchanged : (qos_timer net source epoch : LabM heap δ PUnit).exec { self with events } = (.ok ⟨⟩,{ self with events }) :=
      stale_wake net rfl recorded
    unfold Yields
    rw [unchanged]
    exact quiet

theorem step_wakes (reaction : Reaction δ τ) :
    (step net reaction : LabM heap δ (Option EventOutcome)).Spares LabError.is_drop
    (Woken start none fun _ => True) := by
  intro state woken
  unfold step
  rw [yields_bind,yields_get]
  cases popped : state.events.step with
  | mk next events =>
    cases next with
    | none => exact woken
    | some scheduled =>
      dsimp only
      rw [yields_bind,yields_modify]
      obtain ⟨time,event,sequence⟩ := scheduled
      cases event with
      | QosTransmit source epoch =>
        unfold handle
        rw [yields_bind]
        exact (qos_timer_wakes net woken popped).mono (fun _ _ kept => kept) fun _ _ hard soft =>
          absurd soft (Bool.eq_false_iff.mp hard)
      | FrameReceived link generation interface frame source lost =>
        exact receive_wakes net reaction _ link generation interface frame source lost _
          (woken.pop popped fun _ _ _ none => by cases none)
      | LinkStateChanged link state =>
        exact Leads.bind (set_link_state_wakes net link state).spares (fun _ => (Keeps.pure _).spares) _
          (woken.pop popped fun _ _ _ none => by cases none)
      | TimerExpired timer => exact woken.pop popped fun _ _ _ none => by cases none
      | Protocol timer =>
        exact Leads.bind (react_wakes net reaction) (fun _ => (Keeps.pure _).spares) _
          (woken.pop popped fun _ _ _ none => by cases none)

/-! ### Runs -/

theorem operate_wakes (operation : Operation δ τ) : (operate net operation : LabM heap δ (Option EventOutcome)).Spares
    LabError.is_drop (Woken start none fun _ => True) := by
  have quiet : ∀ {α : Type} {program : LabM heap δ α}, program.Spares LabError.is_drop (Woken start none fun _ => True) →
      (program >>= fun _ => pure (none : Option EventOutcome)).Spares LabError.is_drop (Woken start none fun _ => True) :=
    fun spares => spares.bind fun _ => (Keeps.pure _).spares
  cases operation with
  | add_device id device => exact quiet (add_device_wakes net id device).spares
  | with_device_mut id edit => exact quiet (with_device_mut_wakes net id edit).spares
  | connect_configured a b config => exact quiet (connect_configured_wakes net a b config).spares
  | disconnect id => exact quiet (disconnect_wakes net id).spares
  | set_link_state id state => exact quiet (set_link_state_wakes net id state).spares
  | schedule_link_state id state time => exact quiet (schedule_link_state_wakes id state time).spares
  | schedule_timer timer delay_ms => exact quiet (schedule_after_wakes delay_ms fun _ _ => rfl).spares
  | transmit source frame => exact quiet (transmit_wakes net source frame)
  | react reaction => exact quiet (react_wakes net reaction)
  | advance_to time => exact quiet (advance_to_wakes time).spares
  | step reaction => exact step_wakes net reaction

/-- No operation fails for more than the drop of a frame. -/
def smooth (self : Lab heap δ) : List (Operation δ τ) → Bool
  | [] => true
  | operation :: rest =>
    let call := (operate net operation).exec self
    (match call.1 with
      | .ok _ => true
      | .error error => error.is_drop) && smooth call.2 rest

theorem run_wakes (woken : Woken start none (fun _ => True) self) {operations : List (Operation δ τ)}
    (fine : smooth net self operations = true) : Woken start none (fun _ => True) (self.run net operations) := by
  induction operations generalizing self with
  | nil => exact woken
  | cons operation rest ih =>
    have kept := operate_wakes net operation self woken
    obtain ⟨mild,others⟩ := Bool.and_eq_true_iff.mp fine
    rw [run]
    unfold Yields at kept
    rcases outcome : (operate net operation : LabM heap δ (Option EventOutcome)).exec self with ⟨error | result,next⟩
    · rw [outcome] at kept mild others
      exact ih (kept mild) others
    · rw [outcome] at kept others
      exact ih kept others

theorem smooth_append (operations later : List (Operation δ τ)) :
    smooth net self (operations ++ later) = (smooth net self operations && smooth net (self.run net operations) later) := by
  induction operations generalizing self with
  | nil => rfl
  | cons operation rest ih =>
    rw [List.cons_append,smooth,smooth,run,ih,Bool.and_assoc]

theorem with_seed_wakes (seed : UInt64) : Woken (with_seed heap δ seed) none (fun _ => True) (with_seed heap δ seed) where
  numbered id link found := by cases found
  owned source runtime found := by cases found
  attached source runtime _ found := by cases found
  alarms := by
    refine ⟨_,[],Queue.default_refines,List.nodup_nil,fun wake member => absurd member List.not_mem_nil,?_⟩
    rintro source time epoch ⟨runtime,found,-⟩
    cases found
  epoch := le_rfl
  since source time epoch recorded := .inl recorded
  armed source runtime id link found := by cases found

/-- The same state as the start of what follows. -/
theorem Woken.restart (woken : Woken start spared firm self) : Woken self spared firm self :=
  ⟨woken.numbered,woken.owned,woken.attached,woken.alarms,le_rfl,fun _ _ _ recorded => .inl recorded,woken.armed⟩

/-- What the invariant promises. -/
theorem Woken.unstalled (woken : Woken start none (fun _ => True) self) : Unstalled net self := by
  obtain ⟨reference,waiting,refines,alarms⟩ := woken.alarms
  have contents : (heap.contents self.events.pending).filterMap alarm = (waiting.filterMap alarm : List _) := by
    rw [refines.contents]
    exact Multiset.filterMap_coe ..
  have distinct : (waiting.filterMap alarm).Nodup := List.Nodup.of_map _ alarms.distinct
  refine ⟨fun source runtime found => ?_,fun source time epoch recorded => ?_,?_,fun reaction time source epoch sequence events popped
    unrecorded => ?_,fun reaction time source epoch sequence events runtime id link first popped found known there free answer due => ?_⟩
  · obtain ⟨id,link,there,on⟩ := woken.attached source runtime trivial found
    refine ⟨id,link,there,on,fun waiting => ?_⟩
    rcases woken.armed source runtime id link found there on waiting with impossible | ⟨first,time,epoch,ready,known,early⟩
    · cases impossible
    · exact ⟨first,time,epoch,ready,⟨runtime,found,known⟩,early⟩
  · rw [contents]
    exact Multiset.count_eq_one_of_mem (Multiset.coe_nodup.mpr distinct)
      (Multiset.mem_coe.mpr (alarms.pending source time epoch recorded))
  · rw [contents,Multiset.map_coe]
    exact alarms.distinct
  · obtain ⟨_,_,-,-,-,now⟩ := Queue.step_popped refines popped
    have stale : (step net reaction : LabM heap δ (Option EventOutcome)).Yields self
        (fun outcome after => outcome = none ∧ after = { self with events }) (fun _ _ => False) := by
      unfold step
      rw [yields_bind,yields_get,popped]
      dsimp only
      rw [yields_bind,yields_modify]
      unfold handle
      rw [yields_bind]
      have unchanged : (qos_timer net source epoch : LabM heap δ PUnit).exec { self with events } = (.ok ⟨⟩,{ self with events }) :=
        stale_wake net now unrecorded
      unfold Yields
      rw [unchanged]
      exact ⟨rfl,rfl⟩
    unfold Yields at stale
    rcases ran : (step net reaction : LabM heap δ (Option EventOutcome)).exec self with ⟨error | outcome,next⟩
    · rw [ran] at stale
      exact stale.elim
    · rw [ran] at stale
      obtain ⟨rfl,rfl⟩ := stale
      rfl
  · obtain ⟨others,_,listed,-,-,now⟩ := Queue.step_popped refines popped
    obtain rfl : events.now = time := now
    have passed : self.now ≤ events.now := by
      rw [listed] at refines
      exact refines.future _ List.mem_cons_self
    obtain ⟨departure,rest,out,shorter⟩ := (woken.owned source runtime found).queue.departs answer passed due
    refine ⟨departure,rest,out,shorter,?_⟩
    have timer : (qos_timer net source epoch : LabM heap δ PUnit).exec { self with events } =
        (do
          depart net source departure.packet
          schedule_qos source : LabM heap δ PUnit).exec { self with
            events
            qos_queues := self.qos_queues.insert source { runtime with queue := rest, wakes := runtime.wakes.erase events.now } } :=
      qos_timer_departs net found known there free out
    have stepped : (step net reaction : LabM heap δ (Option EventOutcome)).exec self =
        (qos_timer net source epoch >>= fun _ => pure none : LabM heap δ (Option EventOutcome)).exec { self with events } := by
      unfold step
      rw [exec_get_bind,popped]
      dsimp only
      rw [exec_modify_bind]
      rfl
    rw [stepped,exec_bind,timer,exec_bind,exec_bind]
    generalize (depart net source departure.packet : LabM heap δ PUnit).exec _ = departed
    rcases departed with ⟨error | done,after⟩
    · rfl
    · exact (exec_bind _ _ _).symm

/-- Output queues of every run in which no operation fails for more than the drop of a frame: every queue belongs to the
    cable of its port; a queue with frames has recorded a wake no later than its next frame can leave; every recorded wake
    is pending exactly once; a wake that is not recorded does nothing, and one that is recorded lets the next frame out
    if it is due and the transmitter is free; and none is recorded again. -/
theorem qos_ports_never_stall (heap : MaxHeap (ScheduledEvent (SimulationEvent τ)) ScheduledEvent.cmp) (seed : UInt64)
    (operations later : List (Operation δ τ)) (mild : smooth net (with_seed heap δ seed) (operations ++ later) = true) :
    let lab := (with_seed heap δ seed).run net operations
    Unstalled net lab ∧ Unstalled net (lab.run net later) ∧ ∀ source time epoch, epoch ≤ lab.qos_epoch →
      (lab.run net later).Recorded source time epoch → lab.Recorded source time epoch := by
  intro lab
  rw [smooth_append] at mild
  obtain ⟨first,rest⟩ := Bool.and_eq_true_iff.mp mild
  have woken := run_wakes net (with_seed_wakes seed) first
  have on := run_wakes net woken.restart rest
  refine ⟨woken.unstalled net,on.unstalled net,fun source time epoch old recorded => ?_⟩
  rcases on.since source time epoch recorded with known | newer
  · exact known
  · exact absurd old (not_le.mpr newer)

/-! ### A frame that waits -/

instance scheduledTransCmp {E : Type} : Std.TransCmp (@ScheduledEvent.cmp E) :=
  inferInstanceAs (Std.TransCmp fun a b => compareLex (compareOn (@ScheduledEvent.time E)) (compareOn ScheduledEvent.sequence) b a)

/-- A policy with one class at every port. -/
def one_class : Behaviour Unit where
  lacp_distributing _ _ := false
  stp_forwarding _ _ _ := false
  svi_up _ _ := false
  forget_port _ _ := ()
  qos_profile _ _ _ := some ⟨1500,1,"plain",[⟨none,"class-default",⟨1,none,none,none⟩⟩]⟩
  qos_classify _ _ _ := some 0

def station : Ports.Device Unit :=
  ⟨(∅ : OrderedMap InterfaceId Interface).insert 0
    ⟨.GigabitEthernet,.Rj45,⟨#v[2,0,0,0,0,9]⟩,.Down,.default,.Up,1500,none,none,none,false,none⟩,∅,∅,()⟩

def hello : EthernetFrame := ⟨⟨#v[2,0,0,0,0,9]⟩,⟨#v[2,0,0,0,0,9]⟩,.Other 0x9000,List.replicate 50 0⟩

/-- Two frames for a cable of 8000 bits per second: the second waits for the first. -/
def queueing : List (Operation Unit Unit) :=
  [.add_device 1 station,.add_device 2 station,
    .connect_configured ⟨1,0⟩ ⟨2,0⟩ ⟨some ⟨8000,by decide⟩,0,0,0,10⟩,.transmit ⟨1,0⟩ hello,.transmit ⟨1,0⟩ hello]

theorem qos_ports_never_stall_queueing :
    let lab := (with_seed (MaxHeap.list ScheduledEvent.cmp) Unit 1).run one_class queueing
    (lab.qos_queues.get? ⟨1,0⟩).any (fun runtime => runtime.queue.length = 1) = true ∧
      Unstalled one_class lab ∧ Unstalled one_class (lab.run one_class [.step ⟨[],none⟩]) ∧
      ∀ source time epoch, epoch ≤ lab.qos_epoch →
        (lab.run one_class [.step ⟨[],none⟩]).Recorded source time epoch → lab.Recorded source time epoch :=
  ⟨by decide +kernel,
    qos_ports_never_stall one_class (MaxHeap.list ScheduledEvent.cmp) 1 queueing [.step ⟨[],none⟩] (by decide +kernel)⟩

end Lab
end Rios
