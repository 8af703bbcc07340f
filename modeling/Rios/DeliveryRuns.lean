import Rios.Delivery

/-!
# Runs of a lab

Whatever is called on a lab, and whatever the protocols of its devices call in
answer, its cables deliver in order, at most once and never across an outage.
-/

namespace Rios
open Rios.Machine Rios.Link Rios.Ports Rios.Programs Rios.Channels
open Rios.Device hiding DeviceError
open Rios.Arp (InterfaceRef)
open Rios.Queue (SimTime ScheduledEvent ScheduleError EventQueue)
open Rios.Vlan (EthernetFrame)

namespace Lab
open Program

variable {δ τ : Type} {heap : MaxHeap (ScheduledEvent (SimulationEvent τ)) ScheduledEvent.cmp}
  {past : Past τ} {self after : Lab heap δ} (net : Behaviour δ)

/-! ### Calls that touch no cable -/

/-- A call that keeps the invariant, whatever it returns. -/
abbrev Safe {α : Type} (program : LabM heap δ α) : Prop := ∀ past : Past τ, program.Keeps (Sound past)

theorem device_safe (id : UInt64) : Safe (device id : LabM heap δ (Ports.Device δ)) :=
  fun _ => Keeps.get fun state sound => (Keeps.require (state.devices.get? id) _) state sound

theorem update_device_safe (id : UInt64) (missing : LabError) {method : Ports.Device δ → Except DeviceError (Ports.Device δ)}
    (keeps : ∀ device next, method device = .ok next → Device.Keeps device next) :
    Safe (update_device id missing method : LabM heap δ PUnit) := by
  intro past
  refine Keeps.get fun state sound => ?_
  rw [yields_bind,yields_require]
  refine ⟨fun device found => ?_,fun _ => sound⟩
  rw [yields_bind,yields_attempt]
  refine ⟨fun next done => ?_,fun _ _ => sound⟩
  exact sound.apart ⟨rfl,rfl,rfl,rfl,rfl,rfl,rfl,fun _ held => holds_insert found (keeps _ _ done) held⟩

theorem record_drop_safe (endpoint : InterfaceRef) (missing : LabError) (reason : DropReason) :
    Safe (record_drop endpoint missing reason : LabM heap δ PUnit) :=
  update_device_safe _ _ fun _ _ done => Device.update_keeps done

theorem record_frame_safe (endpoint : InterfaceRef) (missing : LabError) (frame : EthernetFrame) (receive : Bool) :
    Safe (record_frame endpoint missing frame receive : LabM heap δ PUnit) :=
  update_device_safe _ _ fun _ _ done => Device.update_keeps done

theorem schedule_at_safe (time : SimTime) {event : SimulationEvent τ} (none : route event = none) :
    Safe (schedule_at time event : LabM heap δ PUnit) := by
  intro past
  refine Keeps.get fun state sound => ?_
  rw [yields_bind]
  exact Keeps.attempt _ _ _ (sound.schedule_at time none)

theorem schedule_after_safe (delay_ms : UInt64) {event : SimulationEvent τ} (none : route event = none) :
    Safe (schedule_after delay_ms event : LabM heap δ PUnit) := by
  intro past
  refine Keeps.get fun state sound => ?_
  rw [yields_bind]
  exact Keeps.attempt _ _ _ (sound.schedule_after delay_ms none)

theorem advance_to_safe (time : SimTime) : Safe (advance_to time : LabM heap δ PUnit) := by
  intro past
  refine Keeps.get fun state sound => ?_
  rw [yields_bind]
  exact Keeps.attempt _ _ _ (sound.advance_to time)

/-- The output queues may change. -/
theorem Apart.queues (lab : Lab heap δ) (qos_queues : OrderedMap InterfaceRef QosPortRuntime) (qos_epoch : UInt64) :
    Apart lab { lab with qos_queues, qos_epoch } :=
  ⟨rfl,rfl,rfl,rfl,rfl,rfl,rfl,fun _ held => held⟩

/-! ### Output queues -/

theorem qos_drop_safe (source : InterfaceRef) (reason : DropReason) : Safe (qos_drop source reason : LabM heap δ PUnit) := by
  intro past
  refine (record_drop_safe source _ reason past).bind fun _ => Keeps.modify fun lab sound => ?_
  by_cases full : reason = .QueueFull
  · rw [if_pos full]
    exact sound.count_queue_drop source
  · rw [if_neg full]
    exact sound

theorem dissolve_safe (source : InterfaceRef) (reason : DropReason) : Safe (dissolve source reason : LabM heap δ PUnit) := by
  intro past
  refine Keeps.get fun state sound => ?_
  rw [yields_bind,yields_modify]
  exact Keeps.forM _ (fun _ _ => qos_drop_safe source reason past) _ (sound.apart (.queues ..))

theorem refresh_qos_safe : Safe (refresh_qos net : LabM heap δ PUnit) :=
  fun past => Keeps.get fun state sound => (Keeps.forM _ fun entry _ => dissolve_safe entry.1 entry.2 past) state sound

theorem arm_safe (source : InterfaceRef) (runtime : QosPortRuntime) (deadline : SimTime) :
    Safe (arm source runtime deadline : LabM heap δ PUnit) := by
  intro past
  unfold arm
  by_cases early : (runtime.wakes.entries.head?).any (fun wake => wake.1 ≤ deadline) = true
  · rw [if_pos early]
    exact Keeps.pure _
  · rw [if_neg early]
    refine Keeps.get fun state sound => (Keeps.require _ _).bind (fun epoch => ?_) state sound
    intro state sound
    rw [yields_bind,yields_modify]
    refine (schedule_at_safe deadline rfl past).bind (fun _ => ?_) _ (sound.apart (.queues ..))
    exact Keeps.modify fun lab sound => sound.apart (.queues ..)

theorem schedule_qos_safe (source : InterfaceRef) : Safe (schedule_qos source : LabM heap δ PUnit) := by
  intro past
  refine Keeps.get fun state sound => ?_
  cases state.link_at source with
  | none => exact sound
  | some found =>
    cases state.qos_queues.get? source with
    | none => exact sound
    | some runtime =>
      dsimp only
      rw [yields_bind,yields_modify]
      refine (Keeps.attempt _ _).bind (fun time => ?_) _ (sound.apart (.queues ..))
      cases time with
      | none => exact Keeps.pure _
      | some time => exact arm_safe _ _ _ past

/-! ### Admission -/

/-- A frame that its cable reserved is shipped and counted at its source. -/
theorem reserved_safe (sound : Sound past self) {source : InterfaceRef} {id : UInt64} {link : Link}
    (found : self.link_at source = some (id,link)) (frame : EthernetFrame) {loss_sample : UInt64}
    (drawing : Drawing past self loss_sample) {lost : Bool}
    (loses : lost = decide (loss_sample % 1000000 < link.config.loss_ppm.toUInt64)) {finish arrival : SimTime}
    {before : DirectionalLinkRuntime} (quiet : DirectionalLinkRuntime.Quiet (link.direction source) before)
    (free : (link.direction source).available_at self.now ≤ finish) (due : finish ≤ arrival)
    (behind : (link.direction source).last_arrival ≤ arrival) :
    (do
      ship link arrival (.FrameReceived link.id link.generation (link.target source) frame source lost) loss_sample
      record_frame source (.UnknownDevice source.device) frame false : LabM heap δ PUnit).Yields
      { self with
        links := self.links.insert id (link.with_direction source (before.reserve finish arrival (frame_len frame))) }
      (fun _ after => Sound past after) (fun _ after => Sound past after) := by
  have future : self.now ≤ arrival := (DirectionalLinkRuntime.le_available_at _ _).trans (free.trans due)
  have shipped := sound.ship found finish (frame_len frame) frame drawing loses quiet future behind
  rw [yields_bind]
  exact shipped.mono (fun _ after kept => record_frame_safe source _ frame false past after kept) fun _ _ kept => kept

/-- A frame that its cable has no room for is a drop. -/
theorem full_safe (sound : Sound past self) {source : InterfaceRef} {id : UInt64} {link : Link}
    (found : self.link_at source = some (id,link)) {runtime : DirectionalLinkRuntime}
    (quiet : DirectionalLinkRuntime.Quiet (link.direction source) runtime) :
    (do
      record_drop source (.Dropped .NoLink) .QueueFull
      throw (.Dropped .QueueFull) : LabM heap δ PUnit).Yields
      { self with links := self.links.insert id (link.with_direction source runtime) }
      (fun _ after => Sound past after) (fun _ after => Sound past after) :=
  ((record_drop_safe source _ _ past).bind fun _ => Keeps.throw _) _ (sound.quiet (link_at_some found).2 quiet)

/-- A frame is lost if its draw says so. -/
theorem admit_frame_lost {runtime : DirectionalLinkRuntime} {config : LinkConfig} {now : SimTime} {bytes : Nat}
    {jitter_sample loss_sample : UInt64} {arrival : SimTime} {lost : Bool}
    (admitted : (runtime.admit_frame config now bytes jitter_sample loss_sample).1 = .ok (.Scheduled arrival lost)) :
    lost = decide (loss_sample % 1000000 < config.loss_ppm.toUInt64) := by
  unfold DirectionalLinkRuntime.admit_frame at admitted
  dsimp only at admitted
  split_ifs at admitted
  · cases admitted
  · split at admitted
    · cases admitted
    · cases admitted
      rfl

theorem admit_on_link_safe (source : InterfaceRef) (frame : EthernetFrame) :
    Safe (admit_on_link source frame : LabM heap δ PUnit) := by
  intro past
  refine Keeps.get fun state sound => ?_
  rw [yields_bind,yields_modify,yields_bind,yields_require]
  have samples := @Sound.draw δ τ heap past state sound
  generalize state.rng.sample = jitter at samples ⊢
  generalize jitter.2.sample = loss at samples ⊢
  obtain ⟨kept,drawing⟩ := samples rfl
  -- the random stream is all that the state differs in
  obtain ⟨lab,drawn⟩ : ∃ lab : Lab heap δ, lab = { state with rng := loss.2 } := ⟨_,rfl⟩
  have same : lab.link_at source = state.link_at source ∧ lab.now = state.now := by
    rw [drawn]
    exact link_at_rng ..
  rw [← drawn] at kept drawing
  rw [← drawn,← same.1,← same.2]
  clear drawn same
  refine ⟨fun found at_source => ?_,fun _ => kept⟩
  obtain ⟨id,link⟩ := found
  have admits := DirectionalLinkRuntime.admit_admits (link.direction source) link.config lab.now (frame_len frame) jitter.1 loss.1
  have loses := fun arrival lost => @admit_frame_lost (link.direction source) link.config lab.now (frame_len frame) jitter.1 loss.1
    arrival lost
  dsimp only
  generalize (link.direction source).admit_frame link.config lab.now (frame_len frame) jitter.1 loss.1 = admission at admits loses ⊢
  rw [yields_bind,yields_modify]
  cases admits with
  | full runtime quiet _ => exact full_safe kept at_source quiet
  | overflow error runtime quiet _ => exact kept.quiet (link_at_some at_source).2 quiet
  | reserved finish arrival lost before quiet free due behind =>
    exact reserved_safe kept at_source frame drawing (loses arrival lost rfl) quiet free due behind

theorem transmit_on_link_safe (source : InterfaceRef) (frame : EthernetFrame) :
    Safe (transmit_on_link net source frame : LabM heap δ PUnit) := by
  intro past
  refine (device_safe source.device past).bind fun device => (Keeps.require _ _).bind fun _ => Keeps.get fun state sound => ?_
  cases state.check_transmit net device source frame with
  | error reason => exact ((record_drop_safe source _ reason past).bind fun _ => Keeps.throw _) state sound
  | ok done => exact admit_on_link_safe source frame past state sound

theorem depart_safe (source : InterfaceRef) (packet : EthernetFrame) :
    Safe (depart net source packet : LabM heap δ PUnit) := by
  intro past
  refine (device_safe source.device past).bind fun device => ?_
  cases blocked net device source packet with
  | some reason => exact qos_drop_safe source reason past
  | none => exact (transmit_on_link_safe net source packet past).forgive _

theorem release_safe (source : InterfaceRef) (available : SimTime) :
    Safe (release net source available : LabM heap δ PUnit) := by
  intro past
  refine Keeps.get fun state sound => ?_
  by_cases free : available ≤ state.now
  · rw [if_pos free]
    cases state.qos_queues.get? source with
    | none => exact sound
    | some runtime =>
      dsimp only
      rw [yields_bind,yields_modify]
      have kept : ∀ qos_queues, Sound past { state with qos_queues } := fun _ => sound.apart (.queues ..)
      cases (runtime.queue.dequeue_ready state.now).1 with
      | none => exact kept _
      | some departure => exact depart_safe net source departure.packet past _ (kept _)
  · rw [if_neg free]
    exact sound

theorem service_qos_safe (source : InterfaceRef) : Safe (service_qos net source : LabM heap δ PUnit) := by
  intro past
  refine Keeps.get fun state sound => ?_
  cases state.link_at source with
  | none => exact sound
  | some found => exact ((release_safe net source _ past).bind fun _ => schedule_qos_safe source past) state sound

theorem qos_timer_safe (source : InterfaceRef) (epoch : UInt64) : Safe (qos_timer net source epoch : LabM heap δ PUnit) := by
  intro past
  refine Keeps.get fun state sound => ?_
  cases state.qos_queues.get? source with
  | none => exact sound
  | some runtime =>
    dsimp only
    by_cases stale : runtime.wakes.get? state.now ≠ some epoch
    · rw [if_pos stale]
      exact sound
    · rw [if_neg stale,yields_bind,yields_modify]
      exact service_qos_safe net source past _ (sound.apart (.queues ..))

theorem qos_runtime_safe (source : InterfaceRef) (profile : QosProfile) (link : Link) :
    Safe (qos_runtime source profile link : LabM heap δ QosPortRuntime) := by
  intro past
  refine Keeps.get fun state sound => ?_
  cases state.qos_queues.get? source with
  | some runtime => exact sound
  | none =>
    refine (Keeps.attempt _ _).bind (fun queue => ?_) state sound
    intro state sound
    dsimp only
    rw [yields_bind,yields_modify]
    exact sound.apart (.queues ..)

theorem enqueue_qos_safe (source : InterfaceRef) (profile : QosProfile) (frame : EthernetFrame) :
    Safe (enqueue_qos net source profile frame : LabM heap δ PUnit) := by
  intro past
  refine Keeps.get fun state sound => ?_
  cases state.link_at source with
  | none => exact ((qos_drop_safe source _ past).bind fun _ => Keeps.throw _) state sound
  | some found =>
    refine (device_safe source.device past).bind (fun device => (Keeps.require _ _).bind fun index =>
      (qos_runtime_safe source profile found.2 past).bind fun runtime => ?_) state sound
    intro state sound
    dsimp only
    rw [yields_bind,yields_modify]
    have kept : ∀ qos_queues, Sound past { state with qos_queues } := fun _ => sound.apart (.queues ..)
    split
    · exact ((qos_drop_safe source _ past).bind fun _ => Keeps.throw _) _ (kept _)
    · exact service_qos_safe net source past _ (kept _)

theorem transmit_safe (source : InterfaceRef) (frame : EthernetFrame) :
    Safe (transmit net source frame : LabM heap δ PUnit) := by
  intro past
  refine Keeps.get fun state sound => (device_safe source.device past).bind (fun device => ?_) state sound
  cases net.qos_profile device source.interface (state.link_rate source) with
  | none => exact transmit_on_link_safe net source frame past
  | some profile =>
    dsimp only
    cases device.check_frame net source.interface frame false with
    | error reason => exact (qos_drop_safe source reason past).bind fun _ => Keeps.throw _
    | ok done => exact enqueue_qos_safe net source profile frame past

/-! ### Carrier -/

theorem set_port_state_safe (endpoint : InterfaceRef) (state : LinkState) :
    Safe (set_port_state net endpoint state : LabM heap δ PUnit) :=
  update_device_safe _ _ fun _ _ done => Device.set_link_state_keeps done

/-- The turn of one cable: its carrier, then its ports. -/
theorem refresh_link_safe (id : UInt64) : Safe (refresh_link net id : LabM heap δ PUnit) := by
  intro past
  refine Keeps.get fun state sound => ?_
  cases found : state.links.get? id with
  | none => exact sound
  | some link =>
    dsimp only
    rw [yields_bind]
    have ports : ∀ lab : Lab heap δ, Sound past lab → Yields
        (do
          set_port_state net link.endpoint_a (if state.carrier link then .Up else .Down)
          set_port_state net link.endpoint_b (if state.carrier link then .Up else .Down) : LabM heap δ PUnit) lab
        (fun _ after => Sound past after) (fun _ after => Sound past after) :=
      (set_port_state_safe net link.endpoint_a _ past).bind fun _ => set_port_state_safe net link.endpoint_b _ past
    have switched : (switch_carrier id link (state.carrier link) : LabM heap δ PUnit).Yields state
        (fun _ after => Sound past after) (fun _ after => Sound past after) := by
      unfold switch_carrier
      by_cases same : state.carrier link = link.active
      · rw [if_pos same]
        exact sound
      · rw [if_neg same,yields_bind,yields_require]
        exact ⟨fun generation next => sound.switched found _ next,fun _ => sound⟩
    exact switched.mono (fun _ after kept => ports after kept) fun _ _ kept => kept

theorem refresh_carriers_safe : Safe (refresh_carriers net : LabM heap δ PUnit) := by
  intro past
  refine Keeps.get fun state sound => ?_
  refine ((Keeps.forM _ fun id _ => refresh_link_safe net id past).bind fun _ => ?_) state sound
  intro lab kept
  rw [yields_bind,yields_modify]
  refine refresh_qos_safe net past _ (kept.apart ⟨rfl,rfl,rfl,rfl,rfl,rfl,rfl,fun endpoint held => ?_⟩)
  obtain ⟨device,found,contained⟩ := held
  exact ⟨device.refresh_svi_states net,by rw [OrderedMap.get?_mapValues,found]; rfl,
    Device.refresh_svi_states_keeps net device _ contained⟩

/-- A port that is free exists. -/
theorem free_port_yields (sound : Sound past self) (endpoint : InterfaceRef) :
    (free_port endpoint : LabM heap δ Interface).Yields self (fun _ after => after = self ∧ self.Holds endpoint)
      (fun _ after => Sound past after) := by
  unfold free_port Lab.device
  rw [yields_bind,yields_bind,yields_get,yields_require]
  refine ⟨fun device found => ?_,fun _ => sound⟩
  rw [yields_bind,yields_require]
  refine ⟨fun interface contained => ?_,fun _ => sound⟩
  have held : self.Holds endpoint := ⟨device,found,(OrderedMap.contains_iff _ _).mpr ⟨interface,contained⟩⟩
  by_cases ethernet : (!interface.kind.is_ethernet) = true
  · rw [if_pos ethernet]
    exact sound
  · rw [if_neg ethernet,yields_bind,yields_get]
    by_cases plugged : self.ports.contains endpoint = true
    · rw [if_pos plugged]
      exact sound
    · rw [if_neg plugged]
      exact ⟨rfl,held⟩

theorem connect_configured_safe (a b : InterfaceRef) (config : LinkConfig) :
    Safe (connect_configured net a b config : LabM heap δ UInt64) := by
  intro past
  refine (Keeps.attempt _ _).bind fun _ => ?_
  by_cases same : a = b
  · rw [if_pos same]
    exact Keeps.throw _
  · rw [if_neg same]
    intro state sound
    rw [yields_bind]
    refine (free_port_yields sound a).mono (fun port_a after found => ?_) fun _ _ kept => kept
    obtain ⟨rfl,held_a⟩ := found
    rw [yields_bind]
    refine (free_port_yields sound b).mono (fun port_b after found => ?_) fun _ _ kept => kept
    obtain ⟨rfl,held_b⟩ := found
    by_cases media : port_a.media ≠ port_b.media
    · rw [if_pos media]
      exact sound
    · rw [if_neg media,yields_bind,yields_get,yields_bind,yields_require]
      refine ⟨fun id next => ?_,fun _ => sound⟩
      rw [yields_bind,yields_modify]
      exact ((refresh_carriers_safe net past).bind fun _ => Keeps.pure _) _ (sound.connect config next held_a held_b)

theorem disconnect_safe (id : UInt64) : Safe (disconnect net id : LabM heap δ PUnit) := by
  intro past
  refine Keeps.get fun state sound => ?_
  refine (Keeps.require _ _).bind (fun link => ?_) state sound
  intro lab kept
  rw [yields_bind,yields_modify]
  exact ((set_port_state_safe net _ _ past).bind fun _ => (set_port_state_safe net _ _ past).bind fun _ =>
    refresh_carriers_safe net past) _ (kept.disconnect id _ _)

theorem set_link_state_safe (id : UInt64) (state : LinkState) : Safe (set_link_state net id state : LabM heap δ PUnit) := by
  intro past
  refine Keeps.get fun lab sound => ?_
  rw [yields_bind,yields_require]
  refine ⟨fun link found => ?_,fun _ => sound⟩
  rw [yields_bind,yields_modify]
  exact refresh_carriers_safe net past _ (sound.replace found ⟨rfl,rfl,rfl,le_rfl,fun _ _ => le_rfl⟩ fun _ => rfl)

theorem schedule_link_state_safe (id : UInt64) (state : LinkState) (time : SimTime) :
    Safe (schedule_link_state id state time : LabM heap δ PUnit) :=
  fun past => Keeps.get fun lab sound => ((Keeps.require _ _).bind fun _ => schedule_at_safe time rfl past) lab sound

/-! ### Inventory -/

/-- Ports that lose their carrier stay. -/
theorem unplug_keeps {device next : Ports.Device δ} {test : InterfaceId → Bool} (done : unplug net device test = .ok next) :
    Device.Keeps device next := by
  unfold unplug at done
  generalize device.interfaces.keys.filter test = ids at done
  induction ids generalizing device with
  | nil =>
    cases done
    exact Device.Keeps.refl _
  | cons id rest ih =>
    rw [List.foldlM_cons] at done
    cases first : device.set_link_state net id .Down with
    | error error =>
      rw [first] at done
      cases done
    | ok middle =>
      rw [first] at done
      exact (Device.set_link_state_keeps first).trans (ih done)

/-- An edit that replaces no hardware keeps every interface. -/
theorem keeps_of_replaces {original candidate : Ports.Device δ} (kept : ¬ replaces original candidate = true) :
    Device.Keeps original candidate := by
  intro id contained
  obtain ⟨interface,found⟩ := (OrderedMap.contains_iff _ _).mp contained
  by_contra missing
  refine kept (List.any_eq_true.mpr ⟨(id,interface),(OrderedMap.get?_eq_some _ _ _).mp found,?_⟩)
  have none : candidate.interfaces.get? id = none := by
    cases known : candidate.interfaces.get? id with
    | none => rfl
    | some new => exact absurd ((OrderedMap.contains_iff _ _).mpr ⟨new,known⟩) missing
  rw [none]
  rfl

theorem with_device_mut_safe (id : UInt64) (edit : Ports.Device δ → Ports.Device δ) :
    Safe (with_device_mut net id edit : LabM heap δ PUnit) := by
  intro past state sound
  unfold with_device_mut Lab.device
  rw [yields_bind,yields_bind,yields_get,yields_require]
  refine ⟨fun original found => ?_,fun _ => sound⟩
  by_cases replaced : replaces original (edit original) = true
  · dsimp only
    rw [if_pos replaced]
    exact sound
  · dsimp only
    rw [if_neg replaced,yields_bind,yields_get,yields_bind,yields_attempt]
    refine ⟨fun candidate done => ?_,fun _ _ => sound⟩
    rw [yields_bind,yields_modify]
    refine refresh_carriers_safe net past _ (sound.apart ⟨rfl,rfl,rfl,rfl,rfl,rfl,rfl,fun _ held => ?_⟩)
    exact holds_insert found ((keeps_of_replaces replaced).trans (unplug_keeps net done)) held

theorem add_device_safe (id : UInt64) (device : Ports.Device δ) : Safe (add_device net id device : LabM heap δ PUnit) := by
  intro past
  refine Keeps.get fun state sound => ?_
  by_cases known : state.devices.contains id = true
  · rw [if_pos known]
    exact sound
  · rw [if_neg known,yields_bind,yields_attempt]
    refine ⟨fun added _ => ?_,fun _ _ => sound⟩
    refine sound.apart ⟨rfl,rfl,rfl,rfl,rfl,rfl,rfl,fun endpoint held => ?_⟩
    obtain ⟨old,found,contained⟩ := held
    refine ⟨old,?_,contained⟩
    rw [OrderedMap.get?_insert,if_neg,found]
    intro same
    exact known ((OrderedMap.contains_iff _ _).mpr ⟨old,same ▸ found⟩)

/-! ### Reactions -/

theorem perform_safe (call : Call δ τ) : Safe (perform net call : LabM heap δ PUnit) := by
  intro past
  cases call with
  | transmit source frame => exact (transmit_safe net source frame past).forgive _
  | schedule_at time timer => exact schedule_at_safe time rfl past
  | schedule_after delay_ms timer => exact schedule_after_safe delay_ms rfl past
  | edit device edit =>
    refine update_device_safe _ _ (fun before after done => ?_) past
    cases done
    exact edit.keeps before

theorem react_safe (reaction : Reaction δ τ) : Safe (react net reaction : LabM heap δ PUnit) := by
  intro past
  refine (Keeps.forM _ fun call _ => perform_safe net call past).bind fun _ => ?_
  cases reaction.failure with
  | none => exact Keeps.pure _
  | some error => exact Keeps.throw _

/-! ### Arrival -/

/-- The boundary of an interface knows nothing of cables. -/
theorem verdict_check_frame (device : Ports.Device δ) (id : InterfaceId) (frame : EthernetFrame) (receive : Bool) :
    verdict (device.check_frame net id frame receive) = .Delivered ∨ verdict (device.check_frame net id frame receive) =
        .Refused := by
  unfold Device.check_frame
  split
  · exact .inr rfl
  · split_ifs
    all_goals first
      | exact .inl rfl
      | exact .inr rfl

theorem check_frame_elsewhere (device : Ports.Device δ) (id : InterfaceId) (frame : EthernetFrame) (receive : Bool) :
    verdict (device.check_frame net id frame receive) ≠ .Changed ∧ verdict (device.check_frame net id frame receive) ≠ .Lost := by
  rcases verdict_check_frame net device id frame receive with delivered | refused
  · rw [delivered]
    exact ⟨Verdict.noConfusion,Verdict.noConfusion⟩
  · rw [refused]
    exact ⟨Verdict.noConfusion,Verdict.noConfusion⟩

/-- A frame finds its cable if that is active, in the same generation. -/
theorem found_iff {event : ScheduledEvent (SimulationEvent τ)} {id generation : UInt64} {source : InterfaceRef}
    (travels : channel event = some (id,generation,source)) {cable : Option Link}
    (named : ∀ link, cable = some link → link.id = id)
    (check : Except DropReason Unit) : (⟨event,cable,check⟩ : Arrival τ).Found ↔
      cable.any (fun link => link.active && link.generation = generation) = true := by
  constructor
  · rintro ⟨link,sender,here,active,route⟩
    have known : cable = some link := here
    have route : channel event = some (link.id,link.generation,sender) := route
    rw [travels] at route
    have same : generation = link.generation := congrArg (·.2.1) (Option.some.inj route)
    rw [known]
    simp [active,same]
  · intro any
    cases known : cable with
    | none =>
      rw [known] at any
      cases any
    | some link =>
      rw [known] at any
      obtain ⟨active,same⟩ := Bool.and_eq_true_iff.mp any
      exact ⟨link,source,rfl,active,by rw [travels,named link known,of_decide_eq_true same]⟩

/-- The check of a frame changes nothing, and decides what becomes of it. -/
theorem check_arrival_yields (state : Lab heap δ) (time : SimTime) (sequence : UInt64) {link generation : UInt64}
    {interface : InterfaceRef} {frame : EthernetFrame} (source : InterfaceRef) {lost : Bool}
    (named : ∀ cable, state.links.get? link = some cable → cable.id = link)
    (present : ∃ device, state.devices.get? interface.device = some device) :
    (check_arrival net link generation interface frame lost : LabM heap δ (Except DropReason Unit)).Yields state
      (fun check after => after = state ∧ (⟨⟨time,.FrameReceived link generation interface frame source lost,sequence⟩,
          state.links.get? link,check⟩ : Arrival τ).Decided ∧
        (verdict check ≠ .Changed → lost = false → ∃ device, state.devices.get? interface.device = some device ∧
          check = device.check_frame net interface.interface frame true)) (fun _ _ => False) := by
  let event : ScheduledEvent (SimulationEvent τ) := ⟨time,.FrameReceived link generation interface frame source lost,sequence⟩
  have found : ∀ check, (⟨event,state.links.get? link,check⟩ : Arrival τ).Found ↔
      (state.links.get? link).any (fun cable => cable.active && cable.generation = generation) = true :=
    found_iff (rfl : channel event = some (link,generation,source)) named
  unfold check_arrival
  rw [yields_bind,yields_get]
  by_cases gone : (!(state.links.get? link).any (fun cable => cable.active && cable.generation = generation)) = true
  · rw [if_pos gone]
    have missing : ¬ (⟨event,state.links.get? link,.error .LinkChanged⟩ : Arrival τ).Found := by
      rw [found]
      simpa using gone
    exact ⟨rfl,⟨rfl,iff_of_true rfl missing,iff_of_false Verdict.noConfusion fun both => missing both.1⟩,
      fun kept => absurd rfl kept⟩
  · rw [if_neg gone]
    have there : ∀ check, (⟨event,state.links.get? link,check⟩ : Arrival τ).Found := by
      intro check
      rw [found]
      simpa using gone
    by_cases loss : lost = true
    · rw [if_pos loss]
      exact ⟨rfl,⟨rfl,iff_of_false Verdict.noConfusion (not_not.mpr (there _)),iff_of_true rfl ⟨there _,loss⟩⟩,
        fun _ kept => absurd kept (by rw [loss]; exact Bool.noConfusion)⟩
    · rw [if_neg loss]
      unfold Lab.device
      rw [yields_bind,yields_bind,yields_get,yields_require]
      refine ⟨fun device here => ⟨rfl,?_,fun _ _ => ⟨device,here,rfl⟩⟩,fun none => ?_⟩
      · obtain ⟨unchanged,unlost⟩ := check_frame_elsewhere net device interface.interface frame true
        exact ⟨rfl,iff_of_false unchanged (not_not.mpr (there _)),iff_of_false unlost fun both => loss both.2⟩
      · obtain ⟨device,known⟩ := present
        rw [known] at none
        cases none

theorem Link.connects_target (link : Link) (source : InterfaceRef) : link.Connects (link.target source) := by
  unfold Link.target
  by_cases first : source = link.endpoint_a
  · exact .inr (if_pos first)
  · exact .inl (if_neg first)

/-- An interface of a device of the lab is changed. -/
def Changes (before after : Lab heap δ) (port : InterfaceRef) (change : Interface → Interface) : Prop :=
  ∃ device next interface, before.devices.get? port.device = some device ∧ device.interfaces.get? port.interface =
    some interface ∧
    after.devices.get? port.device = some next ∧ next.interfaces.get? port.interface = some (change interface)

/-- One frame more at a port. -/
def count_received (frame : EthernetFrame) (interface : Interface) : Interface :=
  { interface with counters := { interface.counters with
    rx_packets := satAdd64 interface.counters.rx_packets 1
    rx_bytes := satAdd64 interface.counters.rx_bytes (bytes_u64 (frame_len frame)) } }

/-- One drop more at a port. -/
def count_dropped (reason : DropReason) (interface : Interface) : Interface :=
  { interface with counters := { interface.counters with
    drops := satAdd64 interface.counters.drops 1
    drop_reasons := Function.update interface.counters.drop_reasons reason (satAdd64 (interface.counters.drop_reasons reason) 1) } }

/-- What is told of a frame that the protocols got: BPDUs stay between the switches. -/
def told (port : InterfaceRef) (frame : EthernetFrame) : Option EventOutcome :=
  if is_stp_frame frame then none else some (.FrameReceived port frame)

/-- The way of a frame behind the port that counted it: to the protocols, past the channel of the port if it has one,
    unless that channel does not collect or does not exist. -/
inductive Handed (reaction : Reaction δ τ) (entered : Lab heap δ) (port : InterfaceRef) (frame : EthernetFrame) :
    Except LabError (Option EventOutcome) → Lab heap δ → Prop
  | control {after : Lab heap δ} {answer : Except LabError PUnit} (lacp : is_lacp_frame frame = true)
      (done : (react net reaction).exec entered = (answer,after)) :
      Handed reaction entered port frame (answer.map fun _ => told port frame) after
  | alone {device : Ports.Device δ} {after : Lab heap δ} {answer : Except LabError PUnit}
      (here : entered.devices.get? port.device = some device)
      (collects : device.channel_ingress net port.interface = .ok port.interface)
      (done : (react net reaction).exec entered = (answer,after)) :
      Handed reaction entered port frame (answer.map fun _ => told port frame) after
  | channel {device : Ports.Device δ} {logical : InterfaceId} {counted after : Lab heap δ} {answer : Except LabError PUnit}
      (here : entered.devices.get? port.device = some device) (collects : device.channel_ingress net port.interface = .ok logical)
      (also : Changes entered counted ⟨port.device,logical⟩ (count_received frame))
      (done : (react net reaction).exec counted = (answer,after)) :
      Handed reaction entered port frame (answer.map fun _ => told port frame) after
  | missing {device : Ports.Device δ} {logical : InterfaceId} {after : Lab heap δ} {error : LabError}
      (here : entered.devices.get? port.device = some device) (collects : device.channel_ingress net port.interface = .ok logical)
      (none : device.interfaces.contains logical = false) : Handed reaction entered port frame (.error error) after
  | inactive {device : Ports.Device δ} {after : Lab heap δ} (here : entered.devices.get? port.device = some device)
      (refuses : device.channel_ingress net port.interface = .error .ChannelInactive)
      (counted : Changes entered after port (count_dropped .ChannelInactive)) :
      Handed reaction entered port frame (.ok (some (.FrameDropped port .ChannelInactive))) after

/-- What a step does with a frame that it consumes, and what it returns. -/
structure Reported (reaction : Reaction δ τ) (before : Lab heap δ) (arrival : Arrival τ) (port : InterfaceRef)
    (frame : EthernetFrame) (result : Except LabError (Option EventOutcome)) (after : Lab heap δ) : Prop where
  received : ∃ link generation source lost, arrival.event.event = .FrameReceived link generation port frame source lost
  checked : arrival.Found → is_lost arrival.event.event = false → ∃ device, before.devices.get? port.device = some device ∧
    arrival.check = device.check_frame net port.interface frame true
  dropped : ∀ reason, arrival.check = .error reason →
    result = .ok (some (.FrameDropped port reason)) ∧ Changes before after port (count_dropped reason)
  delivered : arrival.check = .ok () → ∃ entered : Lab heap δ, Changes before entered port (count_received frame) ∧
    Handed net reaction entered port frame result after

theorem Changes.holds {port : InterfaceRef} {change : Interface → Interface} (changes : Changes self after port change) :
    after.Holds port := by
  obtain ⟨_,next,interface,-,-,there,known⟩ := changes
  exact ⟨next,there,(OrderedMap.contains_iff _ _).mpr ⟨_,known⟩⟩

theorem update_changed {device next : Ports.Device δ} {id : InterfaceId} {change : Interface → Interface}
    (updated : device.update id change = .ok next) : ∃ interface, device.interfaces.get? id = some interface ∧
      next.interfaces.get? id = some (change interface) := by
  unfold Device.update at updated
  cases found : device.interfaces.get? id with
  | none => simp [found] at updated
  | some interface =>
    rw [found] at updated
    obtain rfl := Except.ok.inj updated
    exact ⟨interface,rfl,OrderedMap.get?_insert_self ..⟩

/-- A change of an interface happens where the interface exists. -/
theorem update_interface_yields (sound : Sound past self) (port : InterfaceRef) (missing : LabError)
    (change : Interface → Interface) :
    (update_device port.device missing (fun device => device.update port.interface change) : LabM heap δ PUnit).Yields self
      (fun _ after => Sound past after ∧ Changes self after port change) (fun _ after => Sound past after ∧ ¬ self.Holds port) := by
  unfold update_device
  rw [yields_bind,yields_get,yields_bind,yields_require]
  refine ⟨fun device found => ?_,fun none => ⟨sound,?_⟩⟩
  · rw [yields_bind,yields_attempt]
    refine ⟨fun next done => ?_,fun error fails => ⟨sound,?_⟩⟩
    · refine ⟨sound.apart ⟨rfl,rfl,rfl,rfl,rfl,rfl,rfl,fun _ held => holds_insert found (Device.update_keeps done) held⟩,?_⟩
      obtain ⟨interface,known,changed⟩ := update_changed done
      exact ⟨device,next,interface,found,known,OrderedMap.get?_insert_self ..,changed⟩
    · rintro ⟨other,present,contained⟩
      obtain rfl := Option.some.inj (found.symm.trans present)
      obtain ⟨next,done⟩ := Device.update_ok contained change
      cases done.symm.trans fails
  · rintro ⟨other,present,-⟩
    rw [none] at present
    cases present

theorem not_stp_of_lacp {frame : EthernetFrame} (lacp : is_lacp_frame frame = true) (port : InterfaceRef) :
    told port frame = some (.FrameReceived port frame) := by
  unfold is_lacp_frame at lacp
  obtain ⟨kind,group⟩ := Bool.and_eq_true_iff.mp lacp
  have kind := of_decide_eq_true kind
  have group := of_decide_eq_true group
  have apart : LACP_MULTICAST ≠ STP_MULTICAST := by decide
  have other : is_stp_frame frame = false := by
    unfold is_stp_frame
    rw [kind,if_neg (by decide)]
    dsimp only
    rw [group,decide_eq_false apart,Bool.false_and]
  rw [told,other]
  rfl

/-- The protocols get a frame. -/
theorem react_yields (sound : Sound past self) (reaction : Reaction δ τ) (port : InterfaceRef) (frame : EthernetFrame)
    {outcome : Option EventOutcome} (same : outcome = told port frame)
    (reached : Except LabError (Option EventOutcome) → Lab heap δ → Prop)
    (handed : ∀ answer after, (react net reaction).exec self = (answer,after) → reached (answer.map fun _ => told port frame) after) :
    (do
      react net reaction
      pure outcome : LabM heap δ (Option EventOutcome)).Yields self (fun outcome after => Sound past after ∧ reached (.ok outcome) after)
      (fun error after => Sound past after ∧ reached (.error error) after) := by
  rw [yields_bind]
  refine (react_safe net reaction past self sound).exec.mono (fun _ after run => ⟨run.1,?_⟩)
    fun error after run => ⟨run.1,handed (.error error) after run.2⟩
  rw [same]
  exact handed (.ok _) after run.2

/-- An accepted frame is counted at its port and handed on. -/
theorem accept_yields (reaction : Reaction δ τ) (port : InterfaceRef) (frame : EthernetFrame) {state : Lab heap δ}
    (sound : Sound past state) (held : state.Holds port) :
    (accept net reaction port frame : LabM heap δ (Option EventOutcome)).Yields state
      (fun outcome after => Sound past after ∧ ∃ entered, Changes state entered port (count_received frame) ∧
        Handed net reaction entered port frame (.ok outcome) after)
      (fun error after => Sound past after ∧ ∃ entered, Changes state entered port (count_received frame) ∧
        Handed net reaction entered port frame (.error error) after) := by
  unfold accept
  rw [yields_bind]
  refine (update_interface_yields sound port _ (count_received frame)).mono (fun _ entered kept => ?_)
    fun _ _ absent => absurd held absent.2
  obtain ⟨kept,counted⟩ := kept
  let into := fun result after => ∃ entered, Changes state entered port (count_received frame) ∧
    Handed net reaction entered port frame result after
  by_cases lacp : is_lacp_frame frame = true
  · rw [if_pos lacp]
    exact react_yields net kept reaction port frame (not_stp_of_lacp lacp port).symm into
      fun answer after done => ⟨entered,counted,.control lacp done⟩
  · rw [if_neg lacp,yields_bind]
    unfold Lab.device
    rw [yields_bind,yields_get,yields_require]
    refine ⟨fun device here => ?_,fun none => ?_⟩
    · have refusal : ∀ reason, device.channel_ingress net port.interface = .error reason → reason = .ChannelInactive := by
        intro reason refused
        unfold Device.channel_ingress at refused
        split at refused
        · cases refused
        · split_ifs at refused
          cases refused
          rfl
      cases collecting : device.channel_ingress net port.interface with
      | error reason =>
        obtain rfl := refusal reason collecting
        dsimp only
        rw [yields_bind]
        have there : entered.Holds port := counted.holds
        refine (update_interface_yields kept port _ (count_dropped .ChannelInactive)).mono (fun _ after dropped => ?_)
          fun _ _ absent => absurd there absent.2
        exact ⟨dropped.1,entered,counted,.inactive here collecting dropped.2⟩
      | ok logical =>
        by_cases same : logical = port.interface
        · simp only [if_pos same]
          rw [same] at collecting
          exact react_yields net kept reaction port frame rfl into
            fun answer after done => ⟨entered,counted,.alone here collecting done⟩
        · simp only [if_neg same]
          rw [yields_bind]
          refine (update_interface_yields kept ⟨port.device,logical⟩ _ (count_received frame)).mono (fun _ past_channel also => ?_)
            fun error after absent => ⟨absent.1,entered,counted,.missing here collecting ?_⟩
          · exact react_yields net also.1 reaction port frame rfl into
              fun answer after done => ⟨entered,counted,.channel here collecting also.2 done⟩
          · exact Bool.eq_false_iff.mpr fun contained => absent.2 ⟨device,here,contained⟩
    · obtain ⟨_,next,_,-,-,there,-⟩ := counted
      rw [none] at there
      cases there

theorem count_arrival_devices (lab : Lab heap δ) (link : UInt64) (source : InterfaceRef) (frame : EthernetFrame)
    (check : Except DropReason Unit) : (lab.count_arrival link source frame check).devices = lab.devices := by
  unfold count_arrival
  cases lab.links.get? link with
  | none => rfl
  | some cable => rfl

/-- What a step does to the frames: it consumes none, or one whose fate it reports. -/
def Stepped (reaction : Reaction δ τ) (past : Past τ) (before : Lab heap δ) (result : Except LabError (Option EventOutcome))
    (after : Lab heap δ) : Prop :=
  Sound past after ∨ ∃ arrival port frame, Sound (past.receive arrival) after ∧
    Reported net reaction before arrival port frame result after

theorem receive_yields (sound : Sound past self) (reaction : Reaction δ τ) {time : SimTime}
    {sequence link generation : UInt64}
    {port source : InterfaceRef} {frame : EthernetFrame} {lost : Bool} {events : EventQueue heap}
    (popped : self.events.step = (some ⟨time,.FrameReceived link generation port frame source lost,sequence⟩,events)) :
    (receive net reaction ⟨time,.FrameReceived link generation port frame source lost,sequence⟩ link generation port frame source
      lost : LabM heap δ (Option EventOutcome)).Yields { self with events }
      (fun outcome after => Stepped net reaction past self (.ok outcome) after)
      (fun error after => Stepped net reaction past self (.error error) after) := by
  let event : ScheduledEvent (SimulationEvent τ) := ⟨time,.FrameReceived link generation port frame source lost,sequence⟩
  obtain ⟨shipment,member,sent⟩ := sound.toTraffic.next_sent popped (rfl : channel event = some (link,generation,source))
  have held : self.Holds port := by
    obtain ⟨⟨_,sender,connects,named⟩,-,ends⟩ := sound.shipped shipment member
    rw [sent] at named
    cases named
    exact ends _ (shipment.link.connects_target _)
  obtain ⟨device,present,contained⟩ := held
  unfold receive
  rw [yields_bind]
  refine (check_arrival_yields net { self with events } time sequence source (fun cable known => (sound.named _ cable known).1)
    ⟨device,present⟩).mono (fun check after decision => ?_) fun _ _ impossible => impossible.elim
  obtain ⟨rfl,decided,checks⟩ := decision
  rw [yields_bind,yields_modify]
  let arrival : Arrival τ := ⟨event,self.links.get? link,check⟩
  have consumed := sound.receive popped (rfl : arrival.event = _) decided
  have checked : arrival.Found → is_lost arrival.event.event = false → ∃ device, self.devices.get? port.device =
    some device ∧
      arrival.check = device.check_frame net port.interface frame true :=
    fun found kept => checks (fun changed => decided.changed.mp changed found) kept
  have there : Holds { ({ self with events } : Lab heap δ).count_arrival link source frame check with
      arrived := self.arrived ++ [arrival] } port :=
    ⟨device,(congrArg (OrderedMap.get? · _) (count_arrival_devices ..)).trans present,contained⟩
  -- the frame is counted at its cable, which no device sees
  have seen : ∀ {after : Lab heap δ} {change : Interface → Interface},
      Changes { ({ self with events } : Lab heap δ).count_arrival link source frame check with
        arrived := self.arrived ++ [arrival] } after port change → Changes self after port change := by
    rintro after change ⟨before,next,interface,here,rest⟩
    rw [count_arrival_devices] at here
    exact ⟨before,next,interface,here,rest⟩
  cases check with
  | ok done =>
    refine (accept_yields net reaction port frame consumed there).mono (fun outcome after answer => ?_) fun error after answer => ?_
    all_goals
      obtain ⟨kept,entered,counted,handed⟩ := answer
      exact .inr ⟨arrival,port,frame,kept,⟨link,generation,source,lost,rfl⟩,checked,fun _ impossible => (by cases impossible),
        fun _ => ⟨entered,seen counted,handed⟩⟩
  | error reason =>
    dsimp only
    rw [yields_bind]
    refine (update_interface_yields consumed port _ (count_dropped reason)).mono (fun _ after dropped => ?_)
      fun _ _ absent => absurd there absent.2
    refine .inr ⟨arrival,port,frame,dropped.1,⟨link,generation,source,lost,rfl⟩,checked,fun other same => ?_,
      fun impossible => (by cases impossible)⟩
    cases same
    exact ⟨rfl,seen dropped.2⟩

/-- A step keeps the invariant, and consumes at most one frame. -/
theorem step_yields (sound : Sound past self) (reaction : Reaction δ τ) :
    (step net reaction : LabM heap δ (Option EventOutcome)).Yields self
      (fun outcome after => Stepped net reaction past self (.ok outcome) after)
      (fun error after => Stepped net reaction past self (.error error) after) := by
  unfold step
  rw [yields_bind,yields_get]
  cases popped : self.events.step with
  | mk next events =>
    cases next with
    | none => exact .inl sound
    | some scheduled =>
      dsimp only
      rw [yields_bind,yields_modify]
      obtain ⟨time,event,sequence⟩ := scheduled
      cases event with
      | FrameReceived link generation interface frame source lost => exact receive_yields net sound reaction popped
      | QosTransmit source epoch =>
        exact (((qos_timer_safe net source epoch past).bind fun _ => Keeps.pure _) _ (sound.pop popped rfl)).mono
          (fun _ _ kept => .inl kept) fun _ _ kept => .inl kept
      | LinkStateChanged link state =>
        exact (((set_link_state_safe net link state past).bind fun _ => Keeps.pure _) _ (sound.pop popped rfl)).mono
          (fun _ _ kept => .inl kept) fun _ _ kept => .inl kept
      | TimerExpired timer => exact .inl (sound.pop popped rfl)
      | Protocol timer =>
        exact (((react_safe net reaction past).bind fun _ => Keeps.pure _) _ (sound.pop popped rfl)).mono
          (fun _ _ kept => .inl kept) fun _ _ kept => .inl kept

/-! ### Runs -/

/-- Only a step consumes frames. -/
theorem operate_safe (operation : Operation δ τ) (others : ∀ reaction, operation ≠ .step reaction) :
    Safe (operate net operation : LabM heap δ (Option EventOutcome)) := by
  intro past
  have quiet : ∀ {α : Type} {program : LabM heap δ α}, Safe program →
      Keeps (Sound past) (program >>= fun _ => pure (none : Option EventOutcome)) :=
    fun safe => (safe past).bind fun _ => Keeps.pure _
  cases operation with
  | add_device id device => exact quiet (add_device_safe net id device)
  | with_device_mut id edit => exact quiet (with_device_mut_safe net id edit)
  | connect_configured a b config => exact quiet (connect_configured_safe net a b config)
  | disconnect id => exact quiet (disconnect_safe net id)
  | set_link_state id state => exact quiet (set_link_state_safe net id state)
  | schedule_link_state id state time => exact quiet (schedule_link_state_safe id state time)
  | schedule_timer timer delay_ms => exact quiet (schedule_after_safe delay_ms rfl)
  | transmit source frame => exact quiet (transmit_safe net source frame)
  | react reaction => exact quiet (react_safe net reaction)
  | advance_to time => exact quiet (advance_to_safe time)
  | step reaction => exact absurd rfl (others reaction)

/-- What an operation leaves, and what a step does to the frames. -/
theorem operate_exec (sound : Sound past self) (operation : Operation δ τ) :
    let call := (operate net operation : LabM heap δ (Option EventOutcome)).exec self
    Sound past call.2 ∨ ∃ reaction, operation = .step reaction ∧ Stepped net reaction past self call.1 call.2 := by
  intro call
  by_cases others : ∀ reaction, operation ≠ .step reaction
  · have kept := operate_safe net operation others past self sound
    unfold Yields at kept
    rcases outcome : (operate net operation : LabM heap δ (Option EventOutcome)).exec self with ⟨error | result,next⟩
    all_goals
      rw [outcome] at kept
      exact .inl (by rw [show call = _ from outcome]; exact kept)
  · obtain ⟨reaction,isStep⟩ := not_forall.mp others
    obtain rfl := not_not.mp isStep
    have stepped := step_yields net sound reaction
    refine .inr ⟨reaction,rfl,?_⟩
    unfold Yields at stepped
    rcases outcome : (step net reaction : LabM heap δ (Option EventOutcome)).exec self with ⟨error | result,next⟩
    all_goals
      rw [outcome] at stepped
      rw [show call = _ from outcome]
      exact stepped

/-- Every run keeps the invariant. -/
theorem run_sound (sound : Sound past self) (operations : List (Operation δ τ)) :
    ∃ later : Past τ, later.rng = past.rng ∧ Sound later (self.run net operations) := by
  induction operations generalizing past self with
  | nil => exact ⟨past,rfl,sound⟩
  | cons operation rest ih =>
    rcases operate_exec net sound operation with kept | ⟨reaction,-,kept | ⟨arrival,_,_,kept,-⟩⟩
    · exact ih kept
    · exact ih kept
    · obtain ⟨later,origin,whole⟩ := ih kept
      exact ⟨later,origin,whole⟩

theorem with_seed_sound (seed : UInt64) : Sound ⟨⟨seed⟩,[]⟩ (with_seed heap δ seed) where
  arrived := rfl
  drawn := ⟨0,rfl,List.Sublist.refl _⟩
  named id link found := by cases found
  fitted source id found := by cases found
  plugged source id link found := by cases found
  seated id link source found := by cases found
  shipped shipment member := absurd member List.not_mem_nil
  traced shipment member := absurd member List.not_mem_nil
  flow := ⟨_,[],Queue.default_refines,Ledger.inOrder_empty⟩
  numbered shipment member := absurd member List.not_mem_nil
  distinct := List.nodup_nil
  decided arrival member := absurd member List.not_mem_nil
  counted id link source found := by cases found

/-! ### Every run -/

/-- A frame that was consumed has one verdict. -/
theorem consumed_total (self : Lab heap δ) (id : UInt64) (source : InterfaceRef) :
    self.arrived.countP (fun arrival => on_cable id source arrival.event) = self.consumed id source .Delivered +
      self.consumed id source .Lost + self.consumed id source .Changed + self.consumed id source .Refused := by
  unfold consumed
  induction self.arrived with
  | nil => rfl
  | cons arrival rest ih =>
    simp only [List.countP_cons,ih]
    by_cases there : on_cable id source arrival.event = true
    · cases verdict arrival.check <;> simp only [there,Bool.true_and] <;> simp <;> omega
    · simp only [there,Bool.false_and]
      simp

/-- Frames are neither lost from the queue nor delivered twice. -/
theorem Traffic.conserved (traffic : Traffic past self) :
    ((self.sent.map (·.event) : List (ScheduledEvent (SimulationEvent τ))) : Multiset (ScheduledEvent (SimulationEvent τ))) =
      (self.arrived.map (·.event) : List (ScheduledEvent (SimulationEvent τ))) +
        (heap.contents self.events.pending).filter (fun scheduled => (channel scheduled).isSome = true) := by
  obtain ⟨_,waiting,refines,inOrder⟩ := traffic.flow
  have sent : (self.sent.map (·.event)).filter (fun scheduled => (channel scheduled).isSome) = self.sent.map (·.event) := by
    rw [List.filter_eq_self]
    intro scheduled member
    obtain ⟨shipment,here,rfl⟩ := List.mem_map.mp member
    obtain ⟨_,_,-,event⟩ := (traffic.shipped shipment here).1
    rw [channel,event]
    rfl
  have arrived : (self.arrived.map (·.event)).filter (fun scheduled => (channel scheduled).isSome) = self.arrived.map (·.event) := by
    rw [List.filter_eq_self]
    intro scheduled member
    obtain ⟨arrival,here,rfl⟩ := List.mem_map.mp member
    exact (traffic.decided arrival here).frame
  have balance := inOrder.conserved
  rw [List.filter_append,sent,arrived] at balance
  rw [refines.contents,Multiset.filter_coe,Multiset.coe_add]
  simp only [Bool.decide_eq_true]
  exact Multiset.coe_eq_coe.mpr balance

/-- The counters of a direction account for its frames. -/
theorem Sound.accounted (sound : Sound past self) {id : UInt64} {link : Link} {source : InterfaceRef}
    (found : self.links.get? id = some link) (connects : link.Connects source) (unexhausted : Unexhausted self.events)
    (below : (link.direction source).counters.tx_packets.toNat < 2 ^ 64 - 1) :
    (link.direction source).counters.tx_packets.toNat = (link.direction source).counters.rx_packets.toNat +
      (link.direction source).counters.loss_drops.toNat + (link.direction source).counters.changed_drops.toNat +
      self.consumed id source .Refused + self.in_flight id source := by
  have counted := sound.counted id link source found connects
  have balance : self.admitted id source = self.arrived.countP (fun arrival => on_cable id source arrival.event) +
      self.in_flight id source := by
    have total := congrArg (Multiset.countP (fun scheduled => on_cable id source scheduled = true)) sound.toTraffic.conserved
    rw [Multiset.countP_add,Multiset.countP_filter] at total
    have frames : Multiset.countP (fun scheduled => on_cable id source scheduled = true ∧ (channel scheduled).isSome = true)
        (heap.contents self.events.pending) = self.in_flight id source := by
      refine Multiset.countP_congr rfl fun scheduled _ => propext (and_iff_left_of_imp fun travels => ?_)
      obtain ⟨_,route⟩ := on_cable_iff.mp travels
      rw [route]
      rfl
    rw [frames,Multiset.coe_countP,Multiset.coe_countP,List.countP_map,List.countP_map] at total
    simpa [admitted,Function.comp_def] using total
  rw [consumed_total] at balance
  obtain ⟨named,-⟩ := sound.named id link found
  have tx : _ = saturated (self.admitted link.id source) := counted.tx unexhausted
  have rx := counted.rx
  have loss := counted.loss
  have changed := counted.changed
  rw [named] at tx rx loss changed
  unfold saturated at tx rx loss changed
  simp only [LinkCounters.tally] at tx rx loss changed
  omega

/-- Frames of every run: each admitted frame is pending or was consumed, once; the frames of one direction and
    generation are consumed in the order of their admission; a frame is dropped for a change of its cable exactly if the
    cable is not active in the generation that admitted it, and lost exactly if its draw of the stream says so; the counters
    account for all frames; and only a step consumes a frame, which the check of the receiving port then drops or lets in. -/
theorem cables_deliver_in_order (heap : MaxHeap (ScheduledEvent (SimulationEvent τ)) ScheduledEvent.cmp) (seed : UInt64)
    (operations : List (Operation δ τ)) :
    let lab := (with_seed heap δ seed).run net operations
    (∀ shipment ∈ lab.sent, shipment.Named) ∧ (lab.sent.map (·.event.sequence)).Nodup ∧
      (∃ admissions, lab.rng = draws ⟨seed⟩ admissions ∧
        (lab.sent.map (·.loss_sample)).Sublist (loss_samples ⟨seed⟩ admissions)) ∧
      ((lab.sent.map (·.event) : List (ScheduledEvent (SimulationEvent τ))) : Multiset (ScheduledEvent (SimulationEvent τ))) =
        (lab.arrived.map (·.event) : List (ScheduledEvent (SimulationEvent τ))) +
          (heap.contents lab.events.pending).filter (fun scheduled => (channel scheduled).isSome = true) ∧
      (∀ key, on channel key (lab.arrived.map (·.event)) <+: on channel key (lab.sent.map (·.event))) ∧
      (∀ arrival ∈ lab.arrived, (verdict arrival.check = .Changed ↔ ¬ arrival.Found) ∧
        (verdict arrival.check = .Lost ↔ arrival.Found ∧ is_lost arrival.event.event = true)) ∧
      (∀ id link source, lab.links.get? id = some link → link.Connects source → Unexhausted lab.events →
        (link.direction source).counters.tx_packets.toNat < 2 ^ 64 - 1 →
        (link.direction source).counters.tx_packets.toNat = (link.direction source).counters.rx_packets.toNat +
          (link.direction source).counters.loss_drops.toNat + (link.direction source).counters.changed_drops.toNat +
          lab.consumed id source .Refused + lab.in_flight id source) ∧
      ∀ operation, let call := (operate net operation : LabM heap δ (Option EventOutcome)).exec lab
        call.2.arrived = lab.arrived ∨ ∃ reaction, operation = .step reaction ∧ ∃ arrival port frame,
          call.2.arrived = lab.arrived ++ [arrival] ∧ Reported net reaction lab arrival port frame call.1 call.2 := by
  intro lab
  obtain ⟨past,origin,sound⟩ := run_sound net (@with_seed_sound δ τ heap seed) operations
  refine ⟨fun shipment member => (sound.shipped shipment member).1,sound.distinct,?_,sound.toTraffic.conserved,?_,
    fun arrival member => ⟨(sound.decided arrival member).changed,(sound.decided arrival member).lost⟩,
    fun id link source found connects unexhausted below => sound.accounted found connects unexhausted below,fun operation => ?_⟩
  · obtain ⟨admissions,drawn⟩ := sound.drawn
    rw [Drawn,origin] at drawn
    exact ⟨admissions,drawn⟩
  · obtain ⟨_,_,-,inOrder⟩ := sound.flow
    exact fun key => inOrder.received_begins key
  · have before : lab.arrived = past.arrived := sound.arrived
    rcases operate_exec net sound operation with kept | ⟨reaction,isStep,kept | ⟨arrival,port,frame,kept,reported⟩⟩
    · exact .inl (kept.arrived.trans before.symm)
    · exact .inl (kept.arrived.trans before.symm)
    · refine .inr ⟨reaction,isStep,arrival,port,frame,?_,reported⟩
      rw [before]
      exact kept.arrived

end Lab
end Rios
