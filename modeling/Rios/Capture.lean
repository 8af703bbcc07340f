import Rios.Arp
import Rios.BlockFile
import Rios.Vlan

/-!
# Packet captures

The PCAPNG writer: a section header, an interface block for each port when it
first appears, and a block for each frame. The file that a run of calls leaves
behind is read back completely, whatever calls have failed, and what it says of
the frames is what the successful calls were given.
-/

namespace Rios.Vlan.EthernetFrame
open Rios.Wire

/-- The bytes of the envelope, without padding or FCS. -/
def bytes (self : EthernetFrame) : List UInt8 :=
  self.destination.octets.toList ++ (self.source.octets.toList ++ (be16 self.ethertype.to_u16 ++ self.payload))

def encode (self : EthernetFrame) : Except FrameError (List UInt8) :=
  if !self.valid_length_or_type then .error .LengthField else .ok self.bytes

end Rios.Vlan.EthernetFrame

namespace Rios.Capture
open Rios.Machine Rios.Device Rios.Wire Rios.BlockFile
open Rios.Arp (InterfaceRef)
open Rios.Vlan (EthernetFrame FrameError)

/-- What has happened to a frame. -/
inductive TraceAction where
  | Tx
  | Rx
  | Drop
deriving DecidableEq

/-- Why a call fails: the frame cannot be encoded, a length does not fit in its field, or the file is full. -/
inductive CaptureError where
  | Frame (error : FrameError)
  | Length
  | Full
deriving DecidableEq

def MAX_CAPTURE_BYTES : UInt64 := 1073741824

structure PcapNg where
  writer : List UInt8
  interfaces : OrderedMap InterfaceRef UInt32
  bytes : UInt64

/-- `pad`: up to the next multiple of four. -/
def pad (body : List UInt8) : List UInt8 := body ++ padding body.length

def option (body : List UInt8) (code : UInt16) (value : List UInt8) : Except CaptureError (List UInt8) :=
  if value.length < 65536 then .ok (pad (body ++ (le16 code ++ (le16 (UInt16.ofNat value.length) ++ value))))
  else .error .Length

namespace PcapNg

def block (self : PcapNg) (kind : UInt32) (body : List UInt8) : Except CaptureError PcapNg :=
  if body.length + 12 < 4294967296 then
    let length := UInt32.ofNat (body.length + 12)
    if MAX_CAPTURE_BYTES < satAdd64 self.bytes length.toUInt64 then .error .Full
    else .ok { self with
      writer := self.writer ++ (le32 kind ++ (le32 length ++ (body ++ le32 length)))
      bytes := self.bytes + length.toUInt64 }
  else .error .Length

def new : Except CaptureError PcapNg :=
  block ⟨[],∅,0⟩ 0x0a0d0d0a (le32 0x1a2b3c4d ++ (le16 1 ++ (le16 0 ++ List.replicate 8 255)))

/-- The number of a port, for which an interface block is written if there is none. -/
def interface_id (self : PcapNg) (port : InterfaceRef) (name : List UInt8) : Except CaptureError (UInt32 × PcapNg) :=
  match self.interfaces.get? port with
  | some id => .ok (id,self)
  | none =>
    if self.interfaces.size < 4294967296 then do
      let id := UInt32.ofNat self.interfaces.size
      let body ← option ([1,0,0,0] ++ le32 0) 2 name
      let body ← option body 9 [6]
      let body ← option body 0 []
      let written ← self.block 1 body
      .ok (id,{ written with interfaces := written.interfaces.insert port id })
    else .error .Length

/-- The block of a frame at an interface. -/
def packet_block (self : PcapNg) (id : UInt32) (time : UInt64) (action : TraceAction) (frame : EthernetFrame) :
    Except CaptureError PcapNg := do
  let data ← frame.encode.mapError .Frame
  if data.length < 4294967296 then
    let length := UInt32.ofNat data.length
    let words := [id,(time >>> 32).toUInt32,time.toUInt32,length,length]
    let flags : UInt32 := if action = .Rx then 1 else 2
    let body ← option (pad (words.flatMap le32 ++ data)) 2 (le32 flags)
    let body ← option body 0 []
    self.block 6 body
  else .error .Length

def packet (self : PcapNg) (port : InterfaceRef) (name : List UInt8) (time : UInt64) (action : TraceAction)
    (frame : EthernetFrame) : Except CaptureError Unit × PcapNg :=
  match self.interface_id port name with
  | .error error => (.error error,self)
  | .ok (id,known) =>
    match known.packet_block id time action frame with
    | .error error => (.error error,known)
    | .ok written => (.ok (),written)

end PcapNg

/-! ### What a file says -/

/-- A block with the fields of its kind. -/
inductive Item where
  | section_header
  | interface (link_type : UInt16) (snapshot : UInt32) (options : List (UInt16 × List UInt8))
  | packet (interface : UInt32) (time : UInt64) (original : UInt32) (data : List UInt8)
    (options : List (UInt16 × List UInt8))
deriving DecidableEq

def read_item (block : Block) : Option Item :=
  if block.kind = 0x0a0d0d0a then
    if 16 ≤ block.body.length ∧ le32_at block.body 0 = 0x1a2b3c4d ∧ le16_at block.body 4 = 1 ∧ le16_at block.body 6 = 0 then
      some .section_header
    else none
  else if block.kind = 1 then
    if 8 ≤ block.body.length then
      (read_options block.body.length (block.body.drop 8)).map (.interface (le16_at block.body 0) (le32_at block.body 4))
    else none
  else if block.kind = 6 then
    let captured := (le32_at block.body 12).toNat
    if 20 + padded captured ≤ block.body.length then
      (read_options block.body.length (block.body.drop (20 + padded captured))).map
        (.packet (le32_at block.body 0)
          (UInt64.ofNat ((le32_at block.body 4).toNat * 4294967296 + (le32_at block.body 8).toNat)) (le32_at block.body 16)
          ((block.body.drop 20).take captured))
    else none
  else none

/-- All of a file, block by block up to its end. -/
def read_capture (file : List UInt8) : Option (List Item) := (read_blocks file.length file).bind (·.mapM read_item)

/-- A file that is made of blocks. -/
theorem read_capture_blocks {blocks : List Block} (framed : ∀ block ∈ blocks, block.Framed) :
    read_capture (blocks.flatMap Block.bytes) = blocks.mapM read_item := by
  unfold read_capture
  rw [read_blocks_bytes blocks framed _ (blocks_length_le blocks)]
  rfl

/-! ### What is written -/

theorem option_ok {body next : List UInt8} {code : UInt16} {value : List UInt8} (aligned : body.length % 4 = 0)
    (written : option body code value = .ok next) : value.length < 65536 ∧ next = body ++ option_bytes code value := by
  unfold option at written
  split at written
  · rename_i short
    cases written
    refine ⟨short,?_⟩
    have front : (le16 code ++ (le16 (UInt16.ofNat value.length) ++ value)).length = 4 + value.length := by
      simp only [List.length_append,le16_length]
      omega
    rw [pad,List.length_append,front,padding_add aligned,padding_add (n := 4) rfl]
    simp only [option_bytes,List.append_assoc]
  · cases written

theorem block_ok {self next : PcapNg} {kind : UInt32} {body : List UInt8} (written : self.block kind body = .ok next) :
    body.length + 12 < 4294967296 ∧ next.writer = self.writer ++ (⟨kind,body⟩ : Block).bytes ∧
      next.interfaces = self.interfaces := by
  unfold PcapNg.block at written
  split at written
  · rename_i short
    dsimp only at written
    split at written
    · cases written
    · cases written
      exact ⟨short,rfl,rfl⟩
  · cases written

/-- The options of an interface: its name, and microseconds. -/
def interface_options (name : List UInt8) : List (UInt16 × List UInt8) := [(2,name),(9,[6])]

/-- The direction of a frame as the flags of its block. -/
def direction (action : TraceAction) : UInt32 := if action = .Rx then 1 else 2

def packet_options (action : TraceAction) : List (UInt16 × List UInt8) := [(2,le32 (direction action))]

theorem read_interface {name : List UInt8} (short : name.length < 65536) :
    read_item ⟨1,([1,0,0,0] ++ le32 0) ++ options_bytes (interface_options name)⟩ =
      some (.interface 1 0 (interface_options name)) := by
  have fine : Options (interface_options name) := by
    intro option member
    simp only [interface_options,List.mem_cons,List.not_mem_nil,or_false] at member
    rcases member with rfl | rfl
    · exact ⟨(by decide : (2 : UInt16) ≠ 0),short⟩
    · exact ⟨(by decide : (9 : UInt16) ≠ 0),by decide⟩
  have length : ([1,0,0,0] ++ le32 0 : List UInt8).length = 8 := rfl
  have kinds : (1 : UInt32) ≠ 0x0a0d0d0a := by decide
  have link : le16_at (([1,0,0,0] ++ le32 0) ++ options_bytes (interface_options name)) 0 = 1 :=
    le16_at_le16 1 ([0,0] ++ (le32 0 ++ options_bytes (interface_options name)))
  have snapshot : le32_at (([1,0,0,0] ++ le32 0) ++ options_bytes (interface_options name)) 4 = 0 := by
    rw [List.append_assoc,le32_at_append _ _ (show ([1,0,0,0] : List UInt8).length = 4 from rfl),le32_at_le32]
  have total : (([1,0,0,0] ++ le32 0) ++ options_bytes (interface_options name)).length =
      8 + (options_bytes (interface_options name)).length := by
    rw [List.length_append,length]
  unfold read_item
  simp only
  rw [if_neg kinds,if_pos trivial,if_pos (by omega),List.drop_left' length,link,snapshot,read_options_bytes _ fine]
  · rfl
  · rw [total]
    simp only [interface_options,List.length_cons,List.length_nil]
    omega

/-- The fields of a frame before its bytes. -/
def packet_words (id : UInt32) (time : UInt64) (size : Nat) : List UInt8 :=
  [id,(time >>> 32).toUInt32,time.toUInt32,UInt32.ofNat size,UInt32.ofNat size].flatMap le32

theorem packet_words_length (id : UInt32) (time : UInt64) (size : Nat) : (packet_words id time size).length = 20 := rfl

/-- The two halves of a time give it back. -/
theorem time_halves (time : UInt64) :
    UInt64.ofNat ((time >>> 32).toUInt32.toNat * 4294967296 + time.toUInt32.toNat) = time := by
  have small := time.toNat_lt
  have high : (time >>> 32).toUInt32.toNat = time.toNat / 4294967296 := by
    rw [UInt64.toNat_toUInt32,UInt64.toNat_shiftRight]
    show time.toNat >>> 32 % 4294967296 = _
    rw [Nat.shiftRight_eq_div_pow]
    omega
  have low : time.toUInt32.toNat = time.toNat % 4294967296 := UInt64.toNat_toUInt32 time
  rw [high,low]
  apply UInt64.toNat.inj
  rw [UInt64.toNat_ofNat_of_lt' (by simp only [UInt64.size]; omega)]
  omega

theorem read_packet (id : UInt32) (time : UInt64) {data : List UInt8} (short : data.length < 4294967296)
    (action : TraceAction) :
    read_item ⟨6,pad (packet_words id time data.length ++ data) ++ options_bytes (packet_options action)⟩ =
      some (.packet id time (UInt32.ofNat data.length) data (packet_options action)) := by
  have fine : Options (packet_options action) := by
    intro option member
    rw [packet_options,List.mem_singleton] at member
    rw [member]
    exact ⟨(by decide : (2 : UInt16) ≠ 0),(by decide : 4 < 65536)⟩
  have size : (UInt32.ofNat data.length).toNat = data.length := UInt32.toNat_ofNat_of_lt' short
  have bounds := padded_bounds data.length
  have body : pad (packet_words id time data.length ++ data) ++ options_bytes (packet_options action) =
      packet_words id time data.length ++ (data ++ (padding data.length ++ options_bytes (packet_options action))) := by
    rw [pad,List.length_append,packet_words_length,padding_add (n := 20) rfl]
    simp only [List.append_assoc]
  rw [body]
  generalize rest : data ++ (padding data.length ++ options_bytes (packet_options action)) = behind
  have words : packet_words id time data.length ++ behind = le32 id ++ (le32 (time >>> 32).toUInt32 ++ (le32 time.toUInt32 ++
      (le32 (UInt32.ofNat data.length) ++ (le32 (UInt32.ofNat data.length) ++ behind)))) := by
    simp only [packet_words,List.flatMap_cons,List.flatMap_nil,List.append_nil,List.append_assoc]
  have field_0 : le32_at (packet_words id time data.length ++ behind) 0 = id := by
    rw [words,le32_at_le32]
  have field_4 : le32_at (packet_words id time data.length ++ behind) 4 = (time >>> 32).toUInt32 := by
    rw [words,le32_at_append _ _ (le32_length _),le32_at_le32]
  have field_8 : le32_at (packet_words id time data.length ++ behind) 8 = time.toUInt32 := by
    rw [words,← List.append_assoc,le32_at_append _ _ (by simp),le32_at_le32]
  have field_12 : le32_at (packet_words id time data.length ++ behind) 12 = UInt32.ofNat data.length := by
    rw [words,← List.append_assoc,← List.append_assoc,le32_at_append _ _ (by simp),le32_at_le32]
  have field_16 : le32_at (packet_words id time data.length ++ behind) 16 = UInt32.ofNat data.length := by
    rw [words,← List.append_assoc,← List.append_assoc,← List.append_assoc,le32_at_append _ _ (by simp),le32_at_le32]
  have total : (packet_words id time data.length ++ behind).length =
      20 + (padded data.length + (options_bytes (packet_options action)).length) := by
    rw [← rest]
    simp only [List.length_append,packet_words_length,padding_length]
    omega
  have content : ((packet_words id time data.length ++ behind).drop 20).take data.length = data := by
    rw [List.drop_left' (packet_words_length _ _ _),← rest,List.take_left' rfl]
  have options : (packet_words id time data.length ++ behind).drop (20 + padded data.length) =
      options_bytes (packet_options action) := by
    rw [← rest,← List.append_assoc,← List.append_assoc]
    refine List.drop_left' ?_
    simp only [List.length_append,packet_words_length,padding_length]
    omega
  have kinds : (6 : UInt32) ≠ 0x0a0d0d0a ∧ (6 : UInt32) ≠ 1 := by decide
  unfold read_item
  simp only [field_0,field_4,field_8,field_12,field_16,size,content,options]
  rw [if_neg kinds.1,if_neg kinds.2,if_pos trivial,if_pos (by omega),time_halves,read_options_bytes _ fine]
  · rfl
  · rw [total]
    simp only [packet_options,List.length_cons,List.length_nil]
    omega

/-! ### Calls -/

/-- What a call of `packet` is given. -/
structure Call where
  port : InterfaceRef
  name : List UInt8
  time : UInt64
  action : TraceAction
  frame : EthernetFrame

/-- The writer, and the calls so far with what they have returned. -/
structure Session where
  capture : PcapNg
  log : List (Call × Except CaptureError Unit)

def Session.record (self : Session) (call : Call) : Session :=
  let result := self.capture.packet call.port call.name call.time call.action call.frame
  ⟨result.2,self.log ++ [(call,result.1)]⟩

def Session.run (capture : PcapNg) (calls : List Call) : Session := calls.foldl record ⟨capture,[]⟩

/-- A frame as a file shows it: the port of its interface, its time and direction, its length and its bytes. -/
structure Observation where
  port : Option InterfaceRef
  time : UInt64
  options : List (UInt16 × List UInt8)
  original : UInt32
  data : List UInt8
deriving DecidableEq

/-- What a file shows of the frames, where interfaces are numbered in the order of the ports. -/
def observed (ports : List (InterfaceRef × List UInt8)) : Item → Option Observation
  | .packet interface time original data options =>
    some ⟨(ports[interface.toNat]?).map (·.1),time,options,original,data⟩
  | _ => none

/-- What a file shows of the interfaces. -/
def described : Item → Option (UInt16 × UInt32 × List (UInt16 × List UInt8))
  | .interface link_type snapshot options => some (link_type,snapshot,options)
  | _ => none

/-- What a call has to leave in the file. -/
def Call.observation (self : Call) : Observation :=
  ⟨some self.port,self.time,packet_options self.action,UInt32.ofNat self.frame.bytes.length,self.frame.bytes⟩

/-- The observations of the calls that returned `Ok`. -/
def successes (log : List (Call × Except CaptureError Unit)) : List Observation :=
  log.filterMap (fun entry => match entry.2 with
    | .ok _ => some entry.1.observation
    | .error _ => none)

/-- What the items of a file say: each port has one interface, which carries its name and precedes its frames, and the
frames are as observed. -/
structure Shows (ports : List (InterfaceRef × List UInt8)) (items : List Item) (observations : List Observation) : Prop where
  single : Item.section_header ∉ items
  one_each : (ports.map (·.1)).Nodup
  interfaces : items.filterMap described = ports.map (fun entry => (1,0,interface_options entry.2))
  packets : items.filterMap (observed ports) = observations
  preceding : ∀ before after interface time original data options,
    items = before ++ .packet interface time original data options :: after →
      interface.toNat < (before.filterMap described).length

/-- The name of a port is that of its first call that has left something in the file: no call for the port before it
has returned `Ok`. -/
def Named (log : List (Call × Except CaptureError Unit)) (ports : List (InterfaceRef × List UInt8)) : Prop :=
  ∀ entry ∈ ports, ∃ before call result after, log = before ++ (call,result) :: after ∧ call.port = entry.1 ∧
    call.name = entry.2 ∧ ∀ earlier ∈ before, earlier.1.port = entry.1 → earlier.2 ≠ .ok ()

/-- The state of the writer behind these items. -/
structure Written (capture : PcapNg) (ports : List (InterfaceRef × List UInt8)) (items : List Item) : Prop where
  file : ∃ blocks : List Block, capture.writer = blocks.flatMap Block.bytes ∧ (∀ block ∈ blocks, block.Framed) ∧
    blocks.mapM read_item = some (.section_header :: items)
  size : capture.interfaces.size = ports.length
  numbered : ∀ port id, capture.interfaces.get? port = some id →
    id.toNat < ports.length ∧ (ports[id.toNat]?).map (·.1) = some port
  known : ∀ port, capture.interfaces.get? port = none → port ∉ ports.map (·.1)

/-! ### One call -/

variable {items : List Item}

theorem mapM_append_one {blocks : List Block} {block : Block} {item : Item}
    (read : blocks.mapM read_item = some items) (last : read_item block = some item) :
    (blocks ++ [block]).mapM read_item = some (items ++ [item]) := by
  rw [List.mapM_append,read]
  simp [last]

variable {ports : List (InterfaceRef × List UInt8)}

/-- A block behind a file adds its item. -/
theorem Written.add {capture next : PcapNg} {block : Block} {item : Item} (written : Written capture ports items)
    (framed : block.Framed) (bytes : next.writer = capture.writer ++ block.bytes) (read : read_item block = some item) :
    ∃ blocks : List Block, next.writer = blocks.flatMap Block.bytes ∧ (∀ block ∈ blocks, block.Framed) ∧
      blocks.mapM read_item = some (.section_header :: (items ++ [item])) := by
  obtain ⟨blocks,file,all,items⟩ := written.file
  refine ⟨blocks ++ [block],?_,?_,mapM_append_one items read⟩
  · rw [bytes,file,List.flatMap_append,List.flatMap_cons,List.flatMap_nil,List.append_nil]
  · intro other member
    rcases List.mem_append.mp member with before | last
    · exact all other before
    · rw [List.mem_singleton.mp last]
      exact framed

theorem new_ok : ∃ start, PcapNg.new = .ok start ∧ Written start [] [] := by
  refine ⟨_,rfl,?_⟩
  constructor
  · refine ⟨[⟨0x0a0d0d0a,le32 0x1a2b3c4d ++ (le16 1 ++ (le16 0 ++ List.replicate 8 255))⟩],rfl,?_,?_⟩
    · intro block member
      rw [List.mem_singleton.mp member]
      exact ⟨rfl,by decide⟩
    · decide +kernel
  · rfl
  · intro port id found
    cases found
  · intro port absent member
    cases member

/-! ### What a file shows, item by item -/

section Shows
variable {ports : List (InterfaceRef × List UInt8)} {items : List Item} {observations : List Observation}

/-- A frame behind others, at an interface that is there. -/
theorem preceding_add {item : Item} (before : ∀ before after interface time original data options,
      items = before ++ .packet interface time original data options :: after →
        interface.toNat < (before.filterMap described).length)
    (last : ∀ interface time original data options, item = .packet interface time original data options →
      interface.toNat < (items.filterMap described).length) :
    ∀ before after interface time original data options,
      items ++ [item] = before ++ .packet interface time original data options :: after →
        interface.toNat < (before.filterMap described).length := by
  intro front after interface time original data options cut
  rcases List.append_eq_append_iff.mp cut with ⟨more,rfl,rest⟩ | ⟨more,rfl,rest⟩
  · cases more with
    | nil =>
      rw [List.nil_append] at rest
      rw [List.append_nil]
      exact last _ _ _ _ _ (List.cons.inj rest).1
    | cons first more =>
      have lengths := congrArg List.length rest
      simp at lengths
  · cases more with
    | nil =>
      rw [List.nil_append] at rest
      have same := (List.cons.inj rest).1
      rw [List.append_nil] at last
      exact last _ _ _ _ _ same.symm
    | cons first more =>
      obtain ⟨rfl,rfl⟩ := List.cons.inj rest
      exact before front more _ _ _ _ _ rfl

/-- The frames so far refer to ports that are there. -/
theorem Shows.inside (shows : Shows ports items observations) {interface : UInt32} {time : UInt64} {original : UInt32}
    {data : List UInt8} {options : List (UInt16 × List UInt8)}
    (member : Item.packet interface time original data options ∈ items) : interface.toNat < ports.length := by
  obtain ⟨before,after,rfl⟩ := List.append_of_mem member
  have early := shows.preceding before after _ _ _ _ _ rfl
  have count := congrArg List.length shows.interfaces
  rw [List.filterMap_append,List.length_append,List.length_map] at count
  omega

theorem Shows.announce (shows : Shows ports items observations) {port : InterfaceRef} (fresh : port ∉ ports.map (·.1))
    (name : List UInt8) :
    Shows (ports ++ [(port,name)]) (items ++ [.interface 1 0 (interface_options name)]) observations := by
  constructor
  · intro member
    rcases List.mem_append.mp member with before | last
    · exact shows.single before
    · cases List.mem_singleton.mp last
  · rw [List.map_append,List.nodup_append]
    refine ⟨shows.one_each,List.nodup_singleton _,fun old member new last same => ?_⟩
    rw [List.map_cons,List.map_nil,List.mem_singleton] at last
    rw [same,show new = port from last] at member
    exact fresh member
  · rw [List.filterMap_append,shows.interfaces,List.map_append]
    rfl
  · have same : items.filterMap (observed (ports ++ [(port,name)])) = items.filterMap (observed ports) := by
      refine List.filterMap_congr (fun item member => ?_)
      cases item with
      | packet interface time original data options =>
        simp only [observed,List.getElem?_append_left (shows.inside member)]
      | _ => rfl
    rw [List.filterMap_append,same,shows.packets]
    exact List.append_nil _
  · refine preceding_add shows.preceding (fun _ _ _ _ _ same => ?_)
    cases same

theorem Shows.frame (shows : Shows ports items observations) {id : UInt32} {port : InterfaceRef}
    (inside : id.toNat < ports.length) (numbered : (ports[id.toNat]?).map (·.1) = some port) (time : UInt64)
    (original : UInt32) (data : List UInt8) (options : List (UInt16 × List UInt8)) :
    Shows ports (items ++ [.packet id time original data options]) (observations ++ [⟨some port,time,options,original,data⟩]) := by
  constructor
  · intro member
    rcases List.mem_append.mp member with before | last
    · exact shows.single before
    · cases List.mem_singleton.mp last
  · exact shows.one_each
  · rw [List.filterMap_append,shows.interfaces]
    exact List.append_nil _
  · rw [List.filterMap_append,shows.packets]
    simp only [List.filterMap_cons,List.filterMap_nil,observed,numbered]
  · refine preceding_add shows.preceding (fun _ _ _ _ _ same => ?_)
    cases same
    rw [shows.interfaces,List.length_map]
    exact inside

end Shows

theorem Named.later {log : List (Call × Except CaptureError Unit)} (named : Named log ports)
    (entry : Call × Except CaptureError Unit) : Named (log ++ [entry]) ports := by
  intro port member
  obtain ⟨before,call,result,after,rfl,rest⟩ := named port member
  exact ⟨before,call,result,after ++ [entry],by simp,rest⟩

theorem Named.announce {log : List (Call × Except CaptureError Unit)} (named : Named log ports) (call : Call)
    (result : Except CaptureError Unit) (fresh : ∀ earlier ∈ log, earlier.1.port = call.port → earlier.2 ≠ .ok ()) :
    Named (log ++ [(call,result)]) (ports ++ [(call.port,call.name)]) := by
  intro port member
  rcases List.mem_append.mp member with before | last
  · exact named.later _ port before
  · rw [List.mem_singleton.mp last]
    exact ⟨log,call,result,[],rfl,rfl,rfl,fresh⟩

/-- A port without an interface has had no successful call. -/
theorem fresh_calls {log : List (Call × Except CaptureError Unit)} (shows : Shows ports items (successes log))
    {port : InterfaceRef} (fresh : port ∉ ports.map (·.1)) :
    ∀ earlier ∈ log, earlier.1.port = port → earlier.2 ≠ .ok () := by
  intro earlier member same success
  have observation : earlier.1.observation ∈ successes log :=
    List.mem_filterMap.mpr ⟨earlier,member,by rw [success]⟩
  rw [← shows.packets,List.mem_filterMap] at observation
  obtain ⟨item,-,seen⟩ := observation
  cases item with
  | packet interface time original data options =>
    simp only [observed,Option.some.injEq,Call.observation,Observation.mk.injEq] at seen
    obtain ⟨entry,found,is⟩ := Option.map_eq_some_iff.mp seen.1
    exact fresh (List.mem_map.mpr ⟨entry,List.mem_of_getElem? found,is.trans same⟩)
  | _ => cases seen

/-! ### One call -/

theorem insertEntry_length {entries : List (InterfaceRef × UInt32)} {port : InterfaceRef}
    (absent : OrderedMap.lookupEntry port entries = none) (id : UInt32) :
    (OrderedMap.insertEntry port id entries).length = entries.length + 1 := by
  induction entries with
  | nil => rfl
  | cons entry rest ih =>
    unfold OrderedMap.lookupEntry at absent
    unfold OrderedMap.insertEntry
    split at absent
    · cases absent
    · rename_i other
      split
      · rfl
      · rw [List.length_cons,ih absent,List.length_cons]

/-- The body of an interface block. -/
def interface_body (name : List UInt8) : List UInt8 := ([1,0,0,0] ++ le32 0) ++ options_bytes (interface_options name)

/-- The body of the block of a frame. -/
def packet_body (id : UInt32) (time : UInt64) (data : List UInt8) (action : TraceAction) : List UInt8 :=
  pad (packet_words id time data.length ++ data) ++ options_bytes (packet_options action)

theorem interface_body_aligned (name : List UInt8) : (interface_body name).length % 4 = 0 := by
  have options := options_bytes_aligned (interface_options name)
  have front : ([1,0,0,0] ++ le32 0 : List UInt8).length = 8 := rfl
  rw [interface_body,List.length_append,front]
  omega

theorem pad_aligned (body : List UInt8) : (pad body).length % 4 = 0 := by
  have bounds := padded_bounds body.length
  rw [pad,List.length_append,padding_length]
  omega

theorem packet_body_aligned (id : UInt32) (time : UInt64) (data : List UInt8) (action : TraceAction) :
    (packet_body id time data action).length % 4 = 0 := by
  have options := options_bytes_aligned (packet_options action)
  have front := pad_aligned (packet_words id time data.length ++ data)
  rw [packet_body,List.length_append]
  omega

/-- An option behind aligned bytes leaves them aligned. -/
theorem option_aligned {body : List UInt8} (aligned : body.length % 4 = 0) (code : UInt16) (value : List UInt8) :
    (body ++ option_bytes code value).length % 4 = 0 := by
  have bounds := padded_bounds value.length
  rw [List.length_append,option_bytes_length]
  omega

/-- What the number of a port is, and what was written for it. -/
theorem interface_id_ok {capture known : PcapNg} (written : Written capture ports items) {port : InterfaceRef}
    {name : List UInt8} {id : UInt32} (found : capture.interface_id port name = .ok (id,known)) :
    (capture.interfaces.get? port = some id ∧ known = capture) ∨
      (port ∉ ports.map (·.1) ∧ known.interfaces.get? port = some id ∧
        Written known (ports ++ [(port,name)]) (items ++ [.interface 1 0 (interface_options name)])) := by
  unfold PcapNg.interface_id at found
  cases held : capture.interfaces.get? port with
  | some old =>
    simp only [held] at found
    cases found
    exact .inl ⟨rfl,rfl⟩
  | none =>
    simp only [held] at found
    split at found
    · rename_i few
      right
      obtain ⟨first,named,found⟩ := bind_ok found
      obtain ⟨second,resolution,found⟩ := bind_ok found
      obtain ⟨body,ended,found⟩ := bind_ok found
      obtain ⟨next,block,found⟩ := bind_ok found
      cases found
      have base : ([1,0,0,0] ++ le32 0 : List UInt8).length % 4 = 0 := rfl
      obtain ⟨short,rfl⟩ := option_ok base named
      obtain ⟨-,rfl⟩ := option_ok (option_aligned base _ _) resolution
      obtain ⟨-,rfl⟩ := option_ok (option_aligned (option_aligned base _ _) _ _) ended
      have body : ((([1,0,0,0] ++ le32 0) ++ option_bytes 2 name) ++ option_bytes 9 [6]) ++ option_bytes 0 [] =
          interface_body name := by
        simp only [interface_body,options_bytes,interface_options,List.flatMap_cons,List.flatMap_nil,List.append_nil,
          List.append_assoc]
      rw [body] at block
      obtain ⟨fits,bytes,interfaces⟩ := block_ok block
      have number : (UInt32.ofNat capture.interfaces.size).toNat = ports.length := by
        rw [UInt32.toNat_ofNat_of_lt' few,written.size]
      refine ⟨written.known port held,OrderedMap.get?_insert_self _ _ _,?_,?_,?_,?_⟩
      · exact written.add ⟨interface_body_aligned name,fits⟩ bytes (read_interface short)
      · rw [interfaces,List.length_append,List.length_singleton,← written.size]
        exact insertEntry_length held _
      · intro other number' found
        rw [interfaces,OrderedMap.get?_insert] at found
        rw [List.length_append,List.length_singleton]
        by_cases same : other = port
        · rw [if_pos same] at found
          cases found
          rw [number,List.getElem?_append_right le_rfl,Nat.sub_self,same]
          exact ⟨Nat.lt_succ_self _,rfl⟩
        · rw [if_neg same] at found
          obtain ⟨inside,numbered⟩ := written.numbered other number' found
          rw [List.getElem?_append_left inside]
          exact ⟨Nat.lt_succ_of_lt inside,numbered⟩
      · intro other absent member
        rw [interfaces,OrderedMap.get?_insert] at absent
        by_cases same : other = port
        · rw [if_pos same] at absent
          cases absent
        · rw [if_neg same] at absent
          rw [List.map_append] at member
          rcases List.mem_append.mp member with before | last
          · exact written.known other absent before
          · exact same (List.mem_singleton.mp last)
    · cases found

/-- What was written for a frame. -/
theorem packet_block_ok {capture next : PcapNg} {id : UInt32} {time : UInt64} {action : TraceAction} {frame : EthernetFrame}
    (done : capture.packet_block id time action frame = .ok next) :
    frame.bytes.length < 4294967296 ∧ (packet_body id time frame.bytes action).length + 12 < 4294967296 ∧
      next.writer = capture.writer ++ (⟨6,packet_body id time frame.bytes action⟩ : Block).bytes ∧
      next.interfaces = capture.interfaces := by
  unfold PcapNg.packet_block at done
  obtain ⟨data,encoded,done⟩ := bind_ok done
  have bytes : data = frame.bytes := by
    unfold EthernetFrame.encode at encoded
    split at encoded
    · cases encoded
    · cases encoded
      rfl
  subst bytes
  split at done
  · rename_i short
    obtain ⟨first,flagged,done⟩ := bind_ok done
    obtain ⟨body,ended,block⟩ := bind_ok done
    obtain ⟨-,rfl⟩ := option_ok (pad_aligned _) flagged
    obtain ⟨-,rfl⟩ := option_ok (option_aligned (pad_aligned _) _ _) ended
    have body : (pad (packet_words id time frame.bytes.length ++ frame.bytes) ++ option_bytes 2 (le32 (direction action))) ++
        option_bytes 0 [] = packet_body id time frame.bytes action := by
      simp only [packet_body,options_bytes,packet_options,List.flatMap_cons,List.flatMap_nil,List.append_nil,List.append_assoc]
    obtain ⟨fits,bytes,interfaces⟩ := block_ok (body ▸ block)
    exact ⟨short,fits,bytes,interfaces⟩
  · cases done

theorem successes_error (log : List (Call × Except CaptureError Unit)) (call : Call) (error : CaptureError) :
    successes (log ++ [(call,.error error)]) = successes log := by
  rw [successes,List.filterMap_append]
  exact List.append_nil _

theorem successes_ok (log : List (Call × Except CaptureError Unit)) (call : Call) :
    successes (log ++ [(call,.ok ())]) = successes log ++ [call.observation] := by
  rw [successes,List.filterMap_append]
  rfl

/-- What a call does to a file that shows the calls so far. -/
theorem record_shows {session : Session} (shows : Shows ports items (successes session.log))
    (named : Named session.log ports) (written : Written session.capture ports items) (call : Call) : ∃ ports' items',
      Shows ports' items' (successes (session.record call).log) ∧ Named (session.record call).log ports' ∧
        Written (session.record call).capture ports' items' := by
  unfold Session.record PcapNg.packet
  cases found : session.capture.interface_id call.port call.name with
  | error error =>
    refine ⟨ports,items,?_,named.later _,written⟩
    rw [successes_error]
    exact shows
  | ok known =>
    obtain ⟨id,known⟩ := known
    -- the interface is there, or was written before the frame
    have announced : ∃ ports' items', Shows ports' items' (successes session.log) ∧ Written known ports' items' ∧
        known.interfaces.get? call.port = some id ∧ ∀ result, Named (session.log ++ [(call,result)]) ports' := by
      rcases interface_id_ok written found with ⟨held,rfl⟩ | ⟨fresh,numbered,after⟩
      · exact ⟨ports,items,shows,written,held,fun _ => named.later _⟩
      · exact ⟨_,_,shows.announce fresh call.name,after,numbered,
          fun result => named.announce call result (fresh_calls shows fresh)⟩
    obtain ⟨ports',items',shows',written',held,named'⟩ := announced
    simp only
    cases done : known.packet_block id call.time call.action call.frame with
    | error error =>
      refine ⟨ports',items',?_,named' _,written'⟩
      rw [successes_error]
      exact shows'
    | ok next =>
      obtain ⟨short,fits,bytes,interfaces⟩ := packet_block_ok done
      obtain ⟨inside,numbered⟩ := written'.numbered call.port id held
      refine ⟨ports',items' ++ [.packet id call.time (UInt32.ofNat call.frame.bytes.length) call.frame.bytes
        (packet_options call.action)],?_,named' _,?_,?_,?_,?_⟩
      · rw [successes_ok]
        exact shows'.frame inside numbered call.time (UInt32.ofNat call.frame.bytes.length) call.frame.bytes
          (packet_options call.action)
      · exact written'.add ⟨packet_body_aligned _ _ _ _,fits⟩ bytes (read_packet id call.time short call.action)
      · rw [interfaces]
        exact written'.size
      · rw [interfaces]
        exact written'.numbered
      · rw [interfaces]
        exact written'.known

/-! ### Runs -/

theorem run_shows {start : PcapNg} (begun : Written start [] []) (calls : List Call) : ∃ ports items,
    Shows ports items (successes (Session.run start calls).log) ∧ Named (Session.run start calls).log ports ∧
      Written (Session.run start calls).capture ports items := by
  induction calls using List.reverseRecOn with
  | nil =>
    refine ⟨[],[],⟨List.not_mem_nil,List.nodup_nil,rfl,rfl,?_⟩,?_,begun⟩
    · intro before after _ _ _ _ _ cut
      have lengths := congrArg List.length cut
      simp at lengths
    · intro entry member
      cases member
  | append_singleton calls call ih =>
    obtain ⟨ports,items,shows,named,written⟩ := ih
    have last : Session.run start (calls ++ [call]) = (Session.run start calls).record call := List.foldl_concat _ _ _ _
    rw [last]
    exact record_shows shows named written call

/-- The log is about the calls in their order. -/
theorem run_log (start : PcapNg) (calls : List Call) : (Session.run start calls).log.map (·.1) = calls := by
  induction calls using List.reverseRecOn with
  | nil => rfl
  | append_singleton calls call ih =>
    have last : Session.run start (calls ++ [call]) = (Session.run start calls).record call := List.foldl_concat _ _ _ _
    rw [last,Session.record,List.map_append,ih]
    rfl

/-- The file behind every run of calls is read completely: one section, and then interfaces and frames that show exactly
what the successful calls were given. An interface carries the name of the first call that left something for its port. -/
theorem capture_complete (calls : List Call) : ∃ start, PcapNg.new = .ok start ∧
    (Session.run start calls).log.map (·.1) = calls ∧ ∃ ports items,
      read_capture (Session.run start calls).capture.writer = some (.section_header :: items) ∧
        Shows ports items (successes (Session.run start calls).log) ∧ Named (Session.run start calls).log ports := by
  obtain ⟨start,new,begun⟩ := new_ok
  obtain ⟨ports,items,shows,named,written⟩ := run_shows begun calls
  refine ⟨start,new,run_log start calls,ports,items,?_,shows,named⟩
  obtain ⟨blocks,file,framed,read⟩ := written.file
  rw [file,read_capture_blocks framed,read]

/-- An ARP frame of two bytes at the first port, under some name. -/
def named_call (name : List UInt8) : Call :=
  ⟨⟨0,0⟩,name,7,.Rx,⟨⟨Vector.replicate 6 255⟩,⟨Vector.replicate 6 2⟩,.Arp,[1,2]⟩⟩

/-- A port that is renamed between two frames, from `a` to `b`: both calls succeed, and both frames refer to an interface
with the first name. -/
theorem renamed_port : ∃ start, PcapNg.new = .ok start ∧
    let session := Session.run start [named_call [97],named_call [98]]
    session.log.map (·.2) = [.ok (),.ok ()] ∧
      ∃ data, read_capture session.capture.writer = some
        [.section_header,.interface 1 0 (interface_options [97]),.packet 0 7 16 data (packet_options .Rx),
          .packet 0 7 16 data (packet_options .Rx)] := by
  refine ⟨_,rfl,?_,(named_call []).frame.bytes,?_⟩
  · decide +kernel
  · decide +kernel

end Rios.Capture
