import Rios.Wire

/-!
# Files of blocks

The layout of PCAPNG files: blocks that carry their length at both ends, and
options inside of them that are padded to multiples of four bytes. A reader
takes a file apart block by block; what was put together from blocks is read
back as these blocks, and nothing is left.
-/

namespace Rios.BlockFile
open Rios.Wire

/-! ### Little-endian fields -/

/-- `u16::to_le_bytes`. -/
def le16 (x : UInt16) : List UInt8 := [UInt8.ofNat x.toNat,UInt8.ofNat (x.toNat / 256)]
/-- `u32::to_le_bytes`. -/
def le32 (x : UInt32) : List UInt8 :=
  [UInt8.ofNat x.toNat,UInt8.ofNat (x.toNat / 256),UInt8.ofNat (x.toNat / 65536),UInt8.ofNat (x.toNat / 16777216)]

/-- The two bytes from a position on. -/
def le16_at (bytes : List UInt8) (i : Nat) : UInt16 := from_be16 (bytes.getD (i + 1) 0) (bytes.getD i 0)
/-- The four bytes from a position on. -/
def le32_at (bytes : List UInt8) (i : Nat) : UInt32 :=
  from_be32 (bytes.getD (i + 3) 0) (bytes.getD (i + 2) 0) (bytes.getD (i + 1) 0) (bytes.getD i 0)

@[simp] theorem le16_length (x : UInt16) : (le16 x).length = 2 := rfl
@[simp] theorem le32_length (x : UInt32) : (le32 x).length = 4 := rfl

@[simp] theorem le16_at_le16 (x : UInt16) (rest : List UInt8) : le16_at (le16 x ++ rest) 0 = x := by
  apply UInt16.toNat.inj
  have := x.toNat_lt
  simp only [le16_at,le16,List.cons_append,List.nil_append,List.getD_cons_zero,List.getD_cons_succ,from_be16_toNat,
    UInt8.toNat_ofNat']
  omega

@[simp] theorem le32_at_le32 (x : UInt32) (rest : List UInt8) : le32_at (le32 x ++ rest) 0 = x := by
  apply UInt32.toNat.inj
  have := x.toNat_lt
  simp only [le32_at,le32,List.cons_append,List.nil_append,List.getD_cons_zero,List.getD_cons_succ,from_be32_toNat,
    UInt8.toNat_ofNat']
  omega

/-- A field behind a known number of bytes. -/
theorem le16_at_append (front rest : List UInt8) {i : Nat} (isFront : front.length = i) :
    le16_at (front ++ rest) i = le16_at rest 0 := by
  subst isFront
  simp [le16_at,List.getElem?_append_right]

theorem le32_at_append (front rest : List UInt8) {i : Nat} (isFront : front.length = i) :
    le32_at (front ++ rest) i = le32_at rest 0 := by
  subst isFront
  simp [le32_at,List.getElem?_append_right]

/-! ### Padding -/

/-- The next multiple of four. -/
def padded (n : Nat) : Nat := (n + 3) / 4 * 4

/-- The bytes that fill up to the next multiple of four. -/
def padding (n : Nat) : List UInt8 := List.replicate (padded n - n) 0

theorem padded_bounds (n : Nat) : n ≤ padded n ∧ padded n < n + 4 ∧ padded n % 4 = 0 := by
  unfold padded
  omega

@[simp] theorem padding_length (n : Nat) : (padding n).length = padded n - n := List.length_replicate

/-- Padding depends on the length behind the last multiple of four. -/
theorem padding_add {n : Nat} (aligned : n % 4 = 0) (m : Nat) : padding (n + m) = padding m := by
  unfold padding padded
  congr 1
  omega

/-! ### Options -/

/-- An option as it is written. -/
def option_bytes (code : UInt16) (value : List UInt8) : List UInt8 :=
  le16 code ++ (le16 (UInt16.ofNat value.length) ++ (value ++ padding value.length))

theorem option_bytes_length (code : UInt16) (value : List UInt8) :
    (option_bytes code value).length = 4 + padded value.length := by
  have bounds := padded_bounds value.length
  simp only [option_bytes,List.length_append,le16_length,padding_length]
  omega

/-- The options up to the one with code zero, which is the last one. -/
def read_options : Nat → List UInt8 → Option (List (UInt16 × List UInt8))
  | 0,_ => none
  | fuel+1,bytes =>
    if bytes.length < 4 then none
    else
      let size := (le16_at bytes 2).toNat
      if le16_at bytes 0 = 0 then if size = 0 ∧ bytes.length = 4 then some [] else none
      else if bytes.length < 4 + padded size then none
      else (read_options fuel (bytes.drop (4 + padded size))).map ((le16_at bytes 0,(bytes.drop 4).take size) :: ·)

/-- The options as they are written, with their end. -/
def options_bytes (options : List (UInt16 × List UInt8)) : List UInt8 :=
  options.flatMap (fun option => option_bytes option.1 option.2) ++ option_bytes 0 []

/-- Options that can be written: none has the code of the end or is longer than its length field can say. -/
def Options (options : List (UInt16 × List UInt8)) : Prop := ∀ option ∈ options, option.1 ≠ 0 ∧ option.2.length < 65536

theorem options_bytes_aligned (options : List (UInt16 × List UInt8)) : (options_bytes options).length % 4 = 0 := by
  induction options with
  | nil => rfl
  | cons option rest ih =>
    have bounds := padded_bounds option.2.length
    have behind : (options_bytes (option :: rest)).length = (option_bytes option.1 option.2).length + (options_bytes rest).length := by
      simp only [options_bytes,List.flatMap_cons,List.length_append]
      omega
    rw [behind,option_bytes_length]
    omega

/-- What was written as options is read back. -/
theorem read_options_bytes (options : List (UInt16 × List UInt8)) (fine : Options options) (fuel : Nat)
    (enough : options.length < fuel) : read_options fuel (options_bytes options) = some options := by
  induction options generalizing fuel with
  | nil =>
    obtain ⟨fuel,rfl⟩ := Nat.exists_eq_succ_of_ne_zero (Nat.ne_of_gt enough)
    rfl
  | cons option rest ih =>
    obtain ⟨fuel,rfl⟩ := Nat.exists_eq_succ_of_ne_zero (Nat.ne_of_gt (Nat.lt_of_le_of_lt (Nat.zero_le _) enough))
    obtain ⟨proper,short⟩ := fine option List.mem_cons_self
    have others : Options rest := fun other member => fine other (List.mem_cons_of_mem option member)
    have bounds := padded_bounds option.2.length
    have bytes : options_bytes (option :: rest) =
        le16 option.1 ++ (le16 (UInt16.ofNat option.2.length) ++ (option.2 ++ (padding option.2.length ++ options_bytes rest))) := by
      simp only [options_bytes,List.flatMap_cons,option_bytes,List.append_assoc]
    have size : (UInt16.ofNat option.2.length).toNat = option.2.length := by
      rw [UInt16.toNat_ofNat_of_lt']
      exact short
    have code : le16_at (options_bytes (option :: rest)) 0 = option.1 := by
      rw [bytes,le16_at_le16]
    have length : (le16_at (options_bytes (option :: rest)) 2).toNat = option.2.length := by
      rw [bytes,le16_at_append _ _ (le16_length _),le16_at_le16,size]
    have total : (options_bytes (option :: rest)).length = 4 + padded option.2.length + (options_bytes rest).length := by
      rw [bytes]
      simp only [List.length_append,le16_length,padding_length]
      omega
    have value : ((options_bytes (option :: rest)).drop 4).take option.2.length = option.2 := by
      rw [bytes,← List.append_assoc,List.drop_left' (by simp),List.take_left' rfl]
    have behind : (options_bytes (option :: rest)).drop (4 + padded option.2.length) = options_bytes rest := by
      have front : options_bytes (option :: rest) = option_bytes option.1 option.2 ++ options_bytes rest := by
        rw [bytes]
        simp only [option_bytes,List.append_assoc]
      rw [front,List.drop_left' (option_bytes_length _ _)]
    rw [read_options,if_neg (by omega)]
    simp only [code,length,value,behind]
    rw [if_neg proper,if_neg (by omega),ih others fuel (by simpa using enough)]
    rfl

/-! ### Blocks -/

structure Block where
  kind : UInt32
  body : List UInt8
deriving DecidableEq

/-- A block as it is written. -/
def Block.bytes (self : Block) : List UInt8 :=
  le32 self.kind ++ (le32 (UInt32.ofNat (self.body.length + 12)) ++ (self.body ++ le32 (UInt32.ofNat (self.body.length + 12))))

/-- A block whose length is a multiple of four that its length fields can say. -/
def Block.Framed (self : Block) : Prop := self.body.length % 4 = 0 ∧ self.body.length + 12 < 4294967296

theorem Block.bytes_length (self : Block) : self.bytes.length = self.body.length + 12 := by
  simp only [Block.bytes,List.length_append,le32_length]
  omega

/-- The first block of a file, if its lengths agree and it is as long as they say. -/
def read_block (bytes : List UInt8) : Option (Block × List UInt8) :=
  let length := (le32_at bytes 4).toNat
  if length % 4 = 0 ∧ 12 ≤ length ∧ length ≤ bytes.length ∧ (le32_at bytes (length - 4)).toNat = length then
    some (⟨le32_at bytes 0,(bytes.drop 8).take (length - 12)⟩,bytes.drop length)
  else none

theorem read_block_bytes {block : Block} (framed : block.Framed) (rest : List UInt8) :
    read_block (block.bytes ++ rest) = some (block,rest) := by
  obtain ⟨aligned,short⟩ := framed
  have size : (UInt32.ofNat (block.body.length + 12)).toNat = block.body.length + 12 := by
    rw [UInt32.toNat_ofNat_of_lt']
    exact short
  have length : (le32_at (block.bytes ++ rest) 4).toNat = block.body.length + 12 := by
    rw [Block.bytes,List.append_assoc,le32_at_append _ _ (le32_length _),List.append_assoc,le32_at_le32,size]
  have trailer : (le32_at (block.bytes ++ rest) (block.body.length + 12 - 4)).toNat = block.body.length + 12 := by
    have front : block.bytes ++ rest = (le32 block.kind ++ (le32 (UInt32.ofNat (block.body.length + 12)) ++ block.body)) ++
        (le32 (UInt32.ofNat (block.body.length + 12)) ++ rest) := by
      simp only [Block.bytes,List.append_assoc]
    rw [front,le32_at_append _ _ (by simp only [List.length_append,le32_length]; omega),le32_at_le32,size]
  have kind : le32_at (block.bytes ++ rest) 0 = block.kind := by
    rw [Block.bytes,List.append_assoc,le32_at_le32]
  have body : ((block.bytes ++ rest).drop 8).take (block.body.length + 12 - 12) = block.body := by
    have front : block.bytes ++ rest = (le32 block.kind ++ le32 (UInt32.ofNat (block.body.length + 12))) ++
        (block.body ++ (le32 (UInt32.ofNat (block.body.length + 12)) ++ rest)) := by
      simp only [Block.bytes,List.append_assoc]
    rw [front,List.drop_left' (by simp),List.take_left' (by omega)]
  unfold read_block
  simp only [length,trailer,kind,body]
  rw [if_pos ⟨by omega,by omega,by rw [List.length_append,Block.bytes_length]; omega,trivial⟩,
    List.drop_left' (Block.bytes_length block)]

/-- All blocks of a file, if nothing else is left. -/
def read_blocks : Nat → List UInt8 → Option (List Block)
  | _,[] => some []
  | 0,_ => none
  | fuel+1,bytes => (read_block bytes).bind (fun read => (read_blocks fuel read.2).map (read.1 :: ·))

/-- What was written as blocks is read back, up to its end. -/
theorem read_blocks_bytes (blocks : List Block) (framed : ∀ block ∈ blocks, block.Framed) (fuel : Nat)
    (enough : blocks.length ≤ fuel) : read_blocks fuel (blocks.flatMap Block.bytes) = some blocks := by
  induction blocks generalizing fuel with
  | nil => cases fuel <;> rfl
  | cons block rest ih =>
    obtain ⟨fuel,rfl⟩ := Nat.exists_eq_succ_of_ne_zero (Nat.ne_of_gt (Nat.lt_of_lt_of_le (Nat.succ_pos _) enough))
    have nonempty : block.bytes ++ rest.flatMap Block.bytes ≠ [] := by
      have length := Block.bytes_length block
      intro empty
      rw [(List.append_eq_nil_iff.mp empty).1,List.length_nil] at length
      omega
    have others := ih (fun other member => framed other (List.mem_cons_of_mem block member)) fuel (by simpa using enough)
    rw [List.flatMap_cons,read_blocks,read_block_bytes (framed block List.mem_cons_self)]
    · simp only [Option.bind_some,others,Option.map_some]
    · exact nonempty

/-- As many rounds as there are bytes are enough. -/
theorem blocks_length_le (blocks : List Block) : blocks.length ≤ (blocks.flatMap Block.bytes).length := by
  induction blocks with
  | nil => exact Nat.zero_le _
  | cons block rest ih =>
    rw [List.flatMap_cons,List.length_append,Block.bytes_length,List.length_cons]
    omega

end Rios.BlockFile
