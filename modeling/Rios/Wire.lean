import Mathlib

/-!
# Big-endian fields and loops over bytes

Fixed-width integers in network order, and the loop that reads items from a
byte string until nothing is left. Reading back what was written is a rewrite
rule for each item; what a successful loop leaves behind follows from what one
item does.
-/

namespace Rios.Wire

/-! ### Fixed-width fields -/

/-- `u16::to_be_bytes`. -/
def be16 (x : UInt16) : List UInt8 := [UInt8.ofNat (x.toNat / 256),UInt8.ofNat x.toNat]
/-- `u32::to_be_bytes`. -/
def be32 (x : UInt32) : List UInt8 :=
  [UInt8.ofNat (x.toNat / 16777216),UInt8.ofNat (x.toNat / 65536),UInt8.ofNat (x.toNat / 256),UInt8.ofNat x.toNat]

/-- `u16::from_be_bytes`. -/
def from_be16 (a b : UInt8) : UInt16 := UInt16.ofNat (a.toNat * 256 + b.toNat)
/-- `u32::from_be_bytes`. -/
def from_be32 (a b c d : UInt8) : UInt32 :=
  UInt32.ofNat (((a.toNat * 256 + b.toNat) * 256 + c.toNat) * 256 + d.toNat)

/-- The two bytes from a position on; positions are checked before they are read. -/
def u16_at (bytes : List UInt8) (i : Nat) : UInt16 := from_be16 (bytes.getD i 0) (bytes.getD (i + 1) 0)
/-- The four bytes from a position on. -/
def u32_at (bytes : List UInt8) (i : Nat) : UInt32 :=
  from_be32 (bytes.getD i 0) (bytes.getD (i + 1) 0) (bytes.getD (i + 2) 0) (bytes.getD (i + 3) 0)

@[simp] theorem be16_length (x : UInt16) : (be16 x).length = 2 := rfl
@[simp] theorem be32_length (x : UInt32) : (be32 x).length = 4 := rfl

theorem from_be16_toNat (a b : UInt8) : (from_be16 a b).toNat = a.toNat * 256 + b.toNat := by
  have := a.toNat_lt
  have := b.toNat_lt
  rw [from_be16,UInt16.toNat_ofNat_of_lt']
  simp only [UInt16.size]
  omega

theorem from_be32_toNat (a b c d : UInt8) :
    (from_be32 a b c d).toNat = ((a.toNat * 256 + b.toNat) * 256 + c.toNat) * 256 + d.toNat := by
  have := a.toNat_lt
  have := b.toNat_lt
  have := c.toNat_lt
  have := d.toNat_lt
  rw [from_be32,UInt32.toNat_ofNat_of_lt']
  simp only [UInt32.size]
  omega

/-- Reading a written field. -/
@[simp] theorem u16_at_be16 (x : UInt16) (rest : List UInt8) : u16_at (be16 x ++ rest) 0 = x := by
  apply UInt16.toNat.inj
  have := x.toNat_lt
  simp only [u16_at,be16,List.cons_append,List.nil_append,List.getD_cons_zero,List.getD_cons_succ,from_be16_toNat,
    UInt8.toNat_ofNat']
  omega

@[simp] theorem u32_at_be32 (x : UInt32) (rest : List UInt8) : u32_at (be32 x ++ rest) 0 = x := by
  apply UInt32.toNat.inj
  have := x.toNat_lt
  simp only [u32_at,be32,List.cons_append,List.nil_append,List.getD_cons_zero,List.getD_cons_succ,from_be32_toNat,
    UInt8.toNat_ofNat']
  omega

/-- A field behind a known number of bytes. -/
theorem u32_at_append (front rest : List UInt8) {i : Nat} (isFront : front.length = i) :
    u32_at (front ++ rest) i = u32_at rest 0 := by
  subst isFront
  simp [u32_at,List.getElem?_append_right]

/-- Writing a read field. -/
theorem be16_from_be16 (a b : UInt8) : be16 (from_be16 a b) = [a,b] := by
  have := a.toNat_lt
  have := b.toNat_lt
  simp only [be16,from_be16_toNat,List.cons.injEq,and_true]
  refine ⟨UInt8.toNat.inj ?_,UInt8.toNat.inj ?_⟩ <;> simp only [UInt8.toNat_ofNat'] <;> omega

/-- The complete groups of two bytes (`as_chunks::<2>`), as numbers. -/
def chunks16 : List UInt8 → List UInt16
  | a :: b :: rest => from_be16 a b :: chunks16 rest
  | _ => []

/-- The complete groups of four bytes (`as_chunks::<4>`), as numbers. -/
def chunks32 : List UInt8 → List UInt32
  | a :: b :: c :: d :: rest => from_be32 a b c d :: chunks32 rest
  | _ => []

@[simp] theorem chunks16_flatMap (values : List UInt16) : chunks16 (values.flatMap be16) = values := by
  induction values with
  | nil => rfl
  | cons x rest ih =>
    have head := u16_at_be16 x []
    simp only [List.append_nil,u16_at,be16,List.getD_cons_zero,List.getD_cons_succ] at head
    rw [List.flatMap_cons,be16,List.cons_append,List.cons_append,List.nil_append,chunks16,ih,head]

@[simp] theorem chunks32_flatMap (values : List UInt32) : chunks32 (values.flatMap be32) = values := by
  induction values with
  | nil => rfl
  | cons x rest ih =>
    have head := u32_at_be32 x []
    simp only [List.append_nil,u32_at,be32,List.getD_cons_zero,List.getD_cons_succ] at head
    rw [List.flatMap_cons,be32,List.cons_append,List.cons_append,List.cons_append,List.cons_append,List.nil_append,
      chunks32,ih,head]

theorem chunks16_length (bytes : List UInt8) : (chunks16 bytes).length = bytes.length / 2 := by
  fun_induction chunks16 bytes with
  | case1 a b rest ih => simp only [List.length_cons,ih]; omega
  | case2 bytes short =>
    rcases bytes with _ | ⟨a,_ | ⟨b,rest⟩⟩
    · rfl
    · simp
    · exact absurd rfl (short a b rest)

theorem chunks32_length (bytes : List UInt8) : (chunks32 bytes).length = bytes.length / 4 := by
  fun_induction chunks32 bytes with
  | case1 a b c d rest ih => simp only [List.length_cons,ih]; omega
  | case2 bytes short =>
    rcases bytes with _ | ⟨a,_ | ⟨b,_ | ⟨c,_ | ⟨d,rest⟩⟩⟩⟩
    · rfl
    · simp
    · simp
    · simp
    · exact absurd rfl (short a b c d rest)

@[simp] theorem flatMap_be32_length (values : List UInt32) : (values.flatMap be32).length = 4 * values.length := by
  induction values with
  | nil => rfl
  | cons x rest ih => simp only [List.flatMap_cons,List.length_append,be32_length,ih,List.length_cons]; omega

/-! ### Groups of bytes -/

/-- The complete groups of `size` bytes (`as_chunks`). -/
def groups (size : Nat) (bytes : List UInt8) : List (List UInt8) :=
  (List.range (bytes.length / size)).map (fun i => (bytes.drop (i * size)).take size)

theorem groups_length (size : Nat) (bytes : List UInt8) : (groups size bytes).length = bytes.length / size := by
  rw [groups,List.length_map,List.length_range]

theorem groups_append {size : Nat} (positive : 0 < size) {group : List UInt8} (whole : group.length = size)
    (rest : List UInt8) :
    groups size (group ++ rest) = group :: groups size rest := by
  have count : (group ++ rest).length / size = rest.length / size + 1 := by
    rw [List.length_append,whole,Nat.add_div_left _ positive]
  rw [groups,count,List.range_succ_eq_map,List.map_cons,List.map_map,groups]
  congr 1
  · rw [Nat.zero_mul,List.drop_zero,List.take_left' whole]
  · refine List.map_congr_left (fun i _ => ?_)
    have behind : (group ++ rest).drop (i.succ * size) = rest.drop (i * size) := by
      rw [Nat.succ_mul,Nat.add_comm,← whole,← List.drop_drop,List.drop_left]
    rw [Function.comp_apply,behind]

theorem flatMap_length {α β : Type} {write : α → List β} {size : Nat} (each : ∀ a, (write a).length = size)
    (items : List α) :
    (items.flatMap write).length = size * items.length := by
  induction items with
  | nil => simp
  | cons a rest ih =>
    rw [List.flatMap_cons,List.length_append,each,ih,List.length_cons]
    ring

/-- The groups of what was written in groups. -/
theorem groups_flatMap {α : Type*} {size : Nat} (positive : 0 < size) {write : α → List UInt8}
    (whole : ∀ item, (write item).length = size) (items : List α) : groups size (items.flatMap write) = items.map write := by
  induction items with
  | nil => simp [groups]
  | cons item rest ih => rw [List.flatMap_cons,groups_append positive (whole item),ih,List.map_cons]

/-- A successful reading of several items keeps their number, and every item was read. -/
theorem mapM_ok {α β ε : Type} {read : α → Except ε β} {from_ : List α} {items : List β}
    (reads : from_.mapM read = .ok items) :
    items.length = from_.length ∧ ∀ item ∈ items, ∃ source ∈ from_, read source = .ok item := by
  induction from_ generalizing items with
  | nil =>
    cases reads
    exact ⟨rfl,by intro _ impossible; cases impossible⟩
  | cons head rest ih =>
    rw [List.mapM_cons] at reads
    cases first : read head with
    | error error => rw [first] at reads; cases reads
    | ok item =>
      cases others : rest.mapM read with
      | error error => rw [first,others] at reads; cases reads
      | ok more =>
        rw [first,others] at reads
        cases reads
        obtain ⟨length,every⟩ := ih others
        refine ⟨congrArg Nat.succ length,fun next member => ?_⟩
        rcases List.mem_cons.mp member with rfl | later
        · exact ⟨head,List.mem_cons_self,first⟩
        · obtain ⟨source,inside,read⟩ := every next later
          exact ⟨source,List.mem_cons_of_mem _ inside,read⟩

/-- What was written is read again, item by item. -/
theorem mapM_map {α β ε : Type} {read : α → Except ε β} {write : β → α} {items : List β}
    (reads : ∀ item ∈ items, read (write item) = .ok item) : (items.map write).mapM read = .ok items := by
  induction items with
  | nil => rfl
  | cons head rest ih =>
    rw [List.map_cons,List.mapM_cons,reads head List.mem_cons_self,ih (fun item member => reads item (List.mem_cons_of_mem _ member))]
    rfl

/-! ### Slices -/

/-- `bytes.get(start..start + count)`. -/
def slice? (bytes : List UInt8) (start count : Nat) : Option (List UInt8) :=
  if start + count ≤ bytes.length then some ((bytes.drop start).take count) else none

theorem slice?_eq_some {bytes value : List UInt8} {start count : Nat} (sliced : slice? bytes start count = some value) :
    start + count ≤ bytes.length ∧ value = (bytes.drop start).take count ∧ value.length = count := by
  unfold slice? at sliced
  split_ifs at sliced with inside
  cases sliced
  refine ⟨inside,rfl,?_⟩
  rw [List.length_take,List.length_drop]
  omega

/-- The slice behind a prefix. -/
@[simp] theorem slice?_append (front value rest : List UInt8) {start count : Nat} (isFront : front.length = start)
    (isValue : value.length = count) : slice? (front ++ (value ++ rest)) start count = some value := by
  subst isFront isValue
  rw [slice?,if_pos (by simp only [List.length_append]; omega),List.drop_left,List.take_left]

/-- What follows a counted string. -/
theorem drop_counted (x : UInt16) (value rest : List UInt8) :
    (be16 x ++ (value ++ rest)).drop (2 + value.length) = rest := by
  rw [← List.append_assoc]
  exact List.drop_left' (by rw [List.length_append,be16_length])

/-! ### Loops -/

variable {σ ε : Type*}

/-- At most `fuel` rounds of a loop that reads items from the front. -/
def rounds (item : σ → List UInt8 → Except ε (σ × Nat)) : Nat → σ → List UInt8 → Except ε σ
  | 0,s,_ => .ok s
  | _ + 1,s,[] => .ok s
  | fuel + 1,s,head :: tail =>
    match item s (head :: tail) with
    | .error e => .error e
    | .ok (s,skip) => rounds item fuel s (tail.drop skip)

/-- `while !bytes.is_empty()`: each round reads an item and moves on by its
    first byte and `skip` more. -/
def while_nonempty (item : σ → List UInt8 → Except ε (σ × Nat)) (s : σ) (bytes : List UInt8) : Except ε σ :=
  rounds item bytes.length s bytes

variable {item : σ → List UInt8 → Except ε (σ × Nat)}

/-- More rounds than bytes make no difference. -/
private theorem rounds_eq {fuel : Nat} {bytes : List UInt8} (enough : bytes.length ≤ fuel) (s : σ) :
    rounds item fuel s bytes = rounds item bytes.length s bytes := by
  induction fuel using Nat.strong_induction_on generalizing s bytes with
  | _ fuel ih =>
    cases bytes with
    | nil => cases fuel <;> rfl
    | cons head tail =>
      obtain ⟨more,rfl⟩ : ∃ more, fuel = more + 1 := ⟨fuel - 1,by simp only [List.length_cons] at enough; omega⟩
      simp only [List.length_cons] at enough
      simp only [rounds,List.length_cons]
      split
      · rfl
      · rename_i next skip _
        have short : (tail.drop skip).length ≤ tail.length := by simp
        rw [ih more (by omega) (by omega)]
        rcases Nat.lt_or_ge tail.length more with less | same
        · rw [ih tail.length (by omega) short]
        · obtain rfl : tail.length = more := by omega
          rw [ih tail.length (by omega) short]

@[simp] theorem while_nonempty_nil (s : σ) : while_nonempty item s [] = .ok s := rfl

theorem while_nonempty_cons (s : σ) (head : UInt8) (tail : List UInt8) :
    while_nonempty item s (head :: tail) =
      match item s (head :: tail) with
      | .error e => .error e
      | .ok (s,skip) => while_nonempty item s (tail.drop skip) := by
  rw [while_nonempty,List.length_cons,rounds]
  cases item s (head :: tail) with
  | error e => rfl
  | ok next => exact rounds_eq (by simp) next.1

/-- Reading one written item and going on behind it. -/
theorem while_nonempty_append {s next : σ} {written rest : List UInt8} {skip : Nat}
    (reads : item s (written ++ rest) = .ok (next,skip)) (length : written.length = skip + 1) :
    while_nonempty item s (written ++ rest) = while_nonempty item next rest := by
  cases written with
  | nil => simp at length
  | cons head tail =>
    have behind : (tail ++ rest).drop skip = rest := by
      rw [List.drop_append_of_le_length (by simpa using length.ge),List.drop_eq_nil_of_le (by simpa using length.le)]
      rfl
    rw [List.cons_append] at reads ⊢
    rw [while_nonempty_cons,reads]
    simp only [behind]

/-- What every item preserves, a successful loop preserves: `n` counts the bytes read. -/
theorem while_nonempty_rule {I : σ → Nat → Prop}
    (step : ∀ s n head tail next skip, I s n → item s (head :: tail) = .ok (next,skip) →
      skip ≤ tail.length ∧ I next (n + skip + 1))
    {s final : σ} {bytes : List UInt8} {n : Nat} (start : I s n) (result : while_nonempty item s bytes = .ok final) :
    I final (n + bytes.length) := by
  induction measured : bytes.length using Nat.strong_induction_on generalizing s bytes n with
  | _ size ih =>
    subst measured
    cases bytes with
    | nil => cases result; exact start
    | cons head tail =>
      rw [while_nonempty_cons] at result
      cases read : item s (head :: tail) with
      | error e => rw [read] at result; cases result
      | ok pair =>
        obtain ⟨next,skip⟩ := pair
        rw [read] at result
        obtain ⟨inside,after⟩ := step s n head tail next skip start read
        have rest := ih (tail.drop skip).length (by simp only [List.length_drop,List.length_cons]; omega) after result rfl
        have total : n + skip + 1 + (tail.drop skip).length = n + (head :: tail).length := by
          simp only [List.length_drop,List.length_cons]
          omega
        rw [total] at rest
        exact rest

variable {α : Type*} {wire : α → List UInt8}

/-- A loop that collects items has read the bytes that write them. -/
theorem while_nonempty_collects {item : List α → List UInt8 → Except ε (List α × Nat)} {P : α → Prop}
    (step : ∀ out head tail next skip, item out (head :: tail) = .ok (next,skip) →
      ∃ x, P x ∧ next = out ++ [x] ∧ skip ≤ tail.length ∧ (wire x).length = skip + 1)
    {out final : List α} {bytes : List UInt8} (result : while_nonempty item out bytes = .ok final) (start : ∀ x ∈ out, P x) :
    (∀ x ∈ final, P x) ∧ (final.flatMap wire).length = (out.flatMap wire).length + bytes.length := by
  refine while_nonempty_rule (I := fun list n => (∀ x ∈ list, P x) ∧ (list.flatMap wire).length = n) ?_ ⟨start,rfl⟩ result
  rintro list n head tail next skip ⟨all,size⟩ read
  obtain ⟨x,holds,rfl,inside,length⟩ := step list head tail next skip read
  refine ⟨inside,?_,?_⟩
  · intro other member
    rcases List.mem_append.mp member with old | new
    · exact all other old
    · rw [List.mem_singleton.mp new]
      exact holds
  · rw [List.flatMap_append,List.length_append,size,List.flatMap_singleton,length]
    omega

/-- A loop that collects items reads back a list of written items. -/
theorem while_nonempty_flatMap {item : List α → List UInt8 → Except ε (List α × Nat)} {items : List α}
    (reads : ∀ collected, ∀ a ∈ items, ∀ rest, item collected (wire a ++ rest) = .ok (collected ++ [a],(wire a).length - 1))
    (nonempty : ∀ a, wire a ≠ []) (collected : List α) :
    while_nonempty item collected (items.flatMap wire) = .ok (collected ++ items) := by
  induction items generalizing collected with
  | nil => simp
  | cons a rest ih =>
    have length : (wire a).length = (wire a).length - 1 + 1 := by
      have := List.length_pos_iff.mpr (nonempty a)
      omega
    rw [List.flatMap_cons,while_nonempty_append (reads collected a List.mem_cons_self (rest.flatMap wire)) length,
      ih (fun collected b member => reads collected b (List.mem_cons_of_mem a member)),List.append_assoc,List.singleton_append]

/-- A fold that writes items while they fit writes all of them. -/
theorem foldlM_wire {write : List UInt8 → α → Except ε (List UInt8)} {items : List α} {limit : Nat}
    (writes : ∀ out, ∀ a ∈ items, out.length + (wire a).length ≤ limit → write out a = .ok (out ++ wire a))
    {out : List UInt8} (fits : out.length + (items.flatMap wire).length ≤ limit) :
    items.foldlM write out = .ok (out ++ items.flatMap wire) := by
  induction items generalizing out with
  | nil => simp [pure,Except.pure]
  | cons a rest ih =>
    rw [List.flatMap_cons,List.length_append] at fits
    have first := writes out a List.mem_cons_self (by omega)
    have room : (out ++ wire a).length + (rest.flatMap wire).length ≤ limit := by rw [List.length_append]; omega
    have later := ih (fun out b member => writes out b (List.mem_cons_of_mem a member)) room
    rw [List.foldlM_cons,first]
    simp only [bind,Except.bind]
    rw [later,List.flatMap_cons,List.append_assoc]

end Rios.Wire
