import Rios.DhcpCodec

/-!
# The HTTP responder

One request over a stream: nothing is answered before its header is complete,
and a header that does not fit in 8192 bytes is refused. Text is decoded before
it is split, so that lines and words are lists of characters.
-/

namespace Rios.Http
open Rios.Dhcp (bytes from_utf8)

def MAX_HEADER : Nat := 8192

/-- A decimal number. -/
def decimal (n : Nat) : List UInt8 := (Nat.toDigits 10 n).map (fun digit => UInt8.ofNat digit.toNat)

def reply (status : String) (body : List UInt8) (head : Bool) : List UInt8 :=
  bytes "HTTP/1.1 " ++ (bytes status ++ (bytes "\r\nContent-Length: " ++ (decimal body.length ++
    (bytes "\r\nContent-Type: text/plain; charset=utf-8\r\nConnection: close\r\n" ++
      ((if status.startsWith "405" then bytes "Allow: GET, HEAD\r\n" else []) ++ (bytes "\r\n" ++
        if head then [] else body))))))

def bad_request : List UInt8 := reply "400 Bad Request" [] false
def too_large : List UInt8 := reply "431 Request Header Fields Too Large" [] false

/-- The end of the first window of four bytes that is an empty line. -/
def header_end : List UInt8 → Option Nat
  | [] => none
  | b :: rest => if (b :: rest).take 4 = [13,10,13,10] then some 0 else (header_end rest).map (· + 1)

/-- `split("\r\n")`. -/
def split_lines : List Char → List (List Char)
  | [] => [[]]
  | '\r' :: '\n' :: rest => [] :: split_lines rest
  | c :: rest =>
    match split_lines rest with
    | [] => [[c]]
    | line :: lines => (c :: line) :: lines

/-- `split_once`. -/
def split_once (separator : Char) : List Char → Option (List Char × List Char)
  | [] => none
  | c :: rest =>
    if c = separator then some ([],rest)
    else (split_once separator rest).map (fun parts => (c :: parts.1,parts.2))

/-- `is_ascii_alphanumeric`, or one of the other characters of a field name. -/
def is_token (c : Char) : Bool := c.isAlphanum || "!#$%&'*+-.^_`|~".toList.contains c

/-- A control character other than the tabulator. -/
def is_control (c : Char) : Bool := (c.toNat < 32 && c ≠ '\t') || c.toNat == 127

/-- `char::is_whitespace`. -/
def is_whitespace (c : Char) : Bool :=
  (9 ≤ c.toNat && c.toNat ≤ 13) || (0x2000 ≤ c.toNat && c.toNat ≤ 0x200a) ||
    [0x20,0x85,0xa0,0x1680,0x2028,0x2029,0x202f,0x205f,0x3000].contains c.toNat

def trim (value : List Char) : List Char :=
  ((value.dropWhile is_whitespace).reverse.dropWhile is_whitespace).reverse

def eq_ignore_ascii_case (name : List Char) (other : String) : Bool := name.map Char.toLower == other.toList

/-- How many fields that may occur once have been seen. -/
structure Fields where
  hosts : Nat
  lengths : Nat
deriving DecidableEq

/-- One field of the header, unless it makes the request a bad one. -/
def field (seen : Fields) (line : List Char) : Option Fields :=
  match split_once ':' line with
  | none => none
  | some (name,value) =>
    if name.isEmpty || !name.all is_token || value.any is_control then none
    else
      let seen := if eq_ignore_ascii_case name "host" then { seen with hosts := seen.hosts + 1 } else seen
      if eq_ignore_ascii_case name "host" && (trim value).isEmpty then none
      else
        let seen := if eq_ignore_ascii_case name "content-length" then { seen with lengths := seen.lengths + 1 } else seen
        if eq_ignore_ascii_case name "content-length" && (trim value ≠ ['0'] || 1 < seen.lengths) then none
        else if eq_ignore_ascii_case name "transfer-encoding" then none
        else some seen

/-- `response`, where the header is complete. -/
def answer (header : List Char) (body : List UInt8) : List UInt8 :=
  let lines := split_lines header
  match (lines.headD []).splitOn ' ' with
  | [method,target,version] =>
    if ¬ (version = "HTTP/1.0".toList ∨ version = "HTTP/1.1".toList) then bad_request
    else
      match lines.tail.foldlM field ⟨0,0⟩ with
      | none => bad_request
      | some seen =>
        if 1 < seen.hosts ∨ (version = "HTTP/1.1".toList ∧ seen.hosts ≠ 1) then bad_request
        else
          let head : Bool := method = "HEAD".toList
          if ¬ (method = "GET".toList ∨ method = "HEAD".toList) then reply "405 Method Not Allowed" [] head
          else if target ≠ ['/'] then reply "404 Not Found" [] head
          else reply "200 OK" body head
  | _ => bad_request

/-- What is answered to the bytes before the empty line. -/
def answer_header (header : List UInt8) (body : List UInt8) : List UInt8 :=
  match from_utf8 header with
  | none => bad_request
  | some text => answer text.toList body

def response (input : List UInt8) (body : List UInt8) : Option (List UInt8) :=
  let stop := header_end input
  if MAX_HEADER < input.length ∧ stop.all (MAX_HEADER < · + 4) then some too_large
  else stop.map (fun stop => answer_header (input.take stop) body)

/-! ### The first empty line -/

/-- Whether the bytes at a position are an empty line. -/
def EmptyLine (input : List UInt8) (stop : Nat) : Prop := (input.drop stop).take 4 = [13,10,13,10]

instance decidableEmptyLine (input : List UInt8) (stop : Nat) : Decidable (EmptyLine input stop) := by
  unfold EmptyLine
  infer_instance

theorem EmptyLine.within {input : List UInt8} {stop : Nat} (empty : EmptyLine input stop) : stop + 4 ≤ input.length := by
  have four := congrArg List.length empty
  rw [List.length_take,List.length_drop] at four
  simp only [List.length_cons,List.length_nil] at four
  omega

/-- The search finds the first empty line. -/
theorem header_end_eq_some {input : List UInt8} {stop : Nat} : header_end input = some stop ↔
    EmptyLine input stop ∧ ∀ earlier < stop, ¬ EmptyLine input earlier := by
  induction input generalizing stop with
  | nil =>
    constructor
    · intro found
      cases found
    · rintro ⟨empty,-⟩
      have inside := empty.within
      simp at inside
  | cons b rest ih =>
    unfold header_end
    by_cases here : (b :: rest).take 4 = [13,10,13,10]
    · rw [if_pos here]
      constructor
      · intro found
        cases found
        exact ⟨here,fun earlier less => absurd less (Nat.not_lt_zero earlier)⟩
      · rintro ⟨-,first⟩
        rcases Nat.eq_zero_or_pos stop with rfl | later
        · rfl
        · exact absurd here (first 0 later)
    · rw [if_neg here]
      cases stop with
      | zero =>
        constructor
        · intro found
          obtain ⟨other,-,shifted⟩ := Option.map_eq_some_iff.mp found
          cases shifted
        · rintro ⟨empty,-⟩
          exact absurd empty here
      | succ stop =>
        have shifted : ∀ place, EmptyLine (b :: rest) (place + 1) ↔ EmptyLine rest place := fun _ => Iff.rfl
        rw [Option.map_eq_some_iff]
        constructor
        · rintro ⟨found,search,same⟩
          cases same
          obtain ⟨empty,first⟩ := ih.mp search
          refine ⟨empty,fun earlier less => ?_⟩
          cases earlier with
          | zero => exact here
          | succ earlier => exact first earlier (by omega)
        · rintro ⟨empty,first⟩
          exact ⟨stop,ih.mpr ⟨empty,fun earlier less => first (earlier + 1) (by omega)⟩,rfl⟩

theorem header_end_eq_none {input : List UInt8} : header_end input = none ↔ ∀ stop, ¬ EmptyLine input stop := by
  constructor
  · intro none stop empty
    -- the least of the empty lines would have been found
    have some_empty : ∃ stop, EmptyLine input stop := ⟨stop,empty⟩
    have found : header_end input = some (Nat.find some_empty) :=
      header_end_eq_some.mpr ⟨Nat.find_spec some_empty,fun earlier less => Nat.find_min some_empty less⟩
    rw [none] at found
    cases found
  · intro without
    cases found : header_end input with
    | none => rfl
    | some stop => exact absurd (header_end_eq_some.mp found).1 (without stop)

/-- Whether four bytes are an empty line depends on them only. -/
theorem emptyLine_append {input : List UInt8} (later : List UInt8) {stop : Nat} (inside : stop + 4 ≤ input.length) :
    EmptyLine (input ++ later) stop ↔ EmptyLine input stop := by
  unfold EmptyLine
  rw [List.drop_append_of_le_length (by omega),List.take_append_of_le_length (by rw [List.length_drop]; omega)]

/-- The first empty line stays the first one when more bytes arrive. -/
theorem header_end_append {input : List UInt8} {stop : Nat} (found : header_end input = some stop)
    (later : List UInt8) : header_end (input ++ later) = some stop := by
  obtain ⟨empty,first⟩ := header_end_eq_some.mp found
  have inside := empty.within
  refine header_end_eq_some.mpr ⟨(emptyLine_append later inside).mpr empty,fun earlier less => ?_⟩
  rw [emptyLine_append later (by omega)]
  exact first earlier less

/-! ### The statuses -/

/-- The status code of a reply. -/
def status_code (reply : List UInt8) : List UInt8 := (reply.drop 9).take 3

theorem status_code_reply {status : String} {code : List UInt8} (starts : (bytes status).take 3 = code)
    (long : code.length = 3) (body : List UInt8) (head : Bool) : status_code (reply status body head) = code := by
  have three : 3 ≤ (bytes status).length := by
    have shorter := congrArg List.length starts
    rw [List.length_take] at shorter
    omega
  unfold status_code reply
  rw [List.drop_left' (by decide +kernel),List.take_append_of_le_length three]
  exact starts

theorem bad_request_code : status_code bad_request = [52,48,48] :=
  status_code_reply (by decide +kernel) (by decide) _ _

theorem too_large_code : status_code too_large = [52,51,49] :=
  status_code_reply (by decide +kernel) (by decide) _ _

/-- A complete header is answered, but not as one that is too large. -/
theorem answer_ne_too_large (header : List Char) (body : List UInt8) : answer header body ≠ too_large := by
  have differs : ∀ {reply : List UInt8} {code : List UInt8}, status_code reply = code → code ≠ [52,51,49] →
      reply ≠ too_large := by
    intro reply code is other same
    rw [same,too_large_code] at is
    exact other is.symm
  have bad : bad_request ≠ too_large := differs bad_request_code (by decide)
  unfold answer
  simp only
  split
  · split
    · exact bad
    · split
      · exact bad
      · split
        · exact bad
        · split
          · exact differs (@status_code_reply _ [52,48,53] (by decide +kernel) (by decide) _ _) (by decide)
          · split
            · exact differs (@status_code_reply _ [52,48,52] (by decide +kernel) (by decide) _ _) (by decide)
            · exact differs (@status_code_reply _ [50,48,48] (by decide +kernel) (by decide) _ _) (by decide)
  · exact bad

theorem answer_header_ne_too_large (header body : List UInt8) : answer_header header body ≠ too_large := by
  unfold answer_header
  split
  · intro same
    have codes := bad_request_code.symm.trans ((congrArg status_code same).trans too_large_code)
    revert codes
    decide
  · exact answer_ne_too_large _ body

end Rios.Http
