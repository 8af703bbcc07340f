import Mathlib

/-!
# Words of a text

Text cut at white space into words with the places where they begin, and words
joined with single spaces: cutting gives back what was joined.
-/

namespace Rios.Words

/-- `char::is_whitespace`, the Unicode property `White_Space`. -/
def is_whitespace (c : Char) : Bool :=
  let code := c.toNat
  (9 ≤ code && code ≤ 13) || code = 32 || code = 0x85 || code = 0xa0 || code = 0x1680 || (0x2000 ≤ code && code ≤ 0x200a) ||
    code = 0x2028 || code = 0x2029 || code = 0x202f || code = 0x205f || code = 0x3000

/-- `str::split_whitespace`. -/
def split_whitespace (text : List Char) : List (List Char) := (text.splitOnP is_whitespace).filter (!·.isEmpty)

/-- A word with the byte at which it begins. -/
structure Token where
  text : String
  offset : Nat
deriving DecidableEq

/-- `str::find`, in characters. -/
def find (text : List Char) : List Char → Nat
  | [] => 0
  | c :: rest => if text.isPrefixOf (c :: rest) then 0 else find text rest + 1

/-- The number of bytes of a text. -/
def len (text : List Char) : Nat := (String.ofList text).utf8ByteSize

/-- The words of what is left of an input from a byte on. -/
def locate (cursor : Nat) (input : List Char) : List (List Char) → List Token
  | [] => []
  | text :: rest =>
    let skipped := find text input
    let offset := cursor + len (input.take skipped)
    ⟨String.ofList text,offset⟩ :: locate (offset + len text) (input.drop (skipped + text.length)) rest

def tokens (input : String) : List Token := locate 0 input.toList (split_whitespace input.toList)

theorem locate_text (cursor : Nat) (input : List Char) (words : List (List Char)) :
    (locate cursor input words).map (·.text) = words.map String.ofList := by
  induction words generalizing cursor input with
  | nil => rfl
  | cons text rest ih =>
    rw [locate,List.map_cons,List.map_cons]
    exact congrArg _ (ih _ _)

theorem tokens_text (input : String) : (tokens input).map (·.text) = (split_whitespace input.toList).map String.ofList :=
  locate_text _ _ _

/-- Text that is one word. -/
def Word (text : List Char) : Prop := text ≠ [] ∧ ∀ c ∈ text, is_whitespace c = false

instance (text : List Char) : Decidable (Word text) := inferInstanceAs (Decidable (_ ∧ _))

theorem digit_not_whitespace {c : Char} (digit : c.isDigit = true) : is_whitespace c = false := by
  simp only [Char.isDigit,ge_iff_le,Bool.and_eq_true,decide_eq_true_eq,UInt32.le_iff_toNat_le] at digit
  have low : 48 ≤ c.toNat := digit.1
  have high : c.toNat ≤ 57 := digit.2
  simp only [is_whitespace,Bool.or_eq_false_iff,Bool.and_eq_false_iff,decide_eq_false_iff_not]
  omega

/-- Words with single spaces between them are what the text is cut into. -/
theorem split_whitespace_joined {words : List (List Char)} (fine : ∀ word ∈ words, Word word) :
    split_whitespace ([' '].intercalate words) = words := by
  have all : ∀ words : List (List Char), (∀ word ∈ words, Word word) → words ≠ [] →
      ([' '].intercalate words).splitOnP is_whitespace = words := by
    intro words
    induction words with
    | nil => exact fun _ filled => absurd rfl filled
    | cons word rest ih =>
      intro fine _
      have plain := (fine word List.mem_cons_self).2
      cases rest with
      | nil => simpa using List.splitOnP_eq_singleton plain
      | cons next rest =>
        have later := ih (fun other member => fine other (List.mem_cons_of_mem _ member)) (List.cons_ne_nil _ _)
        have joined : [' '].intercalate (word :: next :: rest) = word ++ ' ' :: [' '].intercalate (next :: rest) := by
          simp [List.intercalate,List.intersperse]
        rw [joined,List.splitOnP_append_cons_of_forall_mem plain ' ' (by decide),later]
  unfold split_whitespace
  cases words with
  | nil => rfl
  | cons word rest =>
    rw [all _ fine (List.cons_ne_nil _ _),List.filter_eq_self]
    intro other member
    simpa using (fine other member).1

/-- Words, each behind a space. -/
def spaced (words : List String) : String := String.join (words.map (" " ++ ·))

@[simp] theorem spaced_append (first second : List String) : spaced (first ++ second) = spaced first ++ spaced second := by
  rw [spaced,List.map_append,String.join_append]
  rfl

theorem joined_spaced (first : String) (rest : List String) : " ".intercalate (first :: rest) = first ++ spaced rest := by
  induction rest generalizing first with
  | nil => simp [spaced]
  | cons next rest ih =>
    rw [String.intercalate_cons_cons,ih,spaced,spaced,List.map_cons,String.join_cons]
    simp only [String.append_assoc]

/-- Joined words are read as tokens with these texts. -/
theorem tokens_joined {words : List String} (fine : ∀ word ∈ words, Word word.toList) :
    (tokens (" ".intercalate words)).map (·.text) = words := by
  have space : " ".toList = [' '] := rfl
  rw [tokens_text,String.toList_intercalate,space,split_whitespace_joined]
  · rw [List.map_map]
    simp
  · intro text member
    obtain ⟨word,inside,rfl⟩ := List.mem_map.mp member
    exact fine word inside

end Rios.Words
