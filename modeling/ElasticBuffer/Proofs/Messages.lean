import ElasticBuffer.Fault
import ElasticBuffer.Reference

/-!
# Texts that can be read back

A fault is told to a reader in a sentence, and a reference is shown as its three numbers. Nothing is lost in these
texts. Each kind of fault has a first word of its own, and the numbers of a text are the stretches of digits in it
(`Text.numbers`), since all that stands around them is plain. So a fault can be read from its message
(`Fault.ofMessage?`) and a reference from its text (`Reference.ofText?`), and no two of them share one
(`Text.texts_tell_apart`).

One kind of fault has a reason in any words. It is read as it stands, behind an opening that no other message has, even
if it is made to look like another message.
-/

namespace ElasticBuffer

namespace Text

/-! ### The numbers of a text -/

/-- The numbers in a text, where `pending` is the one whose digits are being read. -/
def numbersFrom : (pending : Option Nat) → List Char → List Nat
  | pending, [] => pending.toList
  | pending, c :: rest =>
    if c.isDigit then numbersFrom (some (10 * pending.getD 0 + (c.toNat - '0'.toNat))) rest
    else pending.toList ++ numbersFrom none rest

/-- The numbers in a text, from the first one on. -/
def numbers (text : String) : List Nat := numbersFrom none text.toList

/-- There are words and no digits. -/
def isPlain (words : String) : Bool := !words.toList.isEmpty && words.toList.all fun c => !c.isDigit

theorem isPlain_iff {words : String} :
    isPlain words = true ↔ words.toList ≠ [] ∧ ∀ c ∈ words.toList, c.isDigit = false := by
  simp [isPlain]

/-- Digits go on with the number that is being read. -/
theorem numbersFrom_digits {digits : List Char} (h : ∀ c ∈ digits, c.isDigit = true) (n : Nat) (rest : List Char) :
    numbersFrom (some n) (digits ++ rest) = numbersFrom (some (Nat.ofDigitChars 10 digits n)) rest := by
  induction digits generalizing n with
  | nil => rfl
  | cons c digits ih =>
    rw [List.forall_mem_cons] at h
    rw [List.cons_append, numbersFrom, if_pos h.1]
    exact ih h.2 _

/-- A number is read from its digits. -/
theorem numbersFrom_number (n : Nat) (rest : List Char) :
    numbersFrom none ((toString n).toList ++ rest) = numbersFrom (some n) rest := by
  have hdigits : ∀ c ∈ Nat.toDigits 10 n, c.isDigit = true := by
    intro c hc
    exact Nat.isDigit_of_mem_toDigits (by decide) (by decide) hc
  have hvalue : Nat.ofDigitChars 10 (Nat.toDigits 10 n) 0 = n := Nat.ofDigitChars_ten_toDigits
  have htext : (toString n).toList = Nat.toDigits 10 n := Nat.toList_repr
  rw [htext, ← hvalue, ← numbersFrom_digits hdigits, hvalue]
  -- the first digit begins a number, as if nought had been read before it
  cases hlist : Nat.toDigits 10 n with
  | nil => exact absurd hlist Nat.toDigits_ne_nil
  | cons c digits =>
    have hc : c.isDigit = true := hdigits c (by rw [hlist]; exact List.mem_cons_self)
    rw [List.cons_append, numbersFrom, numbersFrom, if_pos hc, if_pos hc]
    rfl

/-- Where no number is being read, plain words are passed over. -/
theorem numbersFrom_none_plain {chars : List Char} (h : ∀ c ∈ chars, c.isDigit = false) (rest : List Char) :
    numbersFrom none (chars ++ rest) = numbersFrom none rest := by
  induction chars with
  | nil => rfl
  | cons c chars ih =>
    rw [List.forall_mem_cons] at h
    rw [List.cons_append, numbersFrom, if_neg (by rw [h.1]; decide)]
    exact ih h.2

/-- Plain words end a number. -/
theorem numbersFrom_plain {words : String} (h : isPlain words = true) (pending : Option Nat) (rest : List Char) :
    numbersFrom pending (words.toList ++ rest) = pending.toList ++ numbersFrom none rest := by
  obtain ⟨hwords, hplain⟩ := isPlain_iff.1 h
  cases hchars : words.toList with
  | nil => exact absurd hchars hwords
  | cons c chars =>
    rw [hchars, List.forall_mem_cons] at hplain
    rw [List.cons_append, numbersFrom, if_neg (by rw [hplain.1]; decide), numbersFrom_none_plain hplain.2]

/-! ### Words and numbers by turns -/

/-- The words, and then each number with the words behind it. -/
def interleaved : (words : String) → List (Nat × String) → String
  | words, [] => words
  | words, (n, next) :: parts => words ++ toString n ++ interleaved next parts

/-- The words between numbers are plain; behind the last number there may be none. -/
def Parted : (words : String) → List (Nat × String) → Prop
  | words, [] => words = "" ∨ isPlain words = true
  | words, (_, next) :: parts => isPlain words = true ∧ Parted next parts

theorem numbersFrom_interleaved {words : String} {parts : List (Nat × String)} (h : Parted words parts)
    (pending : Option Nat) :
    numbersFrom pending (interleaved words parts).toList = pending.toList ++ parts.map Prod.fst := by
  induction parts generalizing words pending with
  | nil =>
    rcases h with rfl | hplain
    · exact (List.append_nil _).symm
    · have hend := numbersFrom_plain hplain pending []
      rw [List.append_nil] at hend
      exact hend
  | cons part parts ih =>
    obtain ⟨n, next⟩ := part
    obtain ⟨hplain, hrest⟩ := h
    rw [interleaved, String.toList_append, String.toList_append, List.append_assoc, numbersFrom_plain hplain,
      numbersFrom_number, ih hrest]
    rfl

/-- **The numbers of a text are those that were written into it.** -/
theorem numbers_of_interleaved {text words : String} {parts : List (Nat × String)}
    (htext : text = interleaved words parts) (h : Parted words parts) : numbers text = parts.map Prod.fst := by
  rw [htext]
  exact numbersFrom_interleaved h none

/-! ### The first word of a text -/

/-- What stands before the first blank. -/
def firstWord (text : String) : String := String.ofList (text.toList.takeWhile fun c => c ≠ ' ')

/-- An opening with a blank has the first word. -/
theorem firstWord_append {opening : String} (h : ' ' ∈ opening.toList) (rest : String) :
    firstWord (opening ++ rest) = firstWord opening := by
  unfold firstWord
  rw [String.toList_append]
  generalize opening.toList = chars at h
  congr 1
  induction chars with
  | nil => cases h
  | cons c chars ih =>
    by_cases hblank : c = ' '
    · subst hblank
      rfl
    · rw [List.cons_append, List.takeWhile_cons_of_pos (by simpa using hblank),
        List.takeWhile_cons_of_pos (by simpa using hblank)]
      rw [ih ((List.mem_cons.1 h).resolve_left (Ne.symm hblank))]

theorem firstWord_of_interleaved {text words : String} {parts : List (Nat × String)}
    (htext : text = interleaved words parts) (h : ' ' ∈ words.toList) : firstWord text = firstWord words := by
  rw [htext]
  cases parts with
  | nil => rfl
  | cons part parts => rw [interleaved, String.append_assoc, firstWord_append h]

/-! ### Texts that are read back -/

variable {β : Type}

/-- What a text was written for: the guess that is made from it, if that is written so. -/
def readBack (write : β → String) (guess? : String → Option β) (text : String) : Option β :=
  (guess? text).filter fun value => write value = text

variable {write : β → String} {guess? : String → Option β}

/-- If guesses at what was written are right, just what was written is read back. -/
theorem readBack_eq_some_iff (hguess : ∀ value, guess? (write value) = some value) {text : String} {value : β} :
    readBack write guess? text = some value ↔ text = write value := by
  unfold readBack
  constructor
  · intro h
    obtain ⟨-, hwritten⟩ := Option.filter_eq_some_iff.1 h
    exact (of_decide_eq_true hwritten).symm
  · rintro rfl
    exact Option.filter_eq_some_iff.2 ⟨hguess value, decide_eq_true rfl⟩

/-- Then no two things are written alike. -/
theorem write_eq_iff (hguess : ∀ value, guess? (write value) = some value) {first second : β} :
    write first = write second ↔ first = second := by
  constructor
  · intro h
    have hsecond := hguess second
    rw [← h, hguess first] at hsecond
    exact Option.some.inj hsecond
  · rintro rfl
    rfl

end Text

namespace Fault

open Text

/-- The opening of the message that ends in a reason. -/
def reasonOpening : String := "invalid buffer config: "

/-- The fault with the given first word and numbers in its message, or with the given reason. -/
def ofWord? (word : String) (numbers : List Nat) (reason : String) : Option Fault :=
  match word, numbers with
  | "index", [index, length] => some (.indexOutOfRange index length)
  | "allocation", [current, requested] => some (.allocationFailure requested current)
  | "stale", [taken, current] => some (.staleReference ⟨.ofNat taken⟩ ⟨.ofNat current⟩)
  | "reference", [origin, buffer] => some (.foreignReference ⟨.ofNat origin⟩ ⟨.ofNat buffer⟩)
  | "invalid", _ => some (.invalidConfig reason)
  | _, _ => none

/-- The fault that a text may be the message of. -/
def guess? (text : String) : Option Fault :=
  ofWord? (firstWord text) (numbers text) (.ofList (text.toList.drop reasonOpening.toList.length))

/-- The fault that a text is the message of. -/
def ofMessage? : String → Option Fault := readBack message guess?

/-! ### Messages by their parts -/

theorem message_indexOutOfRange (index length : Nat) :
    (indexOutOfRange index length).message =
      interleaved "index " [(index, " out of range for length "), (length, "")] := by
  show "index " ++ toString index ++ " out of range for length " ++ toString length = _
  simp only [interleaved, String.append_empty, String.append_assoc]

theorem message_allocationFailure (requested current : Nat) :
    (allocationFailure requested current).message =
      interleaved "allocation failure: could not grow storage from " [(current, " to "), (requested, " elements")] := by
  show "allocation failure: could not grow storage from " ++ toString current ++ " to " ++ toString requested
    ++ " elements" = _
  simp only [interleaved, String.append_assoc]

theorem message_staleReference (taken current : Generation) :
    (staleReference taken current).message =
      interleaved "stale reference: taken at generation "
        [(taken.count.toNat, ", storage is at generation "), (current.count.toNat, "")] := by
  show "stale reference: taken at generation " ++ toString taken.count.toNat ++ ", storage is at generation "
    ++ toString current.count.toNat = _
  simp only [interleaved, String.append_empty, String.append_assoc]

theorem message_foreignReference (origin buffer : BufferId) :
    (foreignReference origin buffer).message =
      interleaved "reference from buffer "
        [(origin.serial.toNat, " resolved against buffer "), (buffer.serial.toNat, "")] := by
  show "reference from buffer " ++ toString origin.serial.toNat ++ " resolved against buffer "
    ++ toString buffer.serial.toNat = _
  simp only [interleaved, String.append_empty, String.append_assoc]

/-- A message of words and numbers by turns is told by its first word and its numbers. -/
theorem guess?_of_interleaved {text words : String} {parts : List (Nat × String)}
    (htext : text = interleaved words parts) (hparted : Parted words parts) (hblank : ' ' ∈ words.toList) :
    ∃ reason, guess? text = ofWord? (firstWord words) (parts.map Prod.fst) reason := by
  rw [guess?, firstWord_of_interleaved htext hblank, numbers_of_interleaved htext hparted]
  exact ⟨_, rfl⟩

/-- **A fault is guessed from its message.** -/
theorem guess?_message (fault : Fault) : guess? fault.message = some fault := by
  cases fault with
  | indexOutOfRange index length =>
    obtain ⟨reason, hguess⟩ := guess?_of_interleaved (message_indexOutOfRange index length)
      ⟨by decide, by decide, .inl rfl⟩ (by decide)
    rw [hguess]
    rfl
  | allocationFailure requested current =>
    obtain ⟨reason, hguess⟩ := guess?_of_interleaved (message_allocationFailure requested current)
      ⟨by decide, by decide, .inr (by decide)⟩ (by decide)
    rw [hguess]
    rfl
  | staleReference taken current =>
    obtain ⟨reason, hguess⟩ := guess?_of_interleaved (message_staleReference taken current)
      ⟨by decide, by decide, .inl rfl⟩ (by decide)
    rw [hguess]
    show some (staleReference ⟨.ofNat taken.count.toNat⟩ ⟨.ofNat current.count.toNat⟩) = _
    rw [UInt64.ofNat_toNat, UInt64.ofNat_toNat]
  | foreignReference origin buffer =>
    obtain ⟨reason, hguess⟩ := guess?_of_interleaved (message_foreignReference origin buffer)
      ⟨by decide, by decide, .inl rfl⟩ (by decide)
    rw [hguess]
    show some (foreignReference ⟨.ofNat origin.serial.toNat⟩ ⟨.ofNat buffer.serial.toNat⟩) = _
    rw [UInt64.ofNat_toNat, UInt64.ofNat_toNat]
  | invalidConfig reason =>
    -- the reason may hold digits and blanks of its own, so it is taken as what follows the opening
    have hword : firstWord (reasonOpening ++ reason) = "invalid" := firstWord_append (by decide) reason
    have hreason : (reasonOpening ++ reason).toList.drop reasonOpening.toList.length = reason.toList := by
      rw [String.toList_append, List.drop_left]
    show guess? (reasonOpening ++ reason) = _
    rw [guess?, hword, hreason, String.ofList_toList]
    rfl

end Fault

namespace Reference

open Text

/-- The reference that a text may have been written for. -/
def guess? (text : String) : Option Reference :=
  match numbers text with
  | [buffer, generation, index] => some ⟨⟨.ofNat buffer⟩, ⟨.ofNat generation⟩, index⟩
  | _ => none

/-- The reference that a text was written for. -/
def ofText? : String → Option Reference := readBack text guess?

theorem text_eq_interleaved (r : Reference) :
    r.text = interleaved "ElementRef(buf="
      [(r.buffer.serial.toNat, ", gen="), (r.generation.count.toNat, ", idx="), (r.index, ")")] := by
  show "ElementRef(buf=" ++ toString r.buffer.serial.toNat ++ ", gen=" ++ toString r.generation.count.toNat
    ++ ", idx=" ++ toString r.index ++ ")" = _
  simp only [interleaved, String.append_assoc]

/-- **A reference is guessed from its text.** -/
theorem guess?_text (r : Reference) : guess? r.text = some r := by
  have hnumbers := numbers_of_interleaved r.text_eq_interleaved ⟨by decide, by decide, by decide, .inr (by decide)⟩
  rw [guess?, hnumbers]
  show some (⟨⟨.ofNat r.buffer.serial.toNat⟩, ⟨.ofNat r.generation.count.toNat⟩, r.index⟩ : Reference) = _
  rw [UInt64.ofNat_toNat, UInt64.ofNat_toNat]

end Reference

/-- **Texts tell apart what they are about.** Two faults have the same message if and only if they are equal, whatever
numbers and reasons they have, and two references have the same text if and only if they agree in buffer, generation and
index. So a fault can be read from its message, and a reference from its text: just from a text that was written for it,
and from no other. -/
theorem Text.texts_tell_apart :
    (∀ first second : Fault, first.message = second.message ↔ first = second) ∧
    (∀ (text : String) (fault : Fault), Fault.ofMessage? text = some fault ↔ text = fault.message) ∧
    (∀ first second : Reference, first.text = second.text ↔
      first.buffer = second.buffer ∧ first.generation = second.generation ∧ first.index = second.index) ∧
    ∀ (text : String) (reference : Reference), Reference.ofText? text = some reference ↔ text = reference.text := by
  refine ⟨?_, ?_, ?_, ?_⟩
  · intro first second
    exact write_eq_iff Fault.guess?_message
  · intro text fault
    exact readBack_eq_some_iff Fault.guess?_message
  · intro first second
    obtain ⟨buffer, generation, index⟩ := first
    obtain ⟨buffer', generation', index'⟩ := second
    rw [write_eq_iff Reference.guess?_text, Reference.mk.injEq]
  · intro text reference
    exact readBack_eq_some_iff Reference.guess?_text

end ElasticBuffer
