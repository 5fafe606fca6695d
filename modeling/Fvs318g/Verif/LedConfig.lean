import Fvs318g.Gsw.LedConfig

/-!
# The bounds of the LED parser

A command is blanks, a first word, blanks, and the letters that follow. `get_argv` finds just these
parts, and it stays in its arrays exactly when the command has an end within the buffer and, if it
has a blank, both words leave room for their terminating zero. The length that the user gives is the
only other bound; nothing checks it.
-/

namespace Fvs318g.Verif.LedConfig

open Kernel Lib Gsw

/-! ## The parts of a command -/

/-- The command as a string, without the blanks in front. -/
def line (data : List UInt8) : List UInt8 := text (data.dropWhile (· == blank))

/-- The characters up to the first blank. -/
def firstWord (data : List UInt8) : List UInt8 := (line data).takeWhile (· != blank)

/-- What follows the first word. -/
def afterWord (data : List UInt8) : List UInt8 := (line data).dropWhile (· != blank)

/-- The letters behind the blanks. -/
def secondWord (data : List UInt8) : List UInt8 :=
  ((afterWord data).dropWhile (· == blank)).takeWhile isalpha

/-! ## The parser -/

/-- A command's string has no zero. -/
theorem zero_not_mem_line (data : List UInt8) : (0 : UInt8) ∉ line data := zero_not_mem_text _

/-- The command has an end within the buffer. -/
def Ended (data : List UInt8) : Prop := data.length < ledBufferSize ∨ (0 : UInt8) ∈ data

/-- The blanks in front of a command and the rest. -/
theorem length_blanks (data : List UInt8) :
    (data.takeWhile (· == blank)).length + (data.dropWhile (· == blank)).length = data.length := by
  rw [← List.length_append, List.takeWhile_append_dropWhile]

/-- The blanks in front of a command are not part of its string. -/
theorem length_line_le (data : List UInt8) :
    (data.takeWhile (· == blank)).length + (line data).length ≤ data.length := by
  have parts := length_blanks data
  have shorter : (line data).length ≤ (data.dropWhile (· == blank)).length :=
    (List.takeWhile_prefix _).length_le
  omega

variable {data : List UInt8}

/-- The string of a command that has an end is shorter than the buffer. -/
theorem Ended.length_line (ended : Ended data) (fits : data.length ≤ ledBufferSize) :
    (data.takeWhile (· == blank)).length + (line data).length < ledBufferSize := by
  have bound := length_line_le data
  rcases ended with short | zero
  · omega
  · -- the zero is neither a blank in front nor in the string
    by_contra full
    have whole : line data = data.dropWhile (· == blank) := by
      apply (List.takeWhile_prefix _).eq_of_length
      have parts := length_blanks data
      show (line data).length = _
      omega
    rw [← List.takeWhile_append_dropWhile (p := (· == blank)) (l := data), ← whole] at zero
    rcases List.mem_append.mp zero with front | inside
    · exact absurd (List.mem_takeWhile_imp front) (by decide)
    · exact zero_not_mem_text _ inside

/-- The first scan goes over the blanks in front. -/
theorem skip_blanks (data : List UInt8) (fits : data.length ≤ ledBufferSize) :
    skipWhile (· == blank) (padded ledBufferSize data) 0 data.length =
      if (data.takeWhile (· == blank)).length < ledBufferSize then
        some (data.takeWhile (· == blank)).length
      else none := by
  rw [skipWhile_eq, List.drop_zero, length_padded fits, Nat.zero_add, padded, List.take_left]

/-- The rest of the buffer has a zero when the command has an end. -/
theorem zero_mem_rest_iff (fits : data.length ≤ ledBufferSize) :
    (0 : UInt8) ∈ data.dropWhile (· == blank) ++ List.replicate (ledBufferSize - data.length) 0 ↔
      Ended data := by
  have blanks : (0 : UInt8) ∉ data.takeWhile (· == blank) := by
    intro front
    exact absurd (List.mem_takeWhile_imp front) (by decide)
  have among : (0 : UInt8) ∈ data ↔ (0 : UInt8) ∈ data.dropWhile (· == blank) := by
    conv_lhs => rw [← List.takeWhile_append_dropWhile (p := (· == blank)) (l := data)]
    rw [List.mem_append]
    exact or_iff_right blanks
  have room : ledBufferSize - data.length ≠ 0 ↔ data.length < ledBufferSize := by omega
  rw [List.mem_append, List.mem_replicate, ← among, room, and_iff_left rfl, Ended, or_comm]

/-- The copy of the command, when it has an end. -/
theorem copy_line (fits : data.length ≤ ledBufferSize) (ended : Ended data) :
    strcpy (List.replicate ledBufferSize 0) 0
        ((padded ledBufferSize data).drop (data.takeWhile (· == blank)).length) =
      some (padded ledBufferSize (line data)) := by
  have short := ended.length_line fits
  rw [padded, drop_takeWhile_append, strcpy_eq, text_append_zeros, List.length_replicate]
  rw [if_pos ⟨(zero_mem_rest_iff fits).mpr ended, by rw [← line]; omega⟩, overwrite_zeros, ← line,
    padded_terminated (by omega)]

/-- A command without an end leaves the buffer. -/
theorem getArgv_open (fits : data.length ≤ ledBufferSize) (open_ : ¬ Ended data) :
    getArgv (padded ledBufferSize data) data.length = none := by
  simp only [getArgv, Option.bind_eq_bind, skip_blanks data fits]
  split
  · rw [Option.bind_some, padded, drop_takeWhile_append, strcpy_eq,
      if_neg (fun both => open_ ((zero_mem_rest_iff fits).mp both.1)), Option.bind_none]
  · rfl

/-- The first word and what follows make up the command. -/
theorem length_words (data : List UInt8) :
    (firstWord data).length + (afterWord data).length = (line data).length := by
  rw [← List.length_append, firstWord, afterWord, List.takeWhile_append_dropWhile]

section Words

variable {data : List UInt8} (short : (line data).length < ledBufferSize)
include short

/-- The loop that copies the first word. -/
theorem copy_first {n : Nat} (spaced : blank ∈ line data) (bound : (line data).length ≤ n) :
    copyWhile (· != blank) (padded ledBufferSize (line data)) 0 (List.replicate ledWordSize 0) 0 n =
      if (firstWord data).length ≤ ledWordSize then
        some ((firstWord data).length, (firstWord data).length, padded ledWordSize (firstWord data))
      else none := by
  have found : ((padded ledBufferSize (line data)).take n).takeWhile (· != blank) =
      firstWord data := takeWhile_take_zeros bound (.inr ⟨blank, spaced, by decide⟩)
  have inside : (firstWord data).length < (padded ledBufferSize (line data)).length := by
    rw [length_padded (Nat.le_of_lt short)]
    exact Nat.lt_of_le_of_lt (List.takeWhile_prefix _).length_le short
  rw [copyWhile_eq _ _ _ _ (Nat.zero_le _)]
  simp only [List.drop_zero, found, Nat.zero_add, inside, true_and, List.length_replicate,
    overwrite_zeros]

/-- The loop over the blanks behind the first word. -/
theorem skip_second {n : Nat} (bound : (line data).length ≤ (firstWord data).length + n) :
    skipWhile (· == blank) (padded ledBufferSize (line data)) (firstWord data).length n =
      some ((firstWord data).length + ((afterWord data).takeWhile (· == blank)).length) := by
  have parts := length_words data
  have rest : (padded ledBufferSize (line data)).drop (firstWord data).length =
      afterWord data ++ List.replicate (ledBufferSize - (line data).length) 0 :=
    drop_takeWhile_append _ _ _
  have fewer : ((afterWord data).takeWhile (· == blank)).length ≤ (afterWord data).length :=
    (List.takeWhile_prefix _).length_le
  rw [skipWhile_eq, rest, takeWhile_take_zeros (by omega) (.inl (by decide)),
    length_padded (Nat.le_of_lt short), if_pos (by omega)]

/-- The loop that copies the second word. -/
theorem copy_second {n : Nat} (bound : (line data).length ≤
      (firstWord data).length + ((afterWord data).takeWhile (· == blank)).length + n) :
    copyWhile (fun c => c != 0 && c != blank && isalpha c) (padded ledBufferSize (line data))
        ((firstWord data).length + ((afterWord data).takeWhile (· == blank)).length)
        (List.replicate ledWordSize 0) 0 n =
      if (secondWord data).length ≤ ledWordSize then
        some ((firstWord data).length + ((afterWord data).takeWhile (· == blank)).length +
            (secondWord data).length, (secondWord data).length,
          padded ledWordSize (secondWord data))
      else none := by
  have letters : (fun c => c != 0 && c != blank && isalpha c) = isalpha := by
    funext c
    by_cases zero : c = 0
    · subst zero
      rfl
    · by_cases space : c = blank
      · subst space
        rfl
      · rw [bne_iff_ne.mpr zero, bne_iff_ne.mpr space]
        rfl
  have parts := length_words data
  have behind : ((afterWord data).takeWhile (· == blank)).length +
      ((afterWord data).dropWhile (· == blank)).length = (afterWord data).length := by
    rw [← List.length_append, List.takeWhile_append_dropWhile]
  have rest : (padded ledBufferSize (line data)).drop
      ((firstWord data).length + ((afterWord data).takeWhile (· == blank)).length) =
        (afterWord data).dropWhile (· == blank) ++
          List.replicate (ledBufferSize - (line data).length) 0 := by
    rw [← List.drop_drop, padded, firstWord, drop_takeWhile_append]
    exact drop_takeWhile_append _ _ _
  have found : ((((afterWord data).dropWhile (· == blank) ++
      List.replicate (ledBufferSize - (line data).length) 0)).take n).takeWhile isalpha =
        secondWord data := takeWhile_take_zeros (by omega) (.inl (by decide))
  have fewer : (secondWord data).length ≤ ((afterWord data).dropWhile (· == blank)).length :=
    (List.takeWhile_prefix _).length_le
  have inside : (firstWord data).length + ((afterWord data).takeWhile (· == blank)).length +
      (secondWord data).length < (padded ledBufferSize (line data)).length := by
    rw [length_padded (Nat.le_of_lt short)]
    omega
  rw [letters, copyWhile_eq _ _ _ _ (Nat.zero_le _), rest]
  simp only [found, Nat.zero_add, inside, true_and, List.length_replicate, overwrite_zeros]

end Words

/-- The scans of a command that has an end. -/
theorem getArgv_ended (fits : data.length ≤ ledBufferSize) (ended : Ended data) :
    getArgv (padded ledBufferSize data) data.length =
      if blank ∈ line data then
        if (firstWord data).length < ledWordSize ∧ (secondWord data).length < ledWordSize then
          some ⟨0, padded ledWordSize (firstWord data), padded ledWordSize (secondWord data)⟩
        else none
      else some ⟨1, padded ledWordSize [], padded ledWordSize []⟩ := by
  have short := ended.length_line fits
  have front : (data.takeWhile (· == blank)).length < ledBufferSize := by omega
  have length : strlen (padded ledBufferSize (line data)) = some (line data).length := by
    rw [strlen_eq, if_pos (zero_mem_padded (by omega)), text_padded _ (zero_not_mem_line data)]
  have whole : (padded ledBufferSize (line data)).take (line data).length = line data := by
    rw [padded, List.take_left]
  simp only [getArgv, Option.bind_eq_bind, skip_blanks data fits, if_pos front, Option.bind_some,
    copy_line fits ended, length, whole]
  have bound : (line data).length ≤ data.length - (data.takeWhile (· == blank)).length := by
    have := length_line_le data
    omega
  have within : (line data).length < ledBufferSize := by omega
  split
  · rename_i spaced
    rw [copy_first within spaced bound]
    by_cases fitsFirst : (firstWord data).length ≤ ledWordSize
    · rw [if_pos fitsFirst, Option.bind_some, putChar_padded fitsFirst]
      by_cases roomFirst : (firstWord data).length < ledWordSize
      · rw [if_pos roomFirst, Option.bind_some, skip_second within (by omega), Option.bind_some,
          copy_second within (by omega)]
        by_cases fitsSecond : (secondWord data).length ≤ ledWordSize
        · rw [if_pos fitsSecond, Option.bind_some, putChar_padded fitsSecond]
          by_cases roomSecond : (secondWord data).length < ledWordSize
          · rw [if_pos roomSecond, if_pos ⟨roomFirst, roomSecond⟩]
            rfl
          · rw [if_neg roomSecond, if_neg (fun both => roomSecond both.2)]
            rfl
        · rw [if_neg fitsSecond, if_neg (fun both => fitsSecond (Nat.le_of_lt both.2))]
          rfl
      · rw [if_neg roomFirst, if_neg (fun both => roomFirst both.1)]
        rfl
    · rw [if_neg fitsFirst, if_neg (fun both => fitsFirst (Nat.le_of_lt both.1))]
      rfl
  · rfl

/-! ## The command -/

/-- A comparison of two arrays that are as long as its bound. -/
theorem strnicmp_some {s1 s2 : List UInt8} {n : Nat} (first : n ≤ s1.length)
    (second : n ≤ s2.length) : ∃ order, strnicmp s1 s2 n = some order := by
  induction n generalizing s1 s2 with
  | zero => exact ⟨0, by rw [strnicmp]⟩
  | succ n ih =>
    cases s1 with
    | nil => cases first
    | cons c1 s1 =>
      cases s2 with
      | nil => cases second
      | cons c2 s2 =>
        rw [strnicmp]
        split
        · exact ⟨_, rfl⟩
        · split
          · exact ih (Nat.le_of_succ_le_succ first) (Nat.le_of_succ_le_succ second)
          · exact ⟨_, rfl⟩

/-- Two states with the same words. -/
def SameWords (s after : LedState) : Prop := after.led = s.led ∧ after.opt = s.opt

/-- Switching an LED leaves the words alone. -/
theorem ledSwitch_words (gpio : Nat) (s : LedState) (size : s.opt.length = ledWordSize) :
    ∃ after, ledSwitch gpio s = some after ∧ SameWords s after := by
  have ⟨on, compareOn⟩ : ∃ order, strnicmp s.opt wordOn 3 = some order :=
    strnicmp_some (by rw [size]; decide) (by decide)
  have ⟨off, compareOff⟩ : ∃ order, strnicmp s.opt wordOff 4 = some order :=
    strnicmp_some (by rw [size]; decide) (by decide)
  simp only [ledSwitch, compareOn, compareOff, Option.bind_eq_bind, Option.bind_some]
  split
  · exact ⟨_, rfl, rfl, rfl⟩
  · split
    · exact ⟨_, rfl, rfl, rfl⟩
    · exact ⟨_, rfl, rfl, rfl⟩

variable (s : LedState)

/-- A command leaves the words alone. -/
theorem ledCommand_words (led : s.led.length = ledWordSize) (opt : s.opt.length = ledWordSize) :
    ∃ after, ledCommand s = some after ∧ SameWords s after := by
  have ⟨test, compareTest⟩ : ∃ order, strnicmp s.led wordTest 5 = some order :=
    strnicmp_some (by rw [led]; decide) (by decide)
  have ⟨dmz, compareDmz⟩ : ∃ order, strnicmp s.led wordDmz 4 = some order :=
    strnicmp_some (by rw [led]; decide) (by decide)
  simp only [ledCommand, compareTest, compareDmz, Option.bind_eq_bind, Option.bind_some]
  split
  · exact ledSwitch_words _ s opt
  · split
    · exact ledSwitch_words _ s opt
    · exact ⟨s, rfl, rfl, rfl⟩

variable {readable : List UInt8}

/-- The buffer after a complete copy. -/
theorem ledCopyFromUser_eq {len : Nat} (fits : len ≤ ledBufferSize)
    (complete : len ≤ readable.length) :
    ledCopyFromUser readable len = some (padded ledBufferSize (readable.take len)) := by
  rw [ledCopyFromUser, if_pos fits, Nat.sub_eq_zero_of_le complete, List.replicate_zero,
    List.append_nil, overwrite_zeros]

/-- A write whose command is taken apart, by the words it is taken apart into. -/
theorem ledconfigWrite_argv {readable first second : List UInt8} {len result : Nat}
    (fits : len ≤ ledBufferSize) (complete : len ≤ readable.length)
    (parsed : getArgv (padded ledBufferSize (readable.take len)) len =
      some ⟨result, padded ledWordSize first, padded ledWordSize second⟩)
    (roomFirst : first.length < ledWordSize) (roomSecond : second.length < ledWordSize) :
    ∃ after, ledconfigWrite s readable len = some (after, (len : Int)) ∧
      after.led = padded ledWordSize first ∧ after.opt = padded ledWordSize second := by
  have lengths : ∀ w : List UInt8, w.length < ledWordSize →
      ∃ n, strlen (padded ledWordSize w) = some n := fun w room =>
    ⟨_, by rw [strlen_eq, if_pos (zero_mem_padded room)]⟩
  have ⟨n, lengthFirst⟩ := lengths first roomFirst
  have ⟨m, lengthSecond⟩ := lengths second roomSecond
  have enough : ¬ readable.length < len := by omega
  simp only [ledconfigWrite, ledCopyFromUser_eq fits complete, Option.bind_eq_bind,
    Option.bind_some, if_neg enough, parsed, lengthFirst, lengthSecond]
  split
  · have ⟨after, done, led, opt⟩ := ledCommand_words
      { s with
        buffer := padded ledBufferSize (readable.take len)
        led := padded ledWordSize first, opt := padded ledWordSize second
        printed := s.printed ++ [((padded ledWordSize first).take n,
          (padded ledWordSize second).take m)] }
      (length_padded (Nat.le_of_lt roomFirst)) (length_padded (Nat.le_of_lt roomSecond))
    rw [done]
    exact ⟨after, rfl, led, opt⟩
  · exact ⟨_, rfl, rfl, rfl⟩

/-! ## Two words -/

/-- A line of a word, blanks and a word of letters, of at most nine characters each. -/
structure TwoWords (data first second : List UInt8) : Prop where
  /-- How the line is made, with or without a newline. -/
  parts : ∃ gap rest, data = first ++ (List.replicate (gap + 1) blank ++ (second ++ rest)) ∧
    (rest = [] ∨ rest = [10])
  /-- The first word is not empty. -/
  starts : first ≠ []
  /-- It has no blank and no zero. -/
  plain : ∀ c ∈ first, c ≠ blank ∧ c ≠ 0
  /-- It leaves room for its zero. -/
  roomFirst : first.length < ledWordSize
  /-- The second word is not empty. -/
  goesOn : second ≠ []
  /-- It has letters only. -/
  letters : ∀ c ∈ second, isalpha c = true
  /-- It leaves room for its zero. -/
  roomSecond : second.length < ledWordSize

/-- A letter is not a blank, and not a zero. -/
theorem not_blank_of_isalpha {c : UInt8} (letter : isalpha c = true) : c ≠ blank ∧ c ≠ 0 := by
  constructor
  · intro space
    rw [space] at letter
    exact absurd letter (by decide)
  · intro zero
    rw [zero] at letter
    exact absurd letter (by decide)

namespace TwoWords

variable {data first second : List UInt8} (words : TwoWords data first second)
include words

/-- The whole line is the command. -/
theorem line_eq : line data = data := by
  have ⟨gap, rest, made, newline⟩ := words.parts
  have clean : (0 : UInt8) ∉ data := by
    rw [made]
    simp only [List.mem_append, List.mem_replicate, not_or, not_and]
    refine ⟨fun member => (words.plain 0 member).2 rfl, fun _ => by decide,
      fun member => (not_blank_of_isalpha (words.letters 0 member)).2 rfl, ?_⟩
    rcases newline with none | one
    · rw [none]
      exact List.not_mem_nil
    · rw [one]
      decide
  have front : data.dropWhile (· == blank) = data := by
    cases shape : first with
    | nil => exact absurd shape words.starts
    | cons c word =>
      have visible : c ≠ blank := (words.plain c (shape ▸ List.mem_cons_self)).1
      rw [made, shape, List.cons_append, List.dropWhile_cons,
        if_neg (fun h => visible (beq_iff_eq.mp h))]
  rw [line, front, text_of_not_mem clean]

/-- The first word. -/
theorem firstWord_eq : firstWord data = first := by
  have ⟨gap, rest, made, _⟩ := words.parts
  rw [firstWord, words.line_eq, made, List.takeWhile_append_of_pos
    (fun c member => bne_iff_ne.mpr (words.plain c member).1), List.replicate_succ,
    List.cons_append, List.takeWhile_cons]
  exact List.append_nil first

/-- The blanks and what is behind them. -/
theorem afterWord_eq : ∃ gap rest,
    afterWord data = List.replicate (gap + 1) blank ++ (second ++ rest) ∧
      (rest = [] ∨ rest = [10]) := by
  have ⟨gap, rest, made, newline⟩ := words.parts
  refine ⟨gap, rest, ?_, newline⟩
  rw [afterWord, words.line_eq, made, List.dropWhile_append_of_pos
    (fun c member => bne_iff_ne.mpr (words.plain c member).1), List.replicate_succ,
    List.cons_append, List.dropWhile_cons]
  rfl

/-- The second word. -/
theorem secondWord_eq : secondWord data = second := by
  have ⟨gap, rest, after, newline⟩ := words.afterWord_eq
  have visible : (second ++ rest).dropWhile (· == blank) = second ++ rest := by
    cases shape : second with
    | nil => exact absurd shape words.goesOn
    | cons c word =>
      have letter := words.letters c (shape ▸ List.mem_cons_self)
      rw [List.cons_append, List.dropWhile_cons,
        if_neg (fun h => (not_blank_of_isalpha letter).1 (beq_iff_eq.mp h))]
  have stops : rest.takeWhile isalpha = [] := by
    rcases newline with none | one
    · rw [none]
      rfl
    · rw [one]
      rfl
  rw [secondWord, after, List.dropWhile_append_of_pos, visible,
    List.takeWhile_append_of_pos words.letters, stops, List.append_nil]
  intro c member
  exact beq_iff_eq.mpr (List.eq_of_mem_replicate member)

/-- The line has a blank. -/
theorem blank_mem : blank ∈ line data := by
  have ⟨gap, rest, made, _⟩ := words.parts
  rw [words.line_eq, made, List.mem_append, List.mem_append, List.mem_replicate]
  exact .inr (.inl ⟨Nat.succ_ne_zero gap, rfl⟩)

end TwoWords

/-! ## Staying in the arrays -/

/-- The command has an end, and if it has a blank its words leave room for their zeros. -/
def HasRoom (data : List UInt8) : Prop :=
  Ended data ∧ (blank ∈ line data →
    (firstWord data).length < ledWordSize ∧ (secondWord data).length < ledWordSize)

/-- A command with room is taken apart into words that leave room for their zeros; with a blank they
are the two words of the command. -/
theorem getArgv_of_hasRoom (fits : data.length ≤ ledBufferSize) (room : HasRoom data) :
    ∃ result first second,
      getArgv (padded ledBufferSize data) data.length =
        some ⟨result, padded ledWordSize first, padded ledWordSize second⟩ ∧
      first.length < ledWordSize ∧ second.length < ledWordSize ∧
      (blank ∈ line data → first = firstWord data ∧ second = secondWord data) := by
  by_cases spaced : blank ∈ line data
  · refine ⟨0, firstWord data, secondWord data, ?_, (room.2 spaced).1, (room.2 spaced).2,
      fun _ => ⟨rfl, rfl⟩⟩
    rw [getArgv_ended fits room.1, if_pos spaced, if_pos (room.2 spaced)]
  · refine ⟨1, [], [], ?_, by decide, by decide, fun h => absurd h spaced⟩
    rw [getArgv_ended fits room.1, if_neg spaced]

/-- A command without room leaves an array. -/
theorem getArgv_of_not_hasRoom (fits : data.length ≤ ledBufferSize) (tight : ¬ HasRoom data) :
    getArgv (padded ledBufferSize data) data.length = none := by
  by_cases ended : Ended data
  · have tightWords : ¬ (blank ∈ line data →
        (firstWord data).length < ledWordSize ∧ (secondWord data).length < ledWordSize) :=
      fun words => tight ⟨ended, words⟩
    have ⟨spaced, words⟩ := Classical.not_imp.mp tightWords
    rw [getArgv_ended fits ended, if_pos spaced, if_neg words]
  · exact getArgv_open fits ended

/-- A length beyond the buffer leaves it. -/
theorem ledconfigWrite_long {len : Nat} (long : ¬ len ≤ ledBufferSize) :
    ledconfigWrite s readable len = none := by
  simp only [ledconfigWrite, ledCopyFromUser, if_neg long, Option.bind_eq_bind, Option.bind_none]

/-- A command without room leaves an array. -/
theorem ledconfigWrite_tight {len : Nat} (fits : len ≤ ledBufferSize)
    (complete : len ≤ readable.length) (tight : ¬ HasRoom (readable.take len)) :
    ledconfigWrite s readable len = none := by
  have size : (readable.take len).length = len := List.length_take_of_le complete
  have nowhere := getArgv_of_not_hasRoom (by omega) tight
  rw [size] at nowhere
  have enough : ¬ readable.length < len := by omega
  simp only [ledconfigWrite, ledCopyFromUser_eq fits complete, Option.bind_eq_bind,
    Option.bind_some, if_neg enough, nowhere, Option.bind_none]

/-- A write that cannot be read leaves the words alone. -/
theorem ledconfigWrite_fault {len : Nat} (fits : len ≤ ledBufferSize)
    (fault : readable.length < len) :
    ∃ after, ledconfigWrite s readable len = some (after, -efault) ∧ SameWords s after := by
  simp only [ledconfigWrite, ledCopyFromUser, if_pos fits, if_pos fault, Option.bind_eq_bind,
    Option.bind_some]
  exact ⟨_, rfl, rfl, rfl⟩

/-- A command with room leaves both words terminated; with a blank they are its two words. -/
theorem ledconfigWrite_room {len : Nat} (fits : len ≤ ledBufferSize)
    (complete : len ≤ readable.length) (room : HasRoom (readable.take len)) :
    ∃ after, ledconfigWrite s readable len = some (after, (len : Int)) ∧
      (0 : UInt8) ∈ after.led ∧ (0 : UInt8) ∈ after.opt ∧
      (blank ∈ line (readable.take len) →
        after.led = padded ledWordSize (firstWord (readable.take len)) ∧
        after.opt = padded ledWordSize (secondWord (readable.take len))) := by
  have size : (readable.take len).length = len := List.length_take_of_le complete
  have ⟨result, first, second, parsed, roomFirst, roomSecond, words⟩ :=
    getArgv_of_hasRoom (by omega) room
  rw [size] at parsed
  have ⟨after, done, led, opt⟩ := ledconfigWrite_argv s fits complete parsed roomFirst roomSecond
  refine ⟨after, done, led ▸ zero_mem_padded roomFirst, opt ▸ zero_mem_padded roomSecond, ?_⟩
  intro spaced
  rw [led, opt, (words spaced).1, (words spaced).2]
  exact ⟨rfl, rfl⟩

/-- A write stays in the arrays, leaves both words terminated and finds the words of a line of two
words, exactly when its length is at most that of the buffer and, if it can be read, the command has
room. The words are terminated before, as they are when the module is loaded. -/
theorem ledconfig_write_iff (s : LedState) (readable : List UInt8) (len : Nat)
    (terminated : (0 : UInt8) ∈ s.led ∧ (0 : UInt8) ∈ s.opt) :
    (∃ after result, ledconfigWrite s readable len = some (after, result) ∧
      (0 : UInt8) ∈ after.led ∧ (0 : UInt8) ∈ after.opt ∧
      ∀ first second, len ≤ readable.length → TwoWords (readable.take len) first second →
        text after.led = first ∧ text after.opt = second) ↔
    len ≤ ledBufferSize ∧ (len ≤ readable.length → HasRoom (readable.take len)) := by
  constructor
  · rintro ⟨after, result, done, _⟩
    have fits : len ≤ ledBufferSize := by
      by_contra long
      rw [ledconfigWrite_long s long] at done
      cases done
    refine ⟨fits, fun complete => ?_⟩
    by_contra tight
    rw [ledconfigWrite_tight s fits complete tight] at done
    cases done
  · rintro ⟨fits, room⟩
    by_cases complete : len ≤ readable.length
    · have ⟨after, done, led, opt, words⟩ := ledconfigWrite_room s fits complete (room complete)
      refine ⟨after, len, done, led, opt, fun first second _ two => ?_⟩
      have ⟨isFirst, isSecond⟩ := words two.blank_mem
      rw [isFirst, isSecond, two.firstWord_eq, two.secondWord_eq]
      exact ⟨text_padded _ fun zero => (two.plain 0 zero).2 rfl,
        text_padded _ fun zero => (not_blank_of_isalpha (two.letters 0 zero)).2 rfl⟩
    · have ⟨after, done, led, opt⟩ := ledconfigWrite_fault s fits (Nat.lt_of_not_le complete)
      exact ⟨after, -efault, done, led ▸ terminated.1, opt ▸ terminated.2,
        fun _ _ h => absurd h complete⟩

/-- The state when the module is loaded. -/
def ledLoaded : LedState where
  buffer := List.replicate ledBufferSize 0
  led := List.replicate ledWordSize 0
  opt := List.replicate ledWordSize 0
  gpioDir := 0
  gpioOutput := 0
  printed := []

/-- The command `test on` with its newline has room, and its words are found. -/
theorem ledconfig_write_test_on :
    ∃ after result, ledconfigWrite ledLoaded [0x74, 0x65, 0x73, 0x74, 0x20, 0x6f, 0x6e, 10] 8 =
        some (after, result) ∧
      text after.led = [0x74, 0x65, 0x73, 0x74] ∧ text after.opt = [0x6f, 0x6e] := by
  have room : HasRoom [0x74, 0x65, 0x73, 0x74, 0x20, 0x6f, 0x6e, 10] :=
    ⟨.inl (by decide), by decide⟩
  have ⟨after, result, done, _, _, words⟩ := (ledconfig_write_iff ledLoaded
    [0x74, 0x65, 0x73, 0x74, 0x20, 0x6f, 0x6e, 10] 8 (by decide)).mpr ⟨by decide, fun _ => room⟩
  refine ⟨after, result, done, words _ _ (by decide) ?_⟩
  exact ⟨⟨0, [10], rfl, .inr rfl⟩, by decide, by decide +kernel, by decide, by decide,
    by decide +kernel, by decide⟩

/-- A first word of ten characters leaves `led`: its zero goes behind the array. -/
theorem ledconfig_write_ten :
    ledconfigWrite ledLoaded
      [0x61, 0x62, 0x63, 0x64, 0x65, 0x66, 0x67, 0x68, 0x69, 0x6a, 0x20, 0x6f, 0x6e, 10] 14 =
        none := by
  decide +kernel

end Fvs318g.Verif.LedConfig
