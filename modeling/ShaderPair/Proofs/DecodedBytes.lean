import Mathlib.Algebra.Group.Nat.Defs
import ShaderPair.Proofs.RunEffects

/-! Decoded bytes. A waiting character can still get the codes of one range, none of them in ASCII, and each byte that
continues it narrows the range; any other byte ends the wait. So bytes of ASCII are never lost and never appear from
others, and a character that was encoded is the one code left at the end. The main statement says this of the input of a
run and of what the compiler writes. -/

namespace ShaderPair.Text

def isAscii (c : Char) : Bool := c.toNat < 0x80

def isAsciiByte (byte : UInt8) : Bool := byte < 0x80

theorem toNat_ofNat {code : Nat} (valid : code.isValidChar) : (Char.ofNat code).toNat = code := by
  rw [Char.ofNat, dif_pos valid]
  rfl

namespace Pending

def least (pending : Pending) : Nat := (64 * pending.bits + pending.low.toNat % 64) * 64 ^ pending.following

def bound (pending : Pending) : Nat := (64 * pending.bits + pending.high.toNat % 64 + 1) * 64 ^ pending.following

/-- No byte of ASCII continues a waiting character, and no code it can still get is one of ASCII or of a surrogate. -/
structure Sound (pending : Pending) : Prop where
  low : 0x80 ≤ pending.low.toNat
  ordered : pending.low.toNat ≤ pending.high.toNat
  high : pending.high.toNat < 0xC0
  beyond : 0x80 ≤ pending.least
  scalar : pending.bound ≤ 0xD800 ∨ 0xE000 ≤ pending.least ∧ pending.bound ≤ 0x110000

def next (pending : Pending) (byte : UInt8) (following : Nat) : Pending :=
  ⟨64 * pending.bits + byte.toNat % 64, 0x80, 0xBF, following⟩

theorem least_next (pending : Pending) (byte : UInt8) (following : Nat) :
    (pending.next byte following).least = (64 * pending.bits + byte.toNat % 64) * 64 ^ (following + 1) := by
  have lowest : (0x80 : UInt8).toNat % 64 = 0 := by decide
  simp only [least, next, lowest, Nat.add_zero]
  rw [Nat.pow_succ', ← Nat.mul_assoc, Nat.mul_comm _ 64]

theorem bound_next (pending : Pending) (byte : UInt8) (following : Nat) :
    (pending.next byte following).bound = (64 * pending.bits + byte.toNat % 64 + 1) * 64 ^ (following + 1) := by
  have highest : (0xBF : UInt8).toNat % 64 = 63 := by decide
  have whole (code : Nat) : 64 * code + 63 + 1 = (code + 1) * 64 := by omega
  simp only [bound, next, highest]
  rw [whole, Nat.pow_succ', ← Nat.mul_assoc]

namespace Sound

variable {pending : Pending} (sound : pending.Sound)

include sound

theorem isValidChar {code : Nat} (least : pending.least ≤ code) (bound : code < pending.bound) :
    code.isValidChar := by
  rcases sound.scalar with below | ⟨above, below⟩
  · exact .inl (by omega)
  · exact .inr (by omega)

theorem isAscii_ofNat {code : Nat} (least : pending.least ≤ code) (bound : code < pending.bound) :
    isAscii (Char.ofNat code) = false := by
  have beyond := sound.beyond
  rw [isAscii, toNat_ofNat (sound.isValidChar least bound), decide_eq_false_iff_not]
  omega

theorem narrows {byte : UInt8} (lowest : pending.low ≤ byte) (highest : byte ≤ pending.high) :
    pending.least ≤ (64 * pending.bits + byte.toNat % 64) * 64 ^ pending.following ∧
      (64 * pending.bits + byte.toNat % 64 + 1) * 64 ^ pending.following ≤ pending.bound := by
  have low := sound.low
  have high := sound.high
  rw [UInt8.le_iff_toNat_le] at lowest highest
  constructor
  · apply Nat.mul_le_mul_right
    omega
  · apply Nat.mul_le_mul_right
    omega

theorem next {byte : UInt8} (lowest : pending.low ≤ byte) (highest : byte ≤ pending.high) {following : Nat}
    (more : pending.following = following + 1) : (pending.next byte following).Sound := by
  obtain ⟨least, bound⟩ := sound.narrows lowest highest
  rw [more, ← least_next] at least
  rw [more, ← bound_next] at bound
  have beyond := sound.beyond
  have scalar := sound.scalar
  exact ⟨Nat.le_refl 128, (by decide : 128 ≤ 191), Nat.le_refl 192, by omega, by omega⟩

end Sound

end Pending

def Lead.pending (lead : Lead) (byte : UInt8) : Pending :=
  ⟨byte.toNat % lead.span, lead.low, lead.high, lead.following - 1⟩

theorem Lead.sound {lead : Lead} {byte : UInt8} (found : lead? byte = some lead) : (lead.pending byte).Sound := by
  unfold lead? at found
  simp only [UInt8.lt_iff_toNat_lt, ← UInt8.toNat_inj, UInt8.reduceToNat] at found
  -- The bounds on the second byte keep each row of the table off the shorter forms and off the surrogates.
  repeat' split at found
  all_goals cases found
  all_goals constructor
  all_goals simp [Lead.pending, Pending.least, Pending.bound]
  all_goals omega

def Steady (waiting : Option Pending) : Prop := ∀ pending ∈ waiting, pending.Sound

theorem steady_none : Steady none := by
  rintro _ ⟨⟩

def asciiChar (byte : UInt8) : Char := Char.ofNat byte.toNat

theorem isAscii_asciiChar {byte : UInt8} (plain : byte < 0x80) : isAscii (asciiChar byte) = true := by
  rw [UInt8.lt_iff_toNat_lt] at plain
  change byte.toNat < 128 at plain
  rw [isAscii, asciiChar, toNat_ofNat (.inl (by omega)), decide_eq_true_eq]
  exact plain

/-- What one byte can do: the text it completes, after a replacement of what waited unless that is continued,
and what waits then. -/
inductive Stepped (waiting : Option Pending) (byte : UInt8) : Text × Option Pending → Prop where
  | ascii (plain : byte < 0x80) : Stepped waiting byte (decode waiting [] ++ [asciiChar byte], none)
  | opens {pending : Pending} (above : ¬byte < 0x80) (sound : pending.Sound) :
      Stepped waiting byte (decode waiting [], some pending)
  | refused (above : ¬byte < 0x80) : Stepped waiting byte (decode waiting [] ++ [replacement], none)
  | continues {pending : Pending} (above : ¬byte < 0x80) (sound : pending.Sound) :
      Stepped waiting byte ([], some pending)
  | completes {c : Char} (above : ¬byte < 0x80) (beyond : isAscii c = false) : Stepped waiting byte ([c], none)

theorem stepped_beginChar (waiting : Option Pending) (byte : UInt8) :
    Stepped waiting byte (decode waiting [] ++ (beginChar byte).1, (beginChar byte).2) := by
  unfold beginChar
  split
  · next plain => exact .ascii plain
  · next above =>
    split
    · next lead found =>
      rw [List.append_nil]
      exact .opens above (Lead.sound found)
    · exact .refused above

theorem stepped_continueChar {pending : Pending} (sound : pending.Sound) (byte : UInt8) :
    Stepped (some pending) byte (continueChar pending byte) := by
  unfold continueChar
  split
  · next continued =>
    rw [Bool.and_eq_true, decide_eq_true_eq, decide_eq_true_eq] at continued
    have above : ¬byte < 0x80 := by
      have low := sound.low
      simp only [UInt8.le_iff_toNat_le, UInt8.lt_iff_toNat_lt] at continued ⊢
      change ¬byte.toNat < 128
      omega
    split
    · next last =>
      obtain ⟨least, bound⟩ := sound.narrows continued.1 continued.2
      rw [last, Nat.pow_zero, Nat.mul_one] at least bound
      exact .completes above (sound.isAscii_ofNat least bound)
    · next following more => exact .continues above (sound.next continued.1 continued.2 more)
  · exact stepped_beginChar (some pending) byte

theorem stepped_decodeStep {waiting : Option Pending} (steady : Steady waiting) (byte : UInt8) :
    Stepped waiting byte (decodeStep waiting byte) := by
  cases waiting with
  | none => exact stepped_beginChar none byte
  | some pending => exact stepped_continueChar (steady pending rfl) byte

namespace Stepped

variable {waiting : Option Pending} {byte : UInt8} {result : Text × Option Pending}

theorem steady (stepped : Stepped waiting byte result) : Steady result.2 := by
  cases stepped with
  | ascii | refused | completes => exact steady_none
  | opens above sound | continues above sound =>
    rintro _ ⟨⟩
    exact sound

theorem eq_of_ascii (stepped : Stepped waiting byte result) (plain : byte < 0x80) :
    result = (decode waiting [] ++ [asciiChar byte], none) := by
  cases stepped with
  | ascii => rfl
  | opens above | refused above | continues above | completes above => exact absurd plain above

theorem waits_of_nil (stepped : Stepped waiting byte result) (nothing : result.1 = []) : result.2.isSome := by
  cases stepped with
  | ascii | refused => simp at nothing
  | opens | continues => rfl
  | completes => cases nothing

theorem filter_ascii (stepped : Stepped waiting byte result) :
    result.1.filter isAscii = ([byte].filter isAsciiByte).map asciiChar := by
  have nothing : (decode waiting []).filter isAscii = [] := by
    cases waiting with
    | none => rfl
    | some pending => rfl
  have replaced : isAscii replacement = false := by decide
  cases stepped with
  | ascii plain => simp [nothing, isAsciiByte, plain, isAscii_asciiChar plain]
  | opens above sound => simp [nothing, isAsciiByte, above]
  | refused above => simp [nothing, isAsciiByte, above, replaced]
  | continues above sound => simp [isAsciiByte, above]
  | completes above beyond => simp [isAsciiByte, above, beyond]

end Stepped

/-! All bytes. -/

theorem decode_cons (waiting : Option Pending) (byte : UInt8) (rest : Bytes) :
    decode waiting (byte :: rest) = (decodeStep waiting byte).1 ++ decode (decodeStep waiting byte).2 rest := rfl

section

variable {waiting : Option Pending} (steady : Steady waiting)

include steady

theorem filter_decode (bytes : Bytes) :
    (decode waiting bytes).filter isAscii = (bytes.filter isAsciiByte).map asciiChar := by
  induction bytes generalizing waiting with
  | nil =>
    cases waiting with
    | none => rfl
    | some pending => rfl
  | cons byte rest ih =>
    have stepped := stepped_decodeStep steady byte
    rw [decode_cons, List.filter_append, ih stepped.steady, stepped.filter_ascii, ← List.map_append,
      ← List.filter_append, List.singleton_append]

/-- A byte of ASCII divides the text where it divides the bytes. -/
theorem decode_append_ascii {byte : UInt8} (plain : byte < 0x80) (front back : Bytes) :
    decode waiting (front ++ byte :: back) = decode waiting front ++ asciiChar byte :: decode none back := by
  induction front generalizing waiting with
  | nil =>
    rw [List.nil_append, decode_cons, (stepped_decodeStep steady byte).eq_of_ascii plain, List.append_assoc,
      List.singleton_append]
  | cons first rest ih =>
    rw [List.cons_append, decode_cons, decode_cons, ih (stepped_decodeStep steady first).steady, List.append_assoc]

theorem decode_ne_nil {bytes : Bytes} (filled : waiting.isSome ∨ bytes ≠ []) : decode waiting bytes ≠ [] := by
  induction bytes generalizing waiting with
  | nil =>
    rw [decode, if_pos (filled.resolve_right (by simp))]
    simp
  | cons byte rest ih =>
    have stepped := stepped_decodeStep steady byte
    intro empty
    rw [decode_cons, List.append_eq_nil_iff] at empty
    exact ih stepped.steady (.inl (stepped.waits_of_nil empty.1)) empty.2

end

theorem ofUtf8_eq_nil {bytes : Bytes} : ofUtf8 bytes = [] ↔ bytes = [] := by
  cases bytes with
  | nil => exact ⟨fun _ => rfl, fun _ => rfl⟩
  | cons byte rest => exact iff_of_false (decode_ne_nil steady_none (.inr (by simp))) (by simp)

/-! Bytes of a text. -/

def follower (code place : Nat) : UInt8 := UInt8.ofNat (code / 64 ^ place % 64 + 128)

def followers (code : Nat) : Nat → Bytes
  | 0 => [follower code 0]
  | place + 1 => follower code (place + 1) :: followers code place

theorem toNat_follower (code place : Nat) : (follower code place).toNat = code / 64 ^ place % 64 + 128 := by
  apply UInt8.toNat_ofNat_of_lt'
  show code / 64 ^ place % 64 + 128 < 256
  omega

namespace Pending.Sound

variable {pending : Pending} (sound : pending.Sound) {code : Nat} (least : pending.least ≤ code)
  (bound : code < pending.bound)

include sound least bound

theorem takes_follower :
    pending.low ≤ follower code pending.following ∧ follower code pending.following ≤ pending.high ∧
      64 * pending.bits + (follower code pending.following).toNat % 64 = code / 64 ^ pending.following := by
  have low := sound.low
  have ordered := sound.ordered
  have high := sound.high
  have positive : 0 < 64 ^ pending.following := Nat.pow_pos (by decide)
  rw [Pending.least, ← Nat.le_div_iff_mul_le positive] at least
  rw [Pending.bound, ← Nat.div_lt_iff_lt_mul positive] at bound
  rw [UInt8.le_iff_toNat_le, UInt8.le_iff_toNat_le, toNat_follower]
  omega

theorem continueChar_follower :
    continueChar pending (follower code pending.following) =
      match pending.following with
      | 0 => ([Char.ofNat code], none)
      | following + 1 => ([], some (pending.next (follower code (following + 1)) following)) := by
  obtain ⟨lowest, highest, digits⟩ := sound.takes_follower least bound
  rw [continueChar, if_pos (by simp [lowest, highest])]
  cases more : pending.following with
  | zero =>
    rw [more, Nat.pow_zero, Nat.div_one] at digits
    simp only [digits]
  | succ following => rfl

theorem next_follower {following : Nat} (more : pending.following = following + 1) :
    (pending.next (follower code (following + 1)) following).Sound ∧
      (pending.next (follower code (following + 1)) following).least ≤ code ∧
      code < (pending.next (follower code (following + 1)) following).bound := by
  obtain ⟨lowest, highest, digits⟩ := sound.takes_follower least bound
  rw [more] at lowest highest digits
  refine ⟨sound.next lowest highest more, ?_, ?_⟩
  · rw [least_next, digits]
    exact Nat.div_mul_le_self code _
  · rw [bound_next, digits]
    exact (Nat.div_lt_iff_lt_mul (Nat.pow_pos (by decide))).mp (Nat.lt_succ_self _)

theorem decode_followers (rest : Bytes) :
    decode (some pending) (followers code pending.following ++ rest) = Char.ofNat code :: decode none rest := by
  have step := sound.continueChar_follower least bound
  induction more : pending.following generalizing pending with
  | zero =>
    rw [more] at step
    rw [followers, List.singleton_append, decode_cons, decodeStep, step]
    rfl
  | succ following ih =>
    rw [more] at step
    obtain ⟨soundNext, leastNext, boundNext⟩ := sound.next_follower least bound more
    rw [followers, List.cons_append, decode_cons, decodeStep, step]
    exact ih soundNext leastNext boundNext (soundNext.continueChar_follower leastNext boundNext) rfl

end Pending.Sound

/-- The first byte leads to the codes of a range with a number of bytes after it. -/
def Reaches (byte : UInt8) (following code : Nat) : Prop :=
  ∃ lead, lead? byte = some lead ∧ lead.following = following + 1 ∧
    (lead.pending byte).least ≤ code ∧ code < (lead.pending byte).bound

theorem decode_of_reaches {byte : UInt8} {following code : Nat} (reaches : Reaches byte following code) (rest : Bytes) :
    decode none (byte :: (followers code following ++ rest)) = Char.ofNat code :: decode none rest := by
  obtain ⟨lead, found, count, least, bound⟩ := reaches
  have above : ¬byte < 0x80 := by
    intro plain
    have short : byte < 0xC2 := UInt8.lt_trans plain (by decide)
    rw [lead?, if_pos short] at found
    cases found
  have sound : (lead.pending byte).Sound := Lead.sound found
  have opened : beginChar byte = ([], some (lead.pending byte)) := by
    rw [beginChar, if_neg above, found]
    rfl
  have same : following = (lead.pending byte).following := by
    rw [Lead.pending, count, Nat.add_sub_cancel]
  rw [decode_cons, decodeStep, opened, same]
  exact sound.decode_followers least bound rest

section

variable {byte : UInt8} {code : Nat}

theorem reaches_two (first : byte.toNat = code / 64 + 192) (low : 0x80 ≤ code) (high : code < 0x800) :
    Reaches byte 0 code := by
  unfold Reaches lead?
  simp only [UInt8.lt_iff_toNat_lt, ← UInt8.toNat_inj, UInt8.reduceToNat]
  rw [if_neg (by omega), if_pos (by omega)]
  exact ⟨_, rfl, rfl, by simp [Lead.pending, Pending.least, Pending.bound]; omega⟩

theorem reaches_three (first : byte.toNat = code / 4096 + 224) (low : 0x800 ≤ code) (high : code < 0x10000)
    (valid : code < 0xD800 ∨ 0xDFFF < code) : Reaches byte 1 code := by
  unfold Reaches lead?
  simp only [UInt8.lt_iff_toNat_lt, ← UInt8.toNat_inj, UInt8.reduceToNat]
  rw [if_neg (by omega), if_neg (by omega)]
  split
  · exact ⟨_, rfl, rfl, by simp [Lead.pending, Pending.least, Pending.bound]; omega⟩
  · split
    · exact ⟨_, rfl, rfl, by simp [Lead.pending, Pending.least, Pending.bound]; omega⟩
    · rw [if_pos (by omega)]
      exact ⟨_, rfl, rfl, by simp [Lead.pending, Pending.least, Pending.bound]; omega⟩

theorem reaches_four (first : byte.toNat = code / 262144 + 240) (low : 0x10000 ≤ code) (high : code < 0x110000) :
    Reaches byte 2 code := by
  unfold Reaches lead?
  simp only [UInt8.lt_iff_toNat_lt, ← UInt8.toNat_inj, UInt8.reduceToNat]
  rw [if_neg (by omega), if_neg (by omega), if_neg (by omega), if_neg (by omega), if_neg (by omega)]
  split
  · exact ⟨_, rfl, rfl, by simp [Lead.pending, Pending.least, Pending.bound]; omega⟩
  · split
    · exact ⟨_, rfl, rfl, by simp [Lead.pending, Pending.least, Pending.bound]; omega⟩
    · rw [if_pos (by omega)]
      exact ⟨_, rfl, rfl, by simp [Lead.pending, Pending.least, Pending.bound]; omega⟩

end

theorem utf8EncodeChar_cases (c : Char) :
    (∃ byte, byte < 0x80 ∧ asciiChar byte = c ∧ String.utf8EncodeChar c = [byte]) ∨
      ∃ byte following, Reaches byte following c.toNat ∧
        String.utf8EncodeChar c = byte :: followers c.toNat following := by
  have valid : c.toNat < 0xD800 ∨ 0xDFFF < c.toNat ∧ c.toNat < 0x110000 := c.valid
  have code : c.val.toNat = c.toNat := rfl
  have single {number : Nat} (small : number < 256) : (UInt8.ofNat number).toNat = number :=
    UInt8.toNat_ofNat_of_lt' small
  simp only [String.utf8EncodeChar, code]
  split
  · have same : (UInt8.ofNat c.toNat).toNat = c.toNat := single (by omega)
    refine .inl ⟨UInt8.ofNat c.toNat, ?_, ?_, rfl⟩
    · rw [UInt8.lt_iff_toNat_lt, same]
      show c.toNat < 128
      omega
    · rw [asciiChar, same, Char.ofNat_toNat]
  · split
    · have first := single (show c.toNat / 64 % 32 + 192 < 256 by omega)
      exact .inr ⟨_, 0, reaches_two (first.trans (by omega)) (by omega) (by omega),
        by simp [followers, follower]⟩
    · split
      · have first := single (show c.toNat / 4096 % 16 + 224 < 256 by omega)
        exact .inr ⟨_, 1, reaches_three (first.trans (by omega)) (by omega) (by omega) (by omega),
          by simp [followers, follower]⟩
      · have first := single (show c.toNat / 262144 % 8 + 240 < 256 by omega)
        exact .inr ⟨_, 2, reaches_four (first.trans (by omega)) (by omega) (by omega),
          by simp [followers, follower]⟩

theorem decode_utf8EncodeChar (c : Char) (rest : Bytes) :
    decode none (String.utf8EncodeChar c ++ rest) = c :: decode none rest := by
  rcases utf8EncodeChar_cases c with ⟨byte, plain, rfl, encoded⟩ | ⟨byte, following, reaches, encoded⟩
  · rw [encoded]
    exact decode_append_ascii steady_none plain [] rest
  · rw [encoded, List.cons_append, decode_of_reaches reaches, Char.ofNat_toNat]

theorem ofUtf8_toUtf8 (text : Text) : ofUtf8 (toUtf8 text) = text := by
  unfold ofUtf8 toUtf8
  induction text with
  | nil => rfl
  | cons c rest ih => rw [List.flatMap_cons, decode_utf8EncodeChar, ih]

/-! What the text of some bytes keeps of them. -/

/-- No byte disturbs the text around it. -/
structure Undisturbed (bytes : Bytes) (text : Text) : Prop where
  /-- A line feed divides the text where it divides the bytes. -/
  divided : ∀ front back, bytes = front ++ 0x0A :: back → text = ofUtf8 front ++ '\n' :: ofUtf8 back
  /-- The bytes of ASCII are there as characters, in their order, and no other characters of ASCII are. -/
  ascii : text.filter isAscii = (bytes.filter isAsciiByte).map asciiChar
  /-- The bytes of a text are read as that text. -/
  encoded : ∀ original, bytes = toUtf8 original → text = original

theorem undisturbed_ofUtf8 (bytes : Bytes) : Undisturbed bytes (ofUtf8 bytes) where
  divided := by
    rintro front back rfl
    exact decode_append_ascii steady_none (by decide) front back
  ascii := filter_decode steady_none bytes
  encoded := by
    rintro original rfl
    exact ofUtf8_toUtf8 original

end ShaderPair.Text

namespace ShaderPair.Session

open Text

/-- The input of a run and what the compiler writes are read without disturbance: the text of the input, which counts as
none when it is empty, and both texts of an answer. -/
theorem bytes_undisturbed :
    (∀ world options bytes, inputBytes world options = .ok bytes →
      ∃ text, readInput world.host world.input options.input = .ok (if text = [] then none else some text) ∧
        Undisturbed bytes text) ∧
    ∀ (toolchain : Toolchain) call finished, toolchain.finished? call = .ok finished →
      ∃ answer, toolchain.run call = .ok answer ∧ Undisturbed finished.output answer.code ∧
        Undisturbed finished.diagnostics answer.diagnostics := by
  constructor
  · intro world options bytes given
    refine ⟨ofUtf8 bytes, ?_, undisturbed_ofUtf8 bytes⟩
    rw [readInput_eq, given, Except.map, inputText]
    simp only [List.isEmpty_iff, ofUtf8_eq_nil]
  · intro toolchain call finished ended
    refine ⟨⟨ofUtf8 finished.output, ofUtf8 finished.diagnostics⟩, ?_, undisturbed_ofUtf8 finished.output,
      undisturbed_ofUtf8 finished.diagnostics⟩
    rw [Toolchain.run, ended]
    rfl

/-- A three byte character without its last byte, a line feed and a four byte character without its last two. -/
def cutCharacters : Bytes := [0x61, 0xE2, 0x82] ++ 0x0A :: [0xF0, 0x9F, 0x62]

def cutHost : Host where
  tree := (Tree.empty.put ["cgc"] (.file ⟨[], .program fun _ _ =>
    some ⟨.code 0, cutCharacters, cutCharacters, false⟩⟩)).put ["a.fx"] (.file ⟨cutCharacters, .document⟩)
  working := []
  programFolder := none

def cutOptions : CommandLine.Options := ⟨some "/a.fx", none, none, none, none, .warn⟩

theorem bytes_undisturbed_cut :
    readInput cutHost [] (some "/a.fx") = .ok (some "a\uFFFD\n\uFFFDb") ∧
      Toolchain.run ⟨cutHost, "/cgc", .zero⟩ ⟨"glslv", "main", []⟩ =
        .ok ⟨"a\uFFFD\n\uFFFDb", "a\uFFFD\n\uFFFDb"⟩ := by
  have whole {text : Text} (kept : Undisturbed cutCharacters text) : text = "a\uFFFD\n\uFFFDb" :=
    (kept.divided [0x61, 0xE2, 0x82] [0xF0, 0x9F, 0x62] rfl).trans (by decide)
  obtain ⟨text, read, kept⟩ := bytes_undisturbed.1 ⟨cutHost, [], []⟩ cutOptions cutCharacters (by rfl)
  obtain ⟨⟨code, diagnostics⟩, ran, coded, diagnosed⟩ := bytes_undisturbed.2 ⟨cutHost, "/cgc", .zero⟩
    ⟨"glslv", "main", []⟩ ⟨.code 0, cutCharacters, cutCharacters, false⟩ (by rfl)
  cases whole kept
  cases whole coded
  cases whole diagnosed
  exact ⟨read, ran⟩

end ShaderPair.Session
