import ShaderPair.Proofs.HeaderLines
import ShaderPair.Proofs.LetterCase

/-! Line ends. A text in which every line feed has a carriage return before it is cut into header and
body at the same place, and its header has the same lines. So the symbols, or the fault found on the
way to them, are those of the text with plain line ends. -/

namespace ShaderPair

namespace Text

def crlf (text : Text) : Text := text.flatMap fun c => if c = '\n' then ['\r', '\n'] else [c]

def dropReturns (text : Text) : Text := text.filter (· != '\r')

theorem dropReturns_eq_self {text : Text} (clean : '\r' ∉ text) : dropReturns text = text := by
  rw [dropReturns, List.filter_eq_self]
  intro c member
  simpa using ne_of_mem_of_not_mem member clean

theorem dropReturns_append (left right : Text) :
    dropReturns (left ++ right) = dropReturns left ++ dropReturns right :=
  List.filter_append left right

theorem crlf_cons (c : Char) (rest : Text) :
    crlf (c :: rest) = (if c = '\n' then ['\r', '\n'] else [c]) ++ crlf rest := rfl

theorem crlf_append (left right : Text) : crlf (left ++ right) = crlf left ++ crlf right :=
  List.flatMap_append

theorem crlf_eq_self {text : Text} (single : '\n' ∉ text) : crlf text = text := by
  induction text with
  | nil => rfl
  | cons c rest ih =>
    simp only [List.mem_cons, not_or] at single
    rw [crlf_cons, if_neg (Ne.symm single.1), ih single.2, List.singleton_append]

theorem dropReturns_crlf {text : Text} (clean : '\r' ∉ text) : dropReturns (crlf text) = text := by
  induction text with
  | nil => rfl
  | cons c rest ih =>
    simp only [List.mem_cons, not_or] at clean
    rw [crlf_cons, dropReturns_append, ih clean.2]
    by_cases feed : c = '\n'
    · simp [feed, dropReturns]
    · simp [feed, dropReturns, Ne.symm clean.1]

/-! The blank line after the header. -/

theorem contains_append (before mark after : Text) : contains mark (before ++ mark ++ after) = true := by
  unfold contains
  induction before with
  | nil =>
    cases mark with
    | nil => cases after <;> simp [cut?]
    | cons c mark => simp [cut?]
  | cons c before ih =>
    rw [List.cons_append, List.cons_append, cut?]
    split
    · rfl
    · rw [Option.isSome_map]
      exact ih

theorem not_contains {mark text : Text} {c : Char} (needed : c ∈ mark) (absent : c ∉ text) :
    contains mark text = false := by
  cases found : cut? mark text with
  | none => simp [contains, found]
  | some halves =>
    have whole : text = halves.1 ++ mark ++ halves.2 := cut?_eq_some found
    rw [whole] at absent
    simp [needed] at absent

theorem cut?_cons {mark rest : Text} {c : Char} (later : mark.isPrefixOf (c :: rest) = false) :
    cut? mark (c :: rest) = (cut? mark rest).map fun halves => (c :: halves.1, halves.2) := by
  rw [cut?, later, if_neg Bool.false_ne_true]

theorem cut?_crlf {text : Text} (clean : '\r' ∉ text) :
    cut? "\r\n\r\n" (crlf text) =
      (cut? "\n\n" text).map fun halves => (crlf halves.1, crlf halves.2) := by
  induction text with
  | nil => rfl
  | cons c rest ih =>
    simp only [List.mem_cons, not_or] at clean
    have later := ih clean.2
    by_cases feed : c = '\n'
    · subst feed
      cases rest with
      | nil => decide
      | cons next rest =>
        by_cases blank : next = '\n'
        · subst blank
          simp [crlf_cons, cut?]
          rfl
        · have other : next ≠ '\r' := by
            rintro rfl
            exact clean.2 (by simp)
          have here : "\r\n\r\n".toList.isPrefixOf ('\r' :: '\n' :: crlf (next :: rest)) = false := by
            simp [crlf_cons, blank, List.isPrefixOf, other.symm]
          have plain : "\n\n".toList.isPrefixOf ('\n' :: next :: rest) = false := by
            simp [List.isPrefixOf, Ne.symm blank]
          rw [crlf_cons, if_pos rfl, List.cons_append, List.cons_append, List.nil_append, cut?_cons here,
            cut?_cons (by simp [List.isPrefixOf]), later, cut?_cons plain, Option.map_map, Option.map_map,
            Option.map_map]
          rfl
    · have here : "\r\n\r\n".toList.isPrefixOf (c :: crlf rest) = false := by
        simp [List.isPrefixOf, clean.1]
      have plain : "\n\n".toList.isPrefixOf (c :: rest) = false := by
        simp [List.isPrefixOf, Ne.symm feed]
      rw [crlf_cons, if_neg feed, List.singleton_append, cut?_cons here, later, cut?_cons plain,
        Option.map_map, Option.map_map]
      congr 1
      funext halves
      simp [crlf_cons, feed]

/-! The lines of the header. -/

/-- Every piece but the last with a carriage return at its end. -/
def returnLines : List Text → List Text
  | [] => []
  | [last] => [last]
  | line :: next :: rest => (line ++ ['\r']) :: returnLines (next :: rest)

theorem returnLines_cons_head (c : Char) (piece : Text) (pieces : List Text) :
    ∃ first later, returnLines (piece :: pieces) = first :: later ∧
      returnLines ((c :: piece) :: pieces) = (c :: first) :: later := by
  cases pieces with
  | nil => exact ⟨piece, [], rfl, rfl⟩
  | cons next rest => exact ⟨piece ++ ['\r'], returnLines (next :: rest), rfl, rfl⟩

theorem split_crlf (text : Text) :
    split (· == '\n') (crlf text) = returnLines (split (· == '\n') text) := by
  induction text with
  | nil => rfl
  | cons c rest ih =>
    obtain ⟨piece, pieces, same⟩ := List.exists_cons_of_ne_nil (split_ne_nil (· == '\n') rest)
    rw [crlf_cons]
    by_cases feed : c = '\n'
    · subst feed
      simp [split, ih, same, returnLines]
    · obtain ⟨first, later, before, after⟩ := returnLines_cons_head c piece pieces
      simp [split, ih, same, feed, before, after]

theorem mem_of_mem_split {isMark : Char → Bool} {text piece : Text} {c : Char}
    (member : piece ∈ split isMark text) (inside : c ∈ piece) : c ∈ text := by
  induction text generalizing piece with
  | nil => simp_all [split]
  | cons first rest ih =>
    obtain ⟨head, pieces, same⟩ := List.exists_cons_of_ne_nil (split_ne_nil isMark rest)
    rw [same] at ih
    rw [split, same] at member
    split at member
    · rcases List.mem_cons.mp member with rfl | later
      · cases inside
      · exact List.mem_cons_of_mem _ (ih later inside)
    · rcases List.mem_cons.mp member with rfl | later
      · rcases List.mem_cons.mp inside with rfl | deeper
        · exact List.mem_cons_self
        · exact List.mem_cons_of_mem _ (ih List.mem_cons_self deeper)
      · exact List.mem_cons_of_mem _ (ih (List.mem_cons_of_mem _ later) inside)

theorem dropReturn_eq_self {line : Text} (clean : '\r' ∉ line) : dropReturn line = line := by
  unfold dropReturn
  split
  · next ends => exact absurd (List.mem_of_getLast? ends) clean
  · rfl

theorem closeLines_returnLines {pieces : List Text} (clean : ∀ piece ∈ pieces, '\r' ∉ piece) :
    closeLines (returnLines pieces) = closeLines pieces := by
  fun_induction returnLines pieces with
  | case1 => rfl
  | case2 last => rfl
  | case3 line next rest ih =>
    obtain ⟨first, later, same⟩ : ∃ first later, returnLines (next :: rest) = first :: later := by
      cases rest with
      | nil => exact ⟨_, _, rfl⟩
      | cons => exact ⟨_, _, rfl⟩
    have tail := ih fun piece member => clean piece (List.mem_cons_of_mem _ member)
    rw [same] at tail ⊢
    rw [closeLines, closeLines, tail, dropReturn_eq_self (clean line List.mem_cons_self)]
    simp [dropReturn]

theorem lines_crlf {text : Text} (clean : '\r' ∉ text) : lines (crlf text) = lines text := by
  rw [lines, lines, split_crlf]
  apply closeLines_returnLines
  intro piece member inside
  exact clean (mem_of_mem_split member inside)

theorem mem_of_mem_closeLines {pieces : List Text} {line : Text} {c : Char}
    (member : line ∈ closeLines pieces) (inside : c ∈ line) : ∃ piece ∈ pieces, c ∈ piece := by
  fun_induction closeLines pieces with
  | case1 => cases member
  | case2 last empty => cases member
  | case3 last filled => exact ⟨line, member, inside⟩
  | case4 first next rest ih =>
    rcases List.mem_cons.mp member with rfl | later
    · refine ⟨first, List.mem_cons_self, ?_⟩
      unfold dropReturn at inside
      split at inside
      · exact (List.dropLast_sublist _).mem inside
      · exact inside
    · obtain ⟨piece, among, found⟩ := ih later
      exact ⟨piece, List.mem_cons_of_mem _ among, found⟩

theorem mem_of_mem_lines {text line : Text} {c : Char} (member : line ∈ lines text) (inside : c ∈ line) :
    c ∈ text := by
  obtain ⟨piece, among, found⟩ := mem_of_mem_closeLines member inside
  exact mem_of_mem_split among found

theorem mem_of_mem_trim {text : Text} {c : Char} (inside : c ∈ trim text) : c ∈ text := by
  rw [trim, trimEnd, List.mem_reverse] at inside
  have kept := (List.dropWhile_sublist isBlank).mem inside
  exact (List.dropWhile_sublist isBlank).mem (List.mem_reverse.mp kept)

theorem return_of_sameLetter {c : Char} (same : SameLetter '\r' c) : c = '\r' := by
  obtain same | ⟨capital, _⟩ | ⟨_, code⟩ := same
  · exact same.symm
  · exact absurd capital (by decide)
  · change 13 = c.toNat + 32 at code
    omega

end Text

namespace Header

open Text

theorem separator_of_no_return {text : Text} (clean : '\r' ∉ text) : separator text = "\n\n" := by
  have plain : contains "\r\n" text = false := not_contains (by decide : '\r' ∈ "\r\n".toList) clean
  rw [separator, plain, if_neg Bool.false_ne_true]

theorem separator_crlf {text : Text} (feed : '\n' ∈ text) : separator (crlf text) = "\r\n\r\n" := by
  obtain ⟨before, after, rfl⟩ := List.append_of_mem feed
  have found : contains "\r\n" (crlf (before ++ '\n' :: after)) = true := by
    rw [crlf_append, crlf_cons, if_pos rfl, ← List.append_assoc]
    exact contains_append (crlf before) "\r\n" (crlf after)
  rw [separator, if_pos found]

theorem eq_of_split {text header body : Text} (found : split text = .ok (header, body)) :
    text = header ++ separator text ++ body := by
  unfold split at found
  split at found
  · next halves cut =>
    cases found
    exact cut?_eq_some cut
  · cases found

theorem split_of_crlf {text : Text} (clean : '\r' ∉ text) :
    split (crlf text) = (split text).map fun halves => (crlf halves.1, crlf halves.2) := by
  by_cases feed : '\n' ∈ text
  · rw [split, separator_crlf feed, cut?_crlf clean, split, separator_of_no_return clean]
    cases cut? "\n\n" text with
    | none => rfl
    | some halves => rfl
  · have whole : contains "\n\n" text = false := not_contains (by decide : '\n' ∈ "\n\n".toList) feed
    rw [contains, Option.isSome_eq_false_iff, Option.isNone_iff_eq_none] at whole
    rw [crlf_eq_self feed, split, separator_of_no_return clean, whole]
    rfl

theorem symbols_crlf {header : Text} (clean : '\r' ∉ header) : symbols (crlf header) = symbols header := by
  have same : read (crlf header) = read header := by
    rw [read, read, lines_crlf clean]
  rw [symbols, symbols, entries, entries, same]

theorem clean_canonical {semantic : Text} (clean : '\r' ∉ semantic) : '\r' ∉ Semantic.canonical semantic := by
  intro inside
  obtain ⟨c, member, same⟩ := (Semantic.agree_canonical semantic).exists_sameLetter inside
  exact clean (return_of_sameLetter same ▸ member)

theorem clean_lineSymbol {line : Text} {symbol : Symbol} (given : lineSymbol? line = some symbol)
    (clean : '\r' ∉ line) : '\r' ∉ symbol.name := by
  have fields : ∀ field ∈ fields line, '\r' ∉ field := by
    intro field member inside
    obtain ⟨piece, among, rfl⟩ := List.mem_map.mp member
    exact clean (mem_of_mem_split among (mem_of_mem_trim inside))
  unfold lineSymbol? at given
  split at given
  · next declaration semantic others same =>
    rw [same] at fields
    split at given
    · obtain ⟨name, third, rfl⟩ := Option.map_eq_some_iff.mp given
      intro inside
      have word := List.mem_of_getElem? third
      exact fields declaration (by simp) (mem_of_mem_split (List.mem_filter.mp word).1 inside)
    · cases given
      exact clean_canonical (fields semantic (by simp))
  · cases given

theorem clean_symbols {header : Text} {symbols : SymbolMap} (clean : '\r' ∉ header)
    (found : Header.symbols header = .ok symbols) {generated : Text} {symbol : Symbol}
    (held : symbols.get? generated = some symbol) : '\r' ∉ symbol.name := by
  rw [get?_symbols found] at held
  obtain ⟨line, last, given⟩ := Option.bind_eq_some_iff.mp held
  have among := (List.mem_filter.mp (List.mem_of_getLast? last)).1
  exact clean_lineSymbol given fun inside => clean (mem_of_mem_lines among inside)

end Header

end ShaderPair
