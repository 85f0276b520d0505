import ShaderPair.Directive

/-! Directives step by step. A directive starts at a mark, so a search for it looks at the marks only, and what
a search has read is a part of the text. -/

namespace ShaderPair

namespace Text

def rests (mark : Char) (text : Text) : List Text := (suffixes text).filterMap (after? [mark])

theorem rests_cons (mark c : Char) (rest : Text) :
    rests mark (c :: rest) = if c = mark then rest :: rests mark rest else rests mark rest := by
  rw [rests, suffixes]
  split
  · next here =>
    subst here
    exact List.filterMap_cons_some (after?_cons c [] rest)
  · next other =>
    apply List.filterMap_cons_none
    rw [Option.eq_none_iff_forall_ne_some]
    intro tail found
    have same := after?_eq_some.mp found
    rw [List.singleton_append, List.cons.injEq] at same
    exact other same.1

theorem rests_append {mark : Char} {front : Text} (absent : mark ∉ front) (rest : Text) :
    rests mark (front ++ rest) = rests mark rest := by
  induction front with
  | nil => rfl
  | cons c front ih =>
    rw [List.mem_cons, not_or] at absent
    rw [List.cons_append, rests_cons, if_neg (Ne.symm absent.1), ih absent.2]

theorem lineSuffixes_eq (text : Text) : lineSuffixes text = text :: rests '\n' text := rfl

/-- A search that finds something only at a mark looks at the marks only. -/
theorem findSome?_suffixes {α : Type} {look : Text → Option α} {mark : Char}
    (elsewhere : ∀ text, text.head? ≠ some mark → look text = none) (text : Text) :
    (suffixes text).findSome? look = (rests mark text).findSome? fun rest => look (mark :: rest) := by
  induction text with
  | nil =>
    have nothing : look [] = none := elsewhere [] (by simp)
    rw [suffixes, List.findSome?_cons, nothing]
    rfl
  | cons c rest ih =>
    rw [suffixes, List.findSome?_cons, rests_cons, ih]
    by_cases here : c = mark
    · subst here
      rw [if_pos rfl, List.findSome?_cons]
    · have nothing : look (c :: rest) = none := elsewhere _ (by simpa using here)
      rw [if_neg here, nothing]

end Text

namespace Directive

theorem after?_hash (name rest : Text) :
    Directive.after? name ('#' :: rest) =
      (Text.after? "o3d" rest).bind fun rest => (afterBlanks? rest).bind (Text.after? name) := by
  have opening : Text.after? "#o3d" ('#' :: rest) = Text.after? "o3d" rest := Text.after?_cons '#' "o3d".toList rest
  rw [← opening]
  rfl

theorem after?_elsewhere (name : Text) {text : Text} (other : text.head? ≠ some '#') :
    Directive.after? name text = none := by
  have closed : Text.after? "#o3d" text = none := by
    rw [Option.eq_none_iff_forall_ne_some]
    rintro tail found
    rw [Text.after?_eq_some.mp found] at other
    exact other rfl
  unfold Directive.after?
  rw [closed]
  rfl

theorem wordAt?_hash (name rest : Text) :
    wordAt? name ('#' :: rest) =
      (Text.after? "o3d" rest).bind fun rest =>
        (afterBlanks? rest).bind fun rest => (Text.after? name rest).bind fun rest =>
          (afterBlanks? rest).bind word? := by
  have steps : wordAt? name ('#' :: rest) =
      (Directive.after? name ('#' :: rest)).bind fun rest => (afterBlanks? rest).bind word? := rfl
  rw [steps, after?_hash]
  simp only [Option.bind_assoc]

theorem afterLoadOrder?_hash (rest : Text) :
    afterLoadOrder? ('#' :: rest) =
      (Text.after? "o3d" rest).bind fun rest =>
        (afterBlanks? rest).bind fun rest => (Text.after? loadOrderName rest).bind fun rest =>
          if rest.head?.any Text.isWordChar then none else some rest := by
  have steps : afterLoadOrder? ('#' :: rest) =
      (Directive.after? loadOrderName ('#' :: rest)).bind fun rest =>
        if rest.head?.any Text.isWordChar then none else some rest := rfl
  rw [steps, after?_hash]
  simp only [Option.bind_assoc]

theorem afterLoadOrder?_elsewhere {text : Text} (other : text.head? ≠ some '#') : afterLoadOrder? text = none := by
  unfold afterLoadOrder?
  rw [after?_elsewhere loadOrderName other]
  rfl

theorem suffix_of_afterLoadOrder {text rest : Text} (found : afterLoadOrder? text = some rest) : rest <:+ text := by
  obtain ⟨tail, directive, ended⟩ := Option.bind_eq_some_iff.mp found
  obtain ⟨first, opened, spaced⟩ := Option.bind_eq_some_iff.mp directive
  obtain ⟨second, blanks, named⟩ := Option.bind_eq_some_iff.mp spaced
  have same : tail = rest := by
    split at ended
    · cases ended
    · exact Option.some.inj ended
  have trimmed : Text.trimStart first = second := by
    unfold afterBlanks? at blanks
    split at blanks
    · exact Option.some.inj blanks
    · cases blanks
  have nameEnd : rest <:+ second := ⟨loadOrderName, by rw [Text.after?_eq_some.mp named, same]⟩
  have gapEnd : second <:+ first := by
    rw [← trimmed]
    exact List.dropWhile_suffix _
  have markEnd : first <:+ text := ⟨"#o3d".toList, (Text.after?_eq_some.mp opened).symm⟩
  exact (nameEnd.trans gapEnd).trans markEnd

theorem lineThrough_append (opening rest : Text) :
    lineThrough (opening ++ rest) rest = opening ++ rest.takeWhile (· != '\n') := by
  simp [lineThrough]

theorem loadOrderLine?_cons {c : Char} (within : c ≠ '\n') (rest : Text) :
    loadOrderLine? (c :: rest) =
      ((loadOrderLine? rest).map (c :: ·)).or ((afterLoadOrder? (c :: rest)).map (lineThrough (c :: rest))) := by
  rw [loadOrderLine?, if_neg (by simpa using within)]
  cases loadOrderLine? rest with
  | none => rfl
  | some line => rfl

theorem loadOrderLine?_append {front : Text} (noMark : '#' ∉ front) (sameLine : '\n' ∉ front) (rest : Text) :
    loadOrderLine? (front ++ rest) = (loadOrderLine? rest).map (front ++ ·) := by
  induction front with
  | nil => simp
  | cons c front ih =>
    rw [List.mem_cons, not_or] at noMark sameLine
    have nothing : afterLoadOrder? (c :: (front ++ rest)) = none :=
      afterLoadOrder?_elsewhere (by simpa using Ne.symm noMark.1)
    rw [List.cons_append, loadOrderLine?_cons (Ne.symm sameLine.1), nothing, ih noMark.2 sameLine.2, Option.map_none,
      Option.or_none, Option.map_map]
    rfl

theorem prefix_of_loadOrderLine {text line : Text} (found : loadOrderLine? text = some line) : line <+: text := by
  induction text generalizing line with
  | nil => cases found
  | cons c rest ih =>
    by_cases feed : c = '\n'
    · rw [loadOrderLine?, if_pos (by simpa using feed)] at found
      cases found
    · rw [loadOrderLine?_cons feed] at found
      rcases Option.or_eq_some_iff.mp found with later | ⟨_, here⟩
      · obtain ⟨tail, deeper, rfl⟩ := Option.map_eq_some_iff.mp later
        exact List.cons_prefix_cons.mpr ⟨rfl, ih deeper⟩
      · obtain ⟨following, directive, rfl⟩ := Option.map_eq_some_iff.mp here
        obtain ⟨opening, whole⟩ := suffix_of_afterLoadOrder directive
        rw [← whole, lineThrough_append]
        exact List.prefix_append_right_inj opening |>.mpr (List.takeWhile_prefix _)

end Directive

end ShaderPair
