import SolrRequest.Json.Print
import SolrRequest.Proofs.Json.Numeral

/-!
# Reading JSON back

A value that is written without anything unreadable in it, and not nested too deeply, is read back
from its compact text as it stands: members in their order and with their repetitions, numbers with
their digits (`parse?_text`).

The readers are followed through the text of a value with more text behind it. All that the text
behind must not do is go on with a numeral; the bound on the number of steps is the length of what
is read.
-/

namespace SolrRequest.Json

open Number Text

-- Powers are those of the core library, whatever else is imported.
attribute [local instance (1100)] instPowNat

/-! ## Strings -/

/-- The piece that a written character is read as: most control characters come back as units. -/
def pieceOf (c : Char) : Piece :=
  if c.toNat < 0x20 ∧ c ∉ ['\x08', '\x0c', '\n', '\r', '\t'] then .unit c.toNat else .char c

theorem hexValue?_hexDigit : ∀ n < 16, hexValue? (hexDigit n) = some n := by
  decide

theorem scanString_quotedChar (c : Char) (r : List Char) :
    scanString (quotedChar c ++ r) =
      (scanString r).map fun (pieces, rest) => (pieceOf c :: pieces, rest) := by
  have short : ∀ e : Char, shortEscape? e = some c → e ≠ 'u' →
      scanString ('\\' :: e :: r) =
        (scanString r).map fun (pieces, rest) => (.char c :: pieces, rest) := by
    intro e he hu
    rw [scanString.eq_4 e r fun _ _ _ _ _ h _ => hu h, he]
    cases scanString r <;> rfl
  unfold quotedChar
  split
  · next h => subst h; exact short '"' (by decide) (by decide)
  split
  · next h => subst h; exact short '\\' (by decide) (by decide)
  split
  · next h => subst h; exact short 'b' (by decide) (by decide)
  split
  · next h => subst h; exact short 'f' (by decide) (by decide)
  split
  · next h => subst h; exact short 'n' (by decide) (by decide)
  split
  · next h => subst h; exact short 'r' (by decide) (by decide)
  split
  · next h => subst h; exact short 't' (by decide) (by decide)
  split
  · next hquote hslash hb hf hn hr ht hcontrol =>
    have hhigh := hexValue?_hexDigit (c.toNat / 16) (by omega)
    have hlow := hexValue?_hexDigit (c.toNat % 16) (Nat.mod_lt _ (by decide))
    have hunit : hexUnit? '0' '0' (hexDigit (c.toNat / 16)) (hexDigit (c.toNat % 16)) =
        some c.toNat := by
      have hzero : hexValue? '0' = some 0 := by decide
      simp only [hexUnit?, hzero, hhigh, hlow, Option.bind_eq_bind, Option.bind_some,
        Option.pure_def, Option.some.injEq]
      omega
    have hpiece : pieceOf c = .unit c.toNat := if_pos ⟨hcontrol, by simp_all⟩
    simp only [List.cons_append, List.nil_append, scanString, hunit, hpiece]
    cases scanString r <;> rfl
  · next hquote hslash hb hf hn hr ht hcontrol =>
    have hpiece : pieceOf c = .char c := if_neg fun h => hcontrol h.1
    rw [hpiece, List.singleton_append, scanString.eq_5 c r hquote (fun _ _ _ _ _ h _ => hslash h)
      (fun _ _ h _ => hslash h), if_neg (by simp [hcontrol, hslash])]
    cases scanString r <;> rfl

/-- A text in quotes is read up to its closing quote. -/
theorem scanString_quoted (s r : List Char) :
    scanString (s.flatMap quotedChar ++ '"' :: r) = some (s.map pieceOf, r) := by
  induction s with
  | nil => rfl
  | cons c s ih =>
    rw [List.flatMap_cons, List.append_assoc, scanString_quotedChar, ih]
    rfl

/-- A unit below the surrogates stands for a character alone, whatever follows it. -/
theorem joinPieces_unit {u : Nat} (hu : u < 0x20) (r : List Piece) :
    joinPieces (.unit u :: r) = (joinPieces r).map (Char.ofNat u :: ·) := by
  have hhigh : isHighSurrogate u = false := by
    simp only [isHighSurrogate, Bool.and_eq_false_iff, decide_eq_false_iff_not]
    omega
  have hlow : isLowSurrogate u = false := by
    simp only [isLowSurrogate, Bool.and_eq_false_iff, decide_eq_false_iff_not]
    omega
  cases r with
  | nil => simp [joinPieces, hhigh, hlow]
  | cons p r => cases p <;> simp [joinPieces, hhigh, hlow]

theorem joinPieces_map (s : List Char) : joinPieces (s.map pieceOf) = some s := by
  induction s with
  | nil => rfl
  | cons c s ih =>
    by_cases h : c.toNat < 0x20 ∧ c ∉ ['\x08', '\x0c', '\n', '\r', '\t']
    · have hpiece : pieceOf c = .unit c.toNat := if_pos h
      rw [List.map_cons, hpiece, joinPieces_unit h.1, ih, Option.map_some, Char.ofNat_toNat]
    · have hpiece : pieceOf c = .char c := if_neg h
      rw [List.map_cons, hpiece, joinPieces, ih, Option.map_some]

/-! ## The start of a value -/

theorem skipSpace_cons {c : Char} (h : isJsonSpace c = false) (r : List Char) :
    skipSpace (c :: r) = c :: r := by
  rw [skipSpace, List.dropWhile_cons, h]
  rfl

/-- A numeral starts with a minus or a digit. -/
theorem text_head (n : Numeral) : ∃ c r, n.text = c :: r ∧ (c = '-' ∨ c.isDigit = true) := by
  obtain ⟨c, r, hhead, hc⟩ := natText_head (n := n.digits / 10 ^ n.places)
  unfold Numeral.text Numeral.wholeText
  rw [hhead]
  cases n.negative with
  | true => exact ⟨'-', _, rfl, .inl rfl⟩
  | false => exact ⟨c, _, rfl, .inr hc⟩

/-- A value starts with no white space and with no closing bracket. -/
theorem chars_head (j : Json) :
    ∃ c r, j.chars = c :: r ∧ isJsonSpace c = false ∧ c ≠ ']' := by
  cases j with
  | number n =>
    obtain ⟨c, r, hhead, hc⟩ := text_head n
    refine ⟨c, r, hhead, ?_, ?_⟩
    · rcases hc with rfl | hc
      · decide
      · simp only [isJsonSpace, Bool.or_eq_false_iff, beq_eq_false_iff_ne]
        refine ⟨⟨⟨?_, ?_⟩, ?_⟩, ?_⟩ <;> (rintro rfl; exact absurd hc (by decide))
    · rintro rfl
      rcases hc with hc | hc <;> exact absurd hc (by decide)
  | bool b => cases b <;> exact ⟨_, _, rfl, by decide, by decide⟩
  | null => exact ⟨_, _, rfl, by decide, by decide⟩
  | string s => exact ⟨_, _, rfl, by decide, by decide⟩
  | array items => exact ⟨_, _, rfl, by decide, by decide⟩
  | object members => exact ⟨_, _, rfl, by decide, by decide⟩
  | unreadable => exact ⟨_, _, rfl, by decide, by decide⟩

theorem itemsChars_head (j : Json) (r : List Json) :
    ∃ c t, itemsChars (j :: r) = c :: t ∧ isJsonSpace c = false ∧ c ≠ ']' := by
  obtain ⟨c, t, hhead, hc⟩ := chars_head j
  cases r with
  | nil => exact ⟨c, t ++ [']'], by rw [itemsChars, hhead, List.cons_append], hc⟩
  | cons k r => exact ⟨c, t ++ ',' :: itemsChars (k :: r), by simp [itemsChars, hhead], hc⟩

theorem membersChars_head (m : Member) (r : List Member) :
    ∃ t, membersChars (m :: r) = '"' :: t := by
  obtain ⟨name, j⟩ := m
  cases r with
  | nil => exact ⟨_, rfl⟩
  | cons k r => exact ⟨_, rfl⟩

theorem scanValue_text (n : Numeral) (steps depth : Nat) {x : List Char}
    (hx : StartsOutside continuesNumeral x) :
    scanValue (steps + 1) depth (n.text ++ x) = some (.number n, x) := by
  obtain ⟨c, r, hhead, hc⟩ := text_head n
  have hnumeral := scanNumeral_text n hx
  have hne : ∀ d : Char, d ≠ '-' → d.isDigit = false → c ≠ d := by
    rintro d hminus hdigit rfl
    rcases hc with h | h
    · exact hminus h
    · rw [h] at hdigit
      cases hdigit
  rw [hhead, List.cons_append] at hnumeral ⊢
  rw [scanValue]
  · rw [hnumeral]
    rfl
  all_goals
    intro r h
    exact absurd (List.cons.inj h).1 (hne _ (by decide) (by decide))

/-! ## Values -/

theorem ofScanned_some (members : List Member) :
    ofScanned (members.map some) = .object members := by
  have hall : (members.map some).all Option.isSome = true := by simp
  have hmembers : (members.map some).filterMap id = members := by simp
  rw [ofScanned, if_pos hall, hmembers]

theorem member?_pieces (name : String) (j : Json) :
    member? (name.toList.map pieceOf) j = some ⟨name, j⟩ := by
  rw [member?, joinPieces_map, Option.map_some, String.ofList_toList]

mutual

/-- A value is read from its text, whatever stands behind it. -/
theorem scanValue_chars : ∀ (j : Json) (steps depth : Nat) (x : List Char), j.isWhole = true →
    j.depth ≤ depth → j.chars.length < steps → StartsOutside continuesNumeral x →
      scanValue steps depth (j.chars ++ x) = some (j, x)
  | _, 0, _, _, _, _, hsteps, _ => absurd hsteps (Nat.not_lt_zero _)
  | .null, _ + 1, _, _, _, _, _, _ => rfl
  | .bool true, _ + 1, _, _, _, _, _, _ => rfl
  | .bool false, _ + 1, _, _, _, _, _, _ => rfl
  | .number n, steps + 1, depth, x, _, _, _, hx => scanValue_text n steps depth hx
  | .string s, steps + 1, depth, x, _, _, _, _ => by
    have hread := scanString_quoted s.toList x
    simp only [chars, quoted, List.cons_append, List.append_assoc, List.nil_append, scanValue,
      hread, Option.map_some, ofPieces, joinPieces_map, String.ofList_toList]
  | .array [], steps + 1, depth, x, _, hdepth, _, _ => by
    have hpos : depth ≠ 0 := by
      rintro rfl
      exact absurd hdepth (by decide)
    simp only [chars, itemsChars, List.cons_append, List.nil_append, scanValue,
      skipSpace_cons (c := ']') (by decide), nested, hpos, if_false]
  | .array (j :: r), steps + 1, depth, x, hwhole, hdepth, hsteps, _ => by
    obtain ⟨c, t, hhead, hspace, hclose⟩ := itemsChars_head j r
    rw [isWhole] at hwhole
    rw [Json.depth] at hdepth
    rw [chars, List.length_cons] at hsteps
    have hpos : depth ≠ 0 := by omega
    have hread := scanItems_chars j r steps (depth - 1) x hwhole (by omega) (by omega)
    rw [chars, List.cons_append, scanValue]
    rw [hhead, List.cons_append] at hread ⊢
    rw [skipSpace_cons hspace]
    split
    · next h => exact absurd (List.cons.inj h).1 hclose
    · rw [hread]
      show some (nested depth (.array (j :: r)), x) = _
      rw [nested, if_neg hpos]
  | .object [], steps + 1, depth, x, _, hdepth, _, _ => by
    have hpos : depth ≠ 0 := by
      rintro rfl
      exact absurd hdepth (by decide)
    simp only [chars, membersChars, List.cons_append, List.nil_append, scanValue,
      skipSpace_cons (c := '\x7d') (by decide), nested, hpos, if_false]
  | .object (m :: r), steps + 1, depth, x, hwhole, hdepth, hsteps, _ => by
    obtain ⟨t, hhead⟩ := membersChars_head m r
    rw [isWhole] at hwhole
    rw [Json.depth] at hdepth
    rw [chars, List.length_cons] at hsteps
    have hpos : depth ≠ 0 := by omega
    have hread := scanMembers_chars m r steps (depth - 1) x hwhole (by omega) (by omega)
    rw [chars, List.cons_append, scanValue]
    rw [hhead, List.cons_append] at hread ⊢
    rw [skipSpace_cons (by decide)]
    split
    · next h => exact absurd (List.cons.inj h).1 (by decide)
    · rw [hread]
      show some (nested depth (ofScanned ((m :: r).map some)), x) = _
      rw [nested, if_neg hpos, ofScanned_some]
  | .unreadable, _ + 1, _, _, hwhole, _, _, _ => absurd hwhole (by decide)

theorem scanItems_chars : ∀ (j : Json) (r : List Json) (steps depth : Nat) (x : List Char),
    areWhole (j :: r) = true → itemsDepth (j :: r) ≤ depth →
      (itemsChars (j :: r)).length < steps →
      scanItems steps depth (itemsChars (j :: r) ++ x) = some (j :: r, x)
  | _, _, 0, _, _, _, _, hsteps => absurd hsteps (Nat.not_lt_zero _)
  | j, [], steps + 1, depth, x, hwhole, hdepth, hsteps => by
    rw [areWhole, Bool.and_eq_true] at hwhole
    rw [itemsDepth] at hdepth
    rw [itemsChars, List.length_append] at hsteps
    have hread := scanValue_chars j steps depth (']' :: x) hwhole.1 (by omega)
      (by simp at hsteps; omega) (startsOutside_cons (by decide) x)
    rw [itemsChars, List.append_assoc, List.singleton_append, scanItems, hread]
    rfl
  | j, k :: r, steps + 1, depth, x, hwhole, hdepth, hsteps => by
    obtain ⟨c, t, hhead, hspace, _⟩ := itemsChars_head k r
    rw [areWhole, Bool.and_eq_true] at hwhole
    rw [itemsDepth] at hdepth
    rw [itemsChars, List.length_append, List.length_cons] at hsteps
    · have hread := scanValue_chars j steps depth (',' :: (itemsChars (k :: r) ++ x)) hwhole.1
        (by omega) (by omega) (startsOutside_cons (by decide) _)
      have hrest := scanItems_chars k r steps depth x hwhole.2 (by omega) (by omega)
      have hskip : skipSpace (itemsChars (k :: r) ++ x) = itemsChars (k :: r) ++ x := by
        rw [hhead, List.cons_append, skipSpace_cons hspace]
      rw [itemsChars, List.append_assoc, List.cons_append, scanItems, hread]
      · show ((scanItems steps depth (skipSpace (itemsChars (k :: r) ++ x))).bind _) = _
        rw [hskip, hrest]
        rfl
      · exact List.cons_ne_nil k r
    · exact List.cons_ne_nil k r

theorem scanMembers_chars : ∀ (m : Member) (r : List Member) (steps depth : Nat)
    (x : List Char), membersAreWhole (m :: r) = true → membersDepth (m :: r) ≤ depth →
      (membersChars (m :: r)).length < steps →
      scanMembers steps depth (membersChars (m :: r) ++ x) = some ((m :: r).map some, x)
  | _, _, 0, _, _, _, _, hsteps => absurd hsteps (Nat.not_lt_zero _)
  | ⟨name, j⟩, [], steps + 1, depth, x, hwhole, hdepth, hsteps => by
    obtain ⟨c, t, hhead, hspace, _⟩ := chars_head j
    rw [membersAreWhole, Bool.and_eq_true] at hwhole
    rw [membersDepth] at hdepth
    have hlength : j.chars.length < steps := by
      simp [membersChars, quoted] at hsteps
      omega
    have hname := scanString_quoted name.toList (':' :: (j.chars ++ '\x7d' :: x))
    have hread := scanValue_chars j steps depth ('\x7d' :: x) hwhole.1 (by omega) hlength
      (startsOutside_cons (by decide) x)
    have hskip : skipSpace (j.chars ++ '\x7d' :: x) = j.chars ++ '\x7d' :: x := by
      rw [hhead, List.cons_append, skipSpace_cons hspace]
    simp only [membersChars, quoted, List.cons_append, List.append_assoc, List.nil_append,
      scanMembers, hname, Option.bind_eq_bind, Option.bind_some,
      skipSpace_cons (c := ':') (by decide), hskip, hread,
      skipSpace_cons (c := '\x7d') (by decide), member?_pieces]
    rfl
  | ⟨name, j⟩, m :: r, steps + 1, depth, x, hwhole, hdepth, hsteps => by
    obtain ⟨c, t, hhead, hspace, _⟩ := chars_head j
    obtain ⟨u, hquote⟩ := membersChars_head m r
    rw [membersAreWhole, Bool.and_eq_true] at hwhole
    rw [membersDepth] at hdepth
    have htext : membersChars (⟨name, j⟩ :: m :: r) =
        quoted name ++ ':' :: (j.chars ++ ',' :: membersChars (m :: r)) := by
      simp [membersChars]
    have hlength : j.chars.length < steps ∧ (membersChars (m :: r)).length < steps := by
      rw [htext] at hsteps
      simp [quoted] at hsteps
      omega
    have hname := scanString_quoted name.toList
      (':' :: (j.chars ++ ',' :: (membersChars (m :: r) ++ x)))
    have hread := scanValue_chars j steps depth (',' :: (membersChars (m :: r) ++ x)) hwhole.1
      (by omega) hlength.1 (startsOutside_cons (by decide) _)
    have hrest := scanMembers_chars m r steps depth x hwhole.2 (by omega) hlength.2
    have hskip : skipSpace (j.chars ++ ',' :: (membersChars (m :: r) ++ x)) =
        j.chars ++ ',' :: (membersChars (m :: r) ++ x) := by
      rw [hhead, List.cons_append, skipSpace_cons hspace]
    have hskipRest : skipSpace (membersChars (m :: r) ++ x) = membersChars (m :: r) ++ x := by
      rw [hquote, List.cons_append, skipSpace_cons (by decide)]
    simp only [htext, quoted, List.cons_append, List.append_assoc, List.nil_append,
      scanMembers, hname, Option.bind_eq_bind, Option.bind_some,
      skipSpace_cons (c := ':') (by decide), hskip, hread,
      skipSpace_cons (c := ',') (by decide), hskipRest, hrest, member?_pieces]
    rfl

end

/-- **JSON reads back.** The text of a value without anything unreadable in it, which is not nested
too deeply, is read as that value. -/
theorem parse?_text {j : Json} (hwhole : j.isWhole = true) (hdepth : j.depth ≤ maxDepth) :
    parse? j.text = some j := by
  obtain ⟨c, t, hhead, hspace, _⟩ := chars_head j
  have hread := scanValue_chars j (j.chars.length + 1) maxDepth [] hwhole hdepth
    (Nat.lt_succ_self _) startsOutside_nil
  have hskip : skipSpace j.chars = j.chars := by
    rw [hhead, skipSpace_cons hspace]
  rw [List.append_nil] at hread
  simp only [parse?, text, String.toList_ofList, hskip, hread, Option.bind_eq_bind,
    Option.bind_some]
  rfl

end SolrRequest.Json
